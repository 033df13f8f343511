import Mathlib.AlgebraicGeometry.EllipticCurve.Affine.Point
import Mathlib.GroupTheory.OrderOfElement
import Mathlib.Tactic.FieldSimp
import Mathlib.Tactic.LinearCombination

/-!
# Jacobian coordinates on a short curve

`y^2 = x^3 + b` over a field: which point a triple `(X, Y, Z)` stands for, that the usual
formulas double and add what triples stand for in every case, and that doubling and adding along
the digits of a number multiplies. Over a finite field the number of points is bounded by the
number of abscissas, so a large prime order is the order of every point.
-/

namespace XochiSdk.Library

open WeierstrassCurve

variable {F : Type*} [Field F]

/-- `y^2 = x^3 + b`. -/
def shortCurve (b : F) : Affine F := ⟨0, 0, 0, 0, b⟩

namespace ShortCurve

/-- `Z = 0` is the point at infinity. -/
@[ext] structure Triple (F : Type*) where
  X : F
  Y : F
  Z : F

variable {b : F} {t u : Triple F}

@[simp] theorem negY_eq (x y : F) : (shortCurve b).negY x y = -y := by
  simp [shortCurve, Affine.negY]

theorem equation_iff (x y : F) : (shortCurve b).Equation x y ↔ y ^ 2 = x ^ 3 + b := by
  rw [Affine.equation_iff]
  simp [shortCurve]

/-- The curve has no singular point. -/
theorem nonsingular_of_equation (two : (2 : F) ≠ 0) (three : (3 : F) ≠ 0) (away : b ≠ 0) {x y : F}
    (on : (shortCurve b).Equation x y) : (shortCurve b).Nonsingular x y := by
  rw [Affine.nonsingular_iff]
  refine ⟨on, ?_⟩
  simp only [shortCurve, zero_mul, mul_zero, add_zero, sub_zero]
  by_cases flat : y = 0
  · refine .inl ?_
    rw [equation_iff, flat] at on
    have abscissa : x ≠ 0 := by
      rintro rfl
      apply away
      simpa using on.symm
    exact (mul_ne_zero three (pow_ne_zero 2 abscissa)).symm
  · refine .inr fun same => ?_
    rw [eq_neg_iff_add_eq_zero, ← two_mul] at same
    exact mul_ne_zero two flat same

/-- The point a triple stands for. -/
def Stands (t : Triple F) (P : (shortCurve b).Point) : Prop :=
  (t.Z = 0 ∧ P = 0) ∨
    (t.Z ≠ 0 ∧ ∃ h : (shortCurve b).Nonsingular (t.X / t.Z ^ 2) (t.Y / t.Z ^ 3), P = .some _ _ h)

section

variable [DecidableEq F]

def Triple.double (t : Triple F) : Triple F :=
  if t.Z = 0 ∨ t.Y = 0 then ⟨0, 1, 0⟩
  else
    let D := 4 * t.X * t.Y ^ 2
    let X := 9 * t.X ^ 4 - 2 * D
    ⟨X, 3 * t.X ^ 2 * (D - X) - 8 * t.Y ^ 4, 2 * t.Y * t.Z⟩

def Triple.add (t u : Triple F) : Triple F :=
  if t.Z = 0 then u
  else if u.Z = 0 then t
  else
    let u₁ := t.X * u.Z ^ 2
    let u₂ := u.X * t.Z ^ 2
    let s₁ := t.Y * u.Z ^ 3
    let s₂ := u.Y * t.Z ^ 3
    if u₁ = u₂ then if s₁ = s₂ then t.double else ⟨0, 1, 0⟩
    else
      let h := u₂ - u₁
      let i := 4 * h ^ 2
      let r := 2 * (s₂ - s₁)
      let v := u₁ * i
      let X := r ^ 2 - h * i - 2 * v
      ⟨X, r * (v - X) - 2 * s₁ * (h * i), 2 * t.Z * u.Z * h⟩

end

theorem Stands.zero {t : Triple F} (infinite : t.Z = 0) : Stands (b := b) t 0 :=
  .inl ⟨infinite, rfl⟩

theorem Stands.some {x y : F} (h : (shortCurve b).Nonsingular x y) (finite : t.Z ≠ 0)
    (hx : x = t.X / t.Z ^ 2) (hy : y = t.Y / t.Z ^ 3) : Stands t (.some x y h) := by
  subst hx hy
  exact .inr ⟨finite, h, rfl⟩

theorem Stands.unique {P Q : (shortCurve b).Point} (first : Stands t P) (second : Stands t Q) :
    P = Q := by
  rcases first with ⟨infinite, rfl⟩ | ⟨finite, h, rfl⟩
  · rcases second with ⟨-, rfl⟩ | ⟨finite, -⟩
    · rfl
    · exact absurd infinite finite
  · rcases second with ⟨infinite, -⟩ | ⟨-, h', rfl⟩
    · exact absurd infinite finite
    · rfl

section

variable [DecidableEq F]

/-- Doubling a triple doubles what it stands for. -/
theorem Stands.double (two : (2 : F) ≠ 0) {P : (shortCurve b).Point} (stands : Stands t P) :
    Stands t.double (P + P) := by
  unfold Triple.double
  rcases stands with ⟨infinite, rfl⟩ | ⟨finite, h, rfl⟩
  · rw [if_pos (.inl infinite), add_zero]
    exact .zero rfl
  · by_cases flat : t.Y = 0
    · rw [if_pos (.inr flat), Affine.Point.add_self_of_Y_eq (by rw [negY_eq]; simp [flat])]
      exact .zero rfl
    · rw [if_neg (by simp [finite, flat])]
      have steep : t.Y / t.Z ^ 3 ≠ (shortCurve b).negY (t.X / t.Z ^ 2) (t.Y / t.Z ^ 3) := by
        rw [negY_eq, ne_eq, eq_neg_iff_add_eq_zero, ← two_mul]
        exact mul_ne_zero two (div_ne_zero flat (pow_ne_zero 3 finite))
      have slope : (shortCurve b).slope (t.X / t.Z ^ 2) (t.X / t.Z ^ 2) (t.Y / t.Z ^ 3)
          (t.Y / t.Z ^ 3) = 3 * t.X ^ 2 / (2 * t.Y * t.Z) := by
        rw [Affine.slope_of_Y_ne rfl steep, negY_eq, sub_neg_eq_add, ← two_mul]
        simp only [shortCurve]
        field_simp
        ring
      rw [Affine.Point.add_self_of_Y_ne steep]
      refine .some _ (mul_ne_zero (mul_ne_zero two flat) finite) ?_ ?_
      · rw [slope]
        simp only [Affine.addX, shortCurve]
        field_simp
        ring
      · rw [Affine.addY, negY_eq, slope]
        simp only [Affine.negAddY, Affine.addX, shortCurve]
        field_simp
        ring

/-- Adding two triples adds what they stand for. -/
theorem Stands.add (two : (2 : F) ≠ 0) {P Q : (shortCurve b).Point} (first : Stands t P)
    (second : Stands u Q) : Stands (t.add u) (P + Q) := by
  unfold Triple.add
  rcases first with ⟨infinite, rfl⟩ | ⟨finite, h, rfl⟩
  · rw [if_pos infinite, zero_add]
    exact second
  rw [if_neg finite]
  rcases second with ⟨infinite', rfl⟩ | ⟨finite', h', rfl⟩
  · rw [if_pos infinite', add_zero]
    exact .inr ⟨finite, h, rfl⟩
  rw [if_neg finite']
  have cross (x y : F) (n : Nat) : x / t.Z ^ n = y / u.Z ^ n ↔ x * u.Z ^ n = y * t.Z ^ n :=
    div_eq_div_iff (pow_ne_zero n finite) (pow_ne_zero n finite')
  by_cases same : t.X * u.Z ^ 2 = u.X * t.Z ^ 2
  · have abscissas := (cross _ _ 2).mpr same
    dsimp only
    rw [if_pos same]
    by_cases equal : t.Y * u.Z ^ 3 = u.Y * t.Z ^ 3
    · have ordinates := (cross _ _ 3).mpr equal
      rw [if_pos equal]
      have one : (Affine.Point.some _ _ h : (shortCurve b).Point) = .some _ _ h' := by
        simp only [Affine.Point.some.injEq]
        exact ⟨abscissas, ordinates⟩
      rw [← one]
      exact Stands.double two (.inr ⟨finite, h, rfl⟩)
    · have opposite : t.Y / t.Z ^ 3 = (shortCurve b).negY (u.X / u.Z ^ 2) (u.Y / u.Z ^ 3) := by
        refine (Affine.Y_eq_of_X_eq h.1 h'.1 abscissas).resolve_left fun ordinates => ?_
        exact equal ((cross _ _ 3).mp ordinates)
      rw [if_neg equal, Affine.Point.add_of_Y_eq abscissas opposite]
      exact .zero rfl
  · have abscissas : t.X / t.Z ^ 2 ≠ u.X / u.Z ^ 2 := fun eq => same ((cross _ _ 2).mp eq)
    have gap : u.X * t.Z ^ 2 - t.X * u.Z ^ 2 ≠ 0 := sub_ne_zero.mpr (Ne.symm same)
    dsimp only
    rw [if_neg same, Affine.Point.add_of_X_ne abscissas]
    have slope : (shortCurve b).slope (t.X / t.Z ^ 2) (u.X / u.Z ^ 2) (t.Y / t.Z ^ 3)
        (u.Y / u.Z ^ 3) = (u.Y * t.Z ^ 3 - t.Y * u.Z ^ 3) /
          (t.Z * u.Z * (u.X * t.Z ^ 2 - t.X * u.Z ^ 2)) := by
      rw [Affine.slope_of_X_ne abscissas, div_eq_div_iff (sub_ne_zero.mpr abscissas)
        (mul_ne_zero (mul_ne_zero finite finite') gap)]
      field_simp
      ring
    refine .some _ (mul_ne_zero (mul_ne_zero (mul_ne_zero two finite) finite') gap) ?_ ?_
    all_goals
      obtain ⟨g, named⟩ : ∃ g, g = u.X * t.Z ^ 2 - t.X * u.Z ^ 2 := ⟨_, rfl⟩
      have abscissa : u.X = (g + t.X * u.Z ^ 2) / t.Z ^ 2 := by
        rw [named]
        field_simp
        ring
      rw [← named] at gap
    · rw [slope, ← named, abscissa]
      simp only [Affine.addX, shortCurve]
      field_simp
      ring
    · rw [Affine.addY, negY_eq, slope, ← named, abscissa]
      simp only [Affine.negAddY, Affine.addX, shortCurve]
      field_simp
      ring

/-- Doubling and adding over the binary digits of `e`, of which `digits` are left. -/
def ladder : Nat → Nat → Triple F → Triple F → Triple F
  | 0, _, out, _ => out
  | digits + 1, e, out, acc =>
    ladder digits (e / 2) (if e % 2 = 1 then out.add acc else out) acc.double

theorem Stands.ladder (two : (2 : F) ≠ 0) {digits e : Nat} {out acc : Triple F}
    {P Q : (shortCurve b).Point} (fits : e < 2 ^ digits) (sum : Stands out P)
    (power : Stands acc Q) : Stands (ladder digits e out acc) (P + e • Q) := by
  induction digits generalizing e out acc P Q with
  | zero =>
    have none : e = 0 := by simpa using fits
    rw [none, zero_nsmul, add_zero]
    exact sum
  | succ digits ih =>
    have half : e / 2 < 2 ^ digits := by
      rw [Nat.pow_succ] at fits
      omega
    have halved : e • Q = (e % 2) • Q + (e / 2) • (Q + Q) := by
      rw [← two_nsmul, smul_smul, ← add_nsmul]
      congr 1
      omega
    unfold ShortCurve.ladder
    rw [halved, ← add_assoc]
    refine ih half ?_ (power.double two)
    split
    · next odd =>
      rw [odd, one_nsmul]
      exact sum.add two power
    · next even =>
      rw [show e % 2 = 0 by omega, zero_nsmul, add_zero]
      exact sum

/-! ## Over a finite field -/

omit [DecidableEq F] in
/-- At most two points for each abscissa, and the one at infinity. -/
theorem card_le [Fintype F] : Finite (shortCurve b).Point ∧
    Nat.card (shortCurve b).Point ≤ 2 * Fintype.card F + 1 := by
  classical
  -- a point is its abscissa and whether its ordinate is the root chosen there
  let root (x : F) : F := if h : ∃ y, y ^ 2 = x ^ 3 + b then h.choose else 0
  have roots {x y : F} (on : y ^ 2 = x ^ 3 + b) : y = root x ∨ y = -root x := by
    have some_ : ∃ y, y ^ 2 = x ^ 3 + b := ⟨y, on⟩
    have square : y ^ 2 = root x ^ 2 := by
      simp only [root, dif_pos some_]
      exact on.trans some_.choose_spec.symm
    exact sq_eq_sq_iff_eq_or_eq_neg.mp square
  let code : (shortCurve b).Point → Option (F × Bool)
    | .zero => none
    | .some x y _ => some (x, decide (y = root x))
  have injective : Function.Injective code := by
    intro P Q same
    match P, Q with
    | .zero, .zero => rfl
    | .zero, .some _ _ _ => cases same
    | .some _ _ _, .zero => cases same
    | .some x y h, .some x' y' h' =>
      simp only [code, Option.some.injEq, Prod.mk.injEq, decide_eq_decide] at same
      obtain ⟨rfl, chosen⟩ := same
      have first := roots ((equation_iff x y).mp h.1)
      have second := roots ((equation_iff x y').mp h'.1)
      have equal : y = y' := by
        by_cases picked : y = root x
        · rw [picked, chosen.mp picked]
        · rw [first.resolve_left picked, second.resolve_left (mt chosen.mpr picked)]
      subst equal
      rfl
  refine ⟨Finite.of_injective code injective, ?_⟩
  refine (Nat.card_le_card_of_injective code injective).trans ?_
  rw [Nat.card_eq_fintype_card, Fintype.card_option, Fintype.card_prod, Fintype.card_bool]
  omega

/-- A point of prime order too large to leave room for a second coset has every point's order. -/
theorem order_nsmul [Fintype F] {q : Nat} (prime : q.Prime) {G : (shortCurve b).Point}
    (order : q • G = 0) (finite : G ≠ 0) (large : 2 * Fintype.card F + 1 < 2 * q)
    (P : (shortCurve b).Point) : q • P = 0 := by
  obtain ⟨finitely, few⟩ := card_le (b := b)
  have : Fact q.Prime := ⟨prime⟩
  have divides : q ∣ Nat.card (shortCurve b).Point := by
    rw [← addOrderOf_eq_prime order finite]
    exact addOrderOf_dvd_natCard G
  obtain ⟨c, count⟩ := divides
  have positive : 0 < Nat.card (shortCurve b).Point := Nat.card_pos
  have one : c = 1 := by
    have below : q * c < q * 2 := by omega
    have := Nat.lt_of_mul_lt_mul_left below
    have : c ≠ 0 := by
      rintro rfl
      omega
    omega
  rw [one, mul_one] at count
  rw [← count]
  exact card_nsmul_eq_zero'

end

end ShortCurve

end XochiSdk.Library
