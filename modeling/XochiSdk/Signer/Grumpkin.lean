import XochiSdk.Library.Primality
import XochiSdk.Library.ShortCurve
import XochiSdk.Signer.ShieldedRecipient
import Mathlib.Tactic.NormNum.Prime

/-!
# Grumpkin arithmetic

The Jacobian routines of `packages/signer/src/shielded-recipient.ts` double, add and multiply in
the group of the curve, whose every point has the order the source names.
-/

namespace XochiSdk.Signer

open XochiSdk.Js XochiSdk.Library XochiSdk.Library.ShortCurve WeierstrassCurve

theorem prime_405928799 : Nat.Prime 405928799 :=
  prime_of_order 22 [2, 11, 3691, 4999] (by decide +kernel)
    (by simp only [List.forall_mem_cons]; norm_num)
    (by decide +kernel) (by decide +kernel) (by decide +kernel)

/-- The field is one. -/
theorem aztecFieldModulus_prime : aztecFieldModulus.Prime := by
  have prime_12048837557 : Nat.Prime 12048837557 :=
    prime_of_order 2 [2, 2, 7, 7, 661, 93001] (by decide +kernel)
      (by simp only [List.forall_mem_cons]; norm_num)
      (by decide +kernel) (by decide +kernel) (by decide +kernel)
  have prime_5156902474397 : Nat.Prime 5156902474397 :=
    prime_of_order 2 [2, 2, 107, 12048837557] (by decide +kernel)
      (by
        simp only [List.forall_mem_cons]
        refine ⟨?_, ?_, ?_, prime_12048837557, ?_⟩ <;> norm_num)
      (by decide +kernel) (by decide +kernel) (by decide +kernel)
  have prime_1670836401704629 : Nat.Prime 1670836401704629 :=
    prime_of_order 2 [2, 2, 3, 3, 3, 3, 5156902474397] (by decide +kernel)
      (by
        simp only [List.forall_mem_cons]
        refine ⟨?_, ?_, ?_, ?_, ?_, ?_, prime_5156902474397, ?_⟩ <;> norm_num)
      (by decide +kernel) (by decide +kernel) (by decide +kernel)
  have prime_639533339 : Nat.Prime 639533339 :=
    prime_of_order 2 [2, 229, 853, 1637] (by decide +kernel)
      (by simp only [List.forall_mem_cons]; norm_num)
      (by decide +kernel) (by decide +kernel) (by decide +kernel)
  have prime_65865678001877903 : Nat.Prime 65865678001877903 :=
    prime_of_order 5 [2, 83, 379, 1637, 639533339] (by decide +kernel)
      (by
        simp only [List.forall_mem_cons]
        refine ⟨?_, ?_, ?_, ?_, prime_639533339, ?_⟩ <;> norm_num)
      (by decide +kernel) (by decide +kernel) (by decide +kernel)
  have prime_13818364434197438864469338081 : Nat.Prime 13818364434197438864469338081 :=
    prime_of_order 3 [2, 2, 2, 2, 2, 5, 823, 1593227, 65865678001877903] (by decide +kernel)
      (by
        simp only [List.forall_mem_cons]
        refine ⟨?_, ?_, ?_, ?_, ?_, ?_, ?_, ?_, prime_65865678001877903, ?_⟩ <;> norm_num)
      (by decide +kernel) (by decide +kernel) (by decide +kernel)
  exact prime_of_order 5 [2, 2, 2, 2, 2, 2, 2, 2, 2, 2, 2, 2, 2, 2, 2, 2, 2, 2, 2, 2, 2, 2, 2, 2,
      2, 2, 2, 2, 3, 3, 13, 29, 983, 11003, 237073, 405928799, 1670836401704629,
      13818364434197438864469338081] (by decide +kernel)
    (by
      simp only [List.forall_mem_cons]
      refine ⟨?_, ?_, ?_, ?_, ?_, ?_, ?_, ?_, ?_, ?_, ?_, ?_, ?_, ?_, ?_, ?_, ?_, ?_, ?_, ?_, ?_,
        ?_, ?_, ?_, ?_, ?_, ?_, ?_, ?_, ?_, ?_, ?_, ?_, ?_, ?_, prime_405928799,
        prime_1670836401704629, prime_13818364434197438864469338081, ?_⟩ <;> norm_num)
    (by decide +kernel) (by decide +kernel) (by decide +kernel)

theorem grumpkinOrder_prime : grumpkinOrder.Prime := by
  have prime_11465965001 : Nat.Prime 11465965001 :=
    prime_of_order 3 [2, 2, 2, 5, 5, 5, 5, 7, 327599] (by decide +kernel)
      (by simp only [List.forall_mem_cons]; norm_num)
      (by decide +kernel) (by decide +kernel) (by decide +kernel)
  have prime_173171039 : Nat.Prime 173171039 :=
    prime_of_order 13 [2, 73, 89, 13327] (by decide +kernel)
      (by simp only [List.forall_mem_cons]; norm_num)
      (by decide +kernel) (by decide +kernel) (by decide +kernel)
  have prime_1263766531 : Nat.Prime 1263766531 :=
    prime_of_order 10 [2, 3, 5, 13, 911, 3557] (by decide +kernel)
      (by simp only [List.forall_mem_cons]; norm_num)
      (by decide +kernel) (by decide +kernel) (by decide +kernel)
  have prime_35385462869 : Nat.Prime 35385462869 :=
    prime_of_order 2 [2, 2, 7, 1263766531] (by decide +kernel)
      (by
        simp only [List.forall_mem_cons]
        refine ⟨?_, ?_, ?_, prime_1263766531, ?_⟩ <;> norm_num)
      (by decide +kernel) (by decide +kernel) (by decide +kernel)
  have prime_2480874801745591 : Nat.Prime 2480874801745591 :=
    prime_of_order 6 [2, 3, 3, 5, 19, 41, 35385462869] (by decide +kernel)
      (by
        simp only [List.forall_mem_cons]
        refine ⟨?_, ?_, ?_, ?_, ?_, ?_, prime_35385462869, ?_⟩ <;> norm_num)
      (by decide +kernel) (by decide +kernel) (by decide +kernel)
  have prime_13427688667394608761327070753331941386769 :
      Nat.Prime 13427688667394608761327070753331941386769 :=
    prime_of_order 17 [2, 2, 2, 2, 3, 7, 11, 1853641, 4562087, 173171039, 2480874801745591]
      (by decide +kernel)
      (by
        simp only [List.forall_mem_cons]
        refine ⟨?_, ?_, ?_, ?_, ?_, ?_, ?_, ?_, ?_, prime_173171039, prime_2480874801745591, ?_⟩ <;>
          norm_num)
      (by decide +kernel) (by decide +kernel) (by decide +kernel)
  exact prime_of_order 3 [2, 3, 3, 13, 29, 67, 229, 311, 983, 11003, 405928799, 11465965001,
      13427688667394608761327070753331941386769] (by decide +kernel)
    (by
      simp only [List.forall_mem_cons]
      refine ⟨?_, ?_, ?_, ?_, ?_, ?_, ?_, ?_, ?_, ?_, prime_405928799, prime_11465965001,
        prime_13427688667394608761327070753331941386769, ?_⟩ <;> norm_num)
    (by decide +kernel) (by decide +kernel) (by decide +kernel)

instance : Fact aztecFieldModulus.Prime := ⟨aztecFieldModulus_prime⟩

/-- The field the coordinates are residues of. -/
abbrev GrumpkinField : Type := ZMod aztecFieldModulus

/-- The points of `y^2 = x^3 - 17`. -/
abbrev Grumpkin : Type := (shortCurve (-17 : GrumpkinField)).Point

/-- A point's coordinates as the source keeps them. -/
def coordinates : Grumpkin → Option GrumpkinPoint
  | .zero => none
  | .some x y _ => some ⟨x.val, y.val⟩

def GrumpkinPoint.jacobian (g : GrumpkinPoint) : Jacobian := ⟨g.x, g.y, 1⟩

/-- Coordinates that are residues. -/
structure Jacobian.Reduced (p : Jacobian) : Prop where
  X : 0 ≤ p.X ∧ p.X < fieldR
  Y : 0 ≤ p.Y ∧ p.Y < fieldR
  Z : 0 ≤ p.Z ∧ p.Z < fieldR

/-- The point at infinity, or a finite point of the curve. -/
structure Jacobian.Valid (p : Jacobian) : Prop where
  reduced : p.Reduced
  on : p.Z = 0 ∨ modField (p.Y ^ 2) = modField (p.X ^ 3 - 17 * p.Z ^ 6)

/-- A valid representation of a point: converted to affine coordinates, it is the point's. -/
def Jacobian.Represents (p : Jacobian) (P : Grumpkin) : Prop :=
  p.Valid ∧ affine p = coordinates P

/-! ## Residues -/

theorem fieldR_pos : 0 < fieldR := by decide

@[simp] theorem modField_cast (a : Int) : (modField a : GrumpkinField) = a :=
  ZMod.intCast_mod a aztecFieldModulus

theorem modField_reduced (a : Int) : 0 ≤ modField a ∧ modField a < fieldR :=
  ⟨Int.emod_nonneg _ fieldR_pos.ne', Int.emod_lt_of_pos _ fieldR_pos⟩

theorem modField_of_reduced {a : Int} (h : 0 ≤ a ∧ a < fieldR) : modField a = a :=
  Int.emod_eq_of_lt h.1 h.2

theorem modField_eq_iff (a b : Int) : modField a = modField b ↔ (a : GrumpkinField) = b :=
  (ZMod.intCast_eq_intCast_iff' a b aztecFieldModulus).symm

theorem reduced_eq_iff {a b : Int} (ha : 0 ≤ a ∧ a < fieldR) (hb : 0 ≤ b ∧ b < fieldR) :
    a = b ↔ (a : GrumpkinField) = b := by
  rw [← modField_eq_iff, modField_of_reduced ha, modField_of_reduced hb]

theorem reduced_eq_zero {a : Int} (h : 0 ≤ a ∧ a < fieldR) : a = 0 ↔ (a : GrumpkinField) = 0 := by
  rw [reduced_eq_iff h ⟨le_refl 0, fieldR_pos⟩, Int.cast_zero]

theorem modField_val (a : Int) : modField a = ((a : GrumpkinField).val : Int) :=
  (ZMod.val_intCast a).symm

theorem two_ne_zero_field : (2 : GrumpkinField) ≠ 0 := by
  have := (reduced_eq_zero (a := 2) ⟨by decide, by decide⟩).not.mp (by decide)
  exact_mod_cast this

theorem three_ne_zero_field : (3 : GrumpkinField) ≠ 0 := by
  have := (reduced_eq_zero (a := 3) ⟨by decide, by decide⟩).not.mp (by decide)
  exact_mod_cast this

theorem coefficient_ne_zero : (-17 : GrumpkinField) ≠ 0 := by
  have := (reduced_eq_zero (a := 17) ⟨by decide, by decide⟩).not.mp (by decide)
  rw [neg_ne_zero]
  exact_mod_cast this

/-! ## The inverse -/

/-- Each pass keeps both remainders multiples of `a` and their common divisors. -/
theorem invertLoop_inverts {a : GrumpkinField} {fuel : Nat} {t newT r newR : Int}
    (positive : 0 ≤ newR) (enough : newR.toNat < fuel) (remains : 0 ≤ r)
    (coprime : Int.gcd r newR = 1) (last : (t : GrumpkinField) * a = r)
    (next : (newT : GrumpkinField) * a = newR) :
    (invertLoop fuel t newT r newR : GrumpkinField) * a = 1 := by
  induction fuel generalizing t newT r newR with
  | zero => omega
  | succ fuel ih =>
    unfold invertLoop
    split
    · next ended =>
      rw [ended, Int.gcd_zero_right] at coprime
      have one : r = 1 := by omega
      rw [last, one, Int.cast_one]
    · next some_ =>
      have divided : r - r / newR * newR = r % newR := by
        rw [mul_comm]
        exact (Int.emod_def r newR).symm
      have above : 0 < newR := by omega
      have less : r % newR < newR := Int.emod_lt_of_pos r above
      have least : 0 ≤ r % newR := Int.emod_nonneg r some_
      refine ih (by omega) (by omega) positive ?_ next ?_
      · rw [divided, Int.gcd_comm, Int.gcd_emod]
        exact coprime
      · push_cast
        rw [← next, ← last]
        ring

theorem invert_inverts {a : Int} (some_ : (a : GrumpkinField) ≠ 0) :
    (invert a : GrumpkinField) = (a : GrumpkinField)⁻¹ := by
  have residue := modField_reduced a
  have away : modField a ≠ 0 := by
    rw [ne_eq, reduced_eq_zero residue, modField_cast]
    exact some_
  have coprime : Int.gcd fieldR (modField a) = 1 := by
    have below : (modField a).toNat < aztecFieldModulus := by
      have := residue.2
      unfold fieldR at this
      omega
    have prime : Nat.Coprime aztecFieldModulus (modField a).toNat :=
      Nat.coprime_of_lt_prime (by omega) below aztecFieldModulus_prime
    have lifted : ((modField a).toNat : Int) = modField a := Int.toNat_of_nonneg residue.1
    rw [← lifted]
    exact prime
  have last : ((0 : Int) : GrumpkinField) * (a : GrumpkinField) = (fieldR : Int) := by
    simp [fieldR]
  have next : ((1 : Int) : GrumpkinField) * (a : GrumpkinField) = (modField a : Int) := by
    simp
  have inverts := invertLoop_inverts residue.1 (Nat.lt_succ_self _) fieldR_pos.le coprime
    last next
  unfold invert
  rw [modField_cast]
  exact eq_inv_of_mul_eq_one_left inverts

/-! ## The formulas over the field -/

def Jacobian.field (p : Jacobian) : Triple GrumpkinField := ⟨p.X, p.Y, p.Z⟩

theorem infinity_reduced : (⟨0, 1, 0⟩ : Jacobian).Reduced :=
  ⟨⟨le_refl _, fieldR_pos⟩, ⟨by decide, by decide⟩, ⟨le_refl _, fieldR_pos⟩⟩

variable {p q : Jacobian}

theorem Jacobian.Reduced.Z_eq_zero (h : p.Reduced) : p.Z = 0 ↔ p.field.Z = 0 :=
  reduced_eq_zero h.Z

theorem doubleJ_reduced : (doubleJ p).Reduced := by
  unfold doubleJ
  split
  · exact infinity_reduced
  · exact ⟨modField_reduced _, modField_reduced _, modField_reduced _⟩

theorem addJ_reduced (hp : p.Reduced) (hq : q.Reduced) : (addJ p q).Reduced := by
  unfold addJ
  split
  · exact hq
  · split
    · exact hp
    · dsimp only
      split
      · split
        · exact doubleJ_reduced
        · exact infinity_reduced
      · exact ⟨modField_reduced _, modField_reduced _, modField_reduced _⟩

theorem doubleJ_field (h : p.Reduced) : (doubleJ p).field = p.field.double := by
  unfold doubleJ Triple.double
  have guard : (p.Z = 0 ∨ p.Y = 0) ↔ (p.field.Z = 0 ∨ p.field.Y = 0) :=
    or_congr h.Z_eq_zero (reduced_eq_zero h.Y)
  by_cases trivial_ : p.Z = 0 ∨ p.Y = 0
  · rw [if_pos trivial_, if_pos (guard.mp trivial_)]
    simp [Jacobian.field]
  · rw [if_neg trivial_, if_neg (mt guard.mpr trivial_)]
    simp only [Jacobian.field, modField_cast, Int.cast_sub, Int.cast_mul, Int.cast_add,
      Int.cast_ofNat, Triple.mk.injEq]
    exact ⟨by ring, by ring, trivial⟩

theorem addJ_field (hp : p.Reduced) (hq : q.Reduced) :
    (addJ p q).field = p.field.add q.field := by
  unfold addJ Triple.add
  by_cases infinite : p.Z = 0
  · rw [if_pos infinite, if_pos (hp.Z_eq_zero.mp infinite)]
  rw [if_neg infinite, if_neg (mt hp.Z_eq_zero.mpr infinite)]
  by_cases infinite' : q.Z = 0
  · rw [if_pos infinite', if_pos (hq.Z_eq_zero.mp infinite')]
  rw [if_neg infinite', if_neg (mt hq.Z_eq_zero.mpr infinite')]
  have abscissas : modField (p.X * modField (q.Z * q.Z)) = modField (q.X * modField (p.Z * p.Z)) ↔
      p.field.X * q.field.Z ^ 2 = q.field.X * p.field.Z ^ 2 := by
    rw [modField_eq_iff]
    simp only [Jacobian.field, Int.cast_mul, modField_cast, sq]
  have ordinates : modField (p.Y * q.Z * modField (q.Z * q.Z)) =
      modField (q.Y * p.Z * modField (p.Z * p.Z)) ↔
        p.field.Y * q.field.Z ^ 3 = q.field.Y * p.field.Z ^ 3 := by
    rw [modField_eq_iff]
    simp only [Jacobian.field, Int.cast_mul, modField_cast, pow_succ, pow_zero, one_mul, mul_assoc]
  dsimp only
  by_cases same : p.field.X * q.field.Z ^ 2 = q.field.X * p.field.Z ^ 2
  · rw [if_pos (abscissas.mpr same), if_pos same]
    by_cases equal : p.field.Y * q.field.Z ^ 3 = q.field.Y * p.field.Z ^ 3
    · rw [if_pos (ordinates.mpr equal), if_pos equal, doubleJ_field hp]
    · rw [if_neg (mt ordinates.mp equal), if_neg equal]
      simp [Jacobian.field]
  · rw [if_neg (mt abscissas.mp same), if_neg same]
    simp only [Jacobian.field, modField_cast, Int.cast_sub, Int.cast_mul, Int.cast_add,
      Int.cast_ofNat, Triple.mk.injEq]
    refine ⟨?_, ?_, ?_⟩ <;> ring

theorem ladder_zero {digits : Nat} {out acc : Triple GrumpkinField} :
    ladder digits 0 out acc = out := by
  induction digits generalizing acc with
  | zero => rfl
  | succ digits ih => exact ih

theorem mulLoop_field {digits e : Nat} {out acc : Jacobian} (hout : out.Reduced)
    (hacc : acc.Reduced) : (mulLoop digits e out acc).Reduced ∧
      (mulLoop digits e out acc).field = ladder digits e out.field acc.field := by
  induction digits generalizing e out acc with
  | zero => exact ⟨hout, rfl⟩
  | succ digits ih =>
    unfold mulLoop
    split
    · next none =>
      rw [none, ladder_zero]
      exact ⟨hout, rfl⟩
    · unfold ladder
      have summed : (if e % 2 = 1 then addJ out acc else out).Reduced := by
        split
        · exact addJ_reduced hout hacc
        · exact hout
      have sums : (if e % 2 = 1 then addJ out acc else out).field =
          if e % 2 = 1 then out.field.add acc.field else out.field := by
        split
        · exact addJ_field hout hacc
        · rfl
      rw [← sums, ← doubleJ_field hacc]
      exact ih summed doubleJ_reduced

/-! ## What a triple of residues stands for -/

theorem curve_nonsingular {x y : GrumpkinField}
    (on : (shortCurve (-17 : GrumpkinField)).Equation x y) :
    (shortCurve (-17 : GrumpkinField)).Nonsingular x y :=
  nonsingular_of_equation two_ne_zero_field three_ne_zero_field coefficient_ne_zero on

theorem affine_finite (finite : (p.Z : GrumpkinField) ≠ 0) (away : p.Z ≠ 0) :
    affine p = some ⟨((p.field.X / p.field.Z ^ 2).val : Int),
      ((p.field.Y / p.field.Z ^ 3).val : Int)⟩ := by
  have abscissa : ((p.X * modField (invert p.Z * invert p.Z) : Int) : GrumpkinField) =
      p.field.X / p.field.Z ^ 2 := by
    simp only [Int.cast_mul, modField_cast, invert_inverts finite, Jacobian.field]
    rw [div_eq_mul_inv, sq, mul_inv]
  have ordinate : ((p.Y * modField (invert p.Z * invert p.Z) * invert p.Z : Int) :
      GrumpkinField) = p.field.Y / p.field.Z ^ 3 := by
    simp only [Int.cast_mul, modField_cast, invert_inverts finite, Jacobian.field]
    rw [div_eq_mul_inv, pow_succ, sq, mul_inv, mul_inv, mul_assoc]
  unfold affine
  rw [if_neg away, ← abscissa, ← ordinate, ← modField_val, ← modField_val]

theorem coordinates_injective : Function.Injective coordinates := by
  intro P Q same
  match P, Q with
  | .zero, .zero => rfl
  | .zero, .some _ _ _ => cases same
  | .some _ _ _, .zero => cases same
  | .some x y _, .some x' y' _ =>
    simp only [coordinates, Option.some.injEq, GrumpkinPoint.mk.injEq, Nat.cast_inj] at same
    obtain rfl := ZMod.val_injective _ same.1
    obtain rfl := ZMod.val_injective _ same.2
    rfl

/-- A triple on the curve, divided out. -/
theorem equation_field (finite : (p.Z : GrumpkinField) ≠ 0) :
    (shortCurve (-17 : GrumpkinField)).Equation (p.field.X / p.field.Z ^ 2)
        (p.field.Y / p.field.Z ^ 3) ↔
      modField (p.Y ^ 2) = modField (p.X ^ 3 - 17 * p.Z ^ 6) := by
  rw [ShortCurve.equation_iff, modField_eq_iff]
  push_cast
  simp only [Jacobian.field]
  rw [div_pow, div_pow, ← pow_mul, ← pow_mul]
  constructor
  · intro on
    field_simp at on
    linear_combination on
  · intro on
    field_simp
    linear_combination on

theorem represents_iff (h : p.Reduced) (P : Grumpkin) : p.Represents P ↔ Stands p.field P := by
  by_cases infinite : p.Z = 0
  · have none : affine p = none := if_pos infinite
    have still : p.field.Z = 0 := h.Z_eq_zero.mp infinite
    constructor
    · rintro ⟨-, same⟩
      rw [none] at same
      obtain rfl : P = 0 := coordinates_injective same.symm
      exact .zero still
    · intro stands
      obtain rfl := stands.unique (.zero still)
      exact ⟨⟨h, .inl infinite⟩, none⟩
  · have finite : (p.Z : GrumpkinField) ≠ 0 := mt h.Z_eq_zero.mpr infinite
    have some_ := affine_finite finite infinite
    constructor
    · rintro ⟨valid, same⟩
      have on := (equation_field finite).mpr (valid.on.resolve_left infinite)
      have nonsingular := curve_nonsingular on
      have point : P = .some _ _ nonsingular :=
        coordinates_injective (same.symm.trans some_)
      exact .inr ⟨finite, nonsingular, point⟩
    · rintro (⟨still, -⟩ | ⟨-, nonsingular, rfl⟩)
      · exact absurd still finite
      · exact ⟨⟨h, .inr ((equation_field finite).mp nonsingular.1)⟩, some_⟩

theorem Jacobian.Valid.represents (valid : p.Valid) : ∃ P, p.Represents P := by
  by_cases infinite : p.Z = 0
  · exact ⟨0, valid, if_pos infinite⟩
  · have finite : (p.Z : GrumpkinField) ≠ 0 := mt valid.reduced.Z_eq_zero.mpr infinite
    have on := (equation_field finite).mpr (valid.on.resolve_left infinite)
    exact ⟨.some _ _ (curve_nonsingular on), valid, affine_finite finite infinite⟩

/-! ## The order -/

theorem generator_reduced : grumpkinGenerator.jacobian.Reduced :=
  ⟨⟨by decide, by decide⟩, ⟨by decide, by decide⟩, ⟨by decide, by decide⟩⟩

theorem generator_valid : grumpkinGenerator.jacobian.Valid :=
  ⟨generator_reduced, .inr (by decide +kernel)⟩

theorem order_kills_generator :
    (mulLoop 254 grumpkinOrder ⟨0, 1, 0⟩ grumpkinGenerator.jacobian).Z = 0 := by
  decide +kernel

theorem mulLoop_represents {digits e : Nat} {out acc : Jacobian} {P Q : Grumpkin}
    (fits : e < 2 ^ digits) (sum : out.Represents P) (power : acc.Represents Q) :
    (mulLoop digits e out acc).Represents (P + e • Q) := by
  have computed : (mulLoop digits e out acc).Reduced ∧
      (mulLoop digits e out acc).field = ladder digits e out.field acc.field :=
    mulLoop_field sum.1.reduced power.1.reduced
  obtain ⟨reduced, field⟩ := computed
  rw [represents_iff reduced, field]
  exact Stands.ladder two_ne_zero_field fits ((represents_iff sum.1.reduced P).mp sum)
    ((represents_iff power.1.reduced Q).mp power)

theorem infinity_represents : (⟨0, 1, 0⟩ : Jacobian).Represents 0 :=
  ⟨⟨infinity_reduced, .inl rfl⟩, rfl⟩

/-- The order the source names is every point's. -/
theorem grumpkinOrder_nsmul (P : Grumpkin) : grumpkinOrder • P = 0 := by
  obtain ⟨G, represents⟩ := generator_valid.represents
  have order : grumpkinOrder • G = 0 := by
    have fits : grumpkinOrder < 2 ^ 254 := by decide
    have multiple := mulLoop_represents fits infinity_represents represents
    rw [zero_add] at multiple
    have none : affine (mulLoop 254 grumpkinOrder ⟨0, 1, 0⟩ grumpkinGenerator.jacobian) = none :=
      if_pos order_kills_generator
    exact coordinates_injective (multiple.2.symm.trans none)
  have finite : G ≠ 0 := by
    rintro rfl
    have infinite := represents.2
    rw [affine_finite (by simp [GrumpkinPoint.jacobian]) (by decide)] at infinite
    cases infinite
  refine order_nsmul grumpkinOrder_prime order finite ?_ P
  rw [ZMod.card]
  decide

theorem mod_fits (k : Nat) : k % grumpkinOrder < 2 ^ 254 :=
  (Nat.mod_lt k (by decide)).trans (by decide)

theorem point_represents {g : GrumpkinPoint} {P : Grumpkin} (point : some g = coordinates P) :
    g.jacobian.Represents P := by
  match P with
  | .zero => cases point
  | .some x y h =>
    simp only [coordinates, Option.some.injEq] at point
    subst point
    have residue (x : GrumpkinField) : 0 ≤ (x.val : Int) ∧ (x.val : Int) < fieldR := by
      have := ZMod.val_lt x
      unfold fieldR
      omega
    have unit : (0 : Int) ≤ 1 ∧ 1 < fieldR := ⟨by decide, by decide⟩
    have reduced : (GrumpkinPoint.jacobian ⟨x.val, y.val⟩).Reduced :=
      ⟨residue x, residue y, unit⟩
    rw [represents_iff reduced]
    refine .some h (by simp [Jacobian.field, GrumpkinPoint.jacobian]) ?_ ?_
    · simp [Jacobian.field, GrumpkinPoint.jacobian]
    · simp [Jacobian.field, GrumpkinPoint.jacobian]

/-! ## The routines -/

/-- Every valid representation is of one point, the routines add, double and multiply the points,
for any representations of them, and what they return is valid. -/
theorem grumpkin_group :
    (∀ p : Jacobian, p.Valid → ∃! P, p.Represents P) ∧
      (∀ (p q : Jacobian) (P Q : Grumpkin), p.Represents P → q.Represents Q →
        (addJ p q).Represents (P + Q)) ∧
      (∀ (p : Jacobian) (P : Grumpkin), p.Represents P → (doubleJ p).Represents (P + P)) ∧
      ∀ (k : Nat) (g : GrumpkinPoint) (P : Grumpkin), some g = coordinates P →
        (mulJ k g).Represents (k • P) := by
  refine ⟨?_, ?_, ?_, ?_⟩
  · intro p valid
    obtain ⟨P, represents⟩ := valid.represents
    refine ⟨P, represents, fun Q other => ?_⟩
    exact coordinates_injective (other.2.symm.trans represents.2)
  · intro p q P Q first second
    have reduced := addJ_reduced first.1.reduced second.1.reduced
    rw [represents_iff reduced, addJ_field first.1.reduced second.1.reduced]
    exact Stands.add two_ne_zero_field ((represents_iff first.1.reduced P).mp first)
      ((represents_iff second.1.reduced Q).mp second)
  · intro p P represents
    rw [represents_iff doubleJ_reduced, doubleJ_field represents.1.reduced]
    exact Stands.double two_ne_zero_field ((represents_iff represents.1.reduced P).mp represents)
  · intro k g P point
    have lifted := point_represents point
    have multiple := mulLoop_represents (mod_fits k) infinity_represents lifted
    have whole : k • P = (k % grumpkinOrder) • P := by
      conv_lhs => rw [← Nat.mod_add_div k grumpkinOrder, add_nsmul, mul_nsmul,
        grumpkinOrder_nsmul, nsmul_zero, add_zero]
    rw [zero_add, ← whole] at multiple
    exact multiple

/-- The generator, added to itself under two representations, and five times over. -/
theorem grumpkin_group_sample : ∃ G : Grumpkin, some grumpkinGenerator = coordinates G ∧
    (addJ (doubleJ grumpkinGenerator.jacobian) grumpkinGenerator.jacobian).Represents (G + G + G) ∧
      (mulJ 5 grumpkinGenerator).Represents (5 • G) := by
  obtain ⟨represented, sums, doubles, multiplies⟩ := grumpkin_group
  obtain ⟨G, represents, -⟩ := represented _ generator_valid
  have point : some grumpkinGenerator = coordinates G := by
    rw [← represents.2]
    rfl
  exact ⟨G, point, sums _ _ _ _ (doubles _ _ represents) represents, multiplies 5 _ G point⟩

end XochiSdk.Signer
