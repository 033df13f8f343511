import XochiSdk.Sdk.Inputs.Pattern
import XochiSdk.Sdk.Inputs.MultiSigned

/-!
# What the builders' checks let through

Each check of the builders, and the daemon's parser, read as a fact about the numbers: a number
that passes is a natural number in its range.
-/

namespace XochiSdk.Sdk.Inputs

open XochiSdk.Js

/-- A step that returns nothing, and what follows it. -/
theorem then_ok {ε β : Type} {x : Except ε Unit} {rest : Unit → Except ε β} {b : β} :
    (x >>= rest) = .ok b ↔ x = .ok () ∧ rest () = .ok b := by
  cases x <;> simp [bind, Except.bind]

@[simp] theorem refuseIf_pass {broken : Bool} {message : String} :
    refuseIf broken message = .ok () ↔ broken = false := by
  cases broken <;> simp [refuseIf]

theorem forM_pass {α : Type} {f : α → Except String Unit} {xs : List α} :
    xs.forM f = .ok () ↔ ∀ x ∈ xs, f x = .ok () := by
  induction xs with
  | nil => simp [pure, Except.pure]
  | cons x xs ih =>
    rw [List.forall_mem_cons, ← ih]
    exact then_ok

/-- The number is a natural one, at most `max`. -/
def Within (max : Nat) (x : Double) : Prop := ∃ k : Nat, k ≤ max ∧ x = k

theorem nat_lt (a b : Nat) : Double.lt (a : Double) (b : Double) = decide (a < b) := by
  rw [Double.natCast_def a, Double.finite_lt_nat]
  simp

theorem nat_strictEq (a b : Nat) : Double.strictEq (a : Double) (b : Double) = decide (a = b) := by
  simp [Double.strictEq, Double.natCast_def, Bool.beq_eq_decide_eq]

theorem nat_toInteger (k : Nat) : Double.toInteger (k : Double) = some (k : Int) := by
  simp [Double.toInteger]

theorem nat_isInteger (k : Nat) : isInteger (k : Double) = true := by
  simp [isInteger, nat_toInteger]

/-- An integer that is not negative is a natural number. -/
theorem exists_nat {x : Double} (integer : isInteger x = true) (nonneg : x.lt (0 : Nat) = false) :
    ∃ k : Nat, x = k := by
  cases x with
  | infinite negative => simp [isInteger, Double.toInteger] at integer
  | nan => simp [isInteger, Double.toInteger] at integer
  | finite q =>
    have whole : q.den = 1 := by
      by_contra fractional
      simp [isInteger, Double.toInteger, fractional] at integer
    rw [Double.finite_lt_nat, decide_eq_false_iff_not, not_lt, Nat.cast_zero] at nonneg
    obtain ⟨k, hk⟩ := Int.eq_ofNat_of_zero_le (Rat.num_nonneg.mpr nonneg)
    refine ⟨k, ?_⟩
    rw [Double.natCast_def, ← Rat.coe_int_num_of_den_eq_one whole, hk]
    simp

/-- The three comparisons a bounded number passes. -/
theorem within_iff {max : Nat} {x : Double} :
    (!isInteger x || x.lt (0 : Nat) || Double.lt max x) = false ↔ Within max x := by
  simp only [Bool.or_eq_false_iff, Bool.not_eq_false']
  constructor
  · rintro ⟨⟨integer, nonneg⟩, bounded⟩
    obtain ⟨k, rfl⟩ := exists_nat integer nonneg
    rw [nat_lt, decide_eq_false_iff_not, not_lt] at bounded
    exact ⟨k, bounded, rfl⟩
  · rintro ⟨k, bounded, rfl⟩
    simp [nat_isInteger, nat_lt, bounded]

theorem isSafeInteger_nat {k : Nat} : isSafeInteger (k : Double) = decide (k < 2 ^ 53) := by
  simp [isSafeInteger, nat_toInteger]

theorem isInteger_of_safe {x : Double} (safe : isSafeInteger x = true) : isInteger x = true := by
  unfold isSafeInteger at safe
  unfold isInteger
  cases h : x.toInteger with
  | none => simp [h] at safe
  | some n => rfl

variable [Host]

theorem validateSignal_ok {x : Double} {i : Nat} :
    validateSignal x i = .ok () ↔ Within 100 x := by
  rw [validateSignal, refuseIf_pass, within_iff]

theorem validateWeight_ok {x : Double} {i : Nat} {active : Bool} :
    validateWeight x i active = .ok () ↔
      Within maxWeight x ∧ (active = true ↔ x.strictEq (0 : Nat) = false) := by
  simp only [validateWeight, then_ok, refuseIf_pass, within_iff]
  cases active <;> cases x.strictEq (0 : Nat) <;> simp

theorem validateTimestamp_ok {x : Double} :
    validateTimestamp x = .ok () ↔
      ∃ t : Nat, minTimestamp ≤ t ∧ t < maxTimestamp ∧ x = t := by
  simp only [validateTimestamp, refuseIf_pass, Bool.or_eq_false_iff, Bool.not_eq_false']
  constructor
  · rintro ⟨⟨safe, early⟩, late⟩
    have nonneg : x.lt (0 : Nat) = false := by
      obtain ⟨q, rfl⟩ : ∃ q, x = .finite q := by
        cases x <;> simp [isSafeInteger, Double.toInteger] at safe ⊢
      rw [Double.finite_lt_nat, decide_eq_false_iff_not, not_lt] at early ⊢
      exact le_trans (by simp) early
    obtain ⟨t, rfl⟩ := exists_nat (isInteger_of_safe safe) nonneg
    rw [nat_lt, decide_eq_false_iff_not, not_lt] at early
    rw [Double.le_nat, decide_eq_false_iff_not, not_le] at late
    exact ⟨t, early, late, rfl⟩
  · rintro ⟨t, early, late, rfl⟩
    have : t < 9007199254740992 := by unfold maxTimestamp at late; omega
    simp [isSafeInteger_nat, nat_lt, Double.le_nat, early, late, this]

theorem asNumber_ok {x : Double} {label : String} {max : Nat} (small : max < 2 ^ 53) :
    asNumber x label max = .ok () ↔ Within max x := by
  simp only [asNumber, then_ok, refuseIf_pass, Bool.or_eq_false_iff,
    Bool.not_eq_false']
  constructor
  · rintro ⟨⟨safe, nonneg⟩, bounded⟩
    exact within_iff.mp (by simp [isInteger_of_safe safe, nonneg, bounded])
  · rintro ⟨k, bounded, rfl⟩
    have : k < 9007199254740992 := by omega
    simp [isSafeInteger_nat, nat_lt, bounded, this]

/-- What the daemon takes: bounded signals and weights, some weight, no signal without weight and,
where the slots must be contiguous, no gap. -/
theorem parseSignals_ok {contiguous : Bool} {signals weights : List Double} :
    parseSignals contiguous signals weights = .ok () ↔
      signals.length = 8 ∧ weights.length = 8 ∧
      (∀ i < 8, Within 100 (signals.getD i .nan)) ∧
      (∀ i < 8, Within maxWeight (weights.getD i .nan)) ∧
      (∃ i < 8, Double.lt (0 : Nat) (weights.getD i .nan) = true) ∧
      (∀ i < 8, Double.lt (0 : Nat) (weights.getD i .nan) = false →
        (signals.getD i .nan).strictEq (0 : Nat) = true) ∧
      (contiguous = true → ∀ i < 8, Double.lt (0 : Nat) (weights.getD i .nan) = true → 0 < i →
        Double.lt (0 : Nat) (weights.getD (i - 1) .nan) = true) := by
  simp only [parseSignals, then_ok, refuseIf_pass, forM_pass, List.mem_range]
  simp only [bne_eq_false_iff_eq, asNumber_ok (show 100 < 2 ^ 53 by norm_num),
    asNumber_ok (show maxWeight < 2 ^ 53 by decide), Bool.not_eq_false', List.any_eq_true,
    List.mem_range, Bool.and_eq_false_iff]
  refine and_congr_right fun _ => and_congr_right fun _ => and_congr_right fun _ =>
    and_congr_right fun _ => and_congr_right fun _ => and_congr ?_ ?_
  · refine forall₂_congr fun i _ => ?_
    cases Double.lt (0 : Nat) (weights.getD i .nan) <;> simp
  · cases contiguous with
    | false => simp
    | true =>
      simp only [Bool.true_eq_false, false_or, forall_const, List.any_eq_false, List.mem_range]
      refine forall₂_congr fun i _ => ?_
      cases Double.lt (0 : Nat) (weights.getD i .nan) <;> simp

end XochiSdk.Sdk.Inputs
