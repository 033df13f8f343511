import Mathlib.Algebra.BigOperators.Group.List.Basic
import Mathlib.Algebra.Order.Ring.Nat
import Mathlib.Tactic.Ring

/-!
# Shares floored one by one

An amount split by weights over a common denominator, each share rounded down by itself. The
shares fall short of the share of the whole weight by less than their number.
-/

namespace XochiSdk.Library

/-- Each weight's share of an amount, rounded down. -/
def shares (amount denominator : Nat) (weights : List Nat) : List Nat :=
  weights.map fun weight => amount * weight / denominator

/-- What each share's rounding drops, in parts of the denominator. -/
def dropped (amount denominator : Nat) (weights : List Nat) : List Nat :=
  weights.map fun weight => amount * weight % denominator

variable (amount denominator : Nat)

theorem shares_dropped (weights : List Nat) :
    denominator * (shares amount denominator weights).sum +
      (dropped amount denominator weights).sum = amount * weights.sum := by
  induction weights with
  | nil => simp [shares, dropped]
  | cons weight weights ih =>
    have split := Nat.div_add_mod (amount * weight) denominator
    simp only [shares, dropped, List.map_cons, List.sum_cons, Nat.mul_add] at ih ⊢
    omega

variable {denominator}

theorem dropped_le (positive : 0 < denominator) (weights : List Nat) :
    (dropped amount denominator weights).sum + weights.length ≤ denominator * weights.length := by
  induction weights with
  | nil => simp [dropped]
  | cons weight weights ih =>
    have below := Nat.mod_lt (amount * weight) positive
    simp only [dropped, List.map_cons, List.sum_cons, List.length_cons, Nat.mul_add,
      Nat.mul_one] at ih ⊢
    omega

/-- The shares never exceed the share of the whole. -/
theorem sum_shares_le (positive : 0 < denominator) (weights : List Nat) :
    (shares amount denominator weights).sum ≤ amount * weights.sum / denominator := by
  rw [Nat.le_div_iff_mul_le positive, Nat.mul_comm, ← shares_dropped amount denominator weights]
  exact Nat.le_add_right _ _

/-- The share of the whole exceeds the shares by less than their number. -/
theorem share_sum_lt (positive : 0 < denominator) {weights : List Nat} (some_ : weights ≠ []) :
    amount * weights.sum / denominator <
      (shares amount denominator weights).sum + weights.length := by
  have nonempty : 0 < weights.length := List.length_pos_iff.mpr some_
  have drops := dropped_le amount positive weights
  rw [Nat.div_lt_iff_lt_mul positive, ← shares_dropped amount denominator weights, Nat.add_mul,
    Nat.mul_comm _ denominator, Nat.mul_comm weights.length denominator]
  omega

/-- More to share never lowers a share. -/
theorem sum_shares_mono {amount larger : Nat} (le : amount ≤ larger) (denominator : Nat)
    (weights : List Nat) :
    (shares amount denominator weights).sum ≤ (shares larger denominator weights).sum := by
  induction weights with
  | nil => exact Nat.le_refl _
  | cons weight weights ih =>
    have first := Nat.div_le_div_right (c := denominator) (Nat.mul_le_mul_right weight le)
    simp only [shares, List.map_cons, List.sum_cons] at ih ⊢
    omega

end XochiSdk.Library
