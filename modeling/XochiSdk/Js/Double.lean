import XochiSdk.Js.Host
import Mathlib.Data.Int.Log
import Mathlib.Algebra.Order.Floor.Ring
import Mathlib.Data.Rat.Floor
import Mathlib.Tactic.Positivity
import Mathlib.Tactic.NormNum
import Mathlib.Tactic.Linarith

/-!
# Number arithmetic

A number as the arithmetic of the language sees it: the exact value of a finite double, an
infinity or `NaN`. Each operation rounds the exact result once, to the nearest double with ties
to even. The two zeros are one here: no function that uses this tells them apart.
-/

namespace XochiSdk.Js

inductive Double where
  | finite (q : ℚ)
  | infinite (negative : Bool)
  | nan
  deriving DecidableEq

namespace Double

/-- The spacing of doubles at a magnitude: 53 bits, and never below the subnormal step. -/
def spacing (q : ℚ) : ℚ := (2 : ℚ) ^ max (Int.log 2 |q| - 52) (-1074)

/-- The nearest integer, ties to even. -/
def nearestEven (x : ℚ) : Int :=
  let rest := x - ⌊x⌋
  if rest < 1 / 2 ∨ (rest = 1 / 2 ∧ ⌊x⌋ % 2 = 0) then ⌊x⌋ else ⌊x⌋ + 1

/-- The double nearest to an exact value. -/
def ofRat (q : ℚ) : Double :=
  let rounded := nearestEven (q / spacing q) * spacing q
  if 2 ^ 1024 ≤ |rounded| then .infinite (decide (q < 0)) else .finite rounded

def add : Double → Double → Double
  | .finite a, .finite b => ofRat (a + b)
  | .infinite s, .infinite t => if s = t then .infinite s else .nan
  | .infinite s, .finite _ | .finite _, .infinite s => .infinite s
  | .nan, _ | _, .nan => .nan

def mul : Double → Double → Double
  | .finite a, .finite b => ofRat (a * b)
  | .infinite s, .infinite t => .infinite (s != t)
  | .infinite s, .finite b => if b = 0 then .nan else .infinite (s != decide (b < 0))
  | .finite a, .infinite t => if a = 0 then .nan else .infinite (decide (a < 0) != t)
  | .nan, _ | _, .nan => .nan

def neg : Double → Double
  | .finite a => .finite (-a)
  | .infinite negative => .infinite (!negative)
  | .nan => .nan

def sub (a b : Double) : Double := add a (neg b)

def div : Double → Double → Double
  | .finite a, .finite b =>
    if b ≠ 0 then ofRat (a / b) else if a = 0 then .nan else .infinite (decide (a < 0))
  | .infinite s, .finite b => .infinite (s != decide (b < 0))
  | .finite _, .infinite _ => .finite 0
  | .infinite _, .infinite _ => .nan
  | .nan, _ | _, .nan => .nan

/-- `a <= b`: false where either is `NaN`. -/
def le : Double → Double → Bool
  | .finite a, .finite b => decide (a ≤ b)
  | .infinite true, .finite _ | .infinite true, .infinite _ => true
  | .finite _, .infinite false | .infinite false, .infinite false => true
  | _, _ => false

/-- `a < b`. -/
def lt (a b : Double) : Bool := le a b && a != b

/-- `a === b`. -/
def strictEq (a b : Double) : Bool := a == b && a != .nan

/-- `Math.max(a, b)`. -/
def mathMax (a b : Double) : Double :=
  if a = .nan ∨ b = .nan then .nan else if le a b then b else a

/-- `Math.min(a, b)`. -/
def mathMin (a b : Double) : Double :=
  if a = .nan ∨ b = .nan then .nan else if le a b then a else b

/-- `Math.round(x)`: the nearest integer, ties up. -/
def mathRound : Double → Double
  | .finite q => .finite ⌊q + 1 / 2⌋
  | x => x

/-- `Math.floor(x)`. -/
def mathFloor : Double → Double
  | .finite q => .finite ⌊q⌋
  | x => x

/-- `Number.isFinite(x)`. -/
def isFinite : Double → Bool
  | .finite _ => true
  | _ => false

/-- `Number.isInteger(x)`, with the integer. -/
def toInteger : Double → Option Int
  | .finite q => if q.den = 1 then some q.num else none
  | _ => none

/-- `String(x)`. -/
def text [Host] : Double → String
  | .finite q => Host.numberText q
  | .infinite negative => if negative then "-Infinity" else "Infinity"
  | .nan => "NaN"

instance : NatCast Double := ⟨fun n => .finite n⟩

theorem natCast_def (n : Nat) : (n : Double) = .finite n := rfl

theorem spacing_pos (q : ℚ) : 0 < spacing q := by
  exact zpow_pos (by norm_num) _

theorem nearestEven_int (n : Int) : nearestEven n = n := by
  simp [nearestEven]

/-- Below `2^53` an integer is a whole number of spacings. -/
theorem div_spacing_int {n : Int} (small : n.natAbs < 2 ^ 53) :
    ∃ k : Int, (n : ℚ) / spacing n = k := by
  have exponent : Int.log 2 |(n : ℚ)| - 52 ≤ 0 := by
    by_cases zero : n = 0
    · subst zero
      simp
    · have positive : 0 < |(n : ℚ)| := abs_pos.mpr (Int.cast_ne_zero.mpr zero)
      have below : |(n : ℚ)| < ((2 : ℕ) : ℚ) ^ (53 : Int) := by
        rw [← Int.cast_abs, Int.abs_eq_natAbs]
        exact_mod_cast small
      have := (Int.lt_zpow_iff_log_lt (by norm_num) positive).mp below
      omega
  obtain ⟨e, he⟩ : ∃ e : Nat, max (Int.log 2 |(n : ℚ)| - 52) (-1074) = -(e : Int) := by
    refine ⟨(-(max (Int.log 2 |(n : ℚ)| - 52) (-1074))).toNat, ?_⟩
    rw [Int.toNat_of_nonneg]
    · omega
    · omega
  refine ⟨n * 2 ^ e, ?_⟩
  unfold spacing
  rw [he, zpow_neg, div_inv_eq_mul, zpow_natCast]
  push_cast
  ring

/-- A safe integer is a double. -/
theorem ofRat_int {n : Int} (small : n.natAbs < 2 ^ 53) : ofRat n = .finite n := by
  obtain ⟨k, whole⟩ := div_spacing_int small
  have back : (k : ℚ) * spacing n = n := by
    rw [← whole, div_mul_cancel₀ _ (spacing_pos _).ne']
  have bound : ¬ (2 : ℚ) ^ 1024 ≤ |(n : ℚ)| := by
    have : |(n : ℚ)| < 2 ^ 53 := by
      rw [← Int.cast_abs, Int.abs_eq_natAbs]
      exact_mod_cast small
    have wide : (2 : ℚ) ^ 53 ≤ 2 ^ 1024 := pow_le_pow_right₀ (by norm_num) (by decide)
    exact not_le.mpr (this.trans_le wide)
  unfold ofRat
  rw [whole, nearestEven_int, back, if_neg bound]

theorem add_nat {a b : Nat} (small : a + b < 2 ^ 53) :
    add (a : Double) (b : Double) = ((a + b : Nat) : Double) := by
  have := ofRat_int (n := (a + b : Nat)) (by omega)
  simpa [natCast_def, add] using this

theorem le_nat (a b : Nat) : le (a : Double) (b : Double) = decide (a ≤ b) := by
  simp [le]

theorem nat_le_finite (n : Nat) (q : ℚ) :
    le (n : Double) (.finite q) = decide ((n : ℚ) ≤ q) := rfl

theorem finite_le_nat (q : ℚ) (n : Nat) :
    le (.finite q) (n : Double) = decide (q ≤ (n : ℚ)) := rfl

theorem finite_lt_nat (q : ℚ) (n : Nat) :
    lt (.finite q) (n : Double) = decide (q < (n : ℚ)) := by
  have weak : le (.finite q) (n : Double) = decide (q ≤ (n : ℚ)) := rfl
  unfold lt
  rw [weak, Bool.eq_iff_iff, natCast_def]
  simp only [Bool.and_eq_true, decide_eq_true_eq, bne_iff_ne, ne_eq, finite.injEq]
  exact lt_iff_le_and_ne.symm

theorem nearestEven_near (x : ℚ) : |(nearestEven x : ℚ) - x| ≤ 1 := by
  have below := Int.floor_le x
  have above := (Int.lt_floor_add_one x).le
  unfold nearestEven
  dsimp only
  split
  · rw [abs_le]
    constructor <;> linarith
  · push_cast
    rw [abs_le]
    constructor <;> linarith

theorem spacing_small {q : ℚ} (small : |q| ≤ 1) : spacing q ≤ (2 : ℚ) ^ (-52 : Int) := by
  have exponent : Int.log 2 |q| ≤ 0 := by
    by_cases zero : q = 0
    · simp [zero]
    · have := Int.log_mono_right (b := 2) (abs_pos.mpr zero) small
      simpa using this
  unfold spacing
  apply zpow_le_zpow_right₀ (by norm_num)
  omega

/-- Rounding a number of magnitude at most one moves it by less than a thousandth. -/
theorem ofRat_near {q : ℚ} (small : |q| ≤ 1) :
    ∃ r, ofRat q = .finite r ∧ |r - q| ≤ 1 / 1000 := by
  have step := spacing_small small
  have positive := spacing_pos q
  have tiny : (2 : ℚ) ^ (-52 : Int) ≤ 1 / 1000 := by norm_num
  have moved : |(nearestEven (q / spacing q) : ℚ) * spacing q - q| ≤
      1 / 1000 := by
    have scaled : (nearestEven (q / spacing q) : ℚ) * spacing q - q =
        ((nearestEven (q / spacing q) : ℚ) - q / spacing q) *
          spacing q := by
      field_simp
    rw [scaled, abs_mul, abs_of_pos positive]
    have near := mul_le_mul_of_nonneg_right (nearestEven_near (q / spacing q)) positive.le
    rw [one_mul] at near
    exact near.trans (step.trans tiny)
  refine ⟨_, ?_, moved⟩
  unfold ofRat
  dsimp only
  rw [if_neg]
  intro huge
  have bounded := abs_le.mp moved
  have unit := abs_le.mp small
  have : |(nearestEven (q / spacing q) : ℚ) * spacing q| ≤ 2 := by
    rw [abs_le]
    constructor <;> linarith
  have large : (2 : ℚ) < 2 ^ 1024 := lt_self_pow₀ (by norm_num) (by norm_num)
  exact absurd (huge.trans this) (not_le.mpr large)

theorem spacing_half {q : ℚ} (large : 1 ≤ q) : spacing q ≤ q / 2 := by
  have magnitude : |q| = q := abs_of_nonneg (by linarith)
  have positive : 0 < |q| := by rw [magnitude]; linarith
  have exponent : 0 ≤ Int.log 2 |q| := by
    have := Int.log_mono_right (b := 2) one_pos (magnitude ▸ large)
    simpa using this
  have floor := Int.zpow_log_le_self (b := 2) (by norm_num) positive
  unfold spacing
  have power : (2 : ℚ) ^ max (Int.log 2 |q| - 52) (-1074) ≤ (2 : ℚ) ^ (Int.log 2 |q| - 1) := by
    apply zpow_le_zpow_right₀ (by norm_num)
    omega
  have step : (2 : ℚ) ^ (Int.log 2 |q| - 1) = (2 : ℚ) ^ Int.log 2 |q| / 2 := by
    rw [zpow_sub₀ (by norm_num), zpow_one]
  rw [step] at power
  have floor' : (2 : ℚ) ^ Int.log 2 |q| ≤ q := by
    rw [magnitude] at floor ⊢
    exact_mod_cast floor
  linarith

/-- Rounding keeps at least half of a number. -/
theorem ofRat_half {q r : ℚ} (large : 1 ≤ q) (h : ofRat q = .finite r) : q / 2 ≤ r := by
  have near := abs_le.mp (nearestEven_near (q / spacing q))
  have positive := spacing_pos q
  have half := spacing_half large
  unfold ofRat at h
  dsimp only at h
  split at h
  · cases h
  · cases h
    have scaled : q / spacing q * spacing q = q := div_mul_cancel₀ q positive.ne'
    have moved : (q / spacing q - 1) * spacing q ≤
        (nearestEven (q / spacing q) : ℚ) * spacing q :=
      mul_le_mul_of_nonneg_right (by linarith) positive.le
    linarith

end Double

end XochiSdk.Js
