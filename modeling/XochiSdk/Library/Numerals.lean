import Mathlib.Data.Nat.Basic
import Mathlib.Data.Rat.Encodable

/-!
# Printed numbers

A printed number holds only digits and a sign, and no two numbers print alike.
-/

namespace XochiSdk.Library

theorem natRepr_digits (n : Nat) : ∀ c ∈ n.repr.toList, c.isDigit = true := by
  intro c hc
  rw [Nat.toList_repr] at hc
  exact Nat.isDigit_of_mem_toDigits (by decide) (by decide) hc

theorem natRepr_injective {a b : Nat} (h : a.repr = b.repr) : a = b := by
  have read (n : Nat) : Nat.ofDigitChars 10 n.repr.toList 0 = n := by
    rw [Nat.toList_repr, Nat.ofDigitChars_toDigits (by decide) (by decide)]
  rw [← read a, ← read b, h]

theorem intRepr_chars (n : Int) : ∀ c ∈ n.repr.toList, c.isDigit = true ∨ c = '-' := by
  intro c hc
  cases n with
  | ofNat n => exact .inl (natRepr_digits n c hc)
  | negSucc n =>
    have : c = '-' ∨ c ∈ (n + 1).repr.toList := by simpa [Int.repr] using hc
    exact this.elim .inr fun h => .inl (natRepr_digits _ c h)

theorem intRepr_injective {a b : Int} (h : a.repr = b.repr) : a = b := by
  have unsigned (m n : Nat) : m.repr ≠ "-" ++ n.repr := by
    intro same
    have minus : '-' ∈ m.repr.toList := by rw [same]; simp
    cases natRepr_digits m _ minus
  cases a with
  | ofNat m =>
    cases b with
    | ofNat n => exact congrArg Int.ofNat (natRepr_injective h)
    | negSucc n => exact absurd h (unsigned _ _)
  | negSucc m =>
    cases b with
    | ofNat n => exact absurd h.symm (unsigned _ _)
    | negSucc n =>
      have digits : (m + 1).repr = (n + 1).repr := String.append_right_inj "-" |>.mp h
      have := natRepr_injective digits
      rw [show m = n by omega]

/-- A whole number as its digits; any other as a point and its code. -/
def plainNumber (q : ℚ) : String :=
  if q.den = 1 then q.num.repr else "." ++ (Encodable.encode q).repr

theorem plainNumber_injective {a b : ℚ} (h : plainNumber a = plainNumber b) : a = b := by
  have whole (n : Int) (s : String) : n.repr ≠ "." ++ s := by
    intro same
    have point : '.' ∈ n.repr.toList := by rw [same]; simp
    rcases intRepr_chars n _ point with digit | minus
    · cases digit
    · exact absurd minus (by decide)
  unfold plainNumber at h
  split at h <;> split at h
  · rename_i ha hb
    exact Rat.ext (intRepr_injective h) (ha.trans hb.symm)
  · exact absurd h (whole _ _)
  · exact absurd h.symm (whole _ _)
  · exact Encodable.encode_injective (natRepr_injective (String.append_right_inj "." |>.mp h))

theorem plainNumber_plain (q : ℚ) : ∀ c ∈ (plainNumber q).toList, c ≠ ',' ∧ c ≠ '"' ∧ c ≠ 'n' := by
  have digit {c : Char} (h : c.isDigit = true) : c ≠ ',' ∧ c ≠ '"' ∧ c ≠ 'n' := by
    refine ⟨?_, ?_, ?_⟩ <;> rintro rfl <;> cases h
  intro c hc
  unfold plainNumber at hc
  split at hc
  · rcases intRepr_chars _ c hc with h | rfl
    · exact digit h
    · decide
  · have : c = '.' ∨ c ∈ (Encodable.encode q).repr.toList := by simpa using hc
    rcases this with rfl | h
    · decide
    · exact digit (natRepr_digits _ c h)

end XochiSdk.Library
