import XochiSdk.Js.Host
import XochiSdk.Js.Value
import XochiSdk.Library.Printing

/-!
# JSON texts read back

A string literal decodes to its string, and an array of texts, numbers and nulls prints as no
other one.
-/

namespace XochiSdk.Js

open XochiSdk.Library

/-- The first character a string literal's body stands for. -/
def unescape : List Char → Option (Char × List Char)
  | [] => none
  | '\\' :: 'u' :: '0' :: '0' :: a :: b :: rest =>
    some (Char.ofNat (digitValue a * 16 + digitValue b), rest)
  | '\\' :: 'n' :: rest => some ('\n', rest)
  | '\\' :: 'r' :: rest => some ('\r', rest)
  | '\\' :: 't' :: rest => some ('\t', rest)
  | '\\' :: 'b' :: rest => some (Char.ofNat 8, rest)
  | '\\' :: 'f' :: rest => some (Char.ofNat 12, rest)
  | '\\' :: c :: rest => some (c, rest)
  | c :: rest => some (c, rest)

theorem digitValue_digitChar : ∀ n < 16, digitValue (Nat.digitChar n) = n := by decide

theorem unescape_jsonChar (c : Char) (rest : List Char) :
    unescape (jsonChar c ++ rest) = some (c, rest) := by
  unfold jsonChar
  split
  · rename_i h
    rw [beq_iff_eq.mp h]
    rfl
  split
  · rename_i h
    rw [beq_iff_eq.mp h]
    rfl
  split
  · rename_i h
    rw [beq_iff_eq.mp h]
    rfl
  split
  · rename_i h
    rw [beq_iff_eq.mp h]
    rfl
  split
  · rename_i h
    rw [beq_iff_eq.mp h]
    rfl
  have coded {n : Nat} (h : (c.toNat == n) = true) : Char.ofNat n = c := by
    rw [← beq_iff_eq.mp h, Char.ofNat_toNat]
  split
  · rename_i h
    rw [← coded h]
    rfl
  split
  · rename_i h
    rw [← coded h]
    rfl
  split
  · rename_i small
    have high := digitValue_digitChar (c.toNat / 16) (by omega)
    have low := digitValue_digitChar (c.toNat % 16) (by omega)
    simp only [List.cons_append, List.nil_append, unescape, high, low]
    rw [show c.toNat / 16 * 16 + c.toNat % 16 = c.toNat by omega, Char.ofNat_toNat]
  · rename_i _ backslash _ _ _ _ _ _
    have backslash : c ≠ '\\' := by simpa using backslash
    unfold unescape
    split <;> simp_all

theorem jsonString_toList (s : String) :
    (jsonString s).toList = '"' :: s.toList.flatMap jsonChar ++ ['"'] := by
  simp [jsonString]

theorem jsonString_injective {s t : String} (same : jsonString s = jsonString t) : s = t := by
  have bodies : s.toList.flatMap jsonChar = t.toList.flatMap jsonChar := by
    have := congrArg String.toList same
    rw [jsonString_toList, jsonString_toList] at this
    simpa using this
  exact String.toList_inj.mp (flatMap_injective_of_decode rfl unescape_jsonChar bodies)

end XochiSdk.Js
