import XochiSdk.Js.Text
import Mathlib.Data.List.Infix

/-!
# Searching text

`String.prototype.includes`, and the pieces of the regular expressions the client searches
prose with: a literal at the head of a text, white space, and a literal anywhere.
-/

namespace XochiSdk.Js

/-- `text.includes(word)`. -/
def includes (text word : String) : Bool := text.toList.tails.any word.toList.isPrefixOf

theorem includes_iff (text word : String) :
    includes text word = true ↔ word.toList <:+: text.toList := by
  simp only [includes, List.any_eq_true, List.mem_tails, List.isPrefixOf_iff_prefix]
  constructor
  · rintro ⟨tail, suffix, before⟩
    exact before.isInfix.trans suffix.isInfix
  · rintro ⟨before, after, split⟩
    refine ⟨word.toList ++ after, ⟨before, ?_⟩, List.prefix_append _ _⟩
    rw [← split, List.append_assoc]

/-- Does any tail of the characters start a match? -/
def searchChars (starts : List Char → Bool) (cs : List Char) : Bool := cs.tails.any starts

theorem searchChars_iff {starts : List Char → Bool} {cs : List Char} :
    searchChars starts cs = true ↔ ∃ before rest, cs = before ++ rest ∧ starts rest = true := by
  simp only [searchChars, List.any_eq_true, List.mem_tails]
  constructor
  · rintro ⟨rest, ⟨before, split⟩, found⟩
    exact ⟨before, rest, split.symm, found⟩
  · rintro ⟨before, rest, split, found⟩
    exact ⟨rest, ⟨before, split.symm⟩, found⟩

/-- The characters after a literal at their head. -/
def afterLiteral (literal : String) (cs : List Char) : Option (List Char) :=
  if literal.toList.isPrefixOf cs then some (cs.drop literal.toList.length) else none

theorem afterLiteral_some {literal : String} {cs rest : List Char}
    (h : afterLiteral literal cs = some rest) : cs = literal.toList ++ rest := by
  unfold afterLiteral at h
  split at h
  · rename_i starts
    obtain ⟨after, rfl⟩ := List.isPrefixOf_iff_prefix.mp starts
    cases h
    rw [List.drop_left]
  · cases h

@[simp] theorem afterLiteral_append (literal : String) (rest : List Char) :
    afterLiteral literal (literal.toList ++ rest) = some rest := by
  unfold afterLiteral
  rw [if_pos (List.isPrefixOf_iff_prefix.mpr (List.prefix_append _ _)), List.drop_left]

/-- The characters after an ASCII literal at their head, in any letter case (the `i` flag). -/
def afterLiteralFolded (literal : String) (cs : List Char) : Option (List Char) :=
  if literal.toList.isPrefixOf (cs.map asciiLowerChar) then some (cs.drop literal.toList.length)
  else none

/-- `\s*` at the head. -/
def skipSpace (cs : List Char) : List Char := cs.dropWhile isWhiteSpace

/-- An optional literal at the head. -/
def skipOptional (literal : String) (cs : List Char) : List Char :=
  (afterLiteral literal cs).getD cs

/-- `text.replace(/^\s*LITERAL[^.]*\.\s*/i, "")`. -/
def withoutLeadingSentence (literal : String) (text : String) : String :=
  match afterLiteralFolded literal (skipSpace text.toList) with
  | none => text
  | some rest =>
    match rest.dropWhile (· != '.') with
    | [] => text
    | _ :: rest => String.ofList (skipSpace rest)

/-- `text.replace(/^\s*LITERAL:?\s*/i, "")`. -/
def withoutLeadingLabel (literal : String) (text : String) : String :=
  match afterLiteralFolded literal (skipSpace text.toList) with
  | none => text
  | some rest => String.ofList (skipSpace (skipOptional ":" rest))

/-- `text.replace(/\s*LITERAL\.?\s*$/i, "").trim()`. -/
def withoutClosingSentence (literal : String) (text : String) : String :=
  let reversed := skipOptional "." (skipSpace text.toList.reverse)
  match afterLiteralFolded (String.ofList literal.toList.reverse) reversed with
  | none => trim text
  | some rest => trim (String.ofList rest.reverse)

end XochiSdk.Js
