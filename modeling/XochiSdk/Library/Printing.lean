import Mathlib.Data.List.Basic

/-!
# Printed lists

Elements printed with commas between them, where a comma inside a string literal is none of
them: a reader that minds the quotes splits the text back, so that two lists that print alike
are one list. The texts of a prefix code are told apart by decoding.
-/

namespace XochiSdk.Library

/-- Where a scan stands: outside every string literal, inside one, or after its backslash. -/
inductive Scan where
  | outside
  | inside
  | escaped
  deriving DecidableEq

/-- The scan past one character; `none` at a separator. -/
def Scan.next (s : Scan) (c : Char) : Option Scan :=
  match s with
  | .outside => if c = ',' then none else if c = '"' then some .inside else some .outside
  | .inside => if c = '"' then some .outside else if c = '\\' then some .escaped else some .inside
  | .escaped => some .inside

/-- The scan past a whole text, `none` where it meets a separator. -/
def Scan.past : Scan → List Char → Option Scan
  | s, [] => some s
  | s, c :: cs => (s.next c).bind fun s' => s'.past cs

/-- A text that a separator ends: it holds none itself, and closes its literals. -/
def Delimited (cs : List Char) : Prop := Scan.past .outside cs = some .outside

/-- The text up to the first separator, and what follows that. -/
def Scan.split : Scan → List Char → List Char × List Char
  | _, [] => ([], [])
  | s, c :: cs =>
    match s.next c with
    | none => ([], cs)
    | some s' => (c :: (s'.split cs).1, (s'.split cs).2)

theorem Scan.past_append (s : Scan) (cs ds : List Char) :
    s.past (cs ++ ds) = (s.past cs).bind fun s' => s'.past ds := by
  induction cs generalizing s with
  | nil => rfl
  | cons c cs ih =>
    simp only [List.cons_append, Scan.past]
    cases s.next c with
    | none => rfl
    | some s' => exact ih s'

theorem Scan.split_past {s : Scan} {cs : List Char} (rest : List Char)
    (h : s.past cs = some .outside) : s.split (cs ++ ',' :: rest) = (cs, rest) := by
  induction cs generalizing s with
  | nil =>
    cases h
    rfl
  | cons c cs ih =>
    simp only [Scan.past] at h
    simp only [List.cons_append, Scan.split]
    cases stepped : s.next c with
    | none =>
      rw [stepped] at h
      cases h
    | some s' =>
      rw [stepped] at h
      dsimp only
      rw [ih h]

/-- Two texts that separators end are told apart by what they begin. -/
theorem Delimited.append_inj {cs ds rest rest' : List Char} (hc : Delimited cs) (hd : Delimited ds)
    (same : cs ++ ',' :: rest = ds ++ ',' :: rest') : cs = ds ∧ rest = rest' := by
  have first := Scan.split_past rest hc
  rw [same, Scan.split_past rest' hd] at first
  exact ⟨(congrArg Prod.fst first).symm, (congrArg Prod.snd first).symm⟩

/-- Two lists of one length that print alike are one list. -/
theorem intercalate_injective {as bs : List (List Char)} (ha : ∀ a ∈ as, Delimited a)
    (hb : ∀ b ∈ bs, Delimited b) (length : as.length = bs.length)
    (same : [','].intercalate as = [','].intercalate bs) : as = bs := by
  induction as generalizing bs with
  | nil => exact (List.length_eq_zero_iff.mp length.symm).symm
  | cons a as ih =>
    cases bs with
    | nil => cases length
    | cons b bs =>
      cases as with
      | nil =>
        cases bs with
        | nil => simpa [List.intercalate] using same
        | cons => cases length
      | cons a' as =>
        cases bs with
        | nil => cases length
        | cons b' bs =>
          simp only [List.intercalate, List.intersperse_cons_cons, List.flatten_cons,
            List.singleton_append] at same
          obtain ⟨rfl, rest⟩ := (ha a (by simp)).append_inj (hb b (by simp)) same
          rw [ih (fun x hx => ha x (by simp [hx])) (fun x hx => hb x (by simp [hx]))
            (Nat.succ.inj length) rest]

/-- A text after another, both of which separators end. -/
theorem Delimited.append {cs ds : List Char} (hc : Delimited cs) (hd : Delimited ds) :
    Delimited (cs ++ ds) := by
  unfold Delimited at hc
  rw [Delimited, Scan.past_append, hc]
  exact hd

/-- A text without commas and quotes is ended by a separator. -/
theorem Delimited.of_plain {cs : List Char} (plain : ∀ c ∈ cs, c ≠ ',' ∧ c ≠ '"') :
    Delimited cs := by
  unfold Delimited
  induction cs with
  | nil => rfl
  | cons c cs ih =>
    obtain ⟨comma, quote⟩ := plain c (by simp)
    simp only [Scan.past, Scan.next, if_neg comma, if_neg quote]
    exact ih fun d hd => plain d (by simp [hd])

/-- A literal is ended by a separator, where no character of it closes it. -/
theorem Delimited.of_literal {cs : List Char} (kept : Scan.past .inside cs = some .inside) :
    Delimited ('"' :: cs ++ ['"']) := by
  unfold Delimited
  rw [Scan.past_append]
  have opened : Scan.past .outside ('"' :: cs) = some .inside := kept
  rw [opened]
  rfl

section

variable {α β : Type}

/-- A code that decodes is injective. -/
theorem flatMap_injective_of_decode {code : β → List α} {decode : List α → Option (β × List α)}
    (stops : decode [] = none) (reads : ∀ b rest, decode (code b ++ rest) = some (b, rest))
    {bs cs : List β} (same : bs.flatMap code = cs.flatMap code) : bs = cs := by
  have ends {b : β} {rest : List α} : code b ++ rest ≠ [] := by
    intro empty
    have read := reads b rest
    rw [empty, stops] at read
    cases read
  induction bs generalizing cs with
  | nil =>
    cases cs with
    | nil => rfl
    | cons c cs => exact absurd same.symm ends
  | cons b bs ih =>
    cases cs with
    | nil => exact absurd same ends
    | cons c cs =>
      simp only [List.flatMap_cons] at same
      have read := reads b (bs.flatMap code)
      rw [same, reads] at read
      simp only [Option.some.injEq, Prod.mk.injEq] at read
      rw [read.1, ih read.2.symm]

end

end XochiSdk.Library
