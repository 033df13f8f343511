import XochiSdk.Library.PointerText

/-!
# Percent-encoded text

`decodeURIComponent` of the language, and the reading of a pointer's tokens by `split` and two
replacements: each finds what the grammar of the text says, and refuses the rest.
-/

namespace XochiSdk.Js

open XochiSdk.Library PointerText JsonText

/-- The byte that `%` and two hex digits give, and what follows. -/
def percentByte : List Nat → Option (Nat × List Nat)
  | 37 :: a :: b :: rest => do
    let x ← hexValue a
    let y ← hexValue b
    return (x * 16 + y, rest)
  | _ => none

def percentBytes : Nat → List Nat → Option (List Nat × List Nat)
  | 0, cs => some ([], cs)
  | n + 1, cs => do
    let (byte, rest) ← percentByte cs
    let (bytes, rest) ← percentBytes n rest
    return (byte :: bytes, rest)

/-- One character of the text: a unit that stands for itself, or the bytes of a character. -/
def decodeChar : List Nat → Option (List Nat × List Nat)
  | [] => none
  | u :: cs =>
    if u ≠ 37 then some ([u], cs)
    else do
      let (lead, _) ← percentByte (u :: cs)
      let (bytes, rest) ← percentBytes (← octetCount lead) (u :: cs)
      let c ← fromUtf8 bytes
      return (charUnits c, rest)

def decodeFrom : Nat → List Nat → Option (List Nat)
  | _, [] => some []
  | 0, _ :: _ => none
  | fuel + 1, u :: cs => do
    let (units, rest) ← decodeChar (u :: cs)
    let out ← decodeFrom fuel rest
    return units ++ out

/-- `decodeURIComponent(text)`; `none` is the `URIError`. -/
def decodeURIComponent (cs : List Nat) : Option (List Nat) := decodeFrom cs.length cs

theorem percentByte_iff {cs rest : List Nat} {byte : Nat} :
    percentByte cs = some (byte, rest) ↔ ∃ a b x y, cs = 37 :: a :: b :: rest ∧
      hexValue a = some x ∧ hexValue b = some y ∧ byte = x * 16 + y := by
  constructor
  · intro h
    unfold percentByte at h
    split at h
    · simp only [Option.bind_eq_bind, Option.bind_eq_some_iff, Option.pure_def,
        Option.some.injEq, Prod.mk.injEq] at h
      obtain ⟨x, high, y, low, rfl, rfl⟩ := h
      exact ⟨_, _, x, y, rfl, high, low, rfl⟩
    · simp at h
  · rintro ⟨a, b, x, y, rfl, high, low, rfl⟩
    simp [percentByte, high, low]

theorem percentBytes_iff {n : Nat} {cs rest bytes : List Nat} :
    percentBytes n cs = some (bytes, rest) ↔
      ∃ ds, cs = ds ++ rest ∧ bytes.length = n ∧ Octets ds bytes := by
  induction n generalizing cs bytes rest with
  | zero =>
    simp only [percentBytes, Option.some.injEq, Prod.mk.injEq, List.length_eq_zero_iff]
    constructor
    · rintro ⟨rfl, rfl⟩
      exact ⟨[], rfl, rfl, .nil⟩
    · rintro ⟨ds, rfl, rfl, octets⟩
      cases octets
      exact ⟨rfl, rfl⟩
  | succ n ih =>
    simp only [percentBytes, Option.bind_eq_bind, Option.bind_eq_some_iff, Option.pure_def,
      Option.some.injEq, Prod.exists, Prod.mk.injEq, percentByte_iff, ih]
    constructor
    · rintro ⟨byte, after, ⟨a, b, x, y, rfl, high, low, rfl⟩, bytes, _, ⟨ds, rfl, length, octets⟩,
        rfl, rfl⟩
      exact ⟨37 :: a :: b :: ds, rfl, by rw [List.length_cons, length], .byte high low octets⟩
    · rintro ⟨ds, rfl, length, octets⟩
      cases octets with
      | nil => simp at length
      | @byte a b x y cs bs high low octets =>
        exact ⟨_, cs ++ rest, ⟨a, b, x, y, rfl, high, low, rfl⟩, bs, rest,
          ⟨cs, rfl, Nat.succ.inj length, octets⟩, rfl, rfl⟩

/-- A character of the text is one the grammar has there. -/
theorem decodeChar_iff {cs rest units : List Nat} :
    decodeChar cs = some (units, rest) ↔
      (∃ u, u ≠ 37 ∧ cs = u :: rest ∧ units = [u]) ∨
      ∃ c ds, Octets ds (utf8 c) ∧ cs = ds ++ rest ∧ units = charUnits c := by
  constructor
  · intro h
    cases cs with
    | nil => simp [decodeChar] at h
    | cons u cs =>
      by_cases percent : u ≠ 37
      · simp only [decodeChar, if_pos percent, Option.some.injEq, Prod.mk.injEq] at h
        obtain ⟨rfl, rfl⟩ := h
        exact Or.inl ⟨u, percent, rfl, rfl⟩
      · simp only [decodeChar, if_neg percent, Option.bind_eq_bind, Option.bind_eq_some_iff,
          Option.pure_def, Option.some.injEq, Prod.exists, Prod.mk.injEq] at h
        obtain ⟨_, _, _, _, _, bytes, _, read, c, found, rfl, rfl⟩ := h
        obtain ⟨ds, split, -, octets⟩ := percentBytes_iff.mp read
        rw [fromUtf8_iff.mp found] at octets
        exact Or.inr ⟨c, ds, octets, split, rfl⟩
  · rintro (⟨u, percent, rfl, rfl⟩ | ⟨c, ds, octets, rfl, rfl⟩)
    · simp [decodeChar, percent]
    · obtain ⟨b, bs, bytes, count⟩ := octetCount_utf8 c
      have octets' := octets
      rw [bytes] at octets'
      cases octets' with
      | @byte a b' x y ds' _ high low tail =>
        have first : percentByte (37 :: a :: b' :: (ds' ++ rest)) =
            some (x * 16 + y, ds' ++ rest) :=
          percentByte_iff.mpr ⟨a, b', x, y, rfl, high, low, rfl⟩
        have all : percentBytes (bs.length + 1) (37 :: a :: b' :: (ds' ++ rest)) =
            some (utf8 c, rest) :=
          percentBytes_iff.mpr ⟨_, rfl, by rw [bytes]; rfl, octets⟩
        have char : fromUtf8 (utf8 c) = some c := fromUtf8_iff.mpr rfl
        simp [decodeChar, first, count, all, char]

theorem octets_length_pos {ds bs : List Nat} (octets : Octets ds bs) (some_ : bs ≠ []) :
    0 < ds.length := by
  cases octets with
  | nil => exact absurd rfl some_
  | byte => simp

/-- The text left by a character is shorter. -/
theorem decodeChar_shorter {cs rest units : List Nat} (h : decodeChar cs = some (units, rest)) :
    rest.length < cs.length := by
  rcases decodeChar_iff.mp h with ⟨u, -, rfl, -⟩ | ⟨c, ds, octets, rfl, -⟩
  · simp
  · obtain ⟨b, bs, bytes, -⟩ := octetCount_utf8 c
    have := octets_length_pos octets (by simp [bytes])
    rw [List.length_append]
    omega

/-- Nothing but the empty text spells the empty text. -/
theorem percentDecoded_nil {out : List Nat} : PercentDecoded [] out ↔ out = [] := by
  constructor
  · intro h
    generalize same : ([] : List Nat) = cs at h
    cases h with
    | nil => rfl
    | plain => cases same
    | @char c ds cs out octets rest =>
      obtain ⟨b, bs, bytes, -⟩ := octetCount_utf8 c
      have long := octets_length_pos octets (by simp [bytes])
      have none := congrArg List.length same
      simp only [List.length_nil, List.length_append] at none
      omega
  · rintro rfl
    exact .nil

theorem percentDecoded_iff {u : Nat} {cs out : List Nat} :
    PercentDecoded (u :: cs) out ↔ ∃ units rest tail, decodeChar (u :: cs) = some (units, rest) ∧
      PercentDecoded rest tail ∧ out = units ++ tail := by
  constructor
  · intro h
    generalize same : u :: cs = text at h
    cases h with
    | nil => cases same
    | @plain v cs tail percent rest =>
      exact ⟨[v], cs, tail, decodeChar_iff.mpr (Or.inl ⟨v, percent, rfl, rfl⟩), rest, rfl⟩
    | @char c ds cs tail octets rest =>
      exact ⟨charUnits c, cs, tail, decodeChar_iff.mpr (Or.inr ⟨c, ds, octets, rfl, rfl⟩), rest,
        rfl⟩
  · rintro ⟨units, rest, tail, read, decoded, rfl⟩
    rcases decodeChar_iff.mp read with ⟨v, percent, split, rfl⟩ | ⟨c, ds, octets, split, rfl⟩
    · rw [split]
      exact .plain percent decoded
    · rw [split]
      exact .char octets decoded

theorem decodeFrom_iff {fuel : Nat} {cs out : List Nat} (enough : cs.length ≤ fuel) :
    decodeFrom fuel cs = some out ↔ PercentDecoded cs out := by
  induction fuel generalizing cs out with
  | zero =>
    obtain rfl := List.length_eq_zero_iff.mp (Nat.le_zero.mp enough)
    rw [percentDecoded_nil, decodeFrom, Option.some.injEq]
    exact eq_comm
  | succ fuel ih =>
    cases cs with
    | nil =>
      rw [percentDecoded_nil, decodeFrom, Option.some.injEq]
      exact eq_comm
    | cons u cs =>
      rw [percentDecoded_iff]
      simp only [decodeFrom, Option.bind_eq_bind, Option.bind_eq_some_iff, Option.pure_def,
        Option.some.injEq, Prod.exists]
      constructor
      · rintro ⟨units, rest, read, tail, decoded, rfl⟩
        have shorter := decodeChar_shorter read
        rw [List.length_cons] at shorter enough
        exact ⟨units, rest, tail, read, (ih (by omega)).mp decoded, rfl⟩
      · rintro ⟨units, rest, tail, read, decoded, rfl⟩
        have shorter := decodeChar_shorter read
        rw [List.length_cons] at shorter enough
        exact ⟨units, rest, read, tail, (ih (by omega)).mpr decoded, rfl⟩

/-- The language decodes a text to what it spells, and refuses one that spells nothing. -/
theorem decodeURIComponent_iff {cs out : List Nat} :
    decodeURIComponent cs = some out ↔ PercentDecoded cs out := decodeFrom_iff (Nat.le_refl _)

/-! ## Tokens -/

/-- `text.split("/")`. -/
def splitSlash : List Nat → List (List Nat)
  | [] => [[]]
  | u :: cs =>
    if u = 47 then [] :: splitSlash cs
    else match splitSlash cs with
      | [] => [[u]]
      | t :: ts => (u :: t) :: ts

/-- `/~(?![01])/.test(token)`. -/
def hasBadEscape : List Nat → Bool
  | [] => false
  | [u] => u == 126
  | u :: v :: cs => (u == 126 && v != 48 && v != 49) || hasBadEscape (v :: cs)

/-- `token.replace(/~d/g, …)`. -/
def replaceEscape (digit unit : Nat) : List Nat → List Nat
  | [] => []
  | [u] => [u]
  | u :: v :: cs =>
    if u = 126 ∧ v = digit then unit :: replaceEscape digit unit cs
    else u :: replaceEscape digit unit (v :: cs)

/-- `token.replace(/~1/g, "/").replace(/~0/g, "~")`. -/
def unescapeToken (token : List Nat) : List Nat :=
  replaceEscape 48 126 (replaceEscape 49 47 token)

/-- The keys of a pointer; `none` where it is no pointer. -/
def pointerKeys : List Nat → Option (List (List Nat))
  | [] => some []
  | u :: cs =>
    if u = 47 then
      if (splitSlash cs).any hasBadEscape then none
      else some ((splitSlash cs).map unescapeToken)
    else none

theorem replaceEscape_cons {digit unit u : Nat} {cs : List Nat} (plain : u ≠ 126) :
    replaceEscape digit unit (u :: cs) = u :: replaceEscape digit unit cs := by
  cases cs with
  | nil => rfl
  | cons v cs =>
    rw [replaceEscape, if_neg]
    rintro ⟨tilde, -⟩
    exact plain tilde

theorem hasBadEscape_cons {u : Nat} {cs : List Nat} (plain : u ≠ 126) :
    hasBadEscape (u :: cs) = hasBadEscape cs := by
  cases cs with
  | nil => simp [hasBadEscape, plain]
  | cons v cs => simp [hasBadEscape, plain]

/-- The two replacements, in their order, read what the escapes name. -/
theorem escaped_reads {token key : List Nat} (h : Escaped token key) :
    47 ∉ token ∧ hasBadEscape token = false ∧ unescapeToken token = key := by
  induction h with
  | nil => exact ⟨by simp, rfl, rfl⟩
  | plain slash tilde rest ih =>
    obtain ⟨free, good, read⟩ := ih
    refine ⟨by simp [free, slash.symm], by rw [hasBadEscape_cons tilde, good], ?_⟩
    rw [unescapeToken, replaceEscape_cons tilde, replaceEscape_cons tilde]
    exact congrArg _ read
  | @tilde cs key rest ih =>
    obtain ⟨free, good, read⟩ := ih
    refine ⟨by simp [free], ?_, ?_⟩
    · rw [hasBadEscape, hasBadEscape_cons (by decide), good]
      rfl
    · have kept : replaceEscape 49 47 (126 :: 48 :: cs) = 126 :: 48 :: replaceEscape 49 47 cs := by
        rw [replaceEscape, if_neg (by decide), replaceEscape_cons (by decide)]
      rw [unescapeToken, kept, replaceEscape, if_pos ⟨rfl, rfl⟩]
      exact congrArg _ read
  | @slash cs key rest ih =>
    obtain ⟨free, good, read⟩ := ih
    refine ⟨by simp [free], ?_, ?_⟩
    · rw [hasBadEscape, hasBadEscape_cons (by decide), good]
      rfl
    · have named : replaceEscape 49 47 (126 :: 49 :: cs) = 47 :: replaceEscape 49 47 cs := by
        rw [replaceEscape, if_pos ⟨rfl, rfl⟩]
      rw [unescapeToken, named, replaceEscape_cons (by decide)]
      exact congrArg _ read

theorem escaped_of_good {token : List Nat} (free : 47 ∉ token)
    (good : hasBadEscape token = false) : ∃ key, Escaped token key := by
  induction n : token.length using Nat.strongRecOn generalizing token with
  | ind n ih =>
    subst n
    cases token with
    | nil => exact ⟨[], .nil⟩
    | cons u cs =>
      rw [List.mem_cons, not_or] at free
      by_cases tilde : u = 126
      · subst tilde
        cases cs with
        | nil => simp [hasBadEscape] at good
        | cons v cs =>
          rw [List.mem_cons, not_or] at free
          have digit : v = 48 ∨ v = 49 := by
            simp only [hasBadEscape, Bool.or_eq_false_iff, Bool.and_eq_false_iff, beq_self_eq_true,
              Bool.true_eq_false, false_or, bne_eq_false_iff_eq] at good
            exact good.1
          have later : hasBadEscape cs = false := by
            rw [hasBadEscape, Bool.or_eq_false_iff] at good
            rw [hasBadEscape_cons (by omega)] at good
            exact good.2
          obtain ⟨key, escaped⟩ := ih cs.length (by simp only [List.length_cons]; omega) free.2.2 later rfl
          rcases digit with rfl | rfl
          · exact ⟨_, .tilde escaped⟩
          · exact ⟨_, .slash escaped⟩
      · rw [hasBadEscape_cons tilde] at good
        obtain ⟨key, escaped⟩ := ih cs.length (by simp) free.2 good rfl
        exact ⟨_, .plain (Ne.symm free.1) tilde escaped⟩

theorem escaped_iff {token key : List Nat} :
    Escaped token key ↔ 47 ∉ token ∧ hasBadEscape token = false ∧ unescapeToken token = key := by
  refine ⟨escaped_reads, fun ⟨free, good, named⟩ => ?_⟩
  obtain ⟨key', escaped⟩ := escaped_of_good free good
  rw [← named, (escaped_reads escaped).2.2]
  exact escaped

theorem splitSlash_free {cs : List Nat} (free : 47 ∉ cs) : splitSlash cs = [cs] := by
  induction cs with
  | nil => rfl
  | cons u cs ih =>
    rw [List.mem_cons, not_or] at free
    rw [splitSlash, if_neg (Ne.symm free.1), ih free.2]

theorem splitSlash_token {t cs : List Nat} (free : 47 ∉ t) :
    splitSlash (t ++ 47 :: cs) = t :: splitSlash cs := by
  induction t with
  | nil => simp [splitSlash]
  | cons u t ih =>
    rw [List.mem_cons, not_or] at free
    rw [List.cons_append, splitSlash, if_neg (Ne.symm free.1), ih free.2]

/-- Every text is its first token and what stands after the slash. -/
theorem splitSlash_cases (cs : List Nat) :
    (47 ∉ cs ∧ splitSlash cs = [cs]) ∨
      ∃ t rest, 47 ∉ t ∧ cs = t ++ 47 :: rest ∧ splitSlash cs = t :: splitSlash rest := by
  by_cases slash : 47 ∈ cs
  · obtain ⟨t, rest, rfl, free⟩ := List.eq_append_cons_of_mem slash
    exact Or.inr ⟨t, rest, free, rfl, splitSlash_token free⟩
  · exact Or.inl ⟨slash, splitSlash_free slash⟩

theorem pointer_nil {keys : List (List Nat)} : Pointer [] keys ↔ keys = [] := by
  constructor
  · intro h
    cases h
    rfl
  · rintro rfl
    exact .nil

/-- The tokens of a text after a slash are the keys its pieces name. -/
theorem pointer_slash {cs : List Nat} {keys : List (List Nat)} :
    Pointer (47 :: cs) keys ↔
      (splitSlash cs).any hasBadEscape = false ∧ (splitSlash cs).map unescapeToken = keys := by
  induction n : cs.length using Nat.strongRecOn generalizing cs keys with
  | ind n ih =>
    subst n
    rcases splitSlash_cases cs with ⟨free, whole⟩ | ⟨t, rest, free, split, pieces⟩
    · rw [whole]
      constructor
      · intro h
        generalize same : 47 :: cs = text at h
        cases h with
        | nil => cases same
        | @token t key tail keys token after =>
          obtain rfl := List.tail_eq_of_cons_eq same
          cases after with
          | nil =>
            rw [List.append_nil] at free
            obtain ⟨-, good, read⟩ := escaped_reads token
            simp [good, read]
          | token => simp at free
      · rintro ⟨good, rfl⟩
        have good : hasBadEscape cs = false := by simpa using good
        have token := escaped_iff.mpr ⟨free, good, rfl⟩
        simpa using Pointer.token token .nil
    · have shorter : rest.length < cs.length := by
        rw [split, List.length_append, List.length_cons]
        omega
      have tail := @ih rest.length shorter rest
      rw [pieces]
      constructor
      · intro h
        generalize same : 47 :: cs = text at h
        cases h with
        | nil => cases same
        | @token t' key tail' keys token after =>
          have whole : t ++ 47 :: rest = t' ++ tail' := split ▸ List.tail_eq_of_cons_eq same
          obtain ⟨free', good, read⟩ := escaped_reads token
          cases after with
          | nil =>
            rw [List.append_nil] at whole
            rw [← whole] at free'
            simp at free'
          | @token t₂ key₂ cs₂ keys₂ token₂ after₂ =>
            obtain ⟨rfl, rest_eq⟩ : t = t' ∧ rest = t₂ ++ cs₂ := by
              have left := congrArg splitSlash whole
              rw [splitSlash_token free, splitSlash_token free'] at left
              have same := (List.cons.inj left).1
              subst same
              exact ⟨rfl, List.cons.inj (List.append_cancel_left whole) |>.2⟩
            have spelled : Pointer (47 :: rest) (key₂ :: keys₂) := by
              rw [rest_eq]
              exact .token token₂ after₂
            have later := (tail rfl).mp spelled
            simp [good, read, later.1, later.2]
      · rintro ⟨good, rfl⟩
        rw [List.any_cons, Bool.or_eq_false_iff] at good
        have token := escaped_iff.mpr ⟨free, good.1, rfl⟩
        have after := (tail rfl).mpr ⟨good.2, rfl⟩
        rw [split, List.map_cons]
        exact .token token after

/-- The keys of a pointer are those its grammar has. -/
theorem pointerKeys_iff {cs : List Nat} {keys : List (List Nat)} :
    pointerKeys cs = some keys ↔ Pointer cs keys := by
  cases cs with
  | nil =>
    rw [pointer_nil, pointerKeys, Option.some.injEq]
    exact eq_comm
  | cons u cs =>
    by_cases slash : u = 47
    · subst slash
      rw [pointer_slash, pointerKeys, if_pos rfl]
      cases (splitSlash cs).any hasBadEscape <;> simp
    · rw [pointerKeys, if_neg slash]
      constructor
      · simp
      · intro h
        cases h
        exact absurd rfl slash

end XochiSdk.Js
