import XochiSdk.Library.PointerText
import XochiSdk.Js.Text

/-!
# URLSearchParams

The form encoding of the URL standard: a query is read with every malformed escape and byte
replaced, and written with everything but letters, digits and `*-._` escaped. A text without
escapes reads as it stands.
-/

namespace XochiSdk.Js

open XochiSdk.Library PointerText

/-! ## Bytes as text -/

def replacementChar : Char := Char.ofNat 0xFFFD

/-- A decoder inside a character: what it has read, the bytes it needs, and the range of the
next one. -/
structure Utf8State where
  point : Nat
  needed : Nat
  lower : Nat
  upper : Nat

/-- The first byte of a character. -/
def utf8Start (b : Nat) : List Char × Option Utf8State :=
  if b < 0x80 then ([Char.ofNat b], none)
  else if 0xC2 ≤ b ∧ b ≤ 0xDF then ([], some ⟨b - 0xC0, 1, 0x80, 0xBF⟩)
  else if 0xE0 ≤ b ∧ b ≤ 0xEF then
    ([], some ⟨b - 0xE0, 2, if b = 0xE0 then 0xA0 else 0x80, if b = 0xED then 0x9F else 0xBF⟩)
  else if 0xF0 ≤ b ∧ b ≤ 0xF4 then
    ([], some ⟨b - 0xF0, 3, if b = 0xF0 then 0x90 else 0x80, if b = 0xF4 then 0x8F else 0xBF⟩)
  else ([replacementChar], none)

/-- The next byte. One out of range ends the character and is read again. -/
def utf8Byte : Option Utf8State → Nat → List Char × Option Utf8State
  | none, b => utf8Start b
  | some s, b =>
    if s.lower ≤ b ∧ b ≤ s.upper then
      let point := s.point * 64 + (b - 0x80)
      if s.needed = 1 then ([Char.ofNat point], none)
      else ([], some ⟨point, s.needed - 1, 0x80, 0xBF⟩)
    else (replacementChar :: (utf8Start b).1, (utf8Start b).2)

def utf8DecodeFrom : Option Utf8State → List Nat → List Char
  | none, [] => []
  | some _, [] => [replacementChar]
  | s, b :: bs => (utf8Byte s b).1 ++ utf8DecodeFrom (utf8Byte s b).2 bs

/-- UTF-8 decode without BOM. -/
def utf8Decode (bs : List Nat) : List Char := utf8DecodeFrom none bs

/-- Percent-decode: an escape that is none stands for itself. -/
def percentDecode : List Nat → List Nat
  | 37 :: a :: b :: rest =>
    match hexValue a, hexValue b with
    | some x, some y => (x * 16 + y) :: percentDecode rest
    | _, _ => 37 :: percentDecode (a :: b :: rest)
  | u :: rest => u :: percentDecode rest
  | [] => []

/-! ## Reading -/

/-- A name or a value of a query. -/
def formDecode (bs : List Nat) : String :=
  String.ofList (utf8Decode (percentDecode (bs.map fun b => if b = 43 then 32 else b)))

def readPair (piece : List Nat) : String × String :=
  (formDecode (piece.takeWhile (· ≠ 61)), formDecode ((piece.dropWhile (· ≠ 61)).drop 1))

structure UrlSearchParams where
  list : List (String × String)

namespace UrlSearchParams

def empty : UrlSearchParams := ⟨[]⟩

/-- `new URLSearchParams(init)`. -/
def ofText (init : String) : UrlSearchParams :=
  let query := match init.toList with
    | '?' :: rest => rest
    | cs => cs
  ⟨(((query.flatMap utf8).splitOn 38).filter (· ≠ [])).map readPair⟩

/-- `query.get(name)`. -/
def get (query : UrlSearchParams) (name : String) : Option String := query.list.lookup name

/-- `query.set(name, value)`: the first entry of the name takes the value, the others go. -/
def set (query : UrlSearchParams) (name value : String) : UrlSearchParams :=
  if query.list.any (·.1 == name) then
    ⟨query.list.takeWhile (·.1 != name) ++ (name, value) ::
      ((query.list.dropWhile (·.1 != name)).drop 1).filter (·.1 != name)⟩
  else ⟨query.list ++ [(name, value)]⟩

end UrlSearchParams

/-! ## Writing -/

/-- Letters, digits and `*-._`. -/
def isFormSafe (b : Nat) : Bool :=
  (48 ≤ b && b ≤ 57) || (65 ≤ b && b ≤ 90) || (97 ≤ b && b ≤ 122) || b == 42 || b == 45 ||
    b == 46 || b == 95

def upperHexDigit (n : Nat) : Char := Char.ofNat (if n < 10 then 48 + n else 55 + n)

def formByte (b : Nat) : List Char :=
  if b = 32 then ['+']
  else if isFormSafe b then [Char.ofNat b]
  else ['%', upperHexDigit (b / 16), upperHexDigit (b % 16)]

def formEncode (text : String) : List Char := (text.toList.flatMap utf8).flatMap formByte

/-- `query.toString()`. -/
def UrlSearchParams.toText (query : UrlSearchParams) : List Char :=
  ['&'].intercalate (query.list.map fun pair => formEncode pair.1 ++ '=' :: formEncode pair.2)

/-- `text.replace(/%2C/g, ",")`. -/
def replaceCommas : List Char → List Char
  | '%' :: '2' :: 'C' :: rest => ',' :: replaceCommas rest
  | c :: rest => c :: replaceCommas rest
  | [] => []

/-! ## A text without escapes -/

/-- A character that the form encoding leaves as it is, or a comma. -/
def IsPlain (c : Char) : Prop := isFormSafe c.toNat = true ∨ c = ','

instance (c : Char) : Decidable (IsPlain c) := inferInstanceAs (Decidable (_ ∨ _))

def PlainText (s : String) : Prop := ∀ c ∈ s.toList, IsPlain c

instance (s : String) : Decidable (PlainText s) :=
  List.decidableBAll IsPlain s.toList

theorem IsPlain.bounds {c : Char} (plain : IsPlain c) :
    c.toNat < 128 ∧ c.toNat ≠ 37 ∧ c.toNat ≠ 38 ∧ c.toNat ≠ 43 ∧ c.toNat ≠ 61 := by
  rcases plain with safe | rfl
  · simp only [isFormSafe, Bool.or_eq_true, Bool.and_eq_true, decide_eq_true_eq,
      beq_iff_eq] at safe
    omega
  · decide

theorem utf8_ascii {c : Char} (ascii : c.toNat < 128) : utf8 c = [c.toNat] := by
  unfold utf8
  exact if_pos ascii

theorem flatMap_utf8 {cs : List Char} (ascii : ∀ c ∈ cs, c.toNat < 128) :
    cs.flatMap utf8 = cs.map Char.toNat := by
  induction cs with
  | nil => rfl
  | cons c cs ih =>
    rw [List.flatMap_cons, utf8_ascii (ascii c List.mem_cons_self),
      ih fun c mem => ascii c (List.mem_cons_of_mem _ mem)]
    rfl

theorem percentDecode_plain {bs : List Nat} (plain : 37 ∉ bs) : percentDecode bs = bs := by
  induction bs with
  | nil => rfl
  | cons b bs ih =>
    rw [List.mem_cons, not_or] at plain
    have rest := ih plain.2
    unfold percentDecode
    split
    · next same => exact absurd (List.cons.inj same).1.symm plain.1
    · next same => rw [← (List.cons.inj same).1, ← (List.cons.inj same).2, rest]
    · next same => cases same

theorem utf8Byte_ascii {c : Char} (ascii : c.toNat < 128) :
    utf8Byte none c.toNat = ([c], none) := by
  change utf8Start c.toNat = _
  unfold utf8Start
  rw [if_pos ascii, Char.ofNat_toNat]

theorem utf8Decode_ascii {cs : List Char} (ascii : ∀ c ∈ cs, c.toNat < 128) :
    utf8Decode (cs.map Char.toNat) = cs := by
  unfold utf8Decode
  induction cs with
  | nil => rfl
  | cons c cs ih =>
    rw [List.map_cons, utf8DecodeFrom, utf8Byte_ascii (ascii c List.mem_cons_self),
      ih fun c mem => ascii c (List.mem_cons_of_mem _ mem)]
    rfl

/-- A plain part of a query reads as it stands. -/
theorem formDecode_plain {s : String} (plain : PlainText s) :
    formDecode (s.toList.map Char.toNat) = s := by
  have spaces : (s.toList.map Char.toNat).map (fun b => if b = 43 then 32 else b) =
      s.toList.map Char.toNat := by
    rw [List.map_map]
    apply List.map_congr_left
    intro c mem
    exact if_neg (plain c mem).bounds.2.2.2.1
  have percent : 37 ∉ s.toList.map Char.toNat := by
    intro mem
    obtain ⟨c, at_, code⟩ := List.mem_map.mp mem
    exact (plain c at_).bounds.2.1 code
  unfold formDecode
  rw [spaces, percentDecode_plain percent, utf8Decode_ascii fun c mem => (plain c mem).bounds.1,
    String.ofList_toList]

/-- A pair as it stands in a query without escapes. -/
def spelledPair (pair : String × String) : List Char := pair.1.toList ++ '=' :: pair.2.toList

def PlainPairs (pairs : List (String × String)) : Prop :=
  ∀ pair ∈ pairs, PlainText pair.1 ∧ PlainText pair.2

theorem spelledPair_bounds {pair : String × String}
    (plain : PlainText pair.1 ∧ PlainText pair.2) :
    ∀ c ∈ spelledPair pair, c.toNat < 128 ∧ c.toNat ≠ 37 ∧ c.toNat ≠ 38 := by
  intro c mem
  have bounded {c : Char} (h : IsPlain c) : c.toNat < 128 ∧ c.toNat ≠ 37 ∧ c.toNat ≠ 38 :=
    ⟨h.bounds.1, h.bounds.2.1, h.bounds.2.2.1⟩
  rcases List.mem_append.mp mem with name | value
  · exact bounded (plain.1 c name)
  · rcases List.mem_cons.mp value with rfl | value
    · decide
    · exact bounded (plain.2 c value)

theorem readPair_spelled {pair : String × String} (plain : PlainText pair.1 ∧ PlainText pair.2) :
    readPair ((spelledPair pair).map Char.toNat) = pair := by
  have name : ∀ b ∈ pair.1.toList.map Char.toNat, (decide (b ≠ 61)) = true := by
    intro b mem
    obtain ⟨c, at_, rfl⟩ := List.mem_map.mp mem
    exact decide_eq_true (plain.1 c at_).bounds.2.2.2.2
  have bytes : (spelledPair pair).map Char.toNat =
      pair.1.toList.map Char.toNat ++ 61 :: pair.2.toList.map Char.toNat := by
    unfold spelledPair
    rw [List.map_append, List.map_cons]
    rfl
  unfold readPair
  rw [bytes, List.takeWhile_append_of_pos name, List.dropWhile_append_of_pos name,
    List.takeWhile_cons_of_neg (by decide), List.dropWhile_cons_of_neg (by decide),
    List.append_nil, List.drop_one, List.tail_cons, formDecode_plain plain.1,
    formDecode_plain plain.2]

theorem joined_ascii {pairs : List (String × String)} (plain : PlainPairs pairs) :
    (['&'].intercalate (pairs.map spelledPair)).flatMap utf8 =
      [38].intercalate (pairs.map fun pair => (spelledPair pair).map Char.toNat) := by
  induction pairs with
  | nil => rfl
  | cons pair rest ih =>
    have first := flatMap_utf8 fun c mem =>
      (spelledPair_bounds (plain pair List.mem_cons_self) c mem).1
    have later := ih fun pair mem => plain pair (List.mem_cons_of_mem _ mem)
    cases rest with
    | nil => simpa using first
    | cons next rest =>
      simp only [List.map_cons, List.intercalate_cons_cons, List.flatMap_append] at later ⊢
      rw [first, later]
      rfl

/-- Plain pairs, joined as they stand, read back. -/
theorem ofText_plain {pairs : List (String × String)} (plain : PlainPairs pairs) :
    UrlSearchParams.ofText (String.ofList ('?' :: ['&'].intercalate (pairs.map spelledPair))) =
      ⟨pairs⟩ := by
  unfold UrlSearchParams.ofText
  simp only [String.toList_ofList]
  rw [joined_ascii plain]
  cases pairs with
  | nil => rfl
  | cons pair rest =>
    generalize all_ : pair :: rest = pairs at plain
    have free : ∀ piece ∈ pairs.map (fun pair => (spelledPair pair).map Char.toNat),
        38 ∉ piece := by
      intro piece mem at_
      obtain ⟨pair, held, rfl⟩ := List.mem_map.mp mem
      obtain ⟨c, at_, code⟩ := List.mem_map.mp at_
      exact (spelledPair_bounds (plain pair held) c at_).2.2 code
    have filled : (pairs.map fun pair => (spelledPair pair).map Char.toNat).filter (· ≠ []) =
        pairs.map fun pair => (spelledPair pair).map Char.toNat := by
      apply List.filter_eq_self.mpr
      intro piece mem
      obtain ⟨pair, -, rfl⟩ := List.mem_map.mp mem
      simp [spelledPair]
    rw [List.splitOn_intercalate 38 free (by simp [← all_]), filled, List.map_map]
    congr 1
    calc pairs.map _ = pairs.map id := List.map_congr_left fun pair mem =>
          readPair_spelled (plain pair mem)
      _ = pairs := List.map_id pairs

theorem replaceCommas_cons {c : Char} {cs : List Char} (h : c ≠ '%') :
    replaceCommas (c :: cs) = c :: replaceCommas cs := by
  conv_lhs => unfold replaceCommas
  split
  · next same => exact absurd (List.cons.inj same).1 h
  · next same => rw [← (List.cons.inj same).1, ← (List.cons.inj same).2]
  · next same => cases same

theorem replaceCommas_encoded {cs : List Char} (plain : ∀ c ∈ cs, IsPlain c)
    (rest : List Char) :
    replaceCommas ((cs.flatMap utf8).flatMap formByte ++ rest) = cs ++ replaceCommas rest := by
  induction cs with
  | nil => rfl
  | cons c cs ih =>
    have first := plain c List.mem_cons_self
    have later := ih fun c mem => plain c (List.mem_cons_of_mem _ mem)
    rw [List.flatMap_cons, utf8_ascii first.bounds.1, List.flatMap_append, List.flatMap_singleton,
      List.append_assoc, List.cons_append]
    rcases first with safe | rfl
    · have self : formByte c.toNat = [c] := by
        have space : c.toNat ≠ 32 := by
          intro same
          rw [same] at safe
          cases safe
        unfold formByte
        rw [if_neg space, if_pos safe, Char.ofNat_toNat]
      have other : c ≠ '%' := by
        rintro rfl
        cases safe
      rw [self, List.singleton_append, replaceCommas_cons other, later]
    · exact congrArg (',' :: ·) later

theorem replaceCommas_pair {pair : String × String}
    (plain : PlainText pair.1 ∧ PlainText pair.2) (rest : List Char) :
    replaceCommas ((formEncode pair.1 ++ '=' :: formEncode pair.2) ++ rest) =
      spelledPair pair ++ replaceCommas rest := by
  unfold formEncode spelledPair
  rw [List.append_assoc, replaceCommas_encoded plain.1, List.cons_append,
    replaceCommas_cons (by decide), replaceCommas_encoded plain.2, List.append_assoc,
    List.cons_append]

/-- Plain pairs are written as they stand, once the commas are unescaped. -/
theorem replaceCommas_toText {pairs : List (String × String)} (plain : PlainPairs pairs) :
    replaceCommas (UrlSearchParams.toText ⟨pairs⟩) =
      ['&'].intercalate (pairs.map spelledPair) := by
  unfold UrlSearchParams.toText
  induction pairs with
  | nil => rfl
  | cons pair rest ih =>
    have first := plain pair List.mem_cons_self
    have later := ih fun pair mem => plain pair (List.mem_cons_of_mem _ mem)
    cases rest with
    | nil =>
      have one := replaceCommas_pair first []
      rw [List.append_nil, show replaceCommas [] = [] from rfl, List.append_nil] at one
      simpa using one
    | cons next rest =>
      simp only [List.map_cons, List.intercalate_cons_cons] at later ⊢
      rw [List.append_assoc, replaceCommas_pair first, List.singleton_append,
        replaceCommas_cons (by decide), later, List.append_assoc, List.singleton_append]

end XochiSdk.Js
