import Mathlib.Data.List.Basic

/-!
# Texts as UTF-16 code units

A text is read back as characters where its surrogates come in pairs, and in no other case; the
characters determine the code units they were read from.
-/

namespace XochiSdk.Library.Utf16

/-- `[\uD800-\uDBFF]`. -/
def isHigh (u : UInt16) : Bool := 0xD800 ≤ u.toNat && u.toNat < 0xDC00

/-- `[\uDC00-\uDFFF]`. -/
def isLow (u : UInt16) : Bool := 0xDC00 ≤ u.toNat && u.toNat < 0xE000

/-- A code unit that is no surrogate. -/
def single (u : UInt16) : Char := Char.ofNat u.toNat

/-- The character of a surrogate pair. -/
def paired (u v : UInt16) : Char :=
  Char.ofNat (0x10000 + (u.toNat - 0xD800) * 0x400 + (v.toNat - 0xDC00))

/-- The characters of a text, unless it has an unpaired surrogate. -/
def decode : List UInt16 → Option (List Char)
  | [] => some []
  | [u] => if isHigh u || isLow u then none else some [single u]
  | u :: v :: rest =>
    if isHigh u then if isLow v then (decode rest).map (paired u v :: ·) else none
    else if isLow u then none
    else (decode (v :: rest)).map (single u :: ·)

/-- The code units of a character. -/
def encodeChar (c : Char) : List UInt16 :=
  if c.toNat < 0x10000 then [UInt16.ofNat c.toNat]
  else [UInt16.ofNat (0xD800 + (c.toNat - 0x10000) / 0x400),
    UInt16.ofNat (0xDC00 + (c.toNat - 0x10000) % 0x400)]

theorem toNat_ofNat {n : Nat} (valid : n < 0xD800 ∨ 0xDFFF < n ∧ n < 0x110000) :
    (Char.ofNat n).toNat = n := by
  have isValid : n.isValidChar := valid
  unfold Char.ofNat
  rw [dif_pos isValid]
  rfl

theorem encodeChar_single {u : UInt16} (notHigh : isHigh u = false) (notLow : isLow u = false) :
    encodeChar (single u) = [u] := by
  have bound : u.toNat < 0x10000 := u.toNat_lt
  have outside : u.toNat < 0xD800 ∨ 0xDFFF < u.toNat ∧ u.toNat < 0x110000 := by
    simp only [isHigh, isLow, Bool.and_eq_false_iff, decide_eq_false_iff_not] at notHigh notLow
    omega
  have value : (single u).toNat = u.toNat := toNat_ofNat outside
  unfold encodeChar
  rw [value, if_pos bound, UInt16.ofNat_toNat]

theorem encodeChar_paired {u v : UInt16} (high : isHigh u = true) (low : isLow v = true) :
    encodeChar (paired u v) = [u, v] := by
  simp only [isHigh, isLow, Bool.and_eq_true, decide_eq_true_eq] at high low
  have value : (paired u v).toNat =
      0x10000 + (u.toNat - 0xD800) * 0x400 + (v.toNat - 0xDC00) := toNat_ofNat (by omega)
  have first : 0xD800 + ((paired u v).toNat - 0x10000) / 0x400 = u.toNat := by omega
  have second : 0xDC00 + ((paired u v).toNat - 0x10000) % 0x400 = v.toNat := by omega
  unfold encodeChar
  rw [if_neg (by omega), first, second, UInt16.ofNat_toNat, UInt16.ofNat_toNat]

/-- The code units are those of the characters they are read as. -/
theorem encode_decode {us : List UInt16} {cs : List Char} (h : decode us = some cs) :
    cs.flatMap encodeChar = us := by
  induction us using decode.induct generalizing cs with
  | case1 =>
    cases h
    rfl
  | case2 u lone =>
    rw [decode, if_pos lone] at h
    cases h
  | case3 u plain =>
    rw [decode, if_neg plain] at h
    cases h
    simp only [Bool.or_eq_true, not_or, Bool.not_eq_true] at plain
    rw [List.flatMap_singleton, encodeChar_single plain.1 plain.2]
  | case4 u v rest high low ih =>
    rw [decode, if_pos high, if_pos low] at h
    obtain ⟨ds, read, rfl⟩ := Option.map_eq_some_iff.mp h
    rw [List.flatMap_cons, encodeChar_paired high low, ih read]
    rfl
  | case5 u v rest high low =>
    rw [decode, if_pos high, if_neg low] at h
    cases h
  | case6 u v rest high low =>
    rw [decode, if_neg high, if_pos low] at h
    cases h
  | case7 u v rest high low ih =>
    rw [decode, if_neg high, if_neg low] at h
    obtain ⟨ds, read, rfl⟩ := Option.map_eq_some_iff.mp h
    rw [List.flatMap_cons, encodeChar_single (by simpa using high) (by simpa using low), ih read]
    rfl

/-- Two texts of the same characters are the same. -/
theorem decode_injective {us vs : List UInt16} {cs : List Char} (hu : decode us = some cs)
    (hv : decode vs = some cs) : us = vs := by
  rw [← encode_decode hu, encode_decode hv]

/-- `/[\uD800-\uDBFF](?![\uDC00-\uDFFF])|(?<![\uD800-\uDBFF])[\uDC00-\uDFFF]/` matches, past a
code unit that is a high surrogate or is not. -/
def hasLoneSurrogate (afterHigh : Bool) : List UInt16 → Bool
  | [] => false
  | u :: rest =>
    (isHigh u && !rest.head?.any isLow) || (isLow u && !afterHigh) ||
      hasLoneSurrogate (isHigh u) rest

theorem isLow_of_isHigh {u : UInt16} (high : isHigh u = true) : isLow u = false := by
  simp only [isHigh, isLow, Bool.and_eq_true, decide_eq_true_eq, Bool.and_eq_false_iff,
    decide_eq_false_iff_not] at high ⊢
  omega

theorem isHigh_of_isLow {u : UInt16} (low : isLow u = true) : isHigh u = false := by
  cases high : isHigh u with
  | false => rfl
  | true =>
    rw [isLow_of_isHigh high] at low
    cases low

/-- A text reads as characters where the expression does not match. -/
theorem decode_isSome (us : List UInt16) :
    (decode us).isSome = !hasLoneSurrogate false us := by
  induction us using decode.induct with
  | case1 => rfl
  | case2 u lone =>
    rw [decode, if_pos lone]
    simp only [Bool.or_eq_true] at lone
    rcases lone with high | low
    · simp [hasLoneSurrogate, high]
    · simp [hasLoneSurrogate, low]
  | case3 u plain =>
    rw [decode, if_neg plain]
    simpa [hasLoneSurrogate] using plain
  | case4 u v rest high low ih =>
    rw [decode, if_pos high, if_pos low, Option.isSome_map, ih]
    simp [hasLoneSurrogate, high, low, isLow_of_isHigh high, isHigh_of_isLow low]
  | case5 u v rest high low =>
    rw [decode, if_pos high, if_neg low]
    simp [hasLoneSurrogate, high, low]
  | case6 u v rest high low =>
    rw [decode, if_neg high, if_pos low]
    simp [hasLoneSurrogate, low]
  | case7 u v rest high low ih =>
    rw [decode, if_neg high, if_neg low, Option.isSome_map, ih]
    have notHigh : isHigh u = false := by simpa using high
    have notLow : isLow u = false := by simpa using low
    simp [hasLoneSurrogate, notHigh, notLow]

end XochiSdk.Library.Utf16
