import XochiSdk.Library.JsonText
import Mathlib.Data.List.Basic

/-!
# JSON pointers in URI fragments

How a fragment spells a pointer and a pointer its tokens: percent-decoding through UTF-8 (RFC 3986
§2.1, RFC 3629), then `/` between tokens and `~0`, `~1` inside them (RFC 6901 §3, §6). Texts are
UTF-16 code units.
-/

namespace XochiSdk.Library.PointerText

open JsonText (charUnits)

/-- The bytes of a character. -/
def utf8 (c : Char) : List Nat :=
  let n := c.toNat
  if n < 0x80 then [n]
  else if n < 0x800 then [0xc0 + n / 64, 0x80 + n % 64]
  else if n < 0x10000 then [0xe0 + n / 4096, 0x80 + n / 64 % 64, 0x80 + n % 64]
  else [0xf0 + n / 262144, 0x80 + n / 4096 % 64, 0x80 + n / 64 % 64, 0x80 + n % 64]

/-- The value of a hex digit, in either case. -/
def hexValue (u : Nat) : Option Nat :=
  if 48 ≤ u ∧ u ≤ 57 then some (u - 48)
  else if 97 ≤ u ∧ u ≤ 102 then some (u - 87)
  else if 65 ≤ u ∧ u ≤ 70 then some (u - 55)
  else none

/-- Bytes, each as `%` and two hex digits. -/
inductive Octets : List Nat → List Nat → Prop where
  | nil : Octets [] []
  | byte {a b x y : Nat} {cs bs : List Nat} (high : hexValue a = some x) (low : hexValue b = some y)
      (rest : Octets cs bs) : Octets (37 :: a :: b :: cs) ((x * 16 + y) :: bs)

/-- A text and what it spells percent-encoded. -/
inductive PercentDecoded : List Nat → List Nat → Prop where
  | nil : PercentDecoded [] []
  | plain {u : Nat} {cs out : List Nat} (percent : u ≠ 37) (rest : PercentDecoded cs out) :
      PercentDecoded (u :: cs) (u :: out)
  | char {c : Char} {ds cs out : List Nat} (octets : Octets ds (utf8 c))
      (rest : PercentDecoded cs out) : PercentDecoded (ds ++ cs) (charUnits c ++ out)

/-- A reference token and the key it names. -/
inductive Escaped : List Nat → List Nat → Prop where
  | nil : Escaped [] []
  | plain {u : Nat} {cs key : List Nat} (slash : u ≠ 47) (tilde : u ≠ 126) (rest : Escaped cs key) :
      Escaped (u :: cs) (u :: key)
  | tilde {cs key : List Nat} (rest : Escaped cs key) : Escaped (126 :: 48 :: cs) (126 :: key)
  | slash {cs key : List Nat} (rest : Escaped cs key) : Escaped (126 :: 49 :: cs) (47 :: key)

/-- A pointer and the keys of its tokens. -/
inductive Pointer : List Nat → List (List Nat) → Prop where
  | nil : Pointer [] []
  | token {t key cs : List Nat} {keys : List (List Nat)} (token : Escaped t key)
      (rest : Pointer cs keys) : Pointer (47 :: (t ++ cs)) (key :: keys)

/-- The bytes of one character, told by the first of them. -/
def octetCount (b : Nat) : Option Nat :=
  if b < 0x80 then some 1
  else if b < 0xc0 then none
  else if b < 0xe0 then some 2
  else if b < 0xf0 then some 3
  else if b < 0xf8 then some 4
  else none

def isContinuation (b : Nat) : Bool := 0x80 ≤ b && b < 0xc0

/-- The character a number is the code point of. -/
def charOf (n : Nat) : Option Char := if n.isValidChar then some (Char.ofNat n) else none

/-- The character whose bytes these are. -/
def fromUtf8 : List Nat → Option Char
  | [a] => if a < 0x80 then charOf a else none
  | [a, b] =>
    let n := (a - 0xc0) * 64 + (b - 0x80)
    if 0xc0 ≤ a ∧ a < 0xe0 ∧ isContinuation b ∧ 0x80 ≤ n then charOf n else none
  | [a, b, c] =>
    let n := (a - 0xe0) * 4096 + (b - 0x80) * 64 + (c - 0x80)
    if 0xe0 ≤ a ∧ a < 0xf0 ∧ isContinuation b ∧ isContinuation c ∧ 0x800 ≤ n then charOf n
    else none
  | [a, b, c, d] =>
    let n := (a - 0xf0) * 262144 + (b - 0x80) * 4096 + (c - 0x80) * 64 + (d - 0x80)
    if 0xf0 ≤ a ∧ a < 0xf8 ∧ isContinuation b ∧ isContinuation c ∧ isContinuation d ∧
        0x10000 ≤ n then charOf n
    else none
  | _ => none

theorem toNat_valid (c : Char) : c.toNat.isValidChar := c.valid

theorem charOf_some {n : Nat} {c : Char} : charOf n = some c ↔ n = c.toNat := by
  unfold charOf
  constructor
  · intro h
    split_ifs at h with valid
    obtain rfl := Option.some.inj h
    rw [Char.ofNat, dif_pos valid]
    rfl
  · rintro rfl
    rw [if_pos (toNat_valid c), Char.ofNat_toNat]

theorem toNat_lt (c : Char) : c.toNat < 0x110000 := by
  rcases toNat_valid c with small | ⟨-, large⟩
  · omega
  · exact large

/-- The decoder finds a character exactly in its own bytes. -/
theorem fromUtf8_iff {bs : List Nat} {c : Char} : fromUtf8 bs = some c ↔ bs = utf8 c := by
  have limit := toNat_lt c
  constructor
  · intro h
    unfold fromUtf8 at h
    split at h
    · split_ifs at h with small
      rw [charOf_some] at h
      subst h
      simp [utf8, small]
    · simp only [isContinuation, Bool.and_eq_true, decide_eq_true_eq] at h
      split_ifs at h with shape
      rw [charOf_some] at h
      simp only [utf8, ← h]
      rw [if_neg (by omega), if_pos (by omega)]
      simp only [List.cons.injEq, and_true]
      omega
    · simp only [isContinuation, Bool.and_eq_true, decide_eq_true_eq] at h
      split_ifs at h with shape
      rw [charOf_some] at h
      simp only [utf8, ← h]
      rw [if_neg (by omega), if_neg (by omega), if_pos (by omega)]
      simp only [List.cons.injEq, and_true]
      omega
    · simp only [isContinuation, Bool.and_eq_true, decide_eq_true_eq] at h
      split_ifs at h with shape
      rw [charOf_some] at h
      simp only [utf8, ← h]
      rw [if_neg (by omega), if_neg (by omega), if_neg (by omega)]
      simp only [List.cons.injEq, and_true]
      omega
    · simp at h
  · rintro rfl
    simp only [utf8]
    split_ifs with one two three
    · simp [fromUtf8, one, charOf_some]
    · simp only [fromUtf8, isContinuation, Bool.and_eq_true, decide_eq_true_eq]
      rw [if_pos (by omega), charOf_some]
      omega
    · simp only [fromUtf8, isContinuation, Bool.and_eq_true, decide_eq_true_eq]
      rw [if_pos (by omega), charOf_some]
      omega
    · simp only [fromUtf8, isContinuation, Bool.and_eq_true, decide_eq_true_eq]
      rw [if_pos (by omega), charOf_some]
      omega

/-- The first byte of a character tells how many there are. -/
theorem octetCount_utf8 (c : Char) :
    ∃ b bs, utf8 c = b :: bs ∧ octetCount b = some (bs.length + 1) := by
  have limit := toNat_lt c
  simp only [utf8]
  split_ifs with one two three
  · exact ⟨_, _, rfl, by simp [octetCount, one]⟩
  · refine ⟨_, _, rfl, ?_⟩
    unfold octetCount
    rw [if_neg (by omega), if_neg (by omega), if_pos (by omega)]
    rfl
  · refine ⟨_, _, rfl, ?_⟩
    unfold octetCount
    rw [if_neg (by omega), if_neg (by omega), if_neg (by omega), if_pos (by omega)]
    rfl
  · refine ⟨_, _, rfl, ?_⟩
    unfold octetCount
    rw [if_neg (by omega), if_neg (by omega), if_neg (by omega), if_neg (by omega),
      if_pos (by omega)]
    rfl

end XochiSdk.Library.PointerText
