import XochiSdk.Library.Keccak
import XochiSdk.Signer.Primitives

/-!
# The primitives at their documented values

Keccak-256 and the mixed-case address spelling, as functions that compute, to run the checks
on given inputs.
-/

namespace XochiSdk.Signer

open XochiSdk.Js XochiSdk.Library

/-- A letter is capital where the digit of the hash is 8 or more. -/
def markedChar (c : Char) (nibble : Nat) : Char :=
  if 8 ≤ nibble ∧ 'a' ≤ c ∧ c ≤ 'f' then Char.ofNat (c.toNat - 32) else c

/-- The mixed-case spelling: the hash is over the lower-case digits. -/
def mixedCase (a : Bytes 20) : String :=
  let digits := a.bytes.flatMap byteChars
  let hash := Library.keccak256 (digits.map fun c => UInt8.ofNat c.toNat)
  let nibbles := hash.bytes.flatMap fun b => [b.toNat / 16, b.toNat % 16]
  String.ofList ('0' :: 'x' :: List.zipWith markedChar digits nibbles)

theorem lower_markedChar (n nibble : Nat) (digit : n < 16) :
    asciiLowerChar (markedChar (hexDigit n) nibble) = hexDigit n := by
  have known : ∀ n < 16, asciiLowerChar (hexDigit n) = hexDigit n ∧
      ('a' ≤ hexDigit n ∧ hexDigit n ≤ 'f' →
        asciiLowerChar (Char.ofNat ((hexDigit n).toNat - 32)) = hexDigit n) := by decide +kernel
  obtain ⟨plain, letter⟩ := known n digit
  unfold markedChar
  split
  · next marked => exact letter marked.2
  · exact plain

theorem lower_zipWith {cs : List Char} {nibbles : List Nat} (long : cs.length ≤ nibbles.length)
    (digits : ∀ c ∈ cs, ∃ n < 16, c = hexDigit n) :
    (List.zipWith markedChar cs nibbles).map asciiLowerChar = cs := by
  induction cs generalizing nibbles with
  | nil => rfl
  | cons c cs ih =>
    match nibbles, long with
    | nibble :: nibbles, long =>
      obtain ⟨n, digit, rfl⟩ := digits c (by simp)
      simp only [List.length_cons] at long
      rw [List.zipWith_cons_cons, List.map_cons, lower_markedChar n nibble digit,
        ih (by omega) fun c hc => digits c (by simp [hc])]

theorem mixedCase_lower (a : Bytes 20) : asciiLower (mixedCase a) = hexlify a.bytes := by
  have count := (pairBytes_printed a.bytes).2.1
  have nibbles (w : Word) :
      (w.bytes.flatMap fun b => [b.toNat / 16, b.toNat % 16]).length = 64 := by
    have pairs (bs : List UInt8) :
        (bs.flatMap fun b => [b.toNat / 16, b.toNat % 16]).length = 2 * bs.length := by
      induction bs with
      | nil => rfl
      | cons b bs ih =>
        rw [List.flatMap_cons, List.length_append, ih, List.length_cons]
        change 2 + 2 * bs.length = 2 * (bs.length + 1)
        omega
    rw [pairs, w.length_bytes]
  have digits : ∀ c ∈ a.bytes.flatMap byteChars, ∃ n < 16, c = hexDigit n := by
    intro c hc
    obtain ⟨b, _, hb⟩ := List.mem_flatMap.mp hc
    have byte := b.toNat_lt
    simp only [byteChars, List.mem_cons, List.not_mem_nil, or_false] at hb
    rcases hb with rfl | rfl
    · exact ⟨b.toNat / 16, by omega, rfl⟩
    · exact ⟨b.toNat % 16, by omega, rfl⟩
  unfold mixedCase asciiLower hexlify
  simp only [String.toList_ofList, List.map_cons]
  have lowered := lower_zipWith
    (by rw [nibbles (Library.keccak256 ((a.bytes.flatMap byteChars).map fun c =>
      UInt8.ofNat c.toNat)), count, a.length_bytes]; decide) digits
  rw [lowered]
  rfl

/-- Keccak-256 and the mixed-case spelling. -/
abbrev documentedEthers : Ethers where
  keccak256 := Library.keccak256
  checksum := mixedCase
  checksum_lower := mixedCase_lower

end XochiSdk.Signer
