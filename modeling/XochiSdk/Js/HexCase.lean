import XochiSdk.Js.Hex

/-!
# Letter case of printed bytes

Bytes are printed in lower case.
-/

namespace XochiSdk.Js

open XochiSdk.Library

theorem asciiLower_hexlify (bs : List UInt8) : asciiLower (hexlify bs) = hexlify bs := by
  have digit : ∀ n < 16, asciiLowerChar (hexDigit n) = hexDigit n := by decide
  have pairs : (bs.flatMap byteChars).map asciiLowerChar = bs.flatMap byteChars := by
    induction bs with
    | nil => rfl
    | cons b bs ih =>
      have bound : b.toNat < 256 := b.toNat_lt
      have own : (byteChars b).map asciiLowerChar = byteChars b := by
        simp only [byteChars, List.map_cons, List.map_nil, digit (b.toNat / 16) (by omega),
          digit (b.toNat % 16) (by omega)]
      rw [List.flatMap_cons, List.map_append, own, ih]
  unfold asciiLower
  rw [toList_hexlify, List.map_cons, List.map_cons, pairs]
  rfl

end XochiSdk.Js
