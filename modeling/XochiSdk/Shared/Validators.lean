import XochiSdk.Js.Host

/-!
# Address validators

`packages/client/src/shared/validators.ts`: EVM hex20 and checksummed Tron base58.
-/

namespace XochiSdk.Shared

open XochiSdk.Js

def zeroAddress : String := "0x0000000000000000000000000000000000000000"

def ethAddressLength : Nat := 42

/-- `ETH_ADDRESS_REGEX`. -/
def isEthAddress (s : String) : Bool := isHexOfLength 40 s

def base58Alphabet : List Char :=
  "123456789ABCDEFGHJKLMNPQRSTUVWXYZabcdefghijkmnopqrstuvwxyz".toList

/-- `TRON_ADDRESS_REGEX`. -/
def isTronShaped (s : String) : Bool :=
  match s.toList with
  | 'T' :: rest => rest.length == 33 && rest.all base58Alphabet.contains
  | _ => false

/-- The little-endian bytes of an integer, at most `fuel` of them. -/
def littleEndianBytes : Nat → Nat → List UInt8
  | 0, _ => []
  | fuel + 1, n => if n = 0 then [] else UInt8.ofNat (n % 256) :: littleEndianBytes fuel (n / 256)

/-- Decode base58 into bytes; `none` on a character outside the alphabet. A byte takes more
than one base58 digit, so the input's length bounds the digits written. -/
def base58Decode (input : String) : Option (List UInt8) := do
  let digits ← input.toList.mapM fun c => base58Alphabet.findIdx? (· == c)
  let acc := digits.foldl (fun acc digit => acc * 58 + digit) 0
  let zeros := (input.toList.takeWhile (· == '1')).length
  pure (List.replicate zeros 0 ++ (littleEndianBytes input.toList.length acc).reverse)

/-- Validate a Tron address, checksum included. -/
def isValidTronAddress [Host] (address : String) : Bool :=
  isTronShaped address &&
    match base58Decode address with
    | none => false
    | some decoded =>
      decoded.length == 25 && decoded.head? == some 0x41 &&
        (let digest := Host.sha256 (Host.sha256 (decoded.take 21))
         decoded.drop 21 == digest.take 4)

end XochiSdk.Shared
