import XochiSdk.Js.Hex

/-!
# ABI, EIP-712 and address primitives

`packages/signer/src/primitives.ts`, over the hash and the address spelling the signer takes
from `ethers`. A digest is the 32 bytes its hex text spells.
-/

namespace XochiSdk.Signer

open XochiSdk.Js XochiSdk.Library

/-- What the signer takes from `ethers`. -/
class Ethers where
  keccak256 : List UInt8 → Word
  /-- An address in its checksummed spelling. -/
  checksum : Bytes 20 → String
  checksum_lower : ∀ a : Bytes 20, asciiLower (checksum a) = hexlify a.bytes

export Ethers (keccak256)

/-- `ethers.toUtf8Bytes`. -/
def utf8 (s : String) : List UInt8 := s.toByteArray.data.toList

theorem utf8_injective {s t : String} (h : utf8 s = utf8 t) : s = t := by
  apply String.toByteArray_inj.mp
  apply ByteArray.ext
  exact Array.toList_inj.mp h

section Hashes

variable [Ethers]

/-- `ethers.id`. -/
def ethersId (s : String) : Word := keccak256 (utf8 s)

/-- `coder.encode` of members that fill one word each. -/
def encodeWords (ws : List Word) : List UInt8 := Bytes.join ws

/-- What `typedDigest` hashes. -/
def typedPreimage (separator structHash : Word) : List UInt8 :=
  [0x19, 0x01] ++ separator.bytes ++ structHash.bytes

/-- EIP-712 digest: `keccak256(0x1901 || domainSeparator || structHash)`. -/
def typedDigest (separator structHash : Word) : Word :=
  keccak256 (typedPreimage separator structHash)

/-- The address of a hash: `"0x" + hash.slice(-40)`. -/
def hashAddress (hash : Word) : Bytes 20 :=
  ⟨hash.bytes.drop 12, by rw [List.length_drop, hash.length_bytes]⟩

end Hashes

/-- `"0x" + n.toString(16).padStart(64, "0")`, below `2 ^ 256`. -/
def hex64 (n : Nat) : String := hexlify (toBytes 32 n)

/-- `EVM_ADDRESS`: `/^0x[0-9a-fA-F]{40}$/`. -/
def isEvmAddress (s : String) : Bool := isHexOfLength 40 s

theorem encodeWords_injective {vs ws : List Word} (h : encodeWords vs = encodeWords ws) :
    vs = ws :=
  Bytes.join_injective (by decide) h

theorem typedPreimage_injective {s s' t t' : Word} (h : typedPreimage s t = typedPreimage s' t') :
    s = s' ∧ t = t' := by
  have words : encodeWords [s, t] = encodeWords [s', t'] := by
    simpa [typedPreimage, encodeWords] using h
  simpa using encodeWords_injective words

end XochiSdk.Signer
