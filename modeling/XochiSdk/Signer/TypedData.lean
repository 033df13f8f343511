import XochiSdk.Signer.Xsp

/-!
# The typed-data encoder

What a wallet is given to sign, and EIP-712's digest of it: `ethers.TypedDataEncoder` for one
struct whose members each fill a word.
-/

namespace XochiSdk.Signer

open XochiSdk.Js XochiSdk.Library

/-- The types a member may have. -/
inductive TypedType where
  | bytes32
  | address
  | uint256
  | string
  deriving DecidableEq, Repr

def TypedType.name : TypedType → String
  | .bytes32 => "bytes32"
  | .address => "address"
  | .uint256 => "uint256"
  | .string => "string"

structure TypedField where
  name : String
  type : TypedType

/-- A member's value: a text, or an integer already read. -/
inductive TypedValue where
  | text (s : String)
  | bigint (n : Nat)

structure TypedDomain where
  name : String
  version : String
  chainId : Nat
  verifyingContract : String

/-- What `signTypedData` is called with. -/
structure TypedData where
  domain : TypedDomain
  primaryType : String
  fields : List TypedField
  value : List (String × TypedValue)

/-- `encodeType`: the struct's name and, in order, its members' types and names. -/
def encodeType (primaryType : String) (fields : List TypedField) : String :=
  primaryType ++ "(" ++ ",".intercalate (fields.map fun f => f.type.name ++ " " ++ f.name) ++ ")"

/-- The reading of an address is that of its lower-case text, where both are read. -/
class TypedDataCoder extends AddressCoder where
  address_lower : ∀ (s : String) (a b : Bytes 20), address (asciiLower s) = some a →
    address s = some b → a = b

/-- The fields of a domain that has all but a salt. -/
def domainFields : List TypedField :=
  [⟨"name", .string⟩, ⟨"version", .string⟩, ⟨"chainId", .uint256⟩, ⟨"verifyingContract", .address⟩]

def TypedDomain.value (domain : TypedDomain) : List (String × TypedValue) :=
  [("name", .text domain.name), ("version", .text domain.version),
    ("chainId", .bigint domain.chainId), ("verifyingContract", .text domain.verifyingContract)]

section Hashes

variable [Ethers] [AddressCoder]

/-- One member's word, a text by the hash of its bytes. -/
def encodeMember : TypedType → TypedValue → Xsp Word
  | .bytes32, .text s => xspBytes32 s
  | .address, .text s => xspAddress s
  | .uint256, .bigint n =>
    if n ≤ uint256Max then .ok (uintWord n) else .error (.invalidArgument (toString n))
  | .string, .text s => .ok (ethersId s)
  | _, .text s => .error (.invalidArgument s)
  | _, .bigint n => .error (.invalidArgument (toString n))

def encodeField (value : List (String × TypedValue)) (field : TypedField) : Xsp Word :=
  match value.lookup field.name with
  | some v => encodeMember field.type v
  | none => .error (.invalidArgument field.name)

/-- `encodeData`, as words. -/
def encodeData (primaryType : String) (fields : List TypedField)
    (value : List (String × TypedValue)) : Xsp (List Word) := do
  let words ← fields.mapM (encodeField value)
  pure (ethersId (encodeType primaryType fields) :: words)

def hashStruct (primaryType : String) (fields : List TypedField)
    (value : List (String × TypedValue)) : Xsp Word := do
  pure (hashWords (← encodeData primaryType fields value))

def hashDomain (domain : TypedDomain) : Xsp Word :=
  hashStruct "EIP712Domain" domainFields domain.value

/-- `TypedDataEncoder.hash`. -/
def TypedData.hash (data : TypedData) : Xsp Word := do
  let separator ← hashDomain data.domain
  let structHash ← hashStruct data.primaryType data.fields data.value
  pure (typedDigest separator structHash)

end Hashes

end XochiSdk.Signer
