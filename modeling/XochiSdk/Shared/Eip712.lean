import XochiSdk.Js.Value

/-!
# Served typed data

`packages/client/src/shared/eip712.ts`: the shape of a payload to sign, and the reader of
the amount an origin pull collects.
-/

namespace XochiSdk.Shared

open XochiSdk.Js

structure Eip712Domain where
  name : String
  version : Option String
  chainId : JsNumber
  verifyingContract : Option String
  salt : Option String

structure Eip712TypeField where
  name : String
  type : String

structure Eip712TypedData where
  domain : Eip712Domain
  types : List (String × List Eip712TypeField)
  primaryType : String
  message : Obj

/-- Coerce a typed-data `uint256` (decimal string or number) to an integer. -/
def coercePullAmount (value : Value) : Option Int :=
  match value with
  | .num n => n.toInteger
  | .str s => if isDecimal (trim s) then bigInt (trim s) else none
  | _ => none

/-- The origin-token amount an origin pull would collect: ERC-3009's `value`, Permit2's
`permitted.amount`. -/
def extractPullAmount (pull : Eip712TypedData) : Option Int :=
  if pull.primaryType == "ReceiveWithAuthorization"
      || pull.primaryType == "TransferWithAuthorization" then
    coercePullAmount (pull.message.get "value")
  else if pull.primaryType == "PermitWitnessTransferFrom" then
    coercePullAmount ((pull.message.get "permitted").member "amount")
  else none

end XochiSdk.Shared
