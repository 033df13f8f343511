import XochiSdk.Signer.Erc4337

/-!
# Checks on a served stealth claim

`packages/signer/src/claim-verify.ts`: a served user operation against what the client knows by
itself, and the verdict that binds it to the announcement and to the key about to sign.
-/

namespace XochiSdk.Signer.ClaimVerify

open XochiSdk.Js XochiSdk.Library Erc4337

/-- What is thrown: `XochiClaimMismatchError`, or an error that is no such one. -/
inductive ClaimThrown where
  | mismatch (message : String)
  | unexpected (message : String)
  deriving DecidableEq

abbrev Claim (α : Type) := Except ClaimThrown α

/-- The `/xochi/claim/prepare` response. -/
structure PreparedClaim where
  userOpHash : Value
  chainId : Value
  entryPoint : Value
  userOperation : UserOperationV08

/-- What the client knows a claim should do. -/
structure ClaimExpectation where
  recipient : String
  counterfactualAddress : String
  settlementChainId : Value
  expectedToken : Option String
  expectedAmount : Option UintLike
  requireVerified : Bool

/-- `{ verified: true, token, amount }` or `{ verified: false, reason }`. -/
inductive ClaimVerification where
  | verified (token : Bytes 20) (amount : Nat)
  | unverified (reason : String)

/-- `String(x)`, where a throw leaves the check. -/
def claimText (x : Value) : Claim String :=
  match x.text with
  | some s => .ok s
  | none => .error (.unexpected "Cannot convert object to primitive value")

def refuseIf (bad : Bool) (message : String) : Claim Unit :=
  if bad then .error (.mismatch message) else .ok ()

/-- A `UserOperationError` is a refusal, and any other error is thrown on. -/
def refused {α : Type} : UserOp α → Claim α
  | .ok a => .ok a
  | .error (.userOperation message) => .error (.mismatch message)
  | .error (.unexpected message) => .error (.unexpected message)

/-- What could not be checked: fatal where the caller asked for it to be. -/
def gap (expected : ClaimExpectation) (reason : String) : Claim ClaimVerification :=
  if expected.requireVerified then
    .error (.mismatch (reason ++ " Refusing to sign (--require-verified-userop)."))
  else .ok (.unverified reason)

/-- The names of what the response does not carry. -/
def missingParts (prepared : PreparedClaim) : String :=
  " and ".intercalate ((if prepared.userOperation.truthy then [] else ["userOperation"]) ++
    (if prepared.entryPoint.truthy then [] else ["entryPoint"]))

section Checks

variable [CallCoder] [Ethers]

/-- The checks on the decoded call. -/
def checkTransfer (op : UserOperationV08) (expected : ClaimExpectation)
    (transfer : DecodedErc20TransferCall) : Claim ClaimVerification := do
  refuseIf (!sameAddressish (Ethers.checksum transfer.to_) expected.recipient)
    ("the UserOperation transfers to " ++ Ethers.checksum transfer.to_ ++ " but " ++
      expected.recipient ++ " was requested -- this is the field that decides where the " ++
      "settled funds land. Refusing to sign.")
  refuseIf (transfer.value != 0)
    ("the UserOperation also sends " ++ toString transfer.value ++ " wei of the account's " ++
      "native balance alongside the token transfer -- a stealth claim carries no value. " ++
      "Refusing to sign.")
  refuseIf (op.member "paymaster").isNullish
    ("the UserOperation names no paymaster, so the counterfactual account would pay its own " ++
      "gas at maxFeePerGas=" ++ jsonShown (op.member "maxFeePerGas") ++
      " -- a stealth claim is always sponsored, and an unsponsored one can drain the account's " ++
      "native balance as gas regardless of the token transfer being correct. Refusing to sign.")
  match expected.expectedToken with
  | none => pure ()
  | some token =>
    refuseIf (token != "" && !sameAddressish (Ethers.checksum transfer.token) token)
      ("the UserOperation sweeps token " ++ Ethers.checksum transfer.token ++ " but " ++ token ++
        " was expected -- refusing to sign.")
  match expected.expectedAmount with
  | none => pure ()
  | some amount =>
    refuseIf (!sameNumeric (.str (toString transfer.amount)) (.str amount.shown))
      ("the UserOperation sweeps " ++ toString transfer.amount ++ " base units but " ++
        amount.shown ++ " was expected -- refusing to sign.")
  pure (.verified transfer.token transfer.amount)

/-- The checks once the operation is known to be the preimage of the digest. -/
def checkBound (prepared : PreparedClaim) (expected : ClaimExpectation) :
    Claim ClaimVerification := do
  let op := prepared.userOperation
  let sender ← claimText ((op.member "sender").orElse (.str ""))
  refuseIf (!sameAddressish sender expected.counterfactualAddress)
    ("the UserOperation spends from " ++ jsonShown (op.member "sender") ++
      " but this intent settled to " ++ expected.counterfactualAddress ++
      " -- refusing to sign an operation against a different account.")
  if expected.settlementChainId.isNullish then
    gap expected ("/xochi/status carried no settlementChainId, so the UserOperation's chain " ++
      "cannot be bound to the chain the settlement landed on. The counterfactual account has " ++
      "the same address on every EVM chain, so an op built for another chain would sweep a " ++
      "different balance. Riddler always populates this field, so its absence is anomalous " ++
      "rather than merely an old deployment.")
  else do
    refuseIf (!sameNumeric prepared.chainId expected.settlementChainId)
      ("claim/prepare built the UserOperation for chain " ++ prepared.chainId.text.getD "" ++
        " but the settlement landed on chain " ++ expected.settlementChainId.text.getD "" ++
        " -- the counterfactual address is the same on every EVM chain, so this would sweep a " ++
        "different balance. Refusing to sign.")
    let transfer ← refused (decodeErc20TransferExecute (op.member "callData"))
    checkTransfer op expected transfer

/-- Asserts the operation that is to be signed is the claim that was asked for. -/
def assertPreparedClaimMatchesRequest (prepared : PreparedClaim) (expected : ClaimExpectation) :
    Claim ClaimVerification := do
  if !prepared.userOperation.truthy || !prepared.entryPoint.truthy then
    gap expected ("claim/prepare served no " ++ missingParts prepared ++
      ", so the userOpHash cannot be recomputed and this signs a digest that cannot be " ++
      "inspected. Expected from a server predating axol-io/Riddler#851; a server that HAS it " ++
      "and omits it anyway looks exactly the same from here.")
  else do
    let entryPoint ← claimText prepared.entryPoint
    refuseIf (asciiLower entryPoint != asciiLower entryPointV08Address)
      ("claim/prepare names EntryPoint " ++ jsonShown prepared.entryPoint ++
        ", but ERC-4337 v0.8 is " ++ entryPointV08Address ++ " on every EVM chain -- " ++
        "recomputing the hash against the served address would just agree with whatever was " ++
        "sent. Refusing to sign.")
    refuseIf prepared.chainId.isNullish
      ("claim/prepare served a userOperation but no chainId -- the chain is part of the hash " ++
        "preimage, so without it the digest cannot be reproduced. Refusing to sign.")
    let recomputed ← refused
      (computeUserOpHash prepared.userOperation entryPoint prepared.chainId)
    let userOpHash ← claimText prepared.userOpHash
    refuseIf (asciiLower (hexlify recomputed.bytes) != asciiLower userOpHash)
      ("claim/prepare asks for a signature over " ++ userOpHash ++ ", but the UserOperation it " ++
        "served hashes to " ++ hexlify recomputed.bytes ++ " -- the digest is not this op's. " ++
        "Whatever it IS the hash of is not something this client can see. Refusing to sign.")
    checkBound prepared expected

end Checks

/-! ## The verdict -/

/-- The announcement's decoded metadata. -/
structure ClaimAnnouncement where
  token : String
  factory : String
  salt : Int
  deriving DecidableEq

/-- What the verified operation moves. -/
structure VerifiedClaimTransfer where
  token : Bytes 20
  amount : Nat
  deriving DecidableEq

structure VerifyClaimUserOpParams where
  userOperation : UserOperationV08
  entryPoint : Option String
  servedUserOpHash : String
  servedChainId : JsNumber
  expectedChainId : JsNumber
  counterfactualAddress : String
  recipientAddress : String
  expectedOwner : String
  announced : Option ClaimAnnouncement

inductive VerifyClaimUserOpResult where
  | ok (decoded : VerifiedClaimTransfer) (announced : ClaimAnnouncement)
  | refused (reason : String)
  deriving DecidableEq

namespace VerifyClaimUserOpParams

def prepared (p : VerifyClaimUserOpParams) : PreparedClaim where
  userOpHash := .str p.servedUserOpHash
  chainId := .num p.servedChainId
  entryPoint := .ofText p.entryPoint
  userOperation := p.userOperation

/-- Every gap is fatal, and the token is the announced one. -/
def expectation (p : VerifyClaimUserOpParams) (announced : ClaimAnnouncement) :
    ClaimExpectation where
  recipient := p.recipientAddress
  counterfactualAddress := p.counterfactualAddress
  settlementChainId := .num p.expectedChainId
  expectedToken := some announced.token
  expectedAmount := none
  requireVerified := true

end VerifyClaimUserOpParams

section Verdict

variable [CallCoder] [Ethers]

/-- The factory, the owner and the salt, once the transfer is verified. -/
def checkDeployment (p : VerifyClaimUserOpParams) (announced : ClaimAnnouncement)
    (decoded : VerifiedClaimTransfer) : VerifyClaimUserOpResult :=
  match p.userOperation.member "factory" with
  | .str factory =>
    if asciiLower factory != asciiLower announced.factory then
      .refused "The operation names an unexpected account factory."
    else
      match decodeCreateAccountCall (p.userOperation.member "factoryData") with
      | .error _ =>
        .refused "The operation does not say who would own the account, so it was not signed."
      | .ok deployment =>
        if asciiLower (Ethers.checksum deployment.owner) != asciiLower p.expectedOwner then
          .refused "The operation would hand the account to a different owner."
        else if (deployment.salt : Int) != announced.salt then
          .refused "The operation is for a different payment."
        else .ok decoded announced
  | _ => .refused "The operation names an unexpected account factory."

/-- Decides whether a prepared stealth claim is safe to sign. -/
def verifyClaimUserOp (p : VerifyClaimUserOpParams) : VerifyClaimUserOpResult :=
  if !p.userOperation.truthy || !(Value.ofText p.entryPoint).truthy then
    .refused "The server did not send the operation to check, so it cannot be verified."
  else
    match p.announced with
    | none => .refused ("This payment's announcement does not say which token it is in, so " ++
        "the operation cannot be checked.")
    | some announced =>
      if !(Value.num p.servedChainId).strictEq (.num p.expectedChainId) then
        .refused "The operation was built for a different network."
      else
        match assertPreparedClaimMatchesRequest p.prepared (p.expectation announced) with
        | .ok (.verified token amount) => checkDeployment p announced { token, amount }
        | .ok (.unverified reason) => .refused reason
        | .error (.mismatch message) => .refused message
        | .error (.unexpected message) =>
          .refused ("claim verification failed unexpectedly: " ++ message)

end Verdict

end XochiSdk.Signer.ClaimVerify
