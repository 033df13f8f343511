import XochiSdk.Signer.ShieldedReadiness

/-!
# Settlement-protocol digests

`packages/signer/src/xsp.ts`: the obligation id, the digests of the two depository messages and
the deposit salt, over the readings of the ABI coder.
-/

namespace XochiSdk.Signer

open XochiSdk.Js XochiSdk.Library

/-! ## Readings -/

/-- What is thrown: by the module, or by the coder. -/
inductive XspError where
  | error (message : String)
  | invalidArgument (value : String)
  deriving DecidableEq

abbrev Xsp (α : Type) := Except XspError α

/-- The address that the coder reads from a text, in whatever spellings it knows. One of 40 hex
digits is the address they spell. -/
class AddressCoder where
  address : String → Option (Bytes 20)
  address_hex : ∀ (s : String) (a b : Bytes 20), hexBytes 20 s = some a → address s = some b → a = b

/-- `parseUint`, no leading zeros allowed. -/
def parseUint (value : UintLike) (field : String) : Xsp Nat :=
  match uintSpelling false value with
  | some v =>
    if v < 0 then .error (.error (field ++ " must be a non-negative base-10 integer, got " ++
      jsonString value.shown))
    else .ok v.toNat
  | none => .error (.error (field ++ " must be a non-negative base-10 integer, got " ++
      jsonString value.shown))

/-- `uintN` at the widths it is used at. -/
def uintN (value : UintLike) (field : String) (bits max : Nat) : Xsp Nat := do
  let v ← parseUint value field
  if max < v then
    .error (.error (field ++ " out of uint" ++ toString bits ++ " range: " ++ value.shown))
  else .ok v

def uint64 (value : UintLike) (field : String) : Xsp Nat := uintN value field 64 uint64Max

def uint256 (value : UintLike) (field : String) : Xsp Nat := uintN value field 256 uint256Max

/-- An `address` given to the coder. -/
def xspAddress [AddressCoder] (value : String) : Xsp Word :=
  match AddressCoder.address value with
  | some a => .ok (addressWord a)
  | none => .error (.invalidArgument value)

/-- A `bytes32` given to the coder. -/
def xspBytes32 (value : String) : Xsp Word :=
  match getBytes value with
  | some bytes =>
    if length : bytes.length = 32 then .ok ⟨bytes, length⟩ else .error (.invalidArgument value)
  | none => .error (.invalidArgument value)

/-! ## Messages -/

structure XochiObligation where
  originChainId : UintLike
  originToken : String
  originAmount : UintLike
  destChainId : UintLike
  destToken : String
  destAmount : UintLike
  recipientCommitment : String
  refundCommitment : String
  recoverable : Bool
  solver : String
  settlementType : JsNumber
  deadline : UintLike
  quoteId : String
  nonce : UintLike

structure XspDomain where
  name : String
  version : String
  chainId : UintLike
  verifyingContract : String

structure DepositoryTransfer where
  token : String
  to_ : String
  amount : UintLike

structure DepositoryRecord where
  obligationId : String
  refundCommitment : String
  depositor : String
  token : String
  amount : UintLike
  depositedAt : UintLike

structure CallRequest where
  id : String
  expiry : UintLike
  transfers : List DepositoryTransfer
  consume : List DepositoryRecord

structure MarkConsumed where
  consume : List DepositoryRecord
  expiry : UintLike
  salt : String

structure DepositAddressInputs where
  obligationId : String
  refundCommitment : String
  recoverable : Bool
  originToken : String
  originAmount : UintLike

def eip712DomainTypeString : String :=
  "EIP712Domain(string name,string version,uint256 chainId,address verifyingContract)"

def obligationDomainName : String := "Xochi Settlement"
def obligationDomainVersion : String := "4"

def obligationTypeString : String :=
  "XochiObligation(uint256 originChainId,address originToken,uint256 originAmount," ++
  "uint256 destChainId,bytes32 destToken,uint256 destAmount,bytes32 recipientCommitment," ++
  "bytes32 refundCommitment,bool recoverable,address solver,uint8 settlementType," ++
  "uint64 deadline,bytes32 quoteId,uint256 nonce)"

def depositoryDomainName : String := "Xochi Depository"
def depositoryDomainVersion : String := "1"

def transferType : String := "Transfer(address token,address to,uint256 amount)"

def recordType : String :=
  "Record(bytes32 obligationId,bytes32 refundCommitment,address depositor,address token," ++
  "uint256 amount,uint64 depositedAt)"

def callRequestType : String :=
  "CallRequest(bytes32 id,uint64 expiry,Transfer[] transfers,Record[] consume)" ++ recordType ++
  transferType

def markConsumedType : String :=
  "MarkConsumed(Record[] consume,uint64 expiry,bytes32 salt)" ++ recordType

/-- Obligation domain: the chain is the origin one. -/
def obligationDomain (originChainId : UintLike) (depository : String) : XspDomain where
  name := obligationDomainName
  version := obligationDomainVersion
  chainId := originChainId
  verifyingContract := depository

def depositoryDomain (chainId : UintLike) (depository : String) : XspDomain where
  name := depositoryDomainName
  version := depositoryDomainVersion
  chainId := chainId
  verifyingContract := depository

section Hashes

variable [Ethers] [AddressCoder]

def xspDomainWords (domain : XspDomain) : Xsp (List Word) := do
  let chainId ← uint256 domain.chainId "chainId"
  let verifyingContract ← xspAddress domain.verifyingContract
  pure [ethersId eip712DomainTypeString, ethersId domain.name, ethersId domain.version,
    uintWord chainId, verifyingContract]

def xspDomainSeparator (domain : XspDomain) : Xsp Word := do
  pure (hashWords (← xspDomainWords domain))

/-- `Number.isInteger(st)` between the first and the last settlement type. -/
def settlementTypeOf (st : JsNumber) : Xsp Nat :=
  match st.toInteger with
  | some n =>
    if 1 ≤ n ∧ n ≤ 3 then .ok n.toNat
    else .error (.error ("settlementType must be 1 (public), 2 (stealth) or 3 (shielded): " ++
      st.text))
  | none => .error (.error ("settlementType must be 1 (public), 2 (stealth) or 3 (shielded): " ++
      st.text))

def obligationWords (terms : XochiObligation) : Xsp (List Word) := do
  let st ← settlementTypeOf terms.settlementType
  let originChainId ← uint256 terms.originChainId "originChainId"
  let originAmount ← uint256 terms.originAmount "originAmount"
  let destChainId ← uint256 terms.destChainId "destChainId"
  let destAmount ← uint256 terms.destAmount "destAmount"
  let deadline ← uint64 terms.deadline "deadline"
  let nonce ← uint256 terms.nonce "nonce"
  let originToken ← xspAddress terms.originToken
  let destToken ← xspBytes32 terms.destToken
  let recipientCommitment ← xspBytes32 terms.recipientCommitment
  let refundCommitment ← xspBytes32 terms.refundCommitment
  let solver ← xspAddress terms.solver
  let quoteId ← xspBytes32 terms.quoteId
  pure [ethersId obligationTypeString, uintWord originChainId, originToken, uintWord originAmount,
    uintWord destChainId, destToken, uintWord destAmount, recipientCommitment, refundCommitment,
    boolWord terms.recoverable, solver, uintWord st, uintWord deadline, quoteId, uintWord nonce]

def hashObligation (terms : XochiObligation) : Xsp Word := do
  pure (hashWords (← obligationWords terms))

/-- `obligationId`: the digest under the origin depository's domain. -/
def computeObligationId (terms : XochiObligation) (depository : String) : Xsp Word := do
  let separator ← xspDomainSeparator (obligationDomain terms.originChainId depository)
  let structHash ← hashObligation terms
  pure (typedDigest separator structHash)

def transferWords (t : DepositoryTransfer) : Xsp (List Word) := do
  let amount ← uint256 t.amount "amount"
  let token ← xspAddress t.token
  let to_ ← xspAddress t.to_
  pure [ethersId transferType, token, to_, uintWord amount]

def hashTransfer (t : DepositoryTransfer) : Xsp Word := do
  pure (hashWords (← transferWords t))

def hashTransfers (transfers : List DepositoryTransfer) : Xsp Word := do
  pure (hashWords (← transfers.mapM hashTransfer))

def recordWords (r : DepositoryRecord) : Xsp (List Word) := do
  let amount ← uint256 r.amount "amount"
  let depositedAt ← uint64 r.depositedAt "depositedAt"
  let obligationId ← xspBytes32 r.obligationId
  let refundCommitment ← xspBytes32 r.refundCommitment
  let depositor ← xspAddress r.depositor
  let token ← xspAddress r.token
  pure [ethersId recordType, obligationId, refundCommitment, depositor, token, uintWord amount,
    uintWord depositedAt]

def hashRecord (r : DepositoryRecord) : Xsp Word := do
  pure (hashWords (← recordWords r))

def hashRecords (records : List DepositoryRecord) : Xsp Word := do
  pure (hashWords (← records.mapM hashRecord))

def callRequestWords (req : CallRequest) : Xsp (List Word) := do
  let expiry ← uint64 req.expiry "expiry"
  let transfers ← hashTransfers req.transfers
  let consume ← hashRecords req.consume
  let id ← xspBytes32 req.id
  pure [ethersId callRequestType, id, uintWord expiry, transfers, consume]

def hashCallRequest (req : CallRequest) : Xsp Word := do
  pure (hashWords (← callRequestWords req))

def markConsumedWords (msg : MarkConsumed) : Xsp (List Word) := do
  let consume ← hashRecords msg.consume
  let expiry ← uint64 msg.expiry "expiry"
  let salt ← xspBytes32 msg.salt
  pure [ethersId markConsumedType, consume, uintWord expiry, salt]

def hashMarkConsumed (msg : MarkConsumed) : Xsp Word := do
  pure (hashWords (← markConsumedWords msg))

def callRequestDigest (req : CallRequest) (chainId : UintLike) (depository : String) :
    Xsp Word := do
  let separator ← xspDomainSeparator (depositoryDomain chainId depository)
  let structHash ← hashCallRequest req
  pure (typedDigest separator structHash)

def markConsumedDigest (msg : MarkConsumed) (chainId : UintLike) (depository : String) :
    Xsp Word := do
  let separator ← xspDomainSeparator (depositoryDomain chainId depository)
  let structHash ← hashMarkConsumed msg
  pure (typedDigest separator structHash)

def depositSaltWords (inputs : DepositAddressInputs) : Xsp (List Word) := do
  let amount ← uint256 inputs.originAmount "originAmount"
  if amount = 0 then .error (.error "ZeroOriginAmount")
  else do
    let obligationId ← xspBytes32 inputs.obligationId
    let refundCommitment ← xspBytes32 inputs.refundCommitment
    let originToken ← xspAddress inputs.originToken
    pure [obligationId, refundCommitment, boolWord inputs.recoverable, originToken,
      uintWord amount]

def computeDepositAddressSalt (inputs : DepositAddressInputs) : Xsp Word := do
  pure (hashWords (← depositSaltWords inputs))

end Hashes

end XochiSdk.Signer
