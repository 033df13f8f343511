import XochiSdk.Signer.ShieldedRecipient

/-!
# Recipient acknowledgements

`packages/signer/src/shielded-recipient-acks.ts`: the four acknowledgements, their struct
hashes, the key under which one is consumed, and every check of `verifyRecipientAck` but that
consumption.
-/

namespace XochiSdk.Signer

open XochiSdk.Js XochiSdk.Library

inductive RecipientAckType where
  | backupPersistenceAck
  | senderRegistrationAck
  | paymentReceiptAck
  | tokenRegistrationAck
  deriving DecidableEq, Repr

structure BackupPersistenceAck where
  bindingDigest : String
  aztecRecipient : String
  backupCommitment : String
  backupFormatId : String
  nonce : String
  challengeExpiry : UintLike
  purpose : String

structure SenderRegistrationAck where
  bindingDigest : String
  aztecRecipient : String
  registeredSenders : List String
  nonce : String
  challengeExpiry : UintLike
  purpose : String

structure PaymentReceiptAck where
  bindingDigest : String
  termsDigest : String
  operationId : String
  network : NetworkIdentity
  txHash : String
  blockNumber : UintLike
  aztecToken : String
  amount : String
  aztecRecipient : String
  nonce : String
  challengeExpiry : UintLike
  purpose : String

structure TokenRegistrationAck where
  bindingDigest : String
  aztecRecipient : String
  aztecToken : String
  aztecTokenClassId : String
  tokenImmutablesHash : String
  nonce : String
  challengeExpiry : UintLike
  purpose : String

namespace RecipientAckType

/-- `RecipientAckMessages[T]`. -/
def Message : RecipientAckType → Type
  | backupPersistenceAck => BackupPersistenceAck
  | senderRegistrationAck => SenderRegistrationAck
  | paymentReceiptAck => PaymentReceiptAck
  | tokenRegistrationAck => TokenRegistrationAck

/-- `RECIPIENT_ACK_TYPE_STRINGS`. -/
def typeString : RecipientAckType → String
  | backupPersistenceAck =>
    "BackupPersistenceAck(bytes32 bindingDigest,bytes32 aztecRecipient,bytes32 backupCommitment," ++
      "bytes32 backupFormatId,bytes32 nonce,uint64 challengeExpiry,string purpose)"
  | senderRegistrationAck =>
    "SenderRegistrationAck(bytes32 bindingDigest,bytes32 aztecRecipient," ++
      "bytes32[] registeredSenders,bytes32 nonce,uint64 challengeExpiry,string purpose)"
  | paymentReceiptAck =>
    "PaymentReceiptAck(bytes32 bindingDigest,bytes32 termsDigest,bytes32 operationId," ++
      "NetworkIdentity network,bytes32 txHash,uint64 blockNumber,bytes32 aztecToken," ++
      "uint256 amount,bytes32 aztecRecipient,bytes32 nonce,uint64 challengeExpiry," ++
      "string purpose)" ++ networkIdentityTypeString
  | tokenRegistrationAck =>
    "TokenRegistrationAck(bytes32 bindingDigest,bytes32 aztecRecipient,bytes32 aztecToken," ++
      "bytes32 aztecTokenClassId,bytes32 tokenImmutablesHash,bytes32 nonce," ++
      "uint64 challengeExpiry,string purpose)"

theorem typeString_injective {t t' : RecipientAckType} (h : t.typeString = t'.typeString) :
    t = t' := by
  revert h
  cases t <;> cases t' <;> decide +kernel

/-- `RECIPIENT_ACK_PURPOSES`. -/
def ackPurpose : RecipientAckType → String
  | backupPersistenceAck => "xochi.shielded.backup-persistence-ack.v1"
  | senderRegistrationAck => "xochi.shielded.sender-registration-ack.v1"
  | paymentReceiptAck => "xochi.shielded.payment-receipt-ack.v1"
  | tokenRegistrationAck => "xochi.shielded.token-registration-ack.v1"

def bindingDigest : (t : RecipientAckType) → t.Message → String
  | backupPersistenceAck => BackupPersistenceAck.bindingDigest
  | senderRegistrationAck => SenderRegistrationAck.bindingDigest
  | paymentReceiptAck => PaymentReceiptAck.bindingDigest
  | tokenRegistrationAck => TokenRegistrationAck.bindingDigest

def aztecRecipient : (t : RecipientAckType) → t.Message → String
  | backupPersistenceAck => BackupPersistenceAck.aztecRecipient
  | senderRegistrationAck => SenderRegistrationAck.aztecRecipient
  | paymentReceiptAck => PaymentReceiptAck.aztecRecipient
  | tokenRegistrationAck => TokenRegistrationAck.aztecRecipient

def nonce : (t : RecipientAckType) → t.Message → String
  | backupPersistenceAck => BackupPersistenceAck.nonce
  | senderRegistrationAck => SenderRegistrationAck.nonce
  | paymentReceiptAck => PaymentReceiptAck.nonce
  | tokenRegistrationAck => TokenRegistrationAck.nonce

def challengeExpiry : (t : RecipientAckType) → t.Message → UintLike
  | backupPersistenceAck => BackupPersistenceAck.challengeExpiry
  | senderRegistrationAck => SenderRegistrationAck.challengeExpiry
  | paymentReceiptAck => PaymentReceiptAck.challengeExpiry
  | tokenRegistrationAck => TokenRegistrationAck.challengeExpiry

def purpose : (t : RecipientAckType) → t.Message → String
  | backupPersistenceAck => BackupPersistenceAck.purpose
  | senderRegistrationAck => SenderRegistrationAck.purpose
  | paymentReceiptAck => PaymentReceiptAck.purpose
  | tokenRegistrationAck => TokenRegistrationAck.purpose

end RecipientAckType

def backupFormatV1Name : String := "xochi.shielded.backup-format.v1"

def refuseAck {α : Type} (code : RefusalCode) (field detail : String) : Checked α :=
  refuser .ack code field detail

def ackRules {α : Type} (fn : Checked α) : Checked α := withRefusalsAs .ack fn

/-- Each sender above the one before it. -/
def strictlyAscending : List Word → Bool
  | v :: w :: rest => v.toNat < w.toNat && strictlyAscending (w :: rest)
  | _ => true

/-- The senders, checked and in order. -/
def registeredSenderWords (senders : List String) : Checked (List Word) := do
  if senders.isEmpty then refuseAck .sendersEmpty "registeredSenders" "names no sender"
  let values ← senders.mapM (assertAztecBytes32 "registeredSenders")
  if !strictlyAscending values then
    refuseAck .sendersNotCanonical "registeredSenders" "not strictly ascending"
  pure values

def nonzeroDigest (field value : String) : Checked Word := do
  let parsed ← bytes32 field value
  if parsed.toNat == 0 then refuseAck .digestZero field "zero"
  pure parsed

theorem nonzeroDigest_ok {field value : String} {w : Word} (h : nonzeroDigest field value = .ok w) :
    hexBytes 32 value = some w := by
  simp only [nonzeroDigest, checked_bind] at h
  obtain ⟨w', read, h⟩ := h
  split at h
  · cases h
  · cases h
    exact bytes32_ok.mp read

section Hashes

variable [Ethers]

def backupFormatV1Id : Word := ethersId backupFormatV1Name

def registeredSendersHash (senders : List String) : Checked Word := do
  pure (hashWords (← registeredSenderWords senders))

/-- The type's own members, as words. -/
def ownWords : (t : RecipientAckType) → t.Message → Checked (List Word)
  | .backupPersistenceAck, (a : BackupPersistenceAck) => do
    let recipient ← assertAztecBytes32 "aztecRecipient" a.aztecRecipient
    let commitment ← nonzeroDigest "backupCommitment" a.backupCommitment
    let format ← nonzeroDigest "backupFormatId" a.backupFormatId
    if format != backupFormatV1Id then
      refuseAck .backupFormatMismatch "backupFormatId"
        s!"expected {hexlify backupFormatV1Id.bytes}"
    pure [recipient, commitment, backupFormatV1Id]
  | .senderRegistrationAck, (a : SenderRegistrationAck) => do
    let recipient ← assertAztecBytes32 "aztecRecipient" a.aztecRecipient
    let senders ← registeredSendersHash a.registeredSenders
    pure [recipient, senders]
  | .tokenRegistrationAck, (a : TokenRegistrationAck) => do
    let recipient ← assertAztecBytes32 "aztecRecipient" a.aztecRecipient
    let token ← assertAztecBytes32 "aztecToken" a.aztecToken
    let classId ← assertAztecBytes32 "aztecTokenClassId" a.aztecTokenClassId
    let immutables ← assertAztecBytes32 "tokenImmutablesHash" a.tokenImmutablesHash
    pure [recipient, token, classId, immutables]
  | .paymentReceiptAck, (a : PaymentReceiptAck) => do
    let terms ← nonzeroDigest "termsDigest" a.termsDigest
    let operation ← nonzeroDigest "operationId" a.operationId
    let network ← hashNetworkIdentity a.network
    let txHash ← nonzeroDigest "txHash" a.txHash
    let blockNumber ← uint "blockNumber" a.blockNumber uint64Max
    let token ← assertAztecBytes32 "aztecToken" a.aztecToken
    let amount ← parseShieldedAmount "amount" a.amount
    let recipient ← assertAztecBytes32 "aztecRecipient" a.aztecRecipient
    pure [terms, operation, network, txHash, uintWord blockNumber, token, uintWord amount,
      recipient]

/-- Members in type-string order: the digest of the binding, the type's own, then nonce, expiry
and purpose. -/
def recipientAckWords (t : RecipientAckType) (message : t.Message) : Checked (List Word) :=
  ackRules do
    if t.purpose message != t.ackPurpose then
      refuseAck .purposeMismatch "purpose" ("expected " ++ t.ackPurpose)
    let own ← ownWords t message
    let bindingDigest ← nonzeroDigest "bindingDigest" (t.bindingDigest message)
    let nonce ← nonzeroDigest "nonce" (t.nonce message)
    let challengeExpiry ← uint "challengeExpiry" (t.challengeExpiry message) uint64Max
    pure ([ethersId t.typeString, bindingDigest] ++ own ++
      [nonce, uintWord challengeExpiry, ethersId (t.purpose message)])

/-- The EIP-712 struct hash of an acknowledgement. -/
def hashRecipientAck (t : RecipientAckType) (message : t.Message) : Checked Word := do
  pure (hashWords (← recipientAckWords t message))

/-- The acknowledgement's EIP-712 digest under `Domain (binding)`. -/
def recipientAckDigest (t : RecipientAckType) (message : t.Message) (domain : ShieldedDomain) :
    Checked Word := do
  let separator ← shieldedDomainSeparator domain
  let structHash ← hashRecipientAck t message
  pure (typedDigest separator structHash)

end Hashes

/-! ## Verification -/

structure ExpectedReceipt where
  nonce : String
  termsDigest : String
  operationId : String
  txHash : String
  blockNumber : UintLike
  amount : String

structure ExpectedToken where
  aztecTokenClassId : String
  tokenImmutablesHash : String

/-- `RecipientAckExpected[T]`: what the verifier expects the acknowledgement to say. -/
def RecipientAckType.Expected : RecipientAckType → Type
  | backupPersistenceAck => String
  | senderRegistrationAck => List String
  | paymentReceiptAck => ExpectedReceipt
  | tokenRegistrationAck => ExpectedToken

structure RecipientAckVerificationPolicy (t : RecipientAckType) where
  binding : RecipientBinding
  descriptor : RecipientDescriptor
  profile : AztecRecipientProfile
  environment : String
  network : NetworkIdentity
  expected : t.Expected
  now : UintLike

structure VerifiedRecipientAck where
  digest : Word
  messageField : Nat
  nonce : Word
  replayKey : Word
  deriving DecidableEq

def expectSame {α : Type} [DecidableEq α] (shown : α → String) (code : RefusalCode)
    (field : String) (actual expected : α) : Checked Unit :=
  if actual = expected then .ok () else refuseAck code field ("expected " ++ shown expected)

def expectSameHex (code : RefusalCode) (field : String) (actual expected : Word) : Checked Unit :=
  expectSame (fun w : Word => hexlify w.bytes) code field actual expected

def expectSameUint (code : RefusalCode) (field : String) (actual expected : Nat) : Checked Unit :=
  expectSame Nat.repr code field actual expected

section Verify

variable [Ethers]

/-- What `recipientAckReplayKey` hashes. -/
def replayWords (t : RecipientAckType) (bindingDigest nonce : Word) : List Word :=
  [ethersId t.typeString, bindingDigest, nonce]

/-- `keccak256(abi.encode(typehash(primaryType), bindingDigest, nonce))`. -/
def recipientAckReplayKey (t : RecipientAckType) (bindingDigest nonce : Word) : Word :=
  hashWords (replayWords t bindingDigest nonce)

/-- An enrollment acknowledgement carries the binding's own nonce and expiry. -/
def assertEnrollment (binding : RecipientBinding) (nonce : Word) (expiry : Nat) :
    Checked Unit := do
  expectSameHex .nonceMismatch "nonce" nonce (← nonzeroDigest "binding.nonce" binding.nonce)
  expectSameUint .expiryMismatch "challengeExpiry" expiry
    (← uint "binding.challengeExpiry" binding.challengeExpiry uint64Max)

/-- The type's own members against `expected`, and the enrollment acknowledgements against the
binding. -/
def assertAckSubject : (t : RecipientAckType) → t.Message → RecipientAckVerificationPolicy t →
    Word → Nat → Checked Unit
  | .backupPersistenceAck, (m : BackupPersistenceAck), policy, nonce, expiry => do
    assertEnrollment policy.binding nonce expiry
    let expected : String := policy.expected
    let commitment ← nonzeroDigest "backupCommitment" m.backupCommitment
    expectSameHex .subjectMismatch "backupCommitment" commitment
      (← nonzeroDigest "expected.backupCommitment" expected)
  | .senderRegistrationAck, (m : SenderRegistrationAck), policy, nonce, expiry => do
    assertEnrollment policy.binding nonce expiry
    let expected : List String := policy.expected
    let senders ← registeredSendersHash m.registeredSenders
    expectSameHex .subjectMismatch "registeredSenders" senders (← registeredSendersHash expected)
  | .tokenRegistrationAck, (m : TokenRegistrationAck), policy, nonce, expiry => do
    assertEnrollment policy.binding nonce expiry
    let expected : ExpectedToken := policy.expected
    let token ← assertAztecBytes32 "aztecToken" m.aztecToken
    expectSameHex .tokenMismatch "aztecToken" token
      (← assertAztecBytes32 "binding.aztecToken" policy.binding.aztecToken)
    let classId ← assertAztecBytes32 "aztecTokenClassId" m.aztecTokenClassId
    expectSameHex .subjectMismatch "aztecTokenClassId" classId
      (← assertAztecBytes32 "expected.aztecTokenClassId" expected.aztecTokenClassId)
    let immutables ← assertAztecBytes32 "tokenImmutablesHash" m.tokenImmutablesHash
    expectSameHex .subjectMismatch "tokenImmutablesHash" immutables
      (← assertAztecBytes32 "expected.tokenImmutablesHash" expected.tokenImmutablesHash)
  | .paymentReceiptAck, (m : PaymentReceiptAck), policy, nonce, _ => do
    let expected : ExpectedReceipt := policy.expected
    expectSameHex .nonceMismatch "nonce" nonce (← nonzeroDigest "expected.nonce" expected.nonce)
    let token ← assertAztecBytes32 "aztecToken" m.aztecToken
    expectSameHex .tokenMismatch "aztecToken" token
      (← assertAztecBytes32 "binding.aztecToken" policy.binding.aztecToken)
    let network ← hashNetworkIdentity m.network
    expectSameHex .networkMismatch "network" network (← hashNetworkIdentity policy.network)
    let terms ← nonzeroDigest "termsDigest" m.termsDigest
    expectSameHex .subjectMismatch "termsDigest" terms
      (← nonzeroDigest "expected.termsDigest" expected.termsDigest)
    let operation ← nonzeroDigest "operationId" m.operationId
    expectSameHex .subjectMismatch "operationId" operation
      (← nonzeroDigest "expected.operationId" expected.operationId)
    let txHash ← nonzeroDigest "txHash" m.txHash
    expectSameHex .subjectMismatch "txHash" txHash
      (← nonzeroDigest "expected.txHash" expected.txHash)
    let blockNumber ← uint "blockNumber" m.blockNumber uint64Max
    expectSameUint .subjectMismatch "blockNumber" blockNumber
      (← uint "expected.blockNumber" expected.blockNumber uint64Max)
    let amount ← parseShieldedAmount "amount" m.amount
    expectSameUint .subjectMismatch "amount" amount
      (← parseShieldedAmount "expected.amount" expected.amount)

variable [Poseidon2]

/-- Every check but replay consumption. -/
def checkRecipientAck (t : RecipientAckType) (message : t.Message) (signature : String)
    (policy : RecipientAckVerificationPolicy t) : Checked VerifiedRecipientAck := do
  let binding := policy.binding
  let descriptorDigest ← hashRecipientDescriptor policy.descriptor
  expectSameHex .descriptorMismatch "descriptor" descriptorDigest
    (← nonzeroDigest "binding.descriptorDigest" binding.descriptorDigest)
  let bindingRecipient ← assertAztecBytes32 "binding.aztecRecipient" binding.aztecRecipient
  expectSameHex .recipientMismatch "binding.aztecRecipient" bindingRecipient
    (← assertAztecBytes32 "descriptor.aztecAddress" policy.descriptor.aztecAddress)
  let descriptorNetwork ← hashNetworkIdentity policy.descriptor.network
  expectSameHex .networkMismatch "descriptor.network" descriptorNetwork
    (← hashNetworkIdentity policy.network)
  let domain ← bindingDomain binding.sourceChainId policy.environment policy.network
  let bindingDigest ← nonzeroDigest "bindingDigest" (t.bindingDigest message)
  let separator ← shieldedDomainSeparator domain
  let bindingStruct ← hashRecipientBinding binding
  expectSameHex .bindingMismatch "bindingDigest" bindingDigest
    (typedDigest separator bindingStruct)
  let recipient ← assertAztecBytes32 "aztecRecipient" (t.aztecRecipient message)
  expectSameHex .recipientMismatch "aztecRecipient" recipient bindingRecipient
  let nonce ← nonzeroDigest "nonce" (t.nonce message)
  let expiry ← uint "challengeExpiry" (t.challengeExpiry message) uint64Max
  assertAckSubject t message policy nonce expiry
  let now ← uint "now" policy.now uint64Max
  if expiry < now then
    refuseAck .challengeExpired "challengeExpiry" s!"{expiry} < {now}"
  let digest ← recipientAckDigest t message domain
  let messageField := recipientMessage digest
  if !verifyRecipientSchnorr policy.descriptor.signingPublicKeyX
      policy.descriptor.signingPublicKeyY messageField signature then
    refuseAck .signatureInvalid "signature" "not valid for the acknowledgement"
  pure { digest, messageField, nonce, replayKey := recipientAckReplayKey t bindingDigest nonce }

/-- The whole of `verifyRecipientAck` before its one side effect. -/
def ackChecks (t : RecipientAckType) (message : t.Message) (signature : String)
    (policy : RecipientAckVerificationPolicy t) : Checked VerifiedRecipientAck := do
  let _ ← verifyRecipientDescriptor policy.descriptor policy.profile
  ackRules (checkRecipientAck t message signature policy)

end Verify

end XochiSdk.Signer
