import XochiSdk.Signer.Shielded

/-!
# Readiness attestations

`packages/signer/src/shielded-readiness.ts`: the readiness domain of a corridor revision, and the
struct hashes of the three records the bridge signs. A record's members go to the coder as they
are, so what is accepted is what the coder accepts.
-/

namespace XochiSdk.Signer

open XochiSdk.Js XochiSdk.Library

inductive ReadinessType where
  | membership
  | recipientDeployment
  | rootUpdate
  deriving DecidableEq, Repr

structure MembershipAttestation where
  descriptorDigest : String
  root : String
  member : Bool
  rootBlock : Int
  attestedAt : JsNumber

structure RecipientDeploymentAttestation where
  descriptorDigest : String
  recipient : String
  classId : String
  deployed : Bool
  finalBlock : Int
  attestedAt : JsNumber

structure RootUpdateAttestation where
  root : String
  rootBlock : Int
  attestedAt : JsNumber

namespace ReadinessType

/-- `ReadinessRecords[T]`. -/
def Attestation : ReadinessType → Type
  | membership => MembershipAttestation
  | recipientDeployment => RecipientDeploymentAttestation
  | rootUpdate => RootUpdateAttestation

/-- `READINESS_TYPE_STRINGS`. -/
def typeString : ReadinessType → String
  | membership =>
    "Membership(bytes32 descriptorDigest,bytes32 root,bool member,uint64 rootBlock," ++
      "uint64 attestedAt)"
  | recipientDeployment =>
    "RecipientDeployment(bytes32 descriptorDigest,bytes32 recipient,bytes32 classId," ++
      "bool deployed,uint64 finalBlock,uint64 attestedAt)"
  | rootUpdate => "RootUpdate(bytes32 root,uint64 rootBlock,uint64 attestedAt)"

theorem typeString_injective {t t' : ReadinessType} (h : t.typeString = t'.typeString) :
    t = t' := by
  revert h
  cases t <;> cases t' <;> decide +kernel

end ReadinessType

def shieldedReadinessDomainName : String := "Xochi Shielded Readiness"

def readinessRules {α : Type} (fn : Checked α) : Checked α := withRefusalsAs .readiness fn

/-! ## The coder -/

/-- A `bytes32` value given to the coder. -/
def coderBytes32 (value : String) : Checked Word :=
  match getBytes value with
  | some bytes =>
    if length : bytes.length = 32 then .ok ⟨bytes, length⟩
    else refuser .ethers .invalidArgument "value" "incorrect data length"
  | none => refuser .ethers .invalidArgument "value" "invalid BytesLike value"

/-- A `uint64` value given to the coder. -/
def coderUint64 (value : Int) : Checked Nat :=
  if 0 ≤ value ∧ value ≤ uint64Max then .ok value.toNat
  else refuser .ethers .invalidArgument "value" "value out-of-bounds"

/-- A number read by the coder: a safe integer. -/
def coderNumber (value : JsNumber) : Checked Int :=
  match safeInteger value with
  | some n => .ok n
  | none => refuser .ethers .invalidArgument "value" "underflow"

def boolWord (b : Bool) : Word := uintWord b.toNat

section Hashes

variable [Ethers]

/-- What the salt is the hash of. -/
def readinessSaltWords (environment : String) (network : NetworkIdentity)
    (manifestDigest : String) : Checked (List Word) := do
  let environment ← environmentHash environment
  let network ← hashNetworkIdentity network
  let manifest ← bytes32 "manifestDigest" manifestDigest
  pure [environment, network, manifest]

/-- `keccak256(abi.encode(keccak256(bytes(environment)), network_identity_digest,
manifestDigest))`. -/
def readinessDomainSalt (environment : String) (network : NetworkIdentity)
    (manifestDigest : String) : Checked Word := readinessRules do
  pure (hashWords (← readinessSaltWords environment network manifestDigest))

/-- The readiness domain of one corridor revision. -/
def readinessDomain (sourceChainId : UintLike) (environment : String)
    (network : NetworkIdentity) (manifestDigest : String) : Checked ShieldedDomain := do
  let chain ← readinessRules (chainId "sourceChainId" sourceChainId)
  let salt ← readinessDomainSalt environment network manifestDigest
  pure { name := shieldedReadinessDomainName, version := "1", chainId := chain.repr, salt }

/-- The words the coder encodes for a record. -/
def readinessRecordWords : (t : ReadinessType) → t.Attestation → Checked (List Word)
  | .membership, (m : MembershipAttestation) => do
    let descriptorDigest ← coderBytes32 m.descriptorDigest
    let root ← coderBytes32 m.root
    let rootBlock ← coderUint64 m.rootBlock
    let attestedAt ← coderUint64 (← coderNumber m.attestedAt)
    pure [ethersId ReadinessType.membership.typeString, descriptorDigest, root,
      boolWord m.member, uintWord rootBlock, uintWord attestedAt]
  | .recipientDeployment, (d : RecipientDeploymentAttestation) => do
    let descriptorDigest ← coderBytes32 d.descriptorDigest
    let recipient ← coderBytes32 d.recipient
    let classId ← coderBytes32 d.classId
    let finalBlock ← coderUint64 d.finalBlock
    let attestedAt ← coderUint64 (← coderNumber d.attestedAt)
    pure [ethersId ReadinessType.recipientDeployment.typeString, descriptorDigest, recipient,
      classId, boolWord d.deployed, uintWord finalBlock, uintWord attestedAt]
  | .rootUpdate, (u : RootUpdateAttestation) => do
    let root ← coderBytes32 u.root
    let rootBlock ← coderUint64 u.rootBlock
    let attestedAt ← coderUint64 (← coderNumber u.attestedAt)
    pure [ethersId ReadinessType.rootUpdate.typeString, root, uintWord rootBlock,
      uintWord attestedAt]

/-- The EIP-712 struct hash of a parsed attestation. -/
def hashReadinessRecord (t : ReadinessType) (a : t.Attestation) : Checked Word := do
  pure (hashWords (← readinessRecordWords t a))

def readinessDigest (t : ReadinessType) (a : t.Attestation) (domain : ShieldedDomain) :
    Checked Word := do
  let separator ← shieldedDomainSeparator domain
  let structHash ← hashReadinessRecord t a
  pure (typedDigest separator structHash)

end Hashes

/-! ## What the coder accepts -/

theorem coderUint64_ok {value : Int} {v : Nat} (h : coderUint64 value = .ok v) :
    value = v ∧ v ≤ uint256Max := by
  unfold coderUint64 at h
  split at h
  · next range =>
    cases h
    unfold uint64Max at range
    unfold uint256Max
    omega
  · cases h

theorem coderNumber_ok {value : JsNumber} {v : Int} (h : coderNumber value = .ok v) :
    safeInteger value = some v := by
  unfold coderNumber at h
  split at h
  · next n read =>
    cases h
    exact read
  · cases h

theorem coderBytes32_bytes {s : String} {w : Word} (h : coderBytes32 s = .ok w) :
    getBytes s = some w.bytes := by
  unfold coderBytes32 at h
  split at h
  · next bytes read =>
    split at h
    · cases h
      exact read
    · cases h
  · cases h

/-- Texts the coder reads as one word differ in letter case alone. -/
theorem coderBytes32_ok {s t : String} {w : Word} (hs : coderBytes32 s = .ok w)
    (ht : coderBytes32 t = .ok w) : SameHex s t :=
  getBytes_lower (coderBytes32_bytes hs) (coderBytes32_bytes ht)

theorem boolWord_inj {a b : Bool} (h : boolWord a = boolWord b) : a = b := by
  have values := uintWord_inj (by cases a <;> decide) (by cases b <;> decide) h
  revert values
  cases a <;> cases b <;> decide

end XochiSdk.Signer
