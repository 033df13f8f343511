import XochiSdk.Signer.Ethers
import XochiSdk.Signer.RecipientAcks
import XochiSdk.Signer.ShieldedReadiness

/-!
# Shielded digests do not collide

Every record the shielded modules hash, under every domain they build. Two of one digest are of
one type, have the same fields and stand under the same domain inputs, as far as the hash tells
apart what it is given.
-/

namespace XochiSdk.Signer

open XochiSdk.Js XochiSdk.Library

/-! ## Records that differ in spelling alone -/

structure NetworkIdentity.Same (a b : NetworkIdentity) : Prop where
  aztecChainId : SameUint a.aztecChainId b.aztecChainId
  protocolVersion : SameUint a.protocolVersion b.protocolVersion
  rollupAddress : SameHex a.rollupAddress b.rollupAddress
  l1ChainId : SameUint a.l1ChainId b.l1ChainId
  genesisOrNetworkDigest : SameHex a.genesisOrNetworkDigest b.genesisOrNetworkDigest

structure RecipientBinding.Same (a b : RecipientBinding) : Prop where
  sourceWallet : SameHex a.sourceWallet b.sourceWallet
  sourceChainId : SameUint a.sourceChainId b.sourceChainId
  aztecRecipient : SameHex a.aztecRecipient b.aztecRecipient
  aztecToken : SameHex a.aztecToken b.aztecToken
  descriptorDigest : SameHex a.descriptorDigest b.descriptorDigest
  corridorId : SameHex a.corridorId b.corridorId
  corridorRevision : SameUint a.corridorRevision b.corridorRevision
  manifestDigest : SameHex a.manifestDigest b.manifestDigest
  nonce : SameHex a.nonce b.nonce
  challengeExpiry : SameUint a.challengeExpiry b.challengeExpiry
  purpose : a.purpose = b.purpose

/-- What every acknowledgement carries. -/
structure RecipientAckType.SameFrame (t : RecipientAckType) (a b : t.Message) : Prop where
  bindingDigest : SameHex (t.bindingDigest a) (t.bindingDigest b)
  aztecRecipient : SameHex (t.aztecRecipient a) (t.aztecRecipient b)
  nonce : SameHex (t.nonce a) (t.nonce b)
  challengeExpiry : SameUint (t.challengeExpiry a) (t.challengeExpiry b)
  purpose : t.purpose a = t.purpose b

structure BackupPersistenceAck.SameOwn (a b : BackupPersistenceAck) : Prop where
  backupCommitment : SameHex a.backupCommitment b.backupCommitment
  backupFormatId : SameHex a.backupFormatId b.backupFormatId

structure PaymentReceiptAck.SameOwn (a b : PaymentReceiptAck) : Prop where
  termsDigest : SameHex a.termsDigest b.termsDigest
  operationId : SameHex a.operationId b.operationId
  network : a.network.Same b.network
  txHash : SameHex a.txHash b.txHash
  blockNumber : SameUint a.blockNumber b.blockNumber
  aztecToken : SameHex a.aztecToken b.aztecToken
  amount : SameUint (.text a.amount) (.text b.amount)

structure TokenRegistrationAck.SameOwn (a b : TokenRegistrationAck) : Prop where
  aztecToken : SameHex a.aztecToken b.aztecToken
  aztecTokenClassId : SameHex a.aztecTokenClassId b.aztecTokenClassId
  tokenImmutablesHash : SameHex a.tokenImmutablesHash b.tokenImmutablesHash

/-- The type's own members. -/
def RecipientAckType.SameOwn : (t : RecipientAckType) → t.Message → t.Message → Prop
  | .backupPersistenceAck, (a : BackupPersistenceAck), (b : BackupPersistenceAck) => a.SameOwn b
  | .senderRegistrationAck, (a : SenderRegistrationAck), (b : SenderRegistrationAck) =>
    List.Forall₂ SameHex a.registeredSenders b.registeredSenders
  | .paymentReceiptAck, (a : PaymentReceiptAck), (b : PaymentReceiptAck) => a.SameOwn b
  | .tokenRegistrationAck, (a : TokenRegistrationAck), (b : TokenRegistrationAck) => a.SameOwn b

structure MembershipAttestation.Same (a b : MembershipAttestation) : Prop where
  descriptorDigest : SameHex a.descriptorDigest b.descriptorDigest
  root : SameHex a.root b.root
  member : a.member = b.member
  rootBlock : a.rootBlock = b.rootBlock
  attestedAt : SameUint (.number a.attestedAt) (.number b.attestedAt)

structure RecipientDeploymentAttestation.Same (a b : RecipientDeploymentAttestation) : Prop where
  descriptorDigest : SameHex a.descriptorDigest b.descriptorDigest
  recipient : SameHex a.recipient b.recipient
  classId : SameHex a.classId b.classId
  deployed : a.deployed = b.deployed
  finalBlock : a.finalBlock = b.finalBlock
  attestedAt : SameUint (.number a.attestedAt) (.number b.attestedAt)

structure RootUpdateAttestation.Same (a b : RootUpdateAttestation) : Prop where
  root : SameHex a.root b.root
  rootBlock : a.rootBlock = b.rootBlock
  attestedAt : SameUint (.number a.attestedAt) (.number b.attestedAt)

def ReadinessType.Same : (t : ReadinessType) → t.Attestation → t.Attestation → Prop
  | .membership, (a : MembershipAttestation), (b : MembershipAttestation) => a.Same b
  | .recipientDeployment, (a : RecipientDeploymentAttestation),
    (b : RecipientDeploymentAttestation) => a.Same b
  | .rootUpdate, (a : RootUpdateAttestation), (b : RootUpdateAttestation) => a.Same b

/-! ## What is signed -/

/-- What a domain is built from. -/
inductive DomainInputs where
  | binding (sourceChainId : UintLike) (environment : String) (network : NetworkIdentity)
  | readiness (sourceChainId : UintLike) (environment : String) (network : NetworkIdentity)
    (manifestDigest : String)

/-- A record with the inputs of the domain it is signed under. -/
inductive Signed where
  | binding (b : RecipientBinding) (environment : String) (network : NetworkIdentity)
  | ack (t : RecipientAckType) (message : t.Message) (inputs : DomainInputs)
  | readiness (t : ReadinessType) (attestation : t.Attestation) (inputs : DomainInputs)

namespace DomainInputs

def Same : DomainInputs → DomainInputs → Prop
  | .binding chain environment network, .binding chain' environment' network' =>
    SameUint chain chain' ∧ environment = environment' ∧ network.Same network'
  | .readiness chain environment network manifest,
    .readiness chain' environment' network' manifest' =>
    SameUint chain chain' ∧ environment = environment' ∧ network.Same network' ∧
      SameHex manifest manifest'
  | _, _ => False

def name : DomainInputs → String
  | .binding .. => shieldedBindingDomainName
  | .readiness .. => shieldedReadinessDomainName

def sourceChainId : DomainInputs → UintLike
  | .binding chain _ _ | .readiness chain _ _ _ => chain

def environment : DomainInputs → String
  | .binding _ environment _ | .readiness _ environment _ _ => environment

def network : DomainInputs → NetworkIdentity
  | .binding _ _ network | .readiness _ _ network _ => network

end DomainInputs

namespace Signed

/-- The same record type, fields and domain inputs. -/
def Same : Signed → Signed → Prop
  | .binding b environment network, .binding b' environment' network' =>
    b.Same b' ∧ environment = environment' ∧ network.Same network'
  | .ack t message inputs, .ack t' message' inputs' =>
    (∃ same : t = t', t'.SameFrame (same ▸ message) message' ∧
      t'.SameOwn (same ▸ message) message') ∧ inputs.Same inputs'
  | .readiness t attestation inputs, .readiness t' attestation' inputs' =>
    (∃ same : t = t', t'.Same (same ▸ attestation) attestation') ∧ inputs.Same inputs'
  | _, _ => False

/-- `domain` of the digest; a binding's own chain is its domain's. -/
def inputs : Signed → DomainInputs
  | .binding b environment network => .binding b.sourceChainId environment network
  | .ack _ _ inputs | .readiness _ _ inputs => inputs

def typeString : Signed → String
  | .binding .. => recipientBindingTypeString
  | .ack t _ _ => t.typeString
  | .readiness t _ _ => t.typeString

end Signed

section Digests

variable [Ethers]

namespace DomainInputs

def domain : DomainInputs → Checked ShieldedDomain
  | .binding chain environment network => bindingDomain chain environment network
  | .readiness chain environment network manifest =>
    readinessDomain chain environment network manifest

/-- The words of the domain's salt. -/
def saltWords : DomainInputs → Checked (List Word)
  | .binding _ environment network => do
    let environment ← environmentHash environment
    let network ← hashNetworkIdentity network
    pure [environment, network]
  | .readiness _ environment network manifest => readinessSaltWords environment network manifest

/-- The words of the domain's separator. -/
def words (inputs : DomainInputs) : Checked (List Word) := do
  domainWords (← inputs.domain)

end DomainInputs

namespace Signed

def digest : Signed → Checked Word
  | .binding b environment network => recipientBindingDigest b environment network
  | .ack t message inputs => do
    let domain ← inputs.domain
    recipientAckDigest t message domain
  | .readiness t attestation inputs => do
    let domain ← inputs.domain
    readinessDigest t attestation domain

/-- The words of the record's struct hash. -/
def words : Signed → Checked (List Word)
  | .binding b _ _ => recipientBindingWords b
  | .ack t message _ => recipientAckWords t message
  | .readiness t attestation _ => readinessRecordWords t attestation

end Signed

/-! ## What the digests are hashed from -/

/-- The encoding of words that were accepted. -/
def preimage : Checked (List Word) → List (List UInt8)
  | .ok ws => [encodeWords ws]
  | .error _ => []

def NetworkIdentity.used (n : NetworkIdentity) : List (List UInt8) :=
  utf8 networkIdentityTypeString :: preimage (networkIdentityWords n)

def DomainInputs.used (inputs : DomainInputs) : List (List UInt8) :=
  [utf8 shieldedDomainTypeString, utf8 inputs.name, utf8 shieldedDomainVersion,
    utf8 inputs.environment] ++ inputs.network.used ++ preimage inputs.saltWords ++
      preimage inputs.words

/-- What a record's own words are hashed from. -/
def Signed.members : Signed → List (List UInt8)
  | .ack .senderRegistrationAck message _ =>
    preimage (registeredSenderWords (SenderRegistrationAck.registeredSenders message))
  | .ack .paymentReceiptAck message _ => (PaymentReceiptAck.network message).used
  | _ => []

/-- Everything the digest is computed from by hashing. -/
def Signed.used (x : Signed) : List (List UInt8) :=
  utf8 x.typeString :: x.members ++ preimage x.words ++ x.inputs.used ++
    match x.inputs.words, x.words with
    | .ok domain, .ok members => [typedPreimage (hashWords domain) (hashWords members)]
    | _, _ => []

/-! ## Reading the words back -/

omit [Ethers] in
theorem mem_preimage {x : Checked (List Word)} {ws : List Word} (h : x = .ok ws) :
    encodeWords ws ∈ preimage x := by
  rw [h]
  exact List.mem_singleton.mpr rfl

/-- The salt of a domain is the hash of its salt's words. -/
theorem DomainInputs.domain_ok {x : DomainInputs} {domain : ShieldedDomain}
    (h : x.domain = .ok domain) : ∃ (chain : Nat) (salt : List Word), domain =
        { name := x.name, version := shieldedDomainVersion, chainId := chain.repr,
          salt := hashWords salt } ∧
      uintSpelling false x.sourceChainId = some (chain : Int) ∧ chain ≤ uint256Max ∧
      x.saltWords = .ok salt := by
  cases x with
  | binding chain environment network =>
    simp only [DomainInputs.domain, bindingDomain, shieldedDomain, shieldedDomainSalt, checked_bind,
      pure_ok] at h
    obtain ⟨c, chain_ok, salt, ⟨env, env_ok, net, net_ok, rfl⟩, rfl⟩ := h
    obtain ⟨spelled, -, bound⟩ := chainId_ok chain_ok
    refine ⟨c, [env, net], rfl, spelled, bound, ?_⟩
    simp only [DomainInputs.saltWords, checked_bind, pure_ok]
    exact ⟨env, env_ok, net, net_ok, rfl⟩
  | readiness chain environment network manifest =>
    simp only [DomainInputs.domain, readinessDomain, readinessDomainSalt, readinessRules,
      withRefusalsAs_ok, checked_bind, pure_ok] at h
    obtain ⟨c, chain_ok, salt, ⟨words, words_ok, rfl⟩, rfl⟩ := h
    obtain ⟨spelled, -, bound⟩ := chainId_ok chain_ok
    exact ⟨c, words, rfl, spelled, bound, words_ok⟩

theorem DomainInputs.words_ok {x : DomainInputs} {ws : List Word} (h : x.words = .ok ws) :
    ∃ (chain : Nat) (salt : List Word), ws = [ethersId shieldedDomainTypeString, ethersId x.name,
        ethersId shieldedDomainVersion, uintWord chain, hashWords salt] ∧
      uintSpelling false x.sourceChainId = some (chain : Int) ∧ chain ≤ uint256Max ∧
      x.saltWords = .ok salt := by
  simp only [DomainInputs.words, checked_bind] at h
  obtain ⟨domain, domain_ok, h⟩ := h
  obtain ⟨chain, salt, rfl, spelled, bound, salt_ok⟩ := DomainInputs.domain_ok domain_ok
  simp only [domainWords, checked_bind, pure_ok] at h
  obtain ⟨c, chain_ok, rfl⟩ := h
  obtain ⟨read, -, -⟩ := chainId_ok chain_ok
  rw [uintSpelling_repr, Option.some.injEq, Int.natCast_inj] at read
  rw [← read]
  exact ⟨chain, salt, rfl, spelled, bound, salt_ok⟩

section Apart

variable {used : List (List UInt8)} (apart : Distinguishes keccak256 used)

include apart

theorem ethersId_inj {s t : String} (hs : utf8 s ∈ used) (ht : utf8 t ∈ used)
    (same : ethersId s = ethersId t) : s = t :=
  utf8_injective (apart.eq hs ht same)

theorem hashWords_inj {vs ws : List Word} (hv : encodeWords vs ∈ used)
    (hw : encodeWords ws ∈ used) (same : hashWords vs = hashWords ws) : vs = ws :=
  encodeWords_injective (apart.eq hv hw same)

theorem NetworkIdentity.same_of {a b : NetworkIdentity} {w : Word}
    (ha : hashNetworkIdentity a = .ok w) (hb : hashNetworkIdentity b = .ok w)
    (subA : a.used ⊆ used) (subB : b.used ⊆ used) : a.Same b := by
  simp only [hashNetworkIdentity, checked_bind, pure_ok] at ha hb
  obtain ⟨vs, va, hashA⟩ := ha
  obtain ⟨ws, wb, hashB⟩ := hb
  have same := hashWords_inj apart (subA (List.mem_cons_of_mem _ (mem_preimage va)))
    (subB (List.mem_cons_of_mem _ (mem_preimage wb))) (hashA.trans hashB.symm)
  subst same
  simp only [networkIdentityWords, checked_bind, require_ok, exists_const, pure_ok] at va wb
  obtain ⟨genesisA, genesisA_ok, -, chainA, chainA_ok, versionA, versionA_ok, rollupA, rollupA_ok,
    l1A, l1A_ok, wordsA⟩ := va
  obtain ⟨genesisB, genesisB_ok, -, chainB, chainB_ok, versionB, versionB_ok, rollupB, rollupB_ok,
    l1B, l1B_ok, wordsB⟩ := wb
  rw [← wordsB] at wordsA
  simp only [List.cons.injEq, and_true, true_and] at wordsA
  obtain ⟨chain, version, rollup, l1, genesis⟩ := wordsA
  obtain ⟨chainA_ok, chainA_le⟩ := aztecUint_ok chainA_ok
  obtain ⟨chainB_ok, chainB_le⟩ := aztecUint_ok chainB_ok
  obtain ⟨versionA_ok, versionA_le⟩ := aztecUint_ok versionA_ok
  obtain ⟨versionB_ok, versionB_le⟩ := aztecUint_ok versionB_ok
  obtain ⟨l1A_ok, -, l1A_le⟩ := chainId_ok l1A_ok
  obtain ⟨l1B_ok, -, l1B_le⟩ := chainId_ok l1B_ok
  exact
    { aztecChainId := sameUint_of chainA_ok chainB_ok (uintWord_inj chainA_le chainB_le chain)
      protocolVersion :=
        sameUint_of versionA_ok versionB_ok (uintWord_inj versionA_le versionB_le version)
      rollupAddress :=
        sameHex_of (evmAddress_ok rollupA_ok) (evmAddress_ok rollupB_ok) (addressWord_inj rollup)
      l1ChainId := sameUint_of l1A_ok l1B_ok (uintWord_inj l1A_le l1B_le l1)
      genesisOrNetworkDigest :=
        sameHex_of (bytes32_ok.mp genesisA_ok) (bytes32_ok.mp genesisB_ok) genesis }

theorem environment_same {a b : String} {w : Word} (ha : environmentHash a = .ok w)
    (hb : environmentHash b = .ok w) (memA : utf8 a ∈ used) (memB : utf8 b ∈ used) : a = b :=
  ethersId_inj apart memA memB ((environmentHash_ok ha).symm.trans (environmentHash_ok hb))

/-- Salts of one list of words are of the same environment, network and manifest. -/
theorem DomainInputs.same_of_salt {x y : DomainInputs} {ws : List Word}
    (hx : x.saltWords = .ok ws) (hy : y.saltWords = .ok ws)
    (chain : SameUint x.sourceChainId y.sourceChainId) (subX : x.used ⊆ used)
    (subY : y.used ⊆ used) : x.Same y := by
  have envX : utf8 x.environment ∈ used := subX (by simp [DomainInputs.used])
  have envY : utf8 y.environment ∈ used := subY (by simp [DomainInputs.used])
  have netX : x.network.used ⊆ used := fun m mem => subX (by simp [DomainInputs.used, mem])
  have netY : y.network.used ⊆ used := fun m mem => subY (by simp [DomainInputs.used, mem])
  cases x with
  | binding c env net =>
    simp only [DomainInputs.saltWords, checked_bind, pure_ok] at hx
    obtain ⟨e, env_ok, n, net_ok, rfl⟩ := hx
    cases y with
    | binding c' env' net' =>
      simp only [DomainInputs.saltWords, checked_bind, pure_ok, List.cons.injEq, and_true] at hy
      obtain ⟨e', env_ok', n', net_ok', rfl, rfl⟩ := hy
      exact ⟨chain, environment_same apart env_ok env_ok' envX envY,
        NetworkIdentity.same_of apart net_ok net_ok' netX netY⟩
    | readiness c' env' net' manifest' =>
      simp only [DomainInputs.saltWords, readinessSaltWords, checked_bind, pure_ok] at hy
      obtain ⟨_, -, _, -, _, -, same⟩ := hy
      cases same
  | readiness c env net manifest =>
    simp only [DomainInputs.saltWords, readinessSaltWords, checked_bind, pure_ok] at hx
    obtain ⟨e, env_ok, n, net_ok, m, manifest_ok, rfl⟩ := hx
    cases y with
    | binding c' env' net' =>
      simp only [DomainInputs.saltWords, checked_bind, pure_ok] at hy
      obtain ⟨_, -, _, -, same⟩ := hy
      cases same
    | readiness c' env' net' manifest' =>
      simp only [DomainInputs.saltWords, readinessSaltWords, checked_bind, pure_ok,
        List.cons.injEq, and_true] at hy
      obtain ⟨e', env_ok', n', net_ok', m', manifest_ok', rfl, rfl, rfl⟩ := hy
      exact ⟨chain, environment_same apart env_ok env_ok' envX envY,
        NetworkIdentity.same_of apart net_ok net_ok' netX netY,
        sameHex_of (bytes32_ok.mp manifest_ok) (bytes32_ok.mp manifest_ok') rfl⟩

/-- Separators of one list of words are of the same inputs. -/
theorem DomainInputs.same_of {x y : DomainInputs} {ws : List Word} (hx : x.words = .ok ws)
    (hy : y.words = .ok ws) (subX : x.used ⊆ used) (subY : y.used ⊆ used) : x.Same y := by
  obtain ⟨c, salt, wordsX, spelled, bound, salt_ok⟩ := DomainInputs.words_ok hx
  obtain ⟨c', salt', wordsY, spelled', bound', salt_ok'⟩ := DomainInputs.words_ok hy
  rw [wordsX] at wordsY
  simp only [List.cons.injEq, and_true, true_and] at wordsY
  obtain ⟨-, chain, salt_same⟩ := wordsY
  have memX := mem_preimage salt_ok
  have memY := mem_preimage salt_ok'
  have same := hashWords_inj apart (subX (by simp [DomainInputs.used, memX]))
    (subY (by simp [DomainInputs.used, memY])) salt_same
  rw [← same] at salt_ok'
  exact DomainInputs.same_of_salt apart salt_ok salt_ok'
    (sameUint_of spelled spelled' (uintWord_inj bound bound' chain)) subX subY

end Apart

/-! ## The records' words -/

omit [Ethers] in
theorem bytes32_same {f f' s t : String} {v w : Word} (hs : bytes32 f s = .ok v)
    (ht : bytes32 f' t = .ok w) (same : v = w) : SameHex s t :=
  sameHex_of (bytes32_ok.mp hs) (bytes32_ok.mp ht) same

omit [Ethers] in
theorem aztec_same {f f' s t : String} {v w : Word} (hs : assertAztecBytes32 f s = .ok v)
    (ht : assertAztecBytes32 f' t = .ok w) (same : v = w) : SameHex s t :=
  sameHex_of (assertAztecBytes32_ok hs) (assertAztecBytes32_ok ht) same

omit [Ethers] in
theorem nonzeroDigest_same {f f' s t : String} {v w : Word} (hs : nonzeroDigest f s = .ok v)
    (ht : nonzeroDigest f' t = .ok w) (same : v = w) : SameHex s t :=
  sameHex_of (nonzeroDigest_ok hs) (nonzeroDigest_ok ht) same

omit [Ethers] in
theorem uint_same {f f' : String} {x y : UintLike} {max v w : Nat} (fits : max ≤ uint256Max)
    (hx : uint f x max = .ok v) (hy : uint f' y max = .ok w) (same : uintWord v = uintWord w) :
    SameUint x y := by
  obtain ⟨spelled, bound⟩ := uint_ok hx
  obtain ⟨spelled', bound'⟩ := uint_ok hy
  exact sameUint_of spelled spelled' (uintWord_inj (bound.trans fits) (bound'.trans fits) same)

theorem RecipientBinding.same_of {a b : RecipientBinding} {ws : List Word}
    (ha : recipientBindingWords a = .ok ws) (hb : recipientBindingWords b = .ok ws) :
    a.Same b := by
  simp only [recipientBindingWords, checked_bind, require_ok, exists_const, pure_ok,
    beq_iff_eq] at ha hb
  obtain ⟨purpose, walletA, wallet, chainA, chain, recipientA, recipient, tokenA, token,
    descriptorA, descriptor, corridorA, corridor, revisionA, revision, manifestA, manifest,
    nonceA, nonce, expiryA, expiry, same⟩ := ha
  obtain ⟨purpose', walletB, wallet', chainB, chain', recipientB, recipient', tokenB, token',
    descriptorB, descriptor', corridorB, corridor', revisionB, revision', manifestB, manifest',
    nonceB, nonce', expiryB, expiry', rfl⟩ := hb
  simp only [List.cons.injEq, and_true, true_and] at same
  obtain ⟨wallets, chains, recipients, tokens, descriptors, corridors, revisions, manifests,
    nonces, expiries, -⟩ := same
  obtain ⟨chain, -, chain_le⟩ := chainId_ok chain
  obtain ⟨chain', -, chain_le'⟩ := chainId_ok chain'
  exact
    { sourceWallet :=
        sameHex_of (evmAddress_ok wallet) (evmAddress_ok wallet') (addressWord_inj wallets)
      sourceChainId := sameUint_of chain chain' (uintWord_inj chain_le chain_le' chains)
      aztecRecipient := aztec_same recipient recipient' recipients
      aztecToken := aztec_same token token' tokens
      descriptorDigest := bytes32_same descriptor descriptor' descriptors
      corridorId := bytes32_same corridor corridor' corridors
      corridorRevision := uint_same (by decide) revision revision' revisions
      manifestDigest := bytes32_same manifest manifest' manifests
      nonce := bytes32_same nonce nonce' nonces
      challengeExpiry := uint_same (by decide) expiry expiry' expiries
      purpose := purpose.trans purpose'.symm }

omit [Ethers] in
theorem refusing_ok {α : Type} {c : Prop} [Decidable c] {code : RefusalCode}
    {field detail : String} {k : Unit → Checked α} {r : Checked α} {v : α} :
    (if c then refuseAck code field detail >>= k else r) = .ok v ↔ ¬c ∧ r = .ok v := by
  split
  · next now => simp [refuseAck, refuser, bind, Except.bind, now]
  · next other => simp [other]

theorem recipientAckWords_ok {t : RecipientAckType} {m : t.Message} {ws : List Word}
    (h : recipientAckWords t m = .ok ws) : ∃ binding own nonce expiry,
      t.purpose m = t.ackPurpose ∧ ownWords t m = .ok own ∧
      nonzeroDigest "bindingDigest" (t.bindingDigest m) = .ok binding ∧
      nonzeroDigest "nonce" (t.nonce m) = .ok nonce ∧
      uint "challengeExpiry" (t.challengeExpiry m) uint64Max = .ok expiry ∧
      ws = [ethersId t.typeString, binding] ++ own ++
        [nonce, uintWord expiry, ethersId (t.purpose m)] := by
  simp only [recipientAckWords, ackRules, withRefusalsAs_ok, refusing_ok, checked_bind, pure_ok,
    bne_iff_ne, ne_eq, not_not] at h
  obtain ⟨purpose, own, own_ok, binding, binding_ok, nonce, nonce_ok, expiry, expiry_ok, rfl⟩ := h
  exact ⟨binding, own, nonce, expiry, purpose, own_ok, binding_ok, nonce_ok, expiry_ok, rfl⟩

omit [Ethers] in
theorem mapM_same {field : String} {texts texts' : List String} {ws : List Word}
    (h : texts.mapM (assertAztecBytes32 field) = .ok ws)
    (h' : texts'.mapM (assertAztecBytes32 field) = .ok ws) : List.Forall₂ SameHex texts texts' := by
  induction texts generalizing texts' ws with
  | nil =>
    rw [List.mapM_nil, pure_ok] at h
    subst h
    cases texts' with
    | nil => exact .nil
    | cons t texts' =>
      simp only [List.mapM_cons, checked_bind, pure_ok] at h'
      obtain ⟨_, -, _, -, same⟩ := h'
      cases same
  | cons s texts ih =>
    simp only [List.mapM_cons, checked_bind, pure_ok] at h
    obtain ⟨v, first, vs, rest, rfl⟩ := h
    cases texts' with
    | nil =>
      rw [List.mapM_nil, pure_ok] at h'
      cases h'
    | cons t texts' =>
      simp only [List.mapM_cons, checked_bind, pure_ok, List.cons.injEq] at h'
      obtain ⟨w, first', ws, rest', rfl, rfl⟩ := h'
      exact .cons (aztec_same first first' rfl) (ih rest rest')

omit [Ethers] in
/-- Senders of one list of words are spelled the same. -/
theorem registeredSenders_same {senders senders' : List String} {ws : List Word}
    (h : registeredSenderWords senders = .ok ws) (h' : registeredSenderWords senders' = .ok ws) :
    List.Forall₂ SameHex senders senders' := by
  simp only [registeredSenderWords, refusing_ok, checked_bind, pure_ok] at h h'
  obtain ⟨-, vs, read, -, rfl⟩ := h
  obtain ⟨-, ws, read', -, rfl⟩ := h'
  exact mapM_same read read'

section Apart

variable {used : List (List UInt8)} (apart : Distinguishes keccak256 used)

include apart

theorem RecipientAckType.own_same {t : RecipientAckType} {a b : t.Message} {own : List Word}
    {inputs inputs' : DomainInputs} (ha : ownWords t a = .ok own) (hb : ownWords t b = .ok own)
    (subA : (Signed.ack t a inputs).members ⊆ used)
    (subB : (Signed.ack t b inputs').members ⊆ used) :
    SameHex (t.aztecRecipient a) (t.aztecRecipient b) ∧ t.SameOwn a b := by
  cases t with
  | backupPersistenceAck =>
    simp only [ownWords, refusing_ok, checked_bind, pure_ok, bne_iff_ne, ne_eq, not_not] at ha hb
    obtain ⟨recipientA, recipient, commitmentA, commitment, formatA, format, isA, same⟩ := ha
    obtain ⟨recipientB, recipient', commitmentB, commitment', formatB, format', isB, rfl⟩ := hb
    simp only [List.cons.injEq, and_true] at same
    obtain ⟨recipients, commitments⟩ := same
    refine ⟨aztec_same recipient recipient' recipients, ?_⟩
    exact
      { backupCommitment := nonzeroDigest_same commitment commitment' commitments
        backupFormatId := nonzeroDigest_same format format' (isA.trans isB.symm) }
  | senderRegistrationAck =>
    simp only [ownWords, registeredSendersHash, checked_bind, pure_ok] at ha hb
    obtain ⟨recipientA, recipient, hashA, ⟨vs, senders, hash⟩, same⟩ := ha
    obtain ⟨recipientB, recipient', hashB, ⟨ws, senders', hash'⟩, rfl⟩ := hb
    simp only [List.cons.injEq, and_true] at same
    obtain ⟨recipients, hashes⟩ := same
    refine ⟨aztec_same recipient recipient' recipients, ?_⟩
    have lists := hashWords_inj apart (subA (mem_preimage senders)) (subB (mem_preimage senders'))
      (hash.trans (hashes.trans hash'.symm))
    rw [lists] at senders
    exact registeredSenders_same senders senders'
  | paymentReceiptAck =>
    simp only [ownWords, checked_bind, pure_ok] at ha hb
    obtain ⟨termsA, terms, operationA, operation, networkA, network, txA, tx, blockA, block,
      tokenA, token, amountA, amount, recipientA, recipient, same⟩ := ha
    obtain ⟨termsB, terms', operationB, operation', networkB, network', txB, tx', blockB, block',
      tokenB, token', amountB, amount', recipientB, recipient', rfl⟩ := hb
    simp only [List.cons.injEq, and_true] at same
    obtain ⟨termsS, operations, networks, txs, blocks, tokens, amounts, recipients⟩ := same
    obtain ⟨spelled, bound⟩ := parseShieldedAmount_ok amount
    obtain ⟨spelled', bound'⟩ := parseShieldedAmount_ok amount'
    rw [networks] at network
    refine ⟨aztec_same recipient recipient' recipients, ?_⟩
    exact
      { termsDigest := nonzeroDigest_same terms terms' termsS
        operationId := nonzeroDigest_same operation operation' operations
        network := NetworkIdentity.same_of apart network network' subA subB
        txHash := nonzeroDigest_same tx tx' txs
        blockNumber := uint_same (by decide) block block' blocks
        aztecToken := aztec_same token token' tokens
        amount := sameUint_of spelled spelled' (uintWord_inj bound bound' amounts) }
  | tokenRegistrationAck =>
    simp only [ownWords, checked_bind, pure_ok] at ha hb
    obtain ⟨recipientA, recipient, tokenA, token, classA, class_, hashA, hash, same⟩ := ha
    obtain ⟨recipientB, recipient', tokenB, token', classB, class', hashB, hash', rfl⟩ := hb
    simp only [List.cons.injEq, and_true] at same
    obtain ⟨recipients, tokens, classes, hashes⟩ := same
    refine ⟨aztec_same recipient recipient' recipients, ?_⟩
    exact
      { aztecToken := aztec_same token token' tokens
        aztecTokenClassId := aztec_same class_ class' classes
        tokenImmutablesHash := aztec_same hash hash' hashes }

/-- Acknowledgements of one type and one list of words are the same. -/
theorem RecipientAckType.same_of {t : RecipientAckType} {a b : t.Message} {ws : List Word}
    {inputs inputs' : DomainInputs} (ha : recipientAckWords t a = .ok ws)
    (hb : recipientAckWords t b = .ok ws) (subA : (Signed.ack t a inputs).members ⊆ used)
    (subB : (Signed.ack t b inputs').members ⊆ used) : t.SameFrame a b ∧ t.SameOwn a b := by
  obtain ⟨bindingA, ownA, nonceA, expiryA, purpose, own, binding, nonce, expiry, same⟩ :=
    recipientAckWords_ok ha
  obtain ⟨bindingB, ownB, nonceB, expiryB, purpose', own', binding', nonce', expiry', rfl⟩ :=
    recipientAckWords_ok hb
  obtain ⟨front, back⟩ := List.append_inj' same (by simp only [List.length_cons])
  simp only [List.cons_append, List.nil_append, List.cons.injEq, and_true, true_and] at front back
  obtain ⟨bindings, owns⟩ := front
  obtain ⟨nonces, expiries, -⟩ := back
  rw [← owns] at own
  obtain ⟨recipients, members⟩ := RecipientAckType.own_same apart own own' subA subB
  refine ⟨?_, members⟩
  exact
    { bindingDigest := (nonzeroDigest_same binding binding' bindings.symm)
      aztecRecipient := recipients
      nonce := nonzeroDigest_same nonce nonce' nonces.symm
      challengeExpiry := uint_same (by decide) expiry expiry' expiries.symm
      purpose := purpose.trans purpose'.symm }

end Apart

omit [Ethers] in
theorem coderUint64_same {x y : Int} {v w : Nat} (hx : coderUint64 x = .ok v)
    (hy : coderUint64 y = .ok w) (same : uintWord v = uintWord w) : x = y := by
  obtain ⟨rfl, bound⟩ := coderUint64_ok hx
  obtain ⟨rfl, bound'⟩ := coderUint64_ok hy
  rw [uintWord_inj bound bound' same]

omit [Ethers] in
theorem attestedAt_same {x y : JsNumber} {m n : Int} {v w : Nat} (hx : coderNumber x = .ok m)
    (hy : coderNumber y = .ok n) (hm : coderUint64 m = .ok v) (hn : coderUint64 n = .ok w)
    (same : uintWord v = uintWord w) : SameUint (.number x) (.number y) := by
  have numbers := coderUint64_same hm hn same
  rw [SameUint, uintSpelling, uintSpelling, coderNumber_ok hx, coderNumber_ok hy, numbers]

/-- Readiness records of one type and one list of words are the same. -/
theorem ReadinessType.same_of {t : ReadinessType} {a b : t.Attestation} {ws : List Word}
    (ha : readinessRecordWords t a = .ok ws) (hb : readinessRecordWords t b = .ok ws) :
    t.Same a b := by
  cases t with
  | membership =>
    simp only [readinessRecordWords, checked_bind, pure_ok] at ha hb
    obtain ⟨descriptorA, descriptor, rootA, root, blockA, block, numberA, number, atA, at_, same⟩ :=
      ha
    obtain ⟨descriptorB, descriptor', rootB, root', blockB, block', numberB, number', atB, at',
      rfl⟩ := hb
    simp only [List.cons.injEq, and_true, true_and] at same
    obtain ⟨rfl, rfl, members, blocks, ats⟩ := same
    exact
      { descriptorDigest := coderBytes32_ok descriptor descriptor'
        root := coderBytes32_ok root root'
        member := boolWord_inj members
        rootBlock := coderUint64_same block block' blocks
        attestedAt := attestedAt_same number number' at_ at' ats }
  | recipientDeployment =>
    simp only [readinessRecordWords, checked_bind, pure_ok] at ha hb
    obtain ⟨descriptorA, descriptor, recipientA, recipient, classA, class_, blockA, block, numberA,
      number, atA, at_, same⟩ := ha
    obtain ⟨descriptorB, descriptor', recipientB, recipient', classB, class', blockB, block',
      numberB, number', atB, at', rfl⟩ := hb
    simp only [List.cons.injEq, and_true, true_and] at same
    obtain ⟨rfl, rfl, rfl, deployments, blocks, ats⟩ := same
    exact
      { descriptorDigest := coderBytes32_ok descriptor descriptor'
        recipient := coderBytes32_ok recipient recipient'
        classId := coderBytes32_ok class_ class'
        deployed := boolWord_inj deployments
        finalBlock := coderUint64_same block block' blocks
        attestedAt := attestedAt_same number number' at_ at' ats }
  | rootUpdate =>
    simp only [readinessRecordWords, checked_bind, pure_ok] at ha hb
    obtain ⟨rootA, root, blockA, block, numberA, number, atA, at_, same⟩ := ha
    obtain ⟨rootB, root', blockB, block', numberB, number', atB, at', rfl⟩ := hb
    simp only [List.cons.injEq, and_true, true_and] at same
    obtain ⟨rfl, blocks, ats⟩ := same
    exact
      { root := coderBytes32_ok root root'
        rootBlock := coderUint64_same block block' blocks
        attestedAt := attestedAt_same number number' at_ at' ats }

/-! ## Digests -/

theorem Signed.words_head {x : Signed} {ws : List Word} (h : x.words = .ok ws) :
    ∃ rest, ws = ethersId x.typeString :: rest := by
  cases x with
  | binding b environment network =>
    simp only [Signed.words, recipientBindingWords, checked_bind, pure_ok] at h
    obtain ⟨_, -, _, -, _, -, _, -, _, -, _, -, _, -, _, -, _, -, _, -, _, -, rfl⟩ := h
    exact ⟨_, rfl⟩
  | ack t message inputs =>
    obtain ⟨_, _, _, _, -, -, -, -, -, rfl⟩ := recipientAckWords_ok h
    exact ⟨_, rfl⟩
  | readiness t attestation inputs =>
    cases t with
    | membership =>
      simp only [Signed.words, readinessRecordWords, checked_bind, pure_ok] at h
      obtain ⟨_, -, _, -, _, -, _, -, _, -, rfl⟩ := h
      exact ⟨_, rfl⟩
    | recipientDeployment =>
      simp only [Signed.words, readinessRecordWords, checked_bind, pure_ok] at h
      obtain ⟨_, -, _, -, _, -, _, -, _, -, _, -, rfl⟩ := h
      exact ⟨_, rfl⟩
    | rootUpdate =>
      simp only [Signed.words, readinessRecordWords, checked_bind, pure_ok] at h
      obtain ⟨_, -, _, -, _, -, _, -, rfl⟩ := h
      exact ⟨_, rfl⟩

theorem Signed.digest_ok {x : Signed} {d : Word} (h : x.digest = .ok d) :
    ∃ domain members, x.inputs.words = .ok domain ∧ x.words = .ok members ∧
      d = typedDigest (hashWords domain) (hashWords members) := by
  cases x with
  | binding b environment network =>
    simp only [Signed.digest, recipientBindingDigest, hashRecipientBinding,
      shieldedDomainSeparator, checked_bind, pure_ok] at h
    obtain ⟨_, ⟨members, members_ok, rfl⟩, domain, domain_ok, _, ⟨words, words_ok, rfl⟩, rfl⟩ := h
    refine ⟨words, members, ?_, members_ok, rfl⟩
    exact checked_bind.mpr ⟨domain, domain_ok, words_ok⟩
  | ack t message inputs =>
    simp only [Signed.digest, recipientAckDigest, hashRecipientAck, shieldedDomainSeparator,
      checked_bind, pure_ok] at h
    obtain ⟨domain, domain_ok, _, ⟨words, words_ok, rfl⟩, _, ⟨members, members_ok, rfl⟩, rfl⟩ := h
    refine ⟨words, members, ?_, members_ok, rfl⟩
    exact checked_bind.mpr ⟨domain, domain_ok, words_ok⟩
  | readiness t attestation inputs =>
    simp only [Signed.digest, readinessDigest, hashReadinessRecord, shieldedDomainSeparator,
      checked_bind, pure_ok] at h
    obtain ⟨domain, domain_ok, _, ⟨words, words_ok, rfl⟩, _, ⟨members, members_ok, rfl⟩, rfl⟩ := h
    refine ⟨words, members, ?_, members_ok, rfl⟩
    exact checked_bind.mpr ⟨domain, domain_ok, words_ok⟩

omit [Ethers] in
theorem bindingTypeString_ne_ack (t : RecipientAckType) :
    recipientBindingTypeString ≠ t.typeString := by
  cases t <;> decide +kernel

omit [Ethers] in
theorem bindingTypeString_ne_readiness (t : ReadinessType) :
    recipientBindingTypeString ≠ t.typeString := by
  cases t <;> decide +kernel

omit [Ethers] in
theorem ackTypeString_ne_readiness (t : RecipientAckType) (t' : ReadinessType) :
    t.typeString ≠ t'.typeString := by
  cases t <;> cases t' <;> decide +kernel

/-- Records of one list of words, under one domain, are the same: the first word tells their
type, and the others their fields. -/
theorem Signed.same_of {x y : Signed} {used : List (List UInt8)} {ws : List Word}
    (apart : Distinguishes keccak256 used) (hx : x.words = .ok ws) (hy : y.words = .ok ws)
    (domains : x.inputs.Same y.inputs) (subX : x.used ⊆ used) (subY : y.used ⊆ used) :
    x.Same y := by
  obtain ⟨_, headX⟩ := Signed.words_head hx
  obtain ⟨_, headY⟩ := Signed.words_head hy
  have types : x.typeString = y.typeString := by
    rw [headX, List.cons.injEq] at headY
    refine ethersId_inj apart (subX ?_) (subY ?_) headY.1
    · simp [Signed.used]
    · simp [Signed.used]
  have membersX : x.members ⊆ used := fun m mem => subX (by simp [Signed.used, mem])
  have membersY : y.members ⊆ used := fun m mem => subY (by simp [Signed.used, mem])
  cases x with
  | binding b environment network =>
    cases y with
    | binding b' environment' network' =>
      obtain ⟨-, environments, networks⟩ := domains
      exact ⟨RecipientBinding.same_of hx hy, environments, networks⟩
    | ack t message inputs => exact absurd types (bindingTypeString_ne_ack t)
    | readiness t attestation inputs => exact absurd types (bindingTypeString_ne_readiness t)
  | ack t message inputs =>
    cases y with
    | binding b environment network => exact absurd types.symm (bindingTypeString_ne_ack t)
    | ack t' message' inputs' =>
      obtain rfl := RecipientAckType.typeString_injective types
      exact ⟨⟨rfl, RecipientAckType.same_of apart hx hy membersX membersY⟩, domains⟩
    | readiness t' attestation inputs' => exact absurd types (ackTypeString_ne_readiness t t')
  | readiness t attestation inputs =>
    cases y with
    | binding b environment network => exact absurd types.symm (bindingTypeString_ne_readiness t)
    | ack t' message inputs' => exact absurd types.symm (ackTypeString_ne_readiness t' t)
    | readiness t' attestation' inputs' =>
      obtain rfl := ReadinessType.typeString_injective types
      exact ⟨⟨rfl, ReadinessType.same_of hx hy⟩, domains⟩

/-- Two signed records of one digest are the same. -/
theorem digests_never_collide (x y : Signed) (d : Word) (hx : x.digest = .ok d)
    (hy : y.digest = .ok d) (apart : Distinguishes keccak256 (x.used ++ y.used)) :
    x.Same y := by
  obtain ⟨domain, members, domain_ok, members_ok, rfl⟩ := Signed.digest_ok hx
  obtain ⟨domain', members', domain_ok', members_ok', same⟩ := Signed.digest_ok hy
  have subX : x.used ⊆ x.used ++ y.used := List.subset_append_left _ _
  have subY : y.used ⊆ x.used ++ y.used := List.subset_append_right _ _
  have typed := apart.eq (subX (by simp [Signed.used, domain_ok, members_ok]))
    (subY (by simp [Signed.used, domain_ok', members_ok'])) same
  obtain ⟨separators, structs⟩ := typedPreimage_injective typed
  have domains := hashWords_inj apart
    (subX (by simp [Signed.used, DomainInputs.used, mem_preimage domain_ok]))
    (subY (by simp [Signed.used, DomainInputs.used, mem_preimage domain_ok'])) separators
  have records := hashWords_inj apart
    (subX (by simp [Signed.used, mem_preimage members_ok]))
    (subY (by simp [Signed.used, mem_preimage members_ok'])) structs
  rw [← domains] at domain_ok'
  rw [← records] at members_ok'
  have inputs := DomainInputs.same_of apart domain_ok domain_ok'
    (fun m mem => subX (by simp [Signed.used, mem]))
    fun m mem => subY (by simp [Signed.used, mem])
  exact Signed.same_of apart members_ok members_ok' inputs subX subY

end Digests

/-! ## Two spellings of one record -/

def sampleCorridorNetwork : NetworkIdentity where
  aztecChainId := .text "11155111"
  protocolVersion := .text "679261766"
  rollupAddress := "0xb6b6b6b6b6b6b6b6b6b6b6b6b6b6b6b6b6b6b6b6"
  l1ChainId := .text "11155111"
  genesisOrNetworkDigest := hex64 0x6e6e6e6e6e6e6e6e6e6e6e6e6e6e6e6e6e6e6e6e6e6e6e6e6e6e6e6e6e6e6e6e

/-- A root update, with its root and its chain spelled as given. -/
def sampleRootUpdate (root : String) (chain : UintLike) : Signed :=
  .readiness .rootUpdate { root, rootBlock := 3062, attestedAt := .ofInt 1899999000 }
    (.readiness chain "staging" sampleCorridorNetwork
      "0x4d4d4d4d4d4d4d4d4d4d4d4d4d4d4d4d4d4d4d4d4d4d4d4d4d4d4d4d4d4d4d4d")

def lowerRootUpdate : Signed :=
  sampleRootUpdate "0x0abc0abc0abc0abc0abc0abc0abc0abc0abc0abc0abc0abc0abc0abc0abc0abc"
    (.text "84532")

def upperRootUpdate : Signed :=
  sampleRootUpdate "0x0ABC0ABC0ABC0ABC0ABC0ABC0ABC0ABC0ABC0ABC0ABC0ABC0ABC0ABC0ABC0ABC"
    (.bigint 84532)

/-- Two spellings with one digest. -/
theorem digests_never_collide_respelled :
    @Signed.digest documentedEthers lowerRootUpdate = @Signed.digest documentedEthers
      upperRootUpdate ∧ lowerRootUpdate.Same upperRootUpdate := by
  let := documentedEthers
  have digests : (lowerRootUpdate.digest).isOk = true ∧
      lowerRootUpdate.digest = upperRootUpdate.digest ∧
      upperRootUpdate.used = lowerRootUpdate.used ∧
      (lowerRootUpdate.used.map keccak256).Nodup := by
    decide +kernel
  obtain ⟨accepted, same, used, apart⟩ := digests
  refine ⟨same, ?_⟩
  cases digest : lowerRootUpdate.digest with
  | error e =>
    rw [digest] at accepted
    cases accepted
  | ok d =>
    refine digests_never_collide lowerRootUpdate upperRootUpdate d digest (same ▸ digest) ?_
    rw [used]
    exact (Distinguishes.of_nodup apart).mono (by simp)

end XochiSdk.Signer
