import XochiSdk.Signer.ShieldedValues

/-!
# The shielded domain and the recipient binding

`packages/signer/src/shielded.ts`: the network identity, the salted domain and the struct a
source wallet signs. Every hash is over one word for each member; the words stand here apart
from the hash, so that what is hashed can be compared.
-/

namespace XochiSdk.Signer

open XochiSdk.Js XochiSdk.Library

def shieldedDomainVersion : String := "1"
def shieldedBindingDomainName : String := "Xochi Shielded Recipient"

def shieldedDomainTypeString : String :=
  "EIP712Domain(string name,string version,uint256 chainId,bytes32 salt)"

def networkIdentityTypeString : String :=
  "NetworkIdentity(uint256 aztecChainId,uint256 protocolVersion,address rollupAddress," ++
    "uint256 l1ChainId,bytes32 genesisOrNetworkDigest)"

def recipientBindingTypeString : String :=
  "RecipientBinding(address sourceWallet,uint256 sourceChainId,bytes32 aztecRecipient," ++
    "bytes32 aztecToken,bytes32 descriptorDigest,bytes32 corridorId,uint32 corridorRevision," ++
    "bytes32 manifestDigest,bytes32 nonce,uint64 challengeExpiry,string purpose)"

def recipientBindingPurpose : String := "xochi.shielded.recipient-binding.v1"

/-- An integer member as its word. -/
def uintWord (n : Nat) : Word := Bytes.ofNat 32 n

/-- An address member as its word. -/
def addressWord (a : Bytes 20) : Word := Bytes.widen 32 a

theorem uintWord_inj {a b : Nat} (ha : a ≤ uint256Max) (hb : b ≤ uint256Max)
    (h : uintWord a = uintWord b) : a = b := by
  unfold uint256Max at ha hb
  exact Word.ofNat_inj (by omega) (by omega) h

theorem addressWord_inj {a b : Bytes 20} (h : addressWord a = addressWord b) : a = b :=
  Bytes.widen_inj (by decide) h

/-! ## NetworkIdentity and the salted domain -/

/-- The approved Aztec network a shielded corridor runs on. -/
structure NetworkIdentity where
  aztecChainId : UintLike
  protocolVersion : UintLike
  rollupAddress : String
  l1ChainId : UintLike
  genesisOrNetworkDigest : String

structure ShieldedDomain where
  name : String
  version : String
  chainId : String
  salt : Word

section Hashes

variable [Ethers]

def networkIdentityWords (n : NetworkIdentity) : Checked (List Word) := do
  let genesis ← bytes32 "network.genesisOrNetworkDigest" n.genesisOrNetworkDigest
  require (genesis.toNat != 0) .digestZero "network.genesisOrNetworkDigest" "zero"
  let aztecChainId ← aztecUint "network.aztecChainId" n.aztecChainId
  let protocolVersion ← aztecUint "network.protocolVersion" n.protocolVersion
  let rollupAddress ← evmAddress "network.rollupAddress" n.rollupAddress
  let l1ChainId ← chainId "network.l1ChainId" n.l1ChainId
  pure [ethersId networkIdentityTypeString, uintWord aztecChainId, uintWord protocolVersion,
    addressWord rollupAddress, uintWord l1ChainId, genesis]

/-- `keccak(coder.encode(types, values))`, where every member fills a word. -/
def hashWords (ws : List Word) : Word := keccak256 (encodeWords ws)

/-- `network_identity_digest`: the EIP-712 hashStruct of NetworkIdentity. -/
def hashNetworkIdentity (n : NetworkIdentity) : Checked Word := do
  pure (hashWords (← networkIdentityWords n))

/-- `salt = keccak256(abi.encode(keccak256(bytes(environment)), network_identity_digest))`. -/
def shieldedDomainSalt (environment : String) (network : NetworkIdentity) : Checked Word := do
  let environment ← environmentHash environment
  let network ← hashNetworkIdentity network
  pure (hashWords [environment, network])

def shieldedDomain (name : String) (sourceChainId : UintLike) (environment : String)
    (network : NetworkIdentity) : Checked ShieldedDomain := do
  let chain ← chainId "sourceChainId" sourceChainId
  let salt ← shieldedDomainSalt environment network
  pure { name, version := shieldedDomainVersion, chainId := chain.repr, salt }

/-- `Domain (binding)`: chainId is the source chain. -/
def bindingDomain (sourceChainId : UintLike) (environment : String)
    (network : NetworkIdentity) : Checked ShieldedDomain :=
  shieldedDomain shieldedBindingDomainName sourceChainId environment network

def domainWords (domain : ShieldedDomain) : Checked (List Word) := do
  let chain ← chainId "domain.chainId" (.text domain.chainId)
  pure [ethersId shieldedDomainTypeString, ethersId domain.name, ethersId domain.version,
    uintWord chain, domain.salt]

def shieldedDomainSeparator (domain : ShieldedDomain) : Checked Word := do
  pure (hashWords (← domainWords domain))

/-! ## RecipientBinding -/

structure RecipientBinding where
  sourceWallet : String
  sourceChainId : UintLike
  aztecRecipient : String
  aztecToken : String
  descriptorDigest : String
  corridorId : String
  corridorRevision : UintLike
  manifestDigest : String
  nonce : String
  challengeExpiry : UintLike
  purpose : String

def recipientBindingWords (b : RecipientBinding) : Checked (List Word) := do
  require (b.purpose == recipientBindingPurpose) .purposeMismatch "purpose"
    ("expected " ++ recipientBindingPurpose)
  let sourceWallet ← evmAddress "sourceWallet" b.sourceWallet
  let sourceChainId ← chainId "sourceChainId" b.sourceChainId
  let aztecRecipient ← assertAztecBytes32 "aztecRecipient" b.aztecRecipient
  let aztecToken ← assertAztecBytes32 "aztecToken" b.aztecToken
  let descriptorDigest ← bytes32 "descriptorDigest" b.descriptorDigest
  let corridorId ← bytes32 "corridorId" b.corridorId
  let corridorRevision ← uint "corridorRevision" b.corridorRevision uint32Max
  let manifestDigest ← bytes32 "manifestDigest" b.manifestDigest
  let nonce ← bytes32 "nonce" b.nonce
  let challengeExpiry ← uint "challengeExpiry" b.challengeExpiry uint64Max
  pure [ethersId recipientBindingTypeString, addressWord sourceWallet, uintWord sourceChainId,
    aztecRecipient, aztecToken, descriptorDigest, corridorId, uintWord corridorRevision,
    manifestDigest, nonce, uintWord challengeExpiry, ethersId b.purpose]

def hashRecipientBinding (b : RecipientBinding) : Checked Word := do
  pure (hashWords (← recipientBindingWords b))

/-- The EIP-712 digest the source wallet signs: the domain's chain is the binding's own. -/
def recipientBindingDigest (b : RecipientBinding) (environment : String)
    (network : NetworkIdentity) : Checked Word := do
  let structHash ← hashRecipientBinding b
  let domain ← bindingDomain b.sourceChainId environment network
  let separator ← shieldedDomainSeparator domain
  pure (typedDigest separator structHash)

end Hashes

end XochiSdk.Signer
