import XochiSdk.Signer.Shielded

/-!
# The recipient's descriptor, message and signature

`packages/signer/src/shielded-recipient.ts`: the descriptor's digest and the address it must
derive, the wrapper over a digest, and the Schnorr check over Grumpkin. The sponge hash is the
one `@zkpassport/poseidon2` exports.
-/

namespace XochiSdk.Signer

open XochiSdk.Js XochiSdk.Library

/-- What the signer takes from `@zkpassport/poseidon2`. -/
class Poseidon2 where
  poseidon2Hash : List Int → Int

export Poseidon2 (poseidon2Hash)

/-! ## Grumpkin: `y^2 = x^3 - 17` over the BN254 scalar field, in Jacobian coordinates -/

def fieldR : Int := aztecFieldModulus

/-- Grumpkin group order. -/
def grumpkinOrder : Nat := 0x30644e72e131a029b85045b68181585d97816a916871ca8d3c208c16d87cfd47

structure GrumpkinPoint where
  x : Int
  y : Int

/-- `Z = 0` is the point at infinity. -/
structure Jacobian where
  X : Int
  Y : Int
  Z : Int

def grumpkinGenerator : GrumpkinPoint :=
  ⟨1, 0x0000000000000002cf135e7506a45d632d270d45f1181294833fc48d823f272c⟩

/-- `m`: the residue in `[0, r)`. -/
def modField (a : Int) : Int := a % fieldR

/-- Extended Euclid; the remainder falls at every pass, so `fuel` is one more than the first. -/
def invertLoop : Nat → Int → Int → Int → Int → Int
  | 0, t, _, _, _ => t
  | fuel + 1, t, newT, r, newR =>
    if newR = 0 then t
    else invertLoop fuel newT (t - r / newR * newT) newR (r - r / newR * newR)

def invert (a : Int) : Int :=
  modField (invertLoop ((modField a).toNat + 1) 0 1 fieldR (modField a))

def doubleJ (p : Jacobian) : Jacobian :=
  if p.Z = 0 ∨ p.Y = 0 then ⟨0, 1, 0⟩
  else
    let A := modField (p.X * p.X)
    let B := modField (p.Y * p.Y)
    let C := modField (B * B)
    let D := modField (2 * (modField ((p.X + B) * (p.X + B)) - A - C))
    let E := modField (3 * A)
    let X := modField (E * E - 2 * D)
    ⟨X, modField (E * (D - X) - 8 * C), modField (2 * p.Y * p.Z)⟩

def addJ (p q : Jacobian) : Jacobian :=
  if p.Z = 0 then q
  else if q.Z = 0 then p
  else
    let z1z1 := modField (p.Z * p.Z)
    let z2z2 := modField (q.Z * q.Z)
    let u1 := modField (p.X * z2z2)
    let u2 := modField (q.X * z1z1)
    let s1 := modField (p.Y * q.Z * z2z2)
    let s2 := modField (q.Y * p.Z * z1z1)
    if u1 = u2 then if s1 = s2 then doubleJ p else ⟨0, 1, 0⟩
    else
      let h := modField (u2 - u1)
      let i := modField (4 * h * h)
      let j := modField (h * i)
      let r := modField (2 * (s2 - s1))
      let v := modField (u1 * i)
      let X := modField (r * r - j - 2 * v)
      ⟨X, modField (r * (v - X) - 2 * s1 * j),
        modField ((modField ((p.Z + q.Z) * (p.Z + q.Z)) - z1z1 - z2z2) * h)⟩

/-- Double and add over the binary digits of `e`, of which `digits` are left. -/
def mulLoop : Nat → Nat → Jacobian → Jacobian → Jacobian
  | 0, _, out, _ => out
  | digits + 1, e, out, acc =>
    if e = 0 then out
    else mulLoop digits (e / 2) (if e % 2 = 1 then addJ out acc else out) (doubleJ acc)

/-- A scalar below the order has at most 254 digits. -/
def mulJ (k : Nat) (p : GrumpkinPoint) : Jacobian :=
  mulLoop 254 (k % grumpkinOrder) ⟨0, 1, 0⟩ ⟨p.x, p.y, 1⟩

def affine (p : Jacobian) : Option GrumpkinPoint :=
  if p.Z = 0 then none
  else
    let zi := invert p.Z
    let zi2 := modField (zi * zi)
    some ⟨modField (p.X * zi2), modField (p.Y * zi2 * zi)⟩

/-- A finite Grumpkin point. -/
def isGrumpkinPoint (p : GrumpkinPoint) : Bool :=
  p.x ≥ 0 && p.x < fieldR && p.y ≥ 0 && p.y < fieldR &&
    modField (p.y * p.y) == modField (p.x * p.x * p.x - 17)

/-! ## RecipientDescriptor -/

/-- The public inputs that recompute the address of a stock `SchnorrAccount`. -/
structure RecipientDescriptor where
  aztecAddress : String
  classId : String
  salt : String
  deployer : String
  signingPublicKeyX : String
  signingPublicKeyY : String
  npkMHash : String
  ivpkMX : String
  ivpkMY : String
  ovpkMHash : String
  tpkMHash : String
  mspkMHash : String
  fbpkMHash : String
  network : NetworkIdentity

def recipientDescriptorTypeString : String :=
  "RecipientDescriptor(bytes32 aztecAddress,bytes32 classId,bytes32 salt,bytes32 deployer," ++
    "bytes32 signingPublicKeyX,bytes32 signingPublicKeyY,bytes32 npkMHash,bytes32 ivpkMX," ++
    "bytes32 ivpkMY,bytes32 ovpkMHash,bytes32 tpkMHash,bytes32 mspkMHash,bytes32 fbpkMHash," ++
    "NetworkIdentity network)" ++ networkIdentityTypeString

/-- The members read as field elements. -/
structure DescriptorFields where
  aztecAddress : Nat
  classId : Nat
  salt : Nat
  deployer : Nat
  signingPublicKeyX : Nat
  signingPublicKeyY : Nat
  npkMHash : Nat
  ivpkMX : Nat
  ivpkMY : Nat
  ovpkMHash : Nat
  tpkMHash : Nat
  mspkMHash : Nat
  fbpkMHash : Nat

def refuseRecipient {α : Type} (code : RefusalCode) (field detail : String) : Checked α :=
  refuser .recipient code field detail

/-- Every member a field element; the address nonzero. -/
def descriptorFields (d : RecipientDescriptor) : Checked DescriptorFields :=
  withRefusalsAs .recipient do
    let aztecAddress ← assertAztecBytes32 "aztecAddress" d.aztecAddress
    let classId ← aztecField "classId" d.classId
    let salt ← aztecField "salt" d.salt
    let deployer ← aztecField "deployer" d.deployer
    let signingPublicKeyX ← aztecField "signingPublicKeyX" d.signingPublicKeyX
    let signingPublicKeyY ← aztecField "signingPublicKeyY" d.signingPublicKeyY
    let npkMHash ← aztecField "npkMHash" d.npkMHash
    let ivpkMX ← aztecField "ivpkMX" d.ivpkMX
    let ivpkMY ← aztecField "ivpkMY" d.ivpkMY
    let ovpkMHash ← aztecField "ovpkMHash" d.ovpkMHash
    let tpkMHash ← aztecField "tpkMHash" d.tpkMHash
    let mspkMHash ← aztecField "mspkMHash" d.mspkMHash
    let fbpkMHash ← aztecField "fbpkMHash" d.fbpkMHash
    pure
      { aztecAddress := aztecAddress.toNat, classId, salt, deployer, signingPublicKeyX,
        signingPublicKeyY, npkMHash, ivpkMX, ivpkMY, ovpkMHash, tpkMHash, mspkMHash, fbpkMHash }

/-- `descriptorDigest = hashStruct(RecipientDescriptor)`. -/
def hashRecipientDescriptor [Ethers] (d : RecipientDescriptor) : Checked Word := do
  let f ← descriptorFields d
  let network ← withRefusalsAs .recipient (hashNetworkIdentity d.network)
  pure (hashWords [ethersId recipientDescriptorTypeString, uintWord f.aztecAddress,
    uintWord f.classId, uintWord f.salt, uintWord f.deployer, uintWord f.signingPublicKeyX,
    uintWord f.signingPublicKeyY, uintWord f.npkMHash, uintWord f.ivpkMX, uintWord f.ivpkMY,
    uintWord f.ovpkMHash, uintWord f.tpkMHash, uintWord f.mspkMHash, uintWord f.fbpkMHash,
    network])

/-- The stock account pinned for one Aztec SDK line. -/
structure AztecRecipientProfile where
  id : String
  sdk : String
  pinnedClassId : String
  contractAddressSeparator : Int

def aztecRecipientProfiles : List AztecRecipientProfile :=
  [⟨"aztec-5.2.0", "@aztec/accounts 5.2.0 SchnorrAccount",
    "0x0833459dfb3c430326e50f2367ec093e07b4ed37d23e85cc759ef4f9aa800edd", 4099338721⟩,
   ⟨"aztec-6.0.0", "@aztec-labs/accounts 6.0.0 SchnorrAccount",
    "0x2f7d07db78643da21eefb63ee07d28d1cc23dd86ec9b3a9fa29323bf17269d15", 993442748⟩]

/-- No character past ASCII folds to a hex digit, so the class is compared folding ASCII. -/
def pinnedProfile (profile : AztecRecipientProfile) : Checked AztecRecipientProfile :=
  match aztecRecipientProfiles.find? (·.id == profile.id) with
  | some pinned =>
    if profile.sdk == pinned.sdk && asciiLower profile.pinnedClassId == pinned.pinnedClassId &&
        profile.contractAddressSeparator == pinned.contractAddressSeparator then .ok pinned
    else refuseRecipient .classNotPinned "profile"
      s!"{profile.id} does not match an AZTEC_RECIPIENT_PROFILES entry"
  | none => refuseRecipient .classNotPinned "profile"
      s!"{profile.id} does not match an AZTEC_RECIPIENT_PROFILES entry"

def sepFunctionArgs : Int := 3576554347
def sepInitializer : Int := 385396519
def sepSaltedInitializationHash : Int := 2763052992
def sepPartialAddress : Int := 2103633018
def sepPublicKeysHash : Int := 777457226
def sepSinglePublicKeyHash : Int := 3452068255
/-- Selector of `constructor(Field,Field)`. -/
def schnorrAccountConstructorSelector : Int := 0xcd9728af

section Verify

variable [Ethers] [Poseidon2]

/-- The preaddress: the hash of the account's keys and its partial address. -/
def recipientPreaddress (f : DescriptorFields) (pinned : AztecRecipientProfile) : Int :=
  let argsHash := poseidon2Hash [sepFunctionArgs, f.signingPublicKeyX, f.signingPublicKeyY]
  let initializationHash :=
    poseidon2Hash [sepInitializer, schnorrAccountConstructorSelector, argsHash]
  let saltedInitializationHash := poseidon2Hash
    [sepSaltedInitializationHash, f.salt, initializationHash, f.deployer, 0]
  let partialAddress := poseidon2Hash [sepPartialAddress, f.classId, saltedInitializationHash]
  let ivpkMHash := poseidon2Hash [sepSinglePublicKeyHash, f.ivpkMX, f.ivpkMY]
  let publicKeysHash := poseidon2Hash
    [sepPublicKeysHash, f.npkMHash, ivpkMHash, f.ovpkMHash, f.tpkMHash, f.mspkMHash, f.fbpkMHash]
  poseidon2Hash [pinned.contractAddressSeparator, publicKeysHash, partialAddress]

/-- `hex32`, on values below the field order. -/
def hex32 (v : Int) : String := hex64 v.toNat

/-- The address a descriptor's inputs produce under `profile`. -/
def deriveRecipientAddress (d : RecipientDescriptor) (profile : AztecRecipientProfile) :
    Checked String := do
  let pinned ← pinnedProfile profile
  let f ← descriptorFields d
  match affine (addJ (mulJ (recipientPreaddress f pinned).toNat grumpkinGenerator)
      ⟨f.ivpkMX, f.ivpkMY, 1⟩) with
  | some point => pure (hex32 point.x)
  | none => refuseRecipient .addressMismatch "aztecAddress" "address point at infinity"

/-- The fail-closed descriptor check: encoding, class, points, address. -/
def verifyRecipientDescriptor (d : RecipientDescriptor) (profile : AztecRecipientProfile) :
    Checked String := do
  let pinned ← pinnedProfile profile
  let f ← descriptorFields d
  let _ ← withRefusalsAs .recipient (hashNetworkIdentity d.network)
  if hex64 f.classId != pinned.pinnedClassId then
    refuseRecipient .classNotPinned "classId" s!"not {pinned.sdk} {pinned.pinnedClassId}"
  if !isGrumpkinPoint ⟨f.signingPublicKeyX, f.signingPublicKeyY⟩ then
    refuseRecipient .signingKeyInvalid "signingPublicKeyY" "not a finite Grumpkin point"
  if !isGrumpkinPoint ⟨f.ivpkMX, f.ivpkMY⟩ then
    refuseRecipient .ivpkInvalid "ivpkMY" "not a finite Grumpkin point"
  let address ← deriveRecipientAddress d pinned
  if address != hex64 f.aztecAddress then
    refuseRecipient .addressMismatch "aztecAddress" s!"the descriptor derives {address}"
  pure address

/-! ## Recipient message wrapper -/

/-- `P`, as bytes: `0x19`, then 35 of ASCII. -/
def recipientMessagePrefix : List UInt8 := 0x19 :: utf8 "Xochi Shielded Recipient Message v1"

/-- `m = OS2IP(u[0:48]) mod r`: the value the account signs. -/
def recipientMessage (digest : Word) : Nat :=
  let u := (keccak256 (recipientMessagePrefix ++ digest.bytes ++ [0x00])).bytes ++
    (keccak256 (recipientMessagePrefix ++ digest.bytes ++ [0x01])).bytes
  ofBytes (u.take 48) % aztecFieldModulus

/-! ## Schnorr over Grumpkin -/

def schnorrChallengeDst : Int :=
  0x024c76938ed06b8ec1d9094b1013d190baa4011372f0604643bda812a63b832e

/-- Verifies `signature = s || e` over `messageField` under the account's signing key. -/
def verifyRecipientSchnorr (publicKeyX publicKeyY : String) (messageField : Nat)
    (signature : String) : Bool :=
  match hexBytes 64 signature, hexBytes 32 publicKeyX, hexBytes 32 publicKeyY with
  | some signature, some x, some y =>
    let s := ofBytes (signature.bytes.take 32)
    let e := ofBytes (signature.bytes.drop 32)
    let P : GrumpkinPoint := ⟨x.toNat, y.toNat⟩
    if s = 0 || e = 0 || s ≥ grumpkinOrder || e ≥ aztecFieldModulus ||
        messageField ≥ aztecFieldModulus then false
    else if !isGrumpkinPoint P then false
    else
      match affine (addJ (mulJ s grumpkinGenerator) (mulJ e P)) with
      | none => false
      | some point =>
        poseidon2Hash [schnorrChallengeDst, point.x, P.x, P.y, messageField] == e
  | _, _, _ => false

end Verify

end XochiSdk.Signer
