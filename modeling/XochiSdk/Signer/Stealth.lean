import XochiSdk.Signer.Ethers
import XochiSdk.Signer.StealthEcdh

/-!
# Stealth payments

`packages/signer/src/stealth.ts` and `stealth-receive.ts`: what a sender derives from a
meta-address, and what the receiver derives from the announcement. The two run apart, on
scalars in any accepted spelling, and meet in the address and the view tag.
-/

namespace XochiSdk.Signer

open XochiSdk.Js XochiSdk.Library

/-- A private scalar as bytes or hex. -/
inductive StealthScalar where
  | bytes (bs : List UInt8)
  | hex (s : String)

/-- The members of a meta-address that the derivation reads. -/
structure StealthMetaAddress where
  spendingPubKey : String
  viewingPubKey : String

/-- What a sender derives for one payment. -/
structure StealthSettlement where
  stealthAddress : String
  ephemeralPubKey : String
  viewTag : UInt8

/-- The members of an announcement that the receiver reads. -/
structure StealthAnnouncement where
  ephemeralPubKey : String
  metadata : String

structure StealthDerivation where
  stealthPrivKey : List UInt8
  stealthEOA : String

/-- `toBytes` of `stealth-receive.ts`. -/
def scalarBytes : StealthScalar → Except StealthError (List UInt8)
  | .bytes bs => .ok bs
  | .hex s => keyBytes s

/-- `parseInt(text, 16)`; `none` is `NaN`. -/
def parseHexInt (cs : List Char) : Option Int :=
  let digits (cs : List Char) : Option Int :=
    let unprefixed := match cs with
      | '0' :: 'x' :: rest | '0' :: 'X' :: rest => rest
      | cs => cs
    let run := unprefixed.takeWhile isHexDigit
    if run.isEmpty then none else some (readDigits 16 run : Int)
  match cs.dropWhile isWhiteSpace with
  | '-' :: rest => (digits rest).map (- ·)
  | '+' :: rest => digits rest
  | cs => digits cs

/-- `clean.slice(0, 2)`: a character outside the basic plane is two units already. -/
def firstTwo : List Char → Option (List Char)
  | c :: rest =>
    if 0x10000 ≤ c.toNat then some [c]
    else match rest with
      | d :: _ => some [c, d]
      | [] => none
  | [] => none

/-- The view tag of a metadata blob; `none` is the throw on non-hex. -/
def extractViewTag (metadata : String) : Option Int :=
  match firstTwo (strip0x metadata) with
  | none => some 0
  | some two => parseHexInt two

section Derive

variable [Ethers] {Point : Type} [Secp256k1 Point] [DecidableEq Point]

variable (Point) in
/-- `stealth_priv = (spending_priv + keccak256(shared)) mod n`. -/
def deriveStealthPrivateKey (spendingPrivHex viewingPrivHex ephemeralPubHex : String) :
    Except StealthError String := do
  let spendingPrivateKey ← assertValidPrivateKey spendingPrivHex "spendingPrivHex"
  let viewingPrivateKey ← assertValidPrivateKey viewingPrivHex "viewingPrivHex"
  let viewingBytes ← keyBytes viewingPrivateKey
  let hashSs ← sharedSecretHash Point ephemeralPubHex viewingBytes
  let spendingInt ← keyBytes spendingPrivateKey
  pure (hex64 ((ofBytes spendingInt + hashSs.toNat) % N))

/-- The address of a point: the last twenty bytes of the hash of its two coordinates. -/
def pointAddress (P : Point) : Except StealthError (Bytes 20) := do
  let uncompressed ← rawBytes false P
  pure (hashAddress (keccak256 uncompressed.tail))

variable (Point) in
/-- `new ethers.Wallet(privateKey).address`. -/
def stealthAddressFromPrivateKey (privHex : String) : Except StealthError String := do
  let privateKey ← assertValidPrivateKey privHex "privHex"
  let scalar ← keyBytes privateKey
  let address ← pointAddress (ofBytes scalar • (Secp256k1.base : Point))
  pure (Ethers.checksum address)

variable (Point) in
/-- Compressed public key of a private scalar. -/
def compressedPublicKey (privateKey : List UInt8) : Except StealthError String := do
  let P ← multiply (Secp256k1.base : Point) (modOrder privateKey)
  let compressed ← rawBytes true P
  pure (hexlify compressed)

variable (Point) in
/-- The hash both sides share, and the stealth public key `P + hash * G`. -/
def senderKey (metaAddress : StealthMetaAddress) (ephemeral : List UInt8) :
    Except StealthError (Word × Point) := do
  let hash ← sharedSecretHash Point metaAddress.viewingPubKey ephemeral
  let tweakPoint ← multiply (Secp256k1.base : Point) (modOrder hash.bytes)
  let spending ← readPoint Point metaAddress.spendingPubKey
  pure (hash, spending + tweakPoint)

variable (Point) in
/-- The one-time stealth address for a meta-address and an ephemeral private key. -/
def computeStealthAddress (metaAddress : StealthMetaAddress) (ephemeralPrivKey : StealthScalar) :
    Except StealthError StealthSettlement := do
  let ephemeral ← scalarBytes ephemeralPrivKey
  let (hash, stealthPubKey) ← senderKey Point metaAddress ephemeral
  let address ← pointAddress stealthPubKey
  let ephemeralPubKey ← compressedPublicKey Point ephemeral
  pure
    { stealthAddress := hexlify address.bytes, ephemeralPubKey, viewTag := hash.bytes.headD 0 }

variable (Point) in
/-- Whether the announcement's view tag is the one of `viewingPriv * ephemeralPub`. -/
def checkViewTag (announcement : StealthAnnouncement) (viewingPrivKey : StealthScalar) :
    Except StealthError Bool := do
  let viewing ← scalarBytes viewingPrivKey
  let hash ← sharedSecretHash Point announcement.ephemeralPubKey viewing
  match extractViewTag announcement.metadata with
  | some tag => pure (parseHexInt (((hexlify hash.bytes).toList.drop 2).take 2) == some tag)
  | none => .error .library

variable (Point) in
/-- The per-payment spending key and owner for an announcement. -/
def deriveStealthOwner (announcement : StealthAnnouncement)
    (spendingPrivKey viewingPrivKey : StealthScalar) : Except StealthError StealthDerivation := do
  let spending ← scalarBytes spendingPrivKey
  let viewing ← scalarBytes viewingPrivKey
  let stealthPrivHex ← deriveStealthPrivateKey Point (hexlify spending) (hexlify viewing)
    announcement.ephemeralPubKey
  let stealthPrivKey ← keyBytes stealthPrivHex
  let stealthEOA ← stealthAddressFromPrivateKey Point stealthPrivHex
  pure { stealthPrivKey, stealthEOA }

end Derive

/-! ## Spellings -/

/-- The scalar in any number of bytes, read modulo the order: what the sender accepts. -/
def SpellsModulo (value : StealthScalar) (k : Nat) : Prop :=
  ∃ bs, scalarBytes value = .ok bs ∧ modOrder bs = k

/-- The scalar in 32 bytes: what the receiver accepts. -/
def SpellsKey (value : StealthScalar) (k : Nat) : Prop :=
  ∃ bs, scalarBytes value = .ok bs ∧ bs.length = 32 ∧ ofBytes bs = k

/-- Metadata whose first byte, after an optional `0x`, is the tag. -/
def BeginsWith (metadata : String) (tag : UInt8) : Prop :=
  ∃ a b rest, strip0x metadata = a :: b :: rest ∧ isHexDigit a = true ∧ isHexDigit b = true ∧
    digitValue a * 16 + digitValue b = tag.toNat

theorem strip0x_hexlify (bs : List UInt8) : strip0x (hexlify bs) = bs.flatMap byteChars := by
  unfold strip0x
  rw [toList_hexlify]
  rfl

theorem keyBytes_of {text : String} {bs : List UInt8}
    (h : getBytes (String.ofList ('0' :: 'x' :: strip0x text)) = some bs) :
    keyBytes text = .ok bs := by
  unfold keyBytes
  rw [h]

@[simp] theorem keyBytes_hexlify (bs : List UInt8) : keyBytes (hexlify bs) = .ok bs := by
  apply keyBytes_of
  rw [strip0x_hexlify]
  exact getBytes_hexlify bs

/-- The key check on a printed scalar. -/
theorem assertValidPrivateKey_hexlify {bs : List UInt8} (length : bs.length = 32)
    (positive : 0 < ofBytes bs) (below : ofBytes bs < N) (label : String) :
    assertValidPrivateKey (hexlify bs) label = .ok (hexlify bs) := by
  obtain ⟨digits, count, spelled⟩ := pairBytes_printed bs
  have prefixed : startsWithHex (hexlify bs) = true := by
    unfold startsWithHex
    rw [toList_hexlify]
    rfl
  have shaped : isHexOfLength 64 (hexlify bs) = true :=
    isHexOfLength_iff.mpr ⟨_, toList_hexlify bs, by omega, digits⟩
  have nonempty : bs.flatMap byteChars ≠ [] := by
    intro empty
    rw [empty] at count
    simp only [List.length_nil] at count
    omega
  have scalar : bigInt (hexlify bs) = some (ofBytes bs : Int) := by
    rw [bigInt_hex (toList_hexlify bs) nonempty digits,
      readDigits_pairBytes _ (by omega) digits, spelled]
  unfold assertValidPrivateKey
  simp only [prefixed, if_true, shaped, scalar]
  rw [if_neg]
  simp only [Bool.or_eq_true, beq_iff_eq, decide_eq_true_eq, not_or]
  omega

theorem N_lt : N < 256 ^ 32 := by decide

theorem ofBytes_hex64 {k : Nat} (below : k < N) : ofBytes (toBytes 32 k) = k := by
  rw [ofBytes_toBytes, Nat.mod_eq_of_lt (lt_trans below N_lt)]

/-- Two hex digits parse as the byte they spell. -/
theorem parseHexInt_pair {a b : Char} (ha : isHexDigit a = true) (hb : isHexDigit b = true) :
    parseHexInt [a, b] = some ((digitValue a * 16 + digitValue b : Nat) : Int) := by
  have known : (hexChars.all fun a => hexChars.all fun b => decide (parseHexInt [a, b] =
      some ((digitValue a * 16 + digitValue b : Nat) : Int))) = true := by decide +kernel
  have row := hexChars_all known ha
  exact of_decide_eq_true (hexChars_all row hb)

/-- The first two digits of a printed hash parse as its first byte. -/
theorem parseHexInt_hash (w : Word) :
    parseHexInt (((hexlify w.bytes).toList.drop 2).take 2) =
      some ((w.bytes.headD 0).toNat : Int) := by
  rw [toList_hexlify]
  match bytes : w.bytes, w.length_bytes with
  | b :: rest, _ =>
    have small := b.toNat_lt
    obtain ⟨high, highValue⟩ := hexDigit_spells (show b.toNat / 16 < 16 by omega)
    obtain ⟨low, lowValue⟩ := hexDigit_spells (show b.toNat % 16 < 16 by omega)
    have value : b.toNat / 16 * 16 + b.toNat % 16 = b.toNat := by omega
    change parseHexInt [hexDigit (b.toNat / 16), hexDigit (b.toNat % 16)] = some (b.toNat : Int)
    rw [parseHexInt_pair high low, highValue, lowValue, value]

/-- The tag a blob begins with is the one read from it. -/
theorem extractViewTag_of {metadata : String} {tag : UInt8} (h : BeginsWith metadata tag) :
    extractViewTag metadata = some (tag.toNat : Int) := by
  obtain ⟨a, b, rest, shape, ha, hb, value⟩ := h
  have narrow : ¬ 0x10000 ≤ a.toNat := by
    have := isHexDigit_ascii ha
    omega
  unfold extractViewTag
  rw [shape]
  simp only [firstTwo, if_neg narrow]
  rw [parseHexInt_pair ha hb, value]

section Agreement

variable [Ethers] {Point : Type} [Secp256k1 Point] [DecidableEq Point]

/-- The receiver's key: the spending scalar and the shared hash, reduced once. -/
def stealthScalar (Point : Type) [Secp256k1 Point] (p secret : Nat) : Nat :=
  (p + (secretHash Point secret).toNat) % N

theorem deriveStealthPrivateKey_ok {spending viewing : List UInt8} {ephemeral : String}
    {p v r : Nat} (hp : 0 < p ∧ p < N) (hv : 0 < v ∧ v < N) (hr : 0 < r ∧ r < N)
    (spendingKey : spending.length = 32 ∧ ofBytes spending = p)
    (viewingKey : viewing.length = 32 ∧ ofBytes viewing = v)
    (reads : readPoint Point ephemeral = .ok (r • Secp256k1.base)) :
    deriveStealthPrivateKey Point (hexlify spending) (hexlify viewing) ephemeral =
      .ok (hex64 (stealthScalar Point p (v * r))) := by
  obtain ⟨spendingLength, rfl⟩ := spendingKey
  obtain ⟨viewingLength, rfl⟩ := viewingKey
  have reduced : modOrder viewing = ofBytes viewing := Nat.mod_eq_of_lt hv.2
  unfold deriveStealthPrivateKey
  rw [assertValidPrivateKey_hexlify spendingLength hp.1 hp.2,
    assertValidPrivateKey_hexlify viewingLength hv.1 hv.2]
  simp only [bind, Except.bind, keyBytes_hexlify, sharedSecretHash_ok hr hv reads reduced]
  rfl

/-- The address of the receiver's key is that of its public point. -/
theorem stealthAddressFromPrivateKey_ok {k : Nat} (hk : 0 < k ∧ k < N) {address : Bytes 20}
    (located : pointAddress (k • (Secp256k1.base : Point)) = .ok address) :
    stealthAddressFromPrivateKey Point (hex64 k) = .ok (Ethers.checksum address) := by
  have read := ofBytes_hex64 hk.2
  unfold stealthAddressFromPrivateKey hex64
  rw [assertValidPrivateKey_hexlify (length_toBytes 32 k) (by omega) (by omega)]
  simp only [bind, Except.bind, keyBytes_hexlify, read, located]
  rfl

omit [Ethers] [DecidableEq Point] in
theorem readPoint_compressed {P : Point} (finite : P ≠ 0) :
    readPoint Point (hexlify (Secp256k1.toRawBytes true P)) = .ok P := by
  unfold readPoint
  rw [keyBytes_hexlify]
  simp only [bind, Except.bind, Secp256k1.fromHex_compressed _ finite]
  rfl

omit [Ethers] [DecidableEq Point] in
theorem readPoint_of {text : String} {P : Point}
    (h : (getBytes (String.ofList ('0' :: 'x' :: strip0x text))).bind Secp256k1.fromHex = some P) :
    readPoint Point text = .ok P := by
  obtain ⟨bs, bytes, point⟩ := Option.bind_eq_some_iff.mp h
  unfold readPoint
  rw [keyBytes_of bytes]
  simp only [bind, Except.bind, point]
  rfl

theorem pointAddress_ok {P : Point} (finite : P ≠ 0) :
    ∃ address, pointAddress P = .ok address := by
  unfold pointAddress
  rw [rawBytes_ok false finite]
  exact ⟨_, rfl⟩

/-- The sender's hash and key: the tweak is the hash reduced modulo the order. -/
theorem senderKey_eq {metaAddress : StealthMetaAddress} {ephemeral : List UInt8} {p v r : Nat}
    (hv : 0 < v ∧ v < N) (hr : 0 < r ∧ r < N)
    (spend : readPoint Point metaAddress.spendingPubKey = .ok (p • Secp256k1.base))
    (view : readPoint Point metaAddress.viewingPubKey = .ok (v • Secp256k1.base))
    (scalar : modOrder ephemeral = r) :
    senderKey Point metaAddress ephemeral =
      if (secretHash Point (r * v)).toNat % N = 0 then .error .library
      else .ok (secretHash Point (r * v),
        stealthScalar Point p (r * v) • (Secp256k1.base : Point)) := by
  have tweak : modOrder (secretHash Point (r * v)).bytes =
      (secretHash Point (r * v)).toNat % N := rfl
  unfold senderKey
  rw [sharedSecretHash_ok hv hr view scalar]
  simp only [bind, Except.bind, spend, tweak]
  by_cases zero : (secretHash Point (r * v)).toNat % N = 0
  · rw [zero, multiply_zero, if_pos rfl]
  · have sum : p • (Secp256k1.base : Point) + ((secretHash Point (r * v)).toNat % N) •
        Secp256k1.base = stealthScalar Point p (r * v) • Secp256k1.base := by
      rw [stealthScalar, mod_nsmul, mod_nsmul, add_nsmul]
    have below : (secretHash Point (r * v)).toNat % N < N := Nat.mod_lt _ N_prime.pos
    rw [multiply_ok (by omega) below, if_neg zero]
    simp only [sum]
    rfl

omit [Ethers] in
theorem compressedPublicKey_ok {privateKey : List UInt8} {r : Nat} (hr : 0 < r ∧ r < N)
    (scalar : modOrder privateKey = r) :
    compressedPublicKey Point privateKey =
      .ok (hexlify (Secp256k1.toRawBytes true (r • (Secp256k1.base : Point)))) := by
  have finite := nsmul_ne_zero (Secp256k1.base_ne_zero : (Secp256k1.base : Point) ≠ 0)
    (not_dvd_of_range hr.1 hr.2)
  unfold compressedPublicKey
  rw [scalar, multiply_ok hr.1 hr.2]
  simp only [bind, Except.bind, rawBytes_ok true finite]
  rfl

/-- Sender and receiver agree. The receiver's key is not zero; then the receiver has an owner,
and the sender has an address exactly if the hash does not vanish modulo the order. Whenever
both are there, the address is the owner's, the receiver's key is the discrete logarithm of the
sender's stealth public key, and the receiver's filter keeps every blob under the sender's
tag. -/
theorem stealth_agreement {metaAddress : StealthMetaAddress} {ephemeral spending viewing :
      StealthScalar} {announcement : StealthAnnouncement} {p v r : Nat}
    (hp : 0 < p ∧ p < N) (hv : 0 < v ∧ v < N) (hr : 0 < r ∧ r < N)
    (spend : readPoint Point metaAddress.spendingPubKey = .ok (p • Secp256k1.base))
    (view : readPoint Point metaAddress.viewingPubKey = .ok (v • Secp256k1.base))
    (ephemeralKey : SpellsModulo ephemeral r) (spendingKey : SpellsKey spending p)
    (viewingKey : SpellsKey viewing v)
    (announced : readPoint Point announcement.ephemeralPubKey = .ok (r • Secp256k1.base))
    (nonzero : stealthScalar Point p (r * v) ≠ 0) :
    ∃ owner, deriveStealthOwner Point announcement spending viewing = .ok owner ∧
      ((∃ settlement, computeStealthAddress Point metaAddress ephemeral = .ok settlement) ↔
        ¬ N ∣ (secretHash Point (r * v)).toNat) ∧
      ∀ settlement, computeStealthAddress Point metaAddress ephemeral = .ok settlement →
        settlement.stealthAddress = asciiLower owner.stealthEOA ∧
        readPoint Point settlement.ephemeralPubKey = .ok (r • Secp256k1.base) ∧
        (∃ ephemeralBytes hash, scalarBytes ephemeral = .ok ephemeralBytes ∧
          senderKey Point metaAddress ephemeralBytes =
            .ok (hash, ofBytes owner.stealthPrivKey • Secp256k1.base)) ∧
        (BeginsWith announcement.metadata settlement.viewTag →
          checkViewTag Point announcement viewing = .ok true) := by
  obtain ⟨ephemeralBytes, ephemeralRead, ephemeralValue⟩ := ephemeralKey
  obtain ⟨spendingBytes, spendingRead, spendingValue⟩ := spendingKey
  obtain ⟨viewingBytes, viewingRead, viewingValue⟩ := viewingKey
  have commuted : v * r = r * v := Nat.mul_comm v r
  have range : 0 < stealthScalar Point p (r * v) ∧ stealthScalar Point p (r * v) < N :=
    ⟨Nat.pos_of_ne_zero nonzero, Nat.mod_lt _ N_prime.pos⟩
  have finite := nsmul_ne_zero (Secp256k1.base_ne_zero : (Secp256k1.base : Point) ≠ 0)
    (not_dvd_of_range range.1 range.2)
  obtain ⟨address, located⟩ := pointAddress_ok finite
  have key := deriveStealthPrivateKey_ok hp hv hr spendingValue viewingValue
    announced
  rw [commuted] at key
  have owned : deriveStealthOwner Point announcement spending viewing =
      .ok ⟨toBytes 32 (stealthScalar Point p (r * v)), Ethers.checksum address⟩ := by
    unfold deriveStealthOwner
    simp only [spendingRead, viewingRead, bind, Except.bind, key,
      stealthAddressFromPrivateKey_ok range located]
    unfold hex64
    rw [keyBytes_hexlify]
    rfl
  have sent : computeStealthAddress Point metaAddress ephemeral =
      if (secretHash Point (r * v)).toNat % N = 0 then .error .library
      else .ok ⟨hexlify address.bytes,
        hexlify (Secp256k1.toRawBytes true (r • (Secp256k1.base : Point))),
        (secretHash Point (r * v)).bytes.headD 0⟩ := by
    unfold computeStealthAddress
    rw [ephemeralRead]
    simp only [bind, Except.bind, senderKey_eq hv hr spend view ephemeralValue]
    by_cases zero : (secretHash Point (r * v)).toNat % N = 0
    · simp only [if_pos zero]
    · have compressed : compressedPublicKey Point _ = _ := compressedPublicKey_ok hr ephemeralValue
      simp only [if_neg zero, located, compressed]
      rfl
  refine ⟨_, owned, ?_, ?_⟩
  · rw [sent, Nat.dvd_iff_mod_eq_zero]
    constructor
    · rintro ⟨settlement, gave⟩ zero
      rw [if_pos zero] at gave
      cases gave
    · intro tweaked
      rw [if_neg tweaked]
      exact ⟨_, rfl⟩
  · intro settlement gave
    rw [sent] at gave
    split at gave
    · cases gave
    next tweaked =>
    cases gave
    have ephemeralFinite := nsmul_ne_zero (Secp256k1.base_ne_zero : (Secp256k1.base : Point) ≠ 0)
      (not_dvd_of_range hr.1 hr.2)
    refine ⟨(Ethers.checksum_lower address).symm, ?_, ?_, ?_⟩
    · exact readPoint_compressed ephemeralFinite
    · refine ⟨ephemeralBytes, secretHash Point (r * v), ephemeralRead, ?_⟩
      rw [senderKey_eq hv hr spend view ephemeralValue, if_neg tweaked,
        ofBytes_hex64 range.2]
    · intro begins
      have reduced : modOrder viewingBytes = v := by
        rw [modOrder, viewingValue.2, Nat.mod_eq_of_lt hv.2]
      unfold checkViewTag
      simp only [viewingRead, bind, Except.bind, sharedSecretHash_ok hr hv announced reduced,
        extractViewTag_of begins, parseHexInt_hash, commuted]
      simp only [beq_self_eq_true]
      rfl

end Agreement

/-! ## One payment -/

namespace Sample

/-- The curve with each point named by its discrete logarithm. The points of the payment below
have their real encodings, every other point one that no real point has. -/
def rawBytes (compressed : Bool) (P : ZMod N) : List UInt8 :=
  match compressed, P.val with
  | true, 1 => toBytes 33 0x0279be667ef9dcbbac55a06295ce870b07029bfcdb2dce28d959f2815b16f81798
  | true, 2 => toBytes 33 0x02c6047f9441ed7d6d3045406e95c07cd85c778e4b8cef3ca7abac09b95c709ee5
  | true, 3 => toBytes 33 0x02f9308a019258c31049344f85f89d5229b531c845836f99b08601f113bce036f9
  | true, 6 => toBytes 33 0x03fff97bd5755eeea420453a14355235d382f6472f8568a18b2f057a1460297556
  | false, 0xcd36b55d26196fc0b96312b01dd978fc5e380c8afeab49aae283f0ca6a814ff5 =>
    toBytes 65 0x04845733776e43bb1f6bf88a380278dfd090813629683ff879749ec60b1982edc29005919f605923b1dd1f9f5087a5f5f4ecff56c38d3cdeb648a041f7aaa0b851
  | _, k => toBytes 33 (5 * 2 ^ 256 + k)

def fromHex (bs : List UInt8) : Option (ZMod N) :=
  match ofBytes bs with
  | 0x0279be667ef9dcbbac55a06295ce870b07029bfcdb2dce28d959f2815b16f81798 => some (1 : Nat)
  | 0x02c6047f9441ed7d6d3045406e95c07cd85c778e4b8cef3ca7abac09b95c709ee5 => some (2 : Nat)
  | 0x02f9308a019258c31049344f85f89d5229b531c845836f99b08601f113bce036f9 => some (3 : Nat)
  | 0x03fff97bd5755eeea420453a14355235d382f6472f8568a18b2f057a1460297556 => some (6 : Nat)
  | n => if 5 * 2 ^ 256 ≤ n then some ((n - 5 * 2 ^ 256 : Nat) : ZMod N) else none

instance : NeZero N := ⟨N_prime.ne_zero⟩

theorem fromHex_rawBytes (P : ZMod N) : fromHex (rawBytes true P) = some P := by
  have named : P = ((P.val : Nat) : ZMod N) := (ZMod.natCast_zmod_val P).symm
  have below : P.val < 2 ^ 256 := lt_trans (ZMod.val_lt P) (by decide)
  unfold rawBytes
  split
  all_goals try contradiction
  · next h => rw [named, h]; decide +kernel
  · next h => rw [named, h]; decide +kernel
  · next h => rw [named, h]; decide +kernel
  · next h => rw [named, h]; decide +kernel
  · have read : ofBytes (toBytes 33 (5 * 2 ^ 256 + P.val)) = 5 * 2 ^ 256 + P.val := by
      rw [ofBytes_toBytes, Nat.mod_eq_of_lt]
      omega
    unfold fromHex
    rw [read]
    split
    · omega
    · omega
    · omega
    · omega
    · rw [if_pos (by omega), Nat.add_sub_cancel_left, ← named]

instance curve : Secp256k1 (ZMod N) where
  base := 1
  base_ne_zero := by
    have : Fact (1 < N) := ⟨N_prime.one_lt⟩
    exact one_ne_zero
  order P := by rw [nsmul_eq_mul, ZMod.natCast_self, zero_mul]
  fromHex := fromHex
  toRawBytes := rawBytes
  fromHex_compressed P _ := fromHex_rawBytes P

theorem nsmul_base (k : Nat) : k • (Secp256k1.base : ZMod N) = (k : ZMod N) := by
  change k • (1 : ZMod N) = k
  rw [nsmul_eq_mul, mul_one]

/-- The hash of the payment's secret point. -/
theorem secretHash_six : @secretHash (ZMod N) _ documentedEthers 6 = Library.keccak256
    (toBytes 33 0x03fff97bd5755eeea420453a14355235d382f6472f8568a18b2f057a1460297556) := by
  have six : ((6 : Nat) : ZMod N).val = 6 := ZMod.val_cast_of_lt (by decide)
  have raw : rawBytes true ((6 : Nat) : ZMod N) =
      toBytes 33 0x03fff97bd5755eeea420453a14355235d382f6472f8568a18b2f057a1460297556 := by
    unfold rawBytes
    rw [six]
    rfl
  unfold secretHash
  rw [nsmul_base]
  exact congrArg _ raw

end Sample

/-- Keys 1 and 2, the ephemeral scalar 3 as one byte, the meta-address with and without `0x`, the
announced key in capitals. -/
theorem stealth_agreement_sample :
    let metaAddress : StealthMetaAddress :=
      ⟨"0x0279be667ef9dcbbac55a06295ce870b07029bfcdb2dce28d959f2815b16f81798",
        "02c6047f9441ed7d6d3045406e95c07cd85c778e4b8cef3ca7abac09b95c709ee5"⟩
    let announcement : StealthAnnouncement :=
      ⟨"02F9308A019258C31049344F85F89D5229B531C845836F99B08601F113BCE036F9", "0xCD"⟩
    let spending := StealthScalar.hex
      "0000000000000000000000000000000000000000000000000000000000000001"
    let viewing := StealthScalar.bytes (toBytes 32 2)
    ∃ settlement owner,
      @computeStealthAddress documentedEthers (ZMod N) _ _ metaAddress (.bytes [3]) =
        .ok settlement ∧
      @deriveStealthOwner documentedEthers (ZMod N) _ _ announcement spending viewing =
        .ok owner ∧
      settlement.stealthAddress = asciiLower owner.stealthEOA ∧
      (BeginsWith announcement.metadata settlement.viewTag →
        @checkViewTag documentedEthers (ZMod N) _ _ announcement viewing = .ok true) := by
  intro metaAddress announcement spending viewing
  have one : (1 : Nat) • (Secp256k1.base : ZMod N) = 1 := one_nsmul _
  have two : (2 : Nat) • (Secp256k1.base : ZMod N) = 2 := Sample.nsmul_base 2
  have three : (3 : Nat) • (Secp256k1.base : ZMod N) = 3 := Sample.nsmul_base 3
  have range {k : Nat} (positive : 0 < k) (small : k < 10) : 0 < k ∧ k < N :=
    ⟨positive, lt_trans small (by decide)⟩
  have spendingRead : keyBytes
      "0000000000000000000000000000000000000000000000000000000000000001" = .ok (toBytes 32 1) :=
    keyBytes_of (by decide +kernel)
  obtain ⟨owner, owned, gives, agrees⟩ := @stealth_agreement documentedEthers (ZMod N) _ _
    metaAddress (.bytes [3]) spending viewing announcement 1 2 3
    (range (by decide) (by decide)) (range (by decide) (by decide))
    (range (by decide) (by decide))
    (by rw [one]; exact readPoint_of (by decide +kernel))
    (by rw [two]; exact readPoint_of (by decide +kernel))
    ⟨[3], rfl, by decide +kernel⟩
    ⟨toBytes 32 1, spendingRead, by decide +kernel⟩
    ⟨toBytes 32 2, rfl, by decide +kernel⟩
    (by rw [three]; exact readPoint_of (by decide +kernel))
    (by unfold stealthScalar; rw [Sample.secretHash_six]; decide +kernel)
  obtain ⟨settlement, sent⟩ := gives.mpr (by rw [Sample.secretHash_six]; decide +kernel)
  obtain ⟨address, _, _, tagged⟩ := agrees settlement sent
  exact ⟨settlement, owner, sent, owned, address, tagged⟩

end XochiSdk.Signer
