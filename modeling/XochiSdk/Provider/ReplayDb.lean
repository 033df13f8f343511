import XochiSdk.Js.Map
import XochiSdk.Sdk.OracleLite

/-!
# The signing ledger

`packages/provider/src/replay-db.ts`, with the signing boundary under it (`validatedSignDigest` of
`keystore.ts`, `signPayloadHash` of `signer.ts`). Byte arrays are lists of bytes, and copying them
is left out. What secp256k1 and the commitment hash compute is a parameter.
-/

namespace XochiSdk.Provider

open XochiSdk.Js

abbrev Octets := List UInt8

/-- What the packages under the ledger compute. -/
structure Curve (Signature : Type) where
  /-- `Signature.fromCompact`, where it does not throw. -/
  fromCompact : Octets → Option Signature
  hasHighS : Signature → Bool
  /-- `secp256k1.verify(signature, digest, publicKey, { lowS: true })`. -/
  verify : Signature → Octets → Octets → Bool
  /-- `signature.addRecoveryBit(bit).recoverPublicKey(digest).toRawBytes(false)`. -/
  recoverPublicKey : Signature → Nat → Octets → Option Octets
  /-- `ProjectivePoint.fromHex` does not throw. -/
  isPoint : Octets → Bool
  computeSignerPubkeyHash : Octets → Octets → Octets
  /-- A commitment is a field element, printed as 32 bytes. -/
  commitment_length : ∀ x y, (computeSignerPubkeyHash x y).length = 32

/-- `SignSignalsResult`. -/
structure SignSignalsResult where
  signature : Octets
  pubkeyX : Octets
  pubkeyY : Octets
  signerPubkeyHash : Octets
  payloadHash : Octets
  deriving DecidableEq

/-- `DigestSignerIdentitySnapshot`. -/
structure Identity where
  publicKeyX : Octets
  publicKeyY : Octets
  label : String

/-- `uncompressedPublicKey`. -/
def uncompressedPublicKey (identity : Identity) : Octets :=
  4 :: (identity.publicKeyX ++ identity.publicKeyY)

section

variable {Signature : Type} (curve : Curve Signature)

/-- `snapshotDigestSignerIdentity` of a signer that declares the identity. -/
def snapshotDigestSignerIdentity (signer : Identity) : Except String Identity :=
  if signer.publicKeyX.length ≠ 32 ∨ signer.publicKeyY.length ≠ 32 then
    .error ("digest signer " ++ signer.label ++ " must expose 32-byte public-key coordinates")
  else if ¬curve.isPoint (uncompressedPublicKey signer) then
    .error ("digest signer " ++ signer.label ++ " exposed an invalid secp256k1 public key")
  else .ok signer

/-- `validatedSignDigest`, where the adapter answers with `adapterSignature`. -/
def validatedSignDigest (identity : Identity) (digest adapterSignature : Octets) :
    Except String Octets :=
  if digest.length ≠ 32 then
    .error ("digest must be 32 bytes; got " ++ toString digest.length)
  else do
    let identity ← snapshotDigestSignerIdentity curve identity
    let signer := "digest signer " ++ identity.label
    if adapterSignature.length ≠ 64 then
      .error (signer ++ " returned an invalid signature; expected 64-byte r || s")
    else match curve.fromCompact adapterSignature with
      | none => .error (signer ++ " returned an invalid compact signature")
      | some signature =>
        if curve.hasHighS signature then
          .error (signer ++ " returned a non-canonical high-S signature")
        else if ¬curve.verify signature digest (uncompressedPublicKey identity) then
          .error (signer ++ " returned a signature for a different key")
        else if [0, 1].any fun bit => curve.recoverPublicKey signature bit digest ==
            some (uncompressedPublicKey identity) then .ok adapterSignature
        else .error (signer ++ " signature has no Ethereum recovery bit")

def signPayloadHash (identity : Identity) (payloadHash adapterSignature : Octets) :
    Except String SignSignalsResult := do
  let signature ← validatedSignDigest curve identity payloadHash adapterSignature
  return {
    signature
    pubkeyX := identity.publicKeyX
    pubkeyY := identity.publicKeyY
    signerPubkeyHash := curve.computeSignerPubkeyHash identity.publicKeyX identity.publicKeyY
    payloadHash }

def resultMatchesIdentity (result : SignSignalsResult) (publicKeyX publicKeyY : Octets) : Bool :=
  result.pubkeyX == publicKeyX && result.pubkeyY == publicKeyY

def validateReplayResult (stored : SignSignalsResult) (identity : Identity) (payloadHash : Octets) :
    Except String SignSignalsResult :=
  if stored.signature.length ≠ 64 ∨ stored.pubkeyX.length ≠ 32 ∨ stored.pubkeyY.length ≠ 32 ∨
      stored.signerPubkeyHash.length ≠ 32 ∨ stored.payloadHash.length ≠ 32 then
    .error "replay DB returned a bundle with invalid field lengths"
  else if ¬resultMatchesIdentity stored identity.publicKeyX identity.publicKeyY then
    .error "replay DB returned a bundle for a different signer identity"
  else if stored.payloadHash ≠ payloadHash then
    .error "replay DB returned a bundle for a different payload hash"
  else match curve.fromCompact stored.signature with
    | none => .error "replay DB returned an invalid compact signature"
    | some signature =>
      if curve.hasHighS signature then
        .error "replay DB returned a non-canonical high-S signature"
      else if ¬curve.verify signature payloadHash (uncompressedPublicKey identity) then
        .error "replay DB returned a signature that does not match its payload and signer"
      else if stored.signerPubkeyHash ≠
          curve.computeSignerPubkeyHash identity.publicKeyX identity.publicKeyY then
        .error "replay DB returned an incorrect signer commitment"
      else .ok stored

/-- `ReplayRecordResult`. -/
structure ReplayRecordResult where
  result : SignSignalsResult
  inserted : Bool

/-- `LedgeredSignResult`. -/
structure LedgeredSignResult where
  result : SignSignalsResult
  replayed : Bool

/-- The end of `signThroughLedger` for a bundle that the lookup found. -/
def replayRecorded (identity : Identity) (payloadHash : Octets) (recorded : SignSignalsResult) :
    Except String LedgeredSignResult := do
  let validated ← validateReplayResult curve recorded identity payloadHash
  return ⟨validated, true⟩

/-- The end of `signThroughLedger` for a candidate that was recorded. -/
def settleCanonical (identity : Identity) (payloadHash : Octets) (candidate : SignSignalsResult)
    (canonical : ReplayRecordResult) : Except String LedgeredSignResult := do
  let validated ← validateReplayResult curve canonical.result identity payloadHash
  if canonical.inserted ∧ validated ≠ candidate then
    .error "replay DB claimed to retain the candidate but returned a different bundle"
  else return ⟨validated, !canonical.inserted⟩

end

/-! ## The store in memory -/

/-- What a record is kept under. -/
structure DbKey where
  submitter : Int
  payloadHash : Octets
  deriving DecidableEq

/-- `value.toString(16)` of a big integer. -/
def signedHex (value : Int) : List Char :=
  match value with
  | .ofNat n => Sdk.hexText n
  | .negSucc n => '-' :: Sdk.hexText (n + 1)

/-- `keyFor`. -/
def keyFor (key : DbKey) : List Char :=
  signedHex key.submitter ++ ':' :: key.payloadHash.flatMap byteChars

structure LedgerEntry where
  timestamp : Int
  result : SignSignalsResult

/-- `MemoryReplayDb`; a map has one entry a key. -/
structure MemoryReplayDb where
  entries : JsMap (List Char) LedgerEntry
  retentionSeconds : Nat
  maxEntries : Nat
  once : entries.KeysOnce
  positive : 0 < maxEntries

namespace MemoryReplayDb

/-- `evictExpired`, at a time in seconds. -/
def evictExpired (now : Int) (db : MemoryReplayDb) : MemoryReplayDb :=
  { db with
    entries := ⟨db.entries.entries.filter fun e => !(e.2.timestamp < now - db.retentionSeconds)⟩
    once := db.once.sublist ((List.filter_sublist).map _) }

/-- What is kept under a key. -/
def retained (db : MemoryReplayDb) (key : DbKey) : Option SignSignalsResult :=
  (db.entries.get (keyFor key)).map (·.result)

def lookup (now : Int) (db : MemoryReplayDb) (key : DbKey) :
    Option SignSignalsResult × MemoryReplayDb :=
  ((db.evictExpired now).retained key, db.evictExpired now)

/-- `while (this.entries.size > this.maxEntries)`: the entries set first are dropped first. -/
def dropOldest (maxEntries : Nat) : List (List Char × LedgerEntry) → List (List Char × LedgerEntry)
  | [] => []
  | e :: es => if (e :: es).length > maxEntries then dropOldest maxEntries es else e :: es

theorem dropOldest_suffix (maxEntries : Nat) (es : List (List Char × LedgerEntry)) :
    dropOldest maxEntries es <:+ es := by
  induction es with
  | nil => exact List.suffix_rfl
  | cons e es ih =>
    rw [dropOldest]
    split_ifs
    · exact ih.trans (List.suffix_cons e es)
    · exact List.suffix_rfl

/-- The entry set anew, and the oldest dropped. -/
def retain (db : MemoryReplayDb) (key : DbKey) (entry : LedgerEntry) : MemoryReplayDb :=
  { db with
    entries := ⟨dropOldest db.maxEntries
      ((db.entries.delete (keyFor key)).set (keyFor key) entry).entries⟩
    once := (JsMap.keysOnce_set (db.once.sublist ((List.filter_sublist).map _)) _ _).sublist
      ((dropOldest_suffix _ _).sublist.map _) }

/-- `recordCanonical`, of a store whose expired records are gone. -/
def recordSwept (db : MemoryReplayDb) (key : DbKey) (timestamp : Int) (result : SignSignalsResult) :
    ReplayRecordResult × MemoryReplayDb :=
  match db.retained key with
  | some existing =>
    if resultMatchesIdentity existing result.pubkeyX result.pubkeyY then (⟨existing, false⟩, db)
    else (⟨result, true⟩, db.retain key ⟨timestamp, result⟩)
  | none => (⟨result, true⟩, db.retain key ⟨timestamp, result⟩)

def recordCanonical (now : Int) (db : MemoryReplayDb) (key : DbKey) (timestamp : Int)
    (result : SignSignalsResult) : ReplayRecordResult × MemoryReplayDb :=
  (db.evictExpired now).recordSwept key timestamp result

end MemoryReplayDb

end XochiSdk.Provider
