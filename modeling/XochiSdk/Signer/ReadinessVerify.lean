import XochiSdk.Signer.ShieldedReadiness

/-!
# Readiness verification

`packages/signer/src/shielded-readiness.ts`: `parseReadinessRecord` and `verifyReadinessRecord`
over any value that is presented as a record. A refusal that prints the refused value throws
something else where `JSON.stringify` does.
-/

namespace XochiSdk.Signer

open XochiSdk.Js XochiSdk.Library

/-! ## Untrusted values -/

/-- A member of a presented record. Of an object, an array, a function or a symbol it is known
what `JSON.stringify` comes to: a text, `undefined` or a throw. -/
inductive Untrusted where
  | undefined
  | null
  | bool (b : Bool)
  | number (x : JsNumber)
  | bigint (n : Int)
  | text (s : String)
  | other (printed : Option String)
  | unprintable

/-- `JSON.stringify(v)` in a template literal; `none` is its throw. -/
def Untrusted.printed : Untrusted → Option String
  | .undefined => some "undefined"
  | .null => some "null"
  | .bool b => some (toString b)
  | .number x => some (if x.isFinite then x.text else "null")
  | .bigint _ => none
  | .text s => some (jsonString s)
  | .other printed => some (printed.getD "undefined")
  | .unprintable => none

/-- An object: its own enumerable keys, and what each key reads, also from its prototypes. No
getter of it throws. -/
structure UntrustedObject where
  keys : List String
  get : String → Option Untrusted
  get_keys : ∀ k ∈ keys, (get k).isSome = true

/-- What is presented as a record: an object that is no array, or anything else. -/
inductive Presented where
  | object (r : UntrustedObject)
  | notObject

/-- The rules of the module's own refusals. -/
inductive ReadinessCode where
  | shared (code : RefusalCode)
  | recordNotObject | missingField | unknownField | forbiddenField | notBool | blockNotString
  | timestampNotInteger | signatureMalformed | signerMismatch | attestationStale
  | attestationFromFuture | blockBeforeMinimum | negativeReadiness | policyOutOfRange
  deriving DecidableEq

/-- What is thrown: a `ReadinessEncodingError`, another refusal, or the language's error. -/
inductive ReadinessThrown where
  | refused (code : ReadinessCode) (field detail : String)
  | value (e : RefusalError)
  | typeError
  deriving DecidableEq

abbrev Readiness (α : Type) := Except ReadinessThrown α

/-- `refuseReadiness`. -/
def refuseReadiness {α : Type} (code : ReadinessCode) (field detail : String) : Readiness α :=
  .error (.refused code field detail)

/-- A value rule, as it throws. -/
def valueRule {α : Type} (fn : Checked α) : Readiness α := fn.mapError .value

/-- `readinessRules` around code that may throw anything. -/
def ReadinessThrown.ruled : ReadinessThrown → ReadinessThrown
  | .value e =>
    if e.name = .shielded then .refused (.shared e.code) e.field e.detail else .value e
  | x => x

def rules {α : Type} (fn : Readiness α) : Readiness α := fn.mapError ReadinessThrown.ruled

/-- What was already ruled: a readiness refusal is the module's own. -/
def ReadinessThrown.raised (e : RefusalError) : ReadinessThrown :=
  if e.name = .readiness then .refused (.shared e.code) e.field e.detail else .value e

def raise {α : Type} (fn : Checked α) : Readiness α := fn.mapError ReadinessThrown.raised

/-! ## Members -/

/-- A refusal that prints the value. -/
def refusePrinted {α : Type} (v : Untrusted) (refusal : String → ReadinessThrown) : Readiness α :=
  match v.printed with
  | some shown => .error (refusal shown)
  | none => .error .typeError

/-- `bytes32(field, v as string)`. -/
def bytes32Of (field : String) : Untrusted → Readiness Word
  | .text s => valueRule (bytes32 field s)
  | v => refusePrinted v fun shown =>
    .value ⟨.shielded, .notBytes32, field, "expected 0x + 64 hex, got " ++ shown⟩

/-- `assertAztecBytes32(field, v as string)`. -/
def aztecBytes32Of (field : String) : Untrusted → Readiness Word
  | .text s => valueRule (assertAztecBytes32 field s)
  | v => bytes32Of field v

def height (field : String) : Untrusted → Readiness Nat
  | .text s => valueRule (uint field (.text s) uint64Max)
  | _ => refuseReadiness .blockNotString field "block heights cross JSON as decimal strings"

def seconds (v : Untrusted) : Readiness JsNumber :=
  let refused : Readiness JsNumber := refusePrinted v fun shown =>
    .refused .timestampNotInteger "attestedAt" ("got " ++ shown)
  match v with
  | .number x =>
    match safeInteger x with
    | some n => if n < 0 then refuseReadiness (.shared .uintOutOfRange) "attestedAt" "negative"
      else .ok x
    | none => refused
  | _ => refused

def bool (field : String) : Untrusted → Readiness Bool
  | .bool b => .ok b
  | v => refusePrinted v fun shown => .refused .notBool field ("got " ++ shown)

/-! ## Records -/

/-- `MEMBERS`. -/
def ReadinessType.members : ReadinessType → List String
  | .membership => ["descriptorDigest", "root", "member", "rootBlock", "attestedAt"]
  | .recipientDeployment =>
    ["descriptorDigest", "recipient", "classId", "deployed", "finalBlock", "attestedAt"]
  | .rootUpdate => ["root", "rootBlock", "attestedAt"]

def ReadinessType.text : ReadinessType → String
  | .membership => "Membership"
  | .recipientDeployment => "RecipientDeployment"
  | .rootUpdate => "RootUpdate"

/-- `allowed`. -/
def ReadinessType.allowed (t : ReadinessType) : List String := t.members ++ ["signature"]

/-- `FORBIDDEN`: the leaf position. -/
def forbiddenMembers : List String := ["leafIndex", "leafPath", "siblingPath", "path", "witness"]

/-- No key is forbidden or unknown. -/
def checkKeys (t : ReadinessType) : List String → Readiness Unit
  | [] => .ok ()
  | k :: rest =>
    if forbiddenMembers.contains k then
      refuseReadiness .forbiddenField k "never part of a readiness record"
    else if !t.allowed.contains k then
      refuseReadiness .unknownField k ("not a " ++ t.text ++ " member")
    else checkKeys t rest

/-- Every member is there. -/
def checkPresent (t : ReadinessType) (r : UntrustedObject) : List String → Readiness Unit
  | [] => .ok ()
  | k :: rest =>
    if (r.get k).isSome then checkPresent t r rest
    else refuseReadiness .missingField k (t.text ++ " requires it")

def UntrustedObject.member (r : UntrustedObject) (k : String) : Untrusted :=
  (r.get k).getD .undefined

/-- `/^0x[0-9a-fA-F]{130}$/`, with the bytes. -/
def signatureOf : Untrusted → Readiness (Bytes 65)
  | .text s =>
    match hexBytes 65 s with
    | some bytes => .ok bytes
    | none => refuseReadiness .signatureMalformed "signature" "expected 0x + 65 bytes"
  | _ => refuseReadiness .signatureMalformed "signature" "expected 0x + 65 bytes"

/-- The members of a `Membership`, in the order they are read; a digest is kept lower-case. -/
def membershipOf (r : UntrustedObject) (attestedAt : JsNumber) :
    Readiness MembershipAttestation := do
  let descriptorDigest ← bytes32Of "descriptorDigest" (r.member "descriptorDigest")
  let root ← bytes32Of "root" (r.member "root")
  let member ← bool "member" (r.member "member")
  let rootBlock ← height "rootBlock" (r.member "rootBlock")
  let _ ← valueRule (aztecField "root" (hexlify root.bytes))
  pure
    { descriptorDigest := hexlify descriptorDigest.bytes, root := hexlify root.bytes, member
      rootBlock := rootBlock, attestedAt }

def recipientDeploymentOf (r : UntrustedObject) (attestedAt : JsNumber) :
    Readiness RecipientDeploymentAttestation := do
  let descriptorDigest ← bytes32Of "descriptorDigest" (r.member "descriptorDigest")
  let recipient ← aztecBytes32Of "recipient" (r.member "recipient")
  let classId ← aztecBytes32Of "classId" (r.member "classId")
  let deployed ← bool "deployed" (r.member "deployed")
  let finalBlock ← height "finalBlock" (r.member "finalBlock")
  pure
    { descriptorDigest := hexlify descriptorDigest.bytes, recipient := hexlify recipient.bytes
      classId := hexlify classId.bytes, deployed, finalBlock := finalBlock, attestedAt }

def rootUpdateOf (r : UntrustedObject) (attestedAt : JsNumber) :
    Readiness RootUpdateAttestation := do
  let root ← bytes32Of "root" (r.member "root")
  let rootBlock ← height "rootBlock" (r.member "rootBlock")
  let _ ← valueRule (aztecField "root" (hexlify root.bytes))
  pure { root := hexlify root.bytes, rootBlock := rootBlock, attestedAt }

def attestationOf : (t : ReadinessType) → UntrustedObject → JsNumber → Readiness t.Attestation
  | .membership => membershipOf
  | .recipientDeployment => recipientDeploymentOf
  | .rootUpdate => rootUpdateOf

/-- `parseReadinessRecord`. -/
def parseReadinessRecord (t : ReadinessType) : Presented →
    Readiness (t.Attestation × Bytes 65)
  | .notObject =>
    refuseReadiness .recordNotObject "record" "a readiness record is a JSON object"
  | .object r => do
    checkKeys t r.keys
    checkPresent t r t.allowed
    let signature ← signatureOf (r.member "signature")
    let attestedAt ← seconds (r.member "attestedAt")
    let attestation ← rules (attestationOf t r attestedAt)
    pure (attestation, signature)

/-! ## Policies -/

structure ReadinessDomainInputs where
  sourceChainId : UintLike
  environment : String
  network : NetworkIdentity
  manifestDigest : String

structure ExpectedMembership where
  descriptorDigest : String
  root : Option String

structure ExpectedDeployment where
  descriptorDigest : String
  recipient : String
  classId : String

structure ExpectedRoot where
  root : Option String

/-- `ReadinessExpectedSubjects[T]`. -/
def ReadinessType.Expected : ReadinessType → Type
  | .membership => ExpectedMembership
  | .recipientDeployment => ExpectedDeployment
  | .rootUpdate => ExpectedRoot

structure ReadinessPolicy (t : ReadinessType) where
  domain : ReadinessDomainInputs
  expectedSigner : String
  expected : t.Expected
  now : UintLike
  maxAgeSeconds : UintLike
  maxFutureSkewSeconds : UintLike
  minBlock : UintLike

def readinessMaxAgeSeconds : Nat := 86400
def readinessMaxFutureSkewSeconds : Nat := 300

structure VerifiedReadiness (t : ReadinessType) where
  attestation : t.Attestation
  signature : Bytes 65
  signer : Bytes 20

/-- `ethers.recoverAddress` over a digest and a signature's bytes; `none` is its throw. -/
class ReadinessRecovery where
  recoverAddress : Word → Bytes 65 → Option (Bytes 20)

/-- Equal to what was asked for, once that is read. -/
def assertExpected (field : String) (actual : String) (expected : Word) : Readiness Unit :=
  if actual = hexlify expected.bytes then .ok ()
  else refuseReadiness (.shared .subjectMismatch) field ("expected " ++ hexlify expected.bytes)

def assertExpectedRoot (actual : String) : Option String → Readiness Unit
  | none => .ok ()
  | some root => do
    let root ← raise (readinessRules (bytes32 "expected.root" root))
    assertExpected "root" actual root

/-- The positive state and the exact subject. -/
def checkSubject : (t : ReadinessType) → t.Attestation → t.Expected → Readiness Unit
  | .membership, (m : MembershipAttestation), (e : ExpectedMembership) => do
    if !m.member then refuseReadiness .negativeReadiness "member" "membership is false"
    else do
      let descriptor ← raise (readinessRules (bytes32 "expected.descriptorDigest"
        e.descriptorDigest))
      assertExpected "descriptorDigest" m.descriptorDigest descriptor
      assertExpectedRoot m.root e.root
  | .recipientDeployment, (d : RecipientDeploymentAttestation), (e : ExpectedDeployment) => do
    if !d.deployed then refuseReadiness .negativeReadiness "deployed" "deployment is false"
    else do
      let descriptor ← raise (readinessRules (bytes32 "expected.descriptorDigest"
        e.descriptorDigest))
      let recipient ← raise (readinessRules (assertAztecBytes32 "expected.recipient" e.recipient))
      let classId ← raise (readinessRules (assertAztecBytes32 "expected.classId" e.classId))
      assertExpected "descriptorDigest" d.descriptorDigest descriptor
      assertExpected "recipient" d.recipient recipient
      assertExpected "classId" d.classId classId
  | .rootUpdate, (u : RootUpdateAttestation), (e : ExpectedRoot) => assertExpectedRoot u.root e.root

def ReadinessType.attestedAt : (t : ReadinessType) → t.Attestation → JsNumber
  | .membership, (m : MembershipAttestation) => m.attestedAt
  | .recipientDeployment, (d : RecipientDeploymentAttestation) => d.attestedAt
  | .rootUpdate, (u : RootUpdateAttestation) => u.attestedAt

def ReadinessType.block : (t : ReadinessType) → t.Attestation → Int
  | .membership, (m : MembershipAttestation) => m.rootBlock
  | .recipientDeployment, (d : RecipientDeploymentAttestation) => d.finalBlock
  | .rootUpdate, (u : RootUpdateAttestation) => u.rootBlock

/-- The freshness and the height that a policy asks for. -/
def checkFresh {t : ReadinessType} (a : t.Attestation) (policy : ReadinessPolicy t) :
    Readiness Unit := do
  let now ← raise (readinessRules (uint "now" policy.now uint64Max))
  let maxAge ← raise (readinessRules (uint "maxAgeSeconds" policy.maxAgeSeconds
    readinessMaxAgeSeconds))
  let maxFutureSkew ← raise (readinessRules (uint "maxFutureSkewSeconds"
    policy.maxFutureSkewSeconds readinessMaxFutureSkewSeconds))
  let attestedAt := (safeInteger (t.attestedAt a)).getD 0
  if now + maxFutureSkew < attestedAt then
    refuseReadiness .attestationFromFuture "attestedAt" s!"{attestedAt} > {now}"
  else if attestedAt + maxAge < now then
    refuseReadiness .attestationStale "attestedAt" s!"{attestedAt} is too old at {now}"
  else do
    let minBlock ← raise (readinessRules (uint "minBlock" policy.minBlock uint64Max))
    if minBlock = 0 then refuseReadiness .policyOutOfRange "minBlock" "must be nonzero"
    else if t.block a < minBlock then
      refuseReadiness .blockBeforeMinimum "minBlock" s!"{t.block a} < {minBlock}"
    else .ok ()

section Verify

variable [Ethers] [ReadinessRecovery]

/-- `recoverReadinessAddress`. -/
def recoverReadinessAddress (digest : Word) (signature : Bytes 65) : Readiness (Bytes 20) :=
  match ReadinessRecovery.recoverAddress digest signature with
  | some signer => .ok signer
  | none => refuseReadiness .signatureMalformed "signature" "not a recoverable ECDSA signature"

/-- `verifyReadinessRecord`. -/
def verifyReadinessRecord (t : ReadinessType) (record : Presented) (policy : ReadinessPolicy t) :
    Readiness (VerifiedReadiness t) := do
  let (attestation, signature) ← parseReadinessRecord t record
  let domain ← raise (readinessDomain policy.domain.sourceChainId policy.domain.environment
    policy.domain.network policy.domain.manifestDigest)
  let expectedSigner ← raise (readinessRules (evmAddress "expectedSigner" policy.expectedSigner))
  let digest ← raise (readinessDigest t attestation domain)
  let signer ← recoverReadinessAddress digest signature
  if signer ≠ expectedSigner then
    refuseReadiness .signerMismatch "signature" ("recovered " ++ hexlify signer.bytes)
  else do
    checkSubject t attestation policy.expected
    checkFresh attestation policy
    pure { attestation, signature, signer }

end Verify

/-! ## What each reader accepts -/

theorem readiness_bind {α β : Type} {x : Readiness α} {f : α → Readiness β} {b : β} :
    (x >>= f) = .ok b ↔ ∃ a, x = .ok a ∧ f a = .ok b := by
  cases x <;> simp [bind, Except.bind]

theorem readiness_pure {α : Type} {a b : α} : (pure a : Readiness α) = .ok b ↔ a = b := by
  simp [pure, Except.pure]

theorem valueRule_ok {α : Type} {fn : Checked α} {a : α} : valueRule fn = .ok a ↔ fn = .ok a := by
  cases fn <;> simp [valueRule, Except.mapError]

theorem rules_ok {α : Type} {fn : Readiness α} {a : α} : rules fn = .ok a ↔ fn = .ok a := by
  cases fn <;> simp [rules, Except.mapError]

theorem raise_ok {α : Type} {fn : Checked α} {a : α} : raise fn = .ok a ↔ fn = .ok a := by
  cases fn <;> simp [raise, Except.mapError]

theorem readinessRules_ok {α : Type} {fn : Checked α} {a : α} :
    readinessRules fn = .ok a ↔ fn = .ok a := withRefusalsAs_ok

theorem refusePrinted_ok {α : Type} {v : Untrusted} {refusal : String → ReadinessThrown} {a : α} :
    refusePrinted v refusal ≠ .ok a := by
  unfold refusePrinted
  split <;> simp

theorem uint_ok_iff {field : String} {value : UintLike} {max v : Nat} :
    uint field value max = .ok v ↔ uintSpelling false value = some (v : Int) ∧ v ≤ max := by
  constructor
  · exact uint_ok
  · rintro ⟨spelled, bound⟩
    unfold uint
    rw [spelled]
    simp only [Int.toNat_natCast]
    exact if_pos ⟨Int.natCast_nonneg v, by omega⟩

theorem assertAztecBytes32_ok_iff {field value : String} {w : Word} :
    assertAztecBytes32 field value = .ok w ↔
      hexBytes 32 value = some w ∧ w.toNat ≠ 0 ∧ w.toNat < aztecFieldModulus := by
  simp only [assertAztecBytes32, checked_bind, bytes32_ok, require_ok, exists_const, pure_ok,
    bne_iff_ne, ne_eq, decide_eq_true_eq]
  constructor
  · rintro ⟨w', read, nonzero, below, rfl⟩
    exact ⟨read, nonzero, below⟩
  · rintro ⟨read, nonzero, below⟩
    exact ⟨w, read, nonzero, below, rfl⟩

theorem evmAddress_ok_iff {field value : String} {a : Bytes 20} :
    evmAddress field value = .ok a ↔ hexBytes 20 value = some a ∧ a.toNat ≠ 0 := by
  unfold evmAddress
  split
  · next a' read =>
    simp only [checked_bind, require_ok, exists_and_left, exists_const, pure_ok, bne_iff_ne, ne_eq,
      read, Option.some.injEq]
    constructor
    · rintro ⟨nonzero, rfl⟩
      exact ⟨rfl, nonzero⟩
    · rintro ⟨rfl, nonzero⟩
      exact ⟨nonzero, rfl⟩
  · next none => simp [refuseShielded, refuser, none]

theorem bytes32Of_ok {field : String} {v : Untrusted} {w : Word} :
    bytes32Of field v = .ok w ↔ ∃ s, v = .text s ∧ hexBytes 32 s = some w := by
  cases v with
  | text s => simp [bytes32Of, valueRule_ok, bytes32_ok]
  | undefined | null | bool | number | bigint | other | unprintable =>
    simp [bytes32Of, refusePrinted_ok]

theorem aztecBytes32Of_ok {field : String} {v : Untrusted} {w : Word} :
    aztecBytes32Of field v = .ok w ↔ ∃ s, v = .text s ∧ hexBytes 32 s = some w ∧
      w.toNat ≠ 0 ∧ w.toNat < aztecFieldModulus := by
  cases v with
  | text s => simp [aztecBytes32Of, valueRule_ok, assertAztecBytes32_ok_iff]
  | undefined | null | bool | number | bigint | other | unprintable =>
    simp [aztecBytes32Of, bytes32Of_ok]

theorem height_ok {field : String} {v : Untrusted} {n : Nat} :
    height field v = .ok n ↔ ∃ s, v = .text s ∧
      uintSpelling false (.text s) = some (n : Int) ∧ n ≤ uint64Max := by
  cases v with
  | text s => simp [height, valueRule_ok, uint_ok_iff]
  | undefined | null | bool | number | bigint | other | unprintable =>
    simp [height, refuseReadiness]

theorem seconds_ok {v : Untrusted} {x : JsNumber} :
    seconds v = .ok x ↔ v = .number x ∧ ∃ n : Nat, safeInteger x = some (n : Int) := by
  cases v with
  | number y =>
    unfold seconds
    simp only [Untrusted.number.injEq]
    split
    · next n read =>
      split
      · next negative =>
        simp only [refuseReadiness, reduceCtorEq, false_iff, not_and, not_exists]
        rintro rfl m same
        rw [read, Option.some.injEq] at same
        omega
      · next positive =>
        rw [Except.ok.injEq]
        constructor
        · rintro rfl
          exact ⟨rfl, n.toNat, by rw [read, Int.toNat_of_nonneg (by omega)]⟩
        · rintro ⟨rfl, -⟩
          rfl
    · next none =>
      simp only [refusePrinted_ok, false_iff, not_and, not_exists]
      rintro rfl m same
      rw [none] at same
      cases same
  | undefined | null | bool | text | bigint | other | unprintable =>
    simp [seconds, refusePrinted_ok]

theorem bool_ok {field : String} {v : Untrusted} {b : Bool} :
    bool field v = .ok b ↔ v = .bool b := by
  cases v with
  | bool c => simp [bool]
  | undefined | null | number | text | bigint | other | unprintable =>
    simp [bool, refusePrinted_ok]

theorem signatureOf_ok {v : Untrusted} {bytes : Bytes 65} :
    signatureOf v = .ok bytes ↔ ∃ s, v = .text s ∧ hexBytes 65 s = some bytes := by
  cases v with
  | text s =>
    unfold signatureOf
    simp only [Untrusted.text.injEq, exists_eq_left']
    split
    · next read => simp [read]
    · next none => simp [refuseReadiness, none]
  | undefined | null | number | bool | bigint | other | unprintable =>
    simp [signatureOf, refuseReadiness]

theorem forbidden_not_allowed (t : ReadinessType) : ∀ k ∈ forbiddenMembers, k ∉ t.allowed := by
  cases t <;> decide

theorem checkKeys_ok {t : ReadinessType} {keys : List String} {u : Unit} :
    checkKeys t keys = .ok u ↔ ∀ k ∈ keys, k ∈ t.allowed := by
  induction keys with
  | nil => simp [checkKeys]
  | cons k rest ih =>
    unfold checkKeys
    split
    · next forbidden =>
      have out := forbidden_not_allowed t k (by simpa using forbidden)
      simp [refuseReadiness, out]
    · split
      · next unknown => simp_all [refuseReadiness]
      · next known => simp_all

theorem checkPresent_ok {t : ReadinessType} {r : UntrustedObject} {keys : List String} {u : Unit} :
    checkPresent t r keys = .ok u ↔ ∀ k ∈ keys, (r.get k).isSome = true := by
  induction keys with
  | nil => simp [checkPresent]
  | cons k rest ih =>
    unfold checkPresent
    split
    · next here => simp [ih, here]
    · next absent =>
      simp only [refuseReadiness, reduceCtorEq, List.forall_mem_cons, false_iff, not_and]
      exact fun here => absurd here absent

/-! ## What is asked of a record -/

/-- 32 bytes of hex, kept lower-case. -/
def HexMember (r : UntrustedObject) (k kept : String) : Prop :=
  ∃ s w, r.member k = .text s ∧ hexBytes 32 s = some w ∧ kept = hexlify w.bytes

/-- A field element, kept lower-case. -/
def FieldMember (r : UntrustedObject) (k kept : String) : Prop :=
  ∃ s w, r.member k = .text s ∧ hexBytes 32 s = some w ∧ w.toNat < aztecFieldModulus ∧
    kept = hexlify w.bytes

/-- A nonzero field element, kept lower-case. -/
def NonzeroMember (r : UntrustedObject) (k kept : String) : Prop :=
  ∃ s w, r.member k = .text s ∧ hexBytes 32 s = some w ∧ w.toNat ≠ 0 ∧
    w.toNat < aztecFieldModulus ∧ kept = hexlify w.bytes

/-- A canonical decimal of 64 bits. -/
def HeightMember (r : UntrustedObject) (k : String) (kept : Int) : Prop :=
  ∃ s, r.member k = .text s ∧ ∃ n : Nat, uintSpelling false (.text s) = some (n : Int) ∧
    n ≤ uint64Max ∧ kept = n

/-- A safe integer that is not negative. -/
def SecondsMember (r : UntrustedObject) (kept : JsNumber) : Prop :=
  r.member "attestedAt" = .number kept ∧ ∃ n : Nat, safeInteger kept = some (n : Int)

/-- Every member of the type in its spelling. -/
def Spells : (t : ReadinessType) → UntrustedObject → t.Attestation → Prop
  | .membership, r, (m : MembershipAttestation) =>
    HexMember r "descriptorDigest" m.descriptorDigest ∧ FieldMember r "root" m.root ∧
      r.member "member" = .bool m.member ∧ HeightMember r "rootBlock" m.rootBlock ∧
      SecondsMember r m.attestedAt
  | .recipientDeployment, r, (d : RecipientDeploymentAttestation) =>
    HexMember r "descriptorDigest" d.descriptorDigest ∧ NonzeroMember r "recipient" d.recipient ∧
      NonzeroMember r "classId" d.classId ∧ r.member "deployed" = .bool d.deployed ∧
      HeightMember r "finalBlock" d.finalBlock ∧ SecondsMember r d.attestedAt
  | .rootUpdate, r, (u : RootUpdateAttestation) =>
    FieldMember r "root" u.root ∧ HeightMember r "rootBlock" u.rootBlock ∧
      SecondsMember r u.attestedAt

/-- The record is an object of exactly the type's members, spelled so, with a signature. -/
structure Parses (t : ReadinessType) (r : UntrustedObject) (a : t.Attestation)
    (signature : Bytes 65) : Prop where
  known : ∀ k ∈ r.keys, k ∈ t.allowed
  present : ∀ k ∈ t.allowed, (r.get k).isSome = true
  spells : Spells t r a
  signature : ∃ s, r.member "signature" = .text s ∧ hexBytes 65 s = some signature

theorem aztecField_hexlify {field : String} {w : Word} {n : Nat} :
    aztecField field (hexlify w.bytes) = .ok n ↔ w.toNat < aztecFieldModulus ∧ w.toNat = n := by
  simp only [aztecField, checked_bind, bytes32_ok, hexBytes_hexlify, require_ok, exists_const,
    pure_ok, decide_eq_true_eq, Option.some.injEq, exists_eq_left']

theorem membershipOf_ok {r : UntrustedObject} {x : JsNumber} {a : MembershipAttestation} :
    (seconds (r.member "attestedAt") = .ok x ∧ membershipOf r x = .ok a) ↔
      Spells .membership r a ∧ a.attestedAt = x := by
  obtain ⟨descriptor, root, member, block, at_⟩ := a
  simp only [membershipOf, readiness_bind, readiness_pure, bytes32Of_ok, bool_ok, height_ok,
    valueRule_ok, aztecField_hexlify, seconds_ok, Spells, HexMember, FieldMember, HeightMember,
    SecondsMember]
  constructor
  · rintro ⟨⟨isNumber, whole⟩, w, ⟨s, isText, read⟩, v, ⟨s', isText', read'⟩, b, isBool, n,
      ⟨s'', isText'', spelled, bound⟩, m, ⟨below, -⟩, same⟩
    cases same
    exact ⟨⟨⟨s, w, isText, read, rfl⟩, ⟨s', v, isText', read', below, rfl⟩, isBool,
      ⟨s'', isText'', n, spelled, bound, rfl⟩, isNumber, whole⟩, rfl⟩
  · rintro ⟨⟨⟨s, w, isText, read, rfl⟩, ⟨s', v, isText', read', below, rfl⟩, isBool,
      ⟨s'', isText'', n, spelled, bound, rfl⟩, isNumber, whole⟩, rfl⟩
    exact ⟨⟨isNumber, whole⟩, w, ⟨s, isText, read⟩, v, ⟨s', isText', read'⟩, member, isBool, n,
      ⟨s'', isText'', spelled, bound⟩, _, ⟨below, rfl⟩, rfl⟩

theorem recipientDeploymentOf_ok {r : UntrustedObject} {x : JsNumber}
    {a : RecipientDeploymentAttestation} :
    (seconds (r.member "attestedAt") = .ok x ∧ recipientDeploymentOf r x = .ok a) ↔
      Spells .recipientDeployment r a ∧ a.attestedAt = x := by
  obtain ⟨descriptor, recipient, classId, deployed, block, at_⟩ := a
  simp only [recipientDeploymentOf, readiness_bind, readiness_pure, bytes32Of_ok, aztecBytes32Of_ok,
    bool_ok, height_ok, seconds_ok, Spells, HexMember, NonzeroMember, HeightMember,
    SecondsMember]
  constructor
  · rintro ⟨⟨isNumber, whole⟩, w, ⟨s, isText, read⟩, v, ⟨s', isText', read', nonzero, below⟩,
      c, ⟨sc, isTextC, readC, nonzeroC, belowC⟩, b, isBool, n, ⟨s'', isText'', spelled, bound⟩,
      same⟩
    cases same
    exact ⟨⟨⟨s, w, isText, read, rfl⟩, ⟨s', v, isText', read', nonzero, below, rfl⟩,
      ⟨sc, c, isTextC, readC, nonzeroC, belowC, rfl⟩, isBool,
      ⟨s'', isText'', n, spelled, bound, rfl⟩, isNumber, whole⟩, rfl⟩
  · rintro ⟨⟨⟨s, w, isText, read, rfl⟩, ⟨s', v, isText', read', nonzero, below, rfl⟩,
      ⟨sc, c, isTextC, readC, nonzeroC, belowC, rfl⟩, isBool,
      ⟨s'', isText'', n, spelled, bound, rfl⟩, isNumber, whole⟩, rfl⟩
    exact ⟨⟨isNumber, whole⟩, w, ⟨s, isText, read⟩, v, ⟨s', isText', read', nonzero, below⟩,
      c, ⟨sc, isTextC, readC, nonzeroC, belowC⟩, deployed, isBool, n,
      ⟨s'', isText'', spelled, bound⟩, rfl⟩

theorem rootUpdateOf_ok {r : UntrustedObject} {x : JsNumber} {a : RootUpdateAttestation} :
    (seconds (r.member "attestedAt") = .ok x ∧ rootUpdateOf r x = .ok a) ↔
      Spells .rootUpdate r a ∧ a.attestedAt = x := by
  obtain ⟨root, block, at_⟩ := a
  simp only [rootUpdateOf, readiness_bind, readiness_pure, bytes32Of_ok, height_ok,
    valueRule_ok, aztecField_hexlify, seconds_ok, Spells, FieldMember, HeightMember,
    SecondsMember]
  constructor
  · rintro ⟨⟨isNumber, whole⟩, v, ⟨s', isText', read'⟩, n, ⟨s'', isText'', spelled, bound⟩, m,
      ⟨below, -⟩, same⟩
    cases same
    exact ⟨⟨⟨s', v, isText', read', below, rfl⟩, ⟨s'', isText'', n, spelled, bound, rfl⟩,
      isNumber, whole⟩, rfl⟩
  · rintro ⟨⟨⟨s', v, isText', read', below, rfl⟩, ⟨s'', isText'', n, spelled, bound, rfl⟩,
      isNumber, whole⟩, rfl⟩
    exact ⟨⟨isNumber, whole⟩, v, ⟨s', isText', read'⟩, n, ⟨s'', isText'', spelled, bound⟩, _,
      ⟨below, rfl⟩, rfl⟩

theorem attestationOf_ok {t : ReadinessType} {r : UntrustedObject} {x : JsNumber}
    {a : t.Attestation} : (seconds (r.member "attestedAt") = .ok x ∧
      attestationOf t r x = .ok a) ↔ Spells t r a ∧ t.attestedAt a = x := by
  cases t with
  | membership => exact membershipOf_ok
  | recipientDeployment => exact recipientDeploymentOf_ok
  | rootUpdate => exact rootUpdateOf_ok

theorem parse_ok {t : ReadinessType} {r : UntrustedObject} {a : t.Attestation}
    {signature : Bytes 65} :
    parseReadinessRecord t (.object r) = .ok (a, signature) ↔ Parses t r a signature := by
  simp only [parseReadinessRecord, readiness_bind, readiness_pure, checkKeys_ok, checkPresent_ok,
    signatureOf_ok, rules_ok, Prod.mk.injEq]
  constructor
  · rintro ⟨-, known, -, present, bytes, signed, x, time, a', read, rfl, rfl⟩
    exact ⟨known, present, (attestationOf_ok.mp ⟨time, read⟩).1, signed⟩
  · rintro ⟨known, present, spells, signed⟩
    obtain ⟨time, read⟩ := attestationOf_ok.mpr ⟨spells, rfl⟩
    exact ⟨(), known, (), present, signature, signed, _, time, a, read, rfl, rfl⟩

end XochiSdk.Signer
