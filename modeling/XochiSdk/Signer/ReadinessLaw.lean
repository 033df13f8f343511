import XochiSdk.Signer.Ethers
import XochiSdk.Signer.ReadinessVerify

/-!
# What readiness verification accepts

A verified record is exactly one that is asked for. Everything else is refused by the module's
own error, unless a refusal prints a value that `JSON.stringify` throws on.
-/

namespace XochiSdk.Signer

open XochiSdk.Js XochiSdk.Library

/-! ## The policy's questions -/

/-- The digest that was asked for. -/
def HexAsked (asked kept : String) : Prop :=
  ∃ w, hexBytes 32 asked = some w ∧ kept = hexlify w.bytes

/-- The nonzero field element that was asked for. -/
def NonzeroAsked (asked kept : String) : Prop :=
  ∃ w, hexBytes 32 asked = some w ∧ w.toNat ≠ 0 ∧ w.toNat < aztecFieldModulus ∧
    kept = hexlify w.bytes

/-- The state is the positive one, and the subject is exactly the one asked for. -/
def Asked : (t : ReadinessType) → t.Attestation → t.Expected → Prop
  | .membership, (m : MembershipAttestation), (e : ExpectedMembership) =>
    m.member = true ∧ HexAsked e.descriptorDigest m.descriptorDigest ∧
      ∀ root, e.root = some root → HexAsked root m.root
  | .recipientDeployment, (d : RecipientDeploymentAttestation), (e : ExpectedDeployment) =>
    d.deployed = true ∧ HexAsked e.descriptorDigest d.descriptorDigest ∧
      NonzeroAsked e.recipient d.recipient ∧ NonzeroAsked e.classId d.classId
  | .rootUpdate, (u : RootUpdateAttestation), (e : ExpectedRoot) =>
    ∀ root, e.root = some root → HexAsked root u.root

/-- A policy's number, of at most `max`. -/
def Spelled (value : UintLike) (max v : Nat) : Prop :=
  uintSpelling false value = some (v : Int) ∧ v ≤ max

/-- Within `[now - maxAge, now + skew]`. -/
def Fresh {t : ReadinessType} (a : t.Attestation) (policy : ReadinessPolicy t) : Prop :=
  ∃ now maxAge skew at_ : Nat, Spelled policy.now uint64Max now ∧
    Spelled policy.maxAgeSeconds readinessMaxAgeSeconds maxAge ∧
    Spelled policy.maxFutureSkewSeconds readinessMaxFutureSkewSeconds skew ∧
    safeInteger (t.attestedAt a) = some (at_ : Int) ∧ at_ ≤ now + skew ∧ now ≤ at_ + maxAge

/-- At least the required height, which is not zero. -/
def High {t : ReadinessType} (a : t.Attestation) (policy : ReadinessPolicy t) : Prop :=
  ∃ minBlock : Nat, Spelled policy.minBlock uint64Max minBlock ∧ 0 < minBlock ∧
    (minBlock : Int) ≤ t.block a

section Accepted

variable [Ethers] [ReadinessRecovery]

/-- The signer is the pinned one, over the type, the fields and the rebuilt domain. -/
def SignedBy {t : ReadinessType} (policy : ReadinessPolicy t) (v : VerifiedReadiness t) : Prop :=
  hexBytes 20 policy.expectedSigner = some v.signer ∧ v.signer.toNat ≠ 0 ∧
    ∃ domain digest, readinessDomain policy.domain.sourceChainId policy.domain.environment
      policy.domain.network policy.domain.manifestDigest = .ok domain ∧
      readinessDigest t v.attestation domain = .ok digest ∧
      ReadinessRecovery.recoverAddress digest v.signature = some v.signer

/-- What a verified record meets. -/
structure Accepted (t : ReadinessType) (record : Presented) (policy : ReadinessPolicy t)
    (v : VerifiedReadiness t) : Prop where
  parses : ∃ r, record = .object r ∧ Parses t r v.attestation v.signature
  signed : SignedBy policy v
  asked : Asked t v.attestation policy.expected
  fresh : Fresh v.attestation policy
  high : High v.attestation policy

end Accepted

/-! ## Each check accepts what it asks -/

theorem ruled_ok {α : Type} {fn : Checked α} {a : α} :
    raise (readinessRules fn) = .ok a ↔ fn = .ok a :=
  raise_ok.trans readinessRules_ok

theorem assertExpected_ok {field actual : String} {expected : Word} {u : Unit} :
    assertExpected field actual expected = .ok u ↔ actual = hexlify expected.bytes := by
  unfold assertExpected
  split
  · next same => simp [same]
  · next other => simp [refuseReadiness, other]

theorem assertExpectedRoot_ok {actual : String} {root : Option String} {u : Unit} :
    assertExpectedRoot actual root = .ok u ↔ ∀ s, root = some s → HexAsked s actual := by
  cases root with
  | none => simp [assertExpectedRoot]
  | some s =>
    simp only [assertExpectedRoot, readiness_bind, ruled_ok, bytes32_ok, assertExpected_ok,
      Option.some.injEq, forall_eq', HexAsked]

theorem checkSubject_ok {t : ReadinessType} {a : t.Attestation} {e : t.Expected} {u : Unit} :
    checkSubject t a e = .ok u ↔ Asked t a e := by
  cases t with
  | membership =>
    obtain ⟨descriptor, root, member, block, at_⟩ := a
    cases member with
    | false => simp [checkSubject, Asked, refuseReadiness]
    | true =>
      simp only [checkSubject, Asked, Bool.not_true, Bool.false_eq_true, if_false, true_and,
        readiness_bind, ruled_ok, bytes32_ok, assertExpected_ok, assertExpectedRoot_ok]
      constructor
      · rintro ⟨w, read, -, same, root⟩
        exact ⟨⟨w, read, same⟩, root⟩
      · rintro ⟨⟨w, read, same⟩, root⟩
        exact ⟨w, read, (), same, root⟩
  | recipientDeployment =>
    obtain ⟨descriptor, recipient, classId, deployed, block, at_⟩ := a
    cases deployed with
    | false => simp [checkSubject, Asked, refuseReadiness]
    | true =>
      simp only [checkSubject, Asked, Bool.not_true, Bool.false_eq_true, if_false, true_and,
        readiness_bind, ruled_ok, bytes32_ok, assertExpected_ok, assertAztecBytes32_ok_iff]
      constructor
      · rintro ⟨w, read, v, ⟨readV, nonzero, below⟩, c, ⟨readC, nonzeroC, belowC⟩, -, same, -,
          sameV, sameC⟩
        exact ⟨⟨w, read, same⟩, ⟨v, readV, nonzero, below, sameV⟩,
          ⟨c, readC, nonzeroC, belowC, sameC⟩⟩
      · rintro ⟨⟨w, read, same⟩, ⟨v, readV, nonzero, below, sameV⟩,
          ⟨c, readC, nonzeroC, belowC, sameC⟩⟩
        exact ⟨w, read, v, ⟨readV, nonzero, below⟩, c, ⟨readC, nonzeroC, belowC⟩, (), same, (),
          sameV, sameC⟩
  | rootUpdate => exact assertExpectedRoot_ok

theorem checkFresh_ok {t : ReadinessType} {a : t.Attestation} {policy : ReadinessPolicy t}
    {at_ : Nat} {u : Unit} (time : safeInteger (t.attestedAt a) = some (at_ : Int)) :
    checkFresh a policy = .ok u ↔ Fresh a policy ∧ High a policy := by
  simp only [checkFresh, readiness_bind, ruled_ok, uint_ok_iff, time, Option.getD_some]
  constructor
  · rintro ⟨now, spelledNow, age, spelledAge, skew, spelledSkew, h⟩
    split at h
    · cases h
    · next early =>
      split at h
      · cases h
      · next late =>
        simp only [readiness_bind, ruled_ok, uint_ok_iff] at h
        obtain ⟨least, spelledLeast, h⟩ := h
        split at h
        · cases h
        · next positive =>
          split at h
          · cases h
          · next high =>
            exact ⟨⟨now, age, skew, at_, spelledNow, spelledAge, spelledSkew, time, by omega,
              by omega⟩, least, spelledLeast, Nat.pos_of_ne_zero positive, by omega⟩
  · rintro ⟨⟨now, age, skew, at', spelledNow, spelledAge, spelledSkew, time', early, late⟩, least,
      spelledLeast, positive, high⟩
    rw [time, Option.some.injEq] at time'
    refine ⟨now, spelledNow, age, spelledAge, skew, spelledSkew, ?_⟩
    rw [if_neg (by omega), if_neg (by omega)]
    simp only [readiness_bind, ruled_ok, uint_ok_iff]
    refine ⟨least, spelledLeast, ?_⟩
    rw [if_neg (by omega), if_neg (by omega)]

theorem Spells.time {t : ReadinessType} {r : UntrustedObject} {a : t.Attestation}
    (spells : Spells t r a) : ∃ n : Nat, safeInteger (t.attestedAt a) = some (n : Int) := by
  cases t with
  | membership => exact spells.2.2.2.2.2
  | recipientDeployment => exact spells.2.2.2.2.2.2
  | rootUpdate => exact spells.2.2.2

section Verified

variable [Ethers] [ReadinessRecovery]

omit [Ethers] in
theorem recoverReadinessAddress_ok {digest : Word} {signature : Bytes 65} {signer : Bytes 20} :
    recoverReadinessAddress digest signature = .ok signer ↔
      ReadinessRecovery.recoverAddress digest signature = some signer := by
  unfold recoverReadinessAddress
  split
  · next found => simp [found]
  · next none => simp [refuseReadiness, none]

/-- A record is verified exactly when it meets every condition. -/
theorem verify_ok {t : ReadinessType} {record : Presented} {policy : ReadinessPolicy t}
    {v : VerifiedReadiness t} :
    verifyReadinessRecord t record policy = .ok v ↔ Accepted t record policy v := by
  cases record with
  | notObject =>
    constructor
    · intro h
      cases h
    · rintro ⟨⟨r, same, -⟩, -⟩
      cases same
  | object r =>
    simp only [verifyReadinessRecord, readiness_bind, Prod.exists, parse_ok, raise_ok,
      readinessRules_ok, evmAddress_ok_iff, recoverReadinessAddress_ok]
    constructor
    · rintro ⟨a, signature, parsed, domain, built, expected, ⟨pinned, nonzero⟩, digest, hashed,
        signer, recovered, h⟩
      split at h
      · cases h
      · next same =>
        simp only [ne_eq, not_not] at same
        subst same
        obtain ⟨n, time⟩ := parsed.spells.time
        simp only [readiness_bind, readiness_pure, checkSubject_ok, checkFresh_ok time] at h
        obtain ⟨-, asked, -, ⟨fresh, high⟩, rfl⟩ := h
        exact ⟨⟨r, rfl, parsed⟩, ⟨pinned, nonzero, domain, digest, built, hashed, recovered⟩,
          asked, fresh, high⟩
    · obtain ⟨a, signature, signer⟩ := v
      rintro ⟨⟨r', same, parsed⟩, ⟨pinned, nonzero, domain, digest, built, hashed, recovered⟩,
        asked, fresh, high⟩
      cases same
      refine ⟨a, signature, parsed, domain, built, signer, ⟨pinned, nonzero⟩, digest, hashed,
        signer, recovered, ?_⟩
      obtain ⟨n, time⟩ := parsed.spells.time
      simp only [ne_eq, not_true_eq_false, if_false, readiness_bind, readiness_pure,
        checkSubject_ok, checkFresh_ok time]
      exact ⟨(), asked, (), ⟨fresh, high⟩, trivial⟩

end Verified

/-! ## What refuses with whose error -/

/-- Every failure of a check is one of these. -/
def FailsAs {ε α : Type} (P : ε → Prop) (x : Except ε α) : Prop := ∀ e, x = .error e → P e

theorem failsAs_ok {ε α : Type} {P : ε → Prop} {a : α} : FailsAs P (.ok a : Except ε α) := by
  intro e h
  cases h

theorem failsAs_error {ε α : Type} {P : ε → Prop} {e : ε} (h : P e) :
    FailsAs P (.error e : Except ε α) := by
  rintro e' ⟨⟩
  exact h

theorem FailsAs.bind {ε α β : Type} {P : ε → Prop} {x : Except ε α} {f : α → Except ε β}
    (first : FailsAs P x) (rest : ∀ a, x = .ok a → FailsAs P (f a)) : FailsAs P (x >>= f) := by
  cases x with
  | error e => exact failsAs_error (first e rfl)
  | ok a => exact rest a rfl

theorem FailsAs.ite {ε α : Type} {P : ε → Prop} {c : Prop} [Decidable c] {x y : Except ε α}
    (yes : c → FailsAs P x) (no : ¬c → FailsAs P y) : FailsAs P (if c then x else y) := by
  split
  · next h => exact yes h
  · next h => exact no h

/-- A refusal of this class. -/
abbrev Named (name : RefusalClass) (e : RefusalError) : Prop := e.name = name

/-- A `ReadinessEncodingError`. -/
def Refused (e : ReadinessThrown) : Prop := ∃ code field detail, e = .refused code field detail

theorem require_failsAs {holds : Bool} {code : RefusalCode} {field detail : String} :
    FailsAs (Named .shielded) (require holds code field detail) :=
  FailsAs.ite (fun _ => failsAs_ok) fun _ => failsAs_error rfl

theorem bytes32_failsAs {field value : String} :
    FailsAs (Named .shielded) (bytes32 field value) := by
  unfold bytes32
  split
  · exact failsAs_ok
  · exact failsAs_error rfl

theorem uint_failsAs {field : String} {value : UintLike} {max : Nat} :
    FailsAs (Named .shielded) (uint field value max) := by
  unfold uint
  split
  · exact FailsAs.ite (fun _ => failsAs_ok) fun _ => failsAs_error rfl
  · exact failsAs_error rfl

theorem chainId_failsAs {field : String} {value : UintLike} :
    FailsAs (Named .shielded) (chainId field value) :=
  uint_failsAs.bind fun _ _ => require_failsAs.bind fun _ _ => failsAs_ok

theorem aztecUint_failsAs {field : String} {value : UintLike} :
    FailsAs (Named .shielded) (aztecUint field value) :=
  uint_failsAs.bind fun _ _ => require_failsAs.bind fun _ _ => require_failsAs.bind fun _ _ =>
    failsAs_ok

theorem aztecField_failsAs {field value : String} :
    FailsAs (Named .shielded) (aztecField field value) :=
  bytes32_failsAs.bind fun _ _ => require_failsAs.bind fun _ _ => failsAs_ok

theorem assertAztecBytes32_failsAs {field value : String} :
    FailsAs (Named .shielded) (assertAztecBytes32 field value) :=
  bytes32_failsAs.bind fun _ _ => require_failsAs.bind fun _ _ => require_failsAs.bind fun _ _ =>
    failsAs_ok

theorem evmAddress_failsAs {field value : String} :
    FailsAs (Named .shielded) (evmAddress field value) := by
  unfold evmAddress
  split
  · exact require_failsAs.bind fun _ _ => failsAs_ok
  · exact failsAs_error rfl

/-- A value rule's refusal is raised again as a readiness refusal. -/
theorem ruled_failsAs {α : Type} {fn : Checked α} (h : FailsAs (Named .shielded) fn) :
    FailsAs (Named .readiness) (readinessRules fn) := by
  cases fn with
  | ok a => exact failsAs_ok
  | error e =>
    have named : e.name = .shielded := h e rfl
    refine failsAs_error ?_
    simp [Named, named]

theorem raise_failsAs {α : Type} {fn : Checked α} (h : FailsAs (Named .readiness) fn) :
    FailsAs Refused (raise fn) := by
  cases fn with
  | ok a => exact failsAs_ok
  | error e =>
    refine failsAs_error ⟨.shared e.code, e.field, e.detail, ?_⟩
    unfold ReadinessThrown.raised
    rw [if_pos (h e rfl)]

theorem raiseRuled_failsAs {α : Type} {fn : Checked α} (h : FailsAs (Named .shielded) fn) :
    FailsAs Refused (raise (readinessRules fn)) :=
  raise_failsAs (ruled_failsAs h)

theorem refuseReadiness_failsAs {α : Type} {code : ReadinessCode} {field detail : String} :
    FailsAs Refused (refuseReadiness code field detail : Readiness α) :=
  failsAs_error ⟨code, field, detail, rfl⟩

section Domain

variable [Ethers]

theorem environmentHash_failsAs {environment : String} :
    FailsAs (Named .shielded) (environmentHash environment) :=
  require_failsAs.bind fun _ _ => failsAs_ok

theorem hashNetworkIdentity_failsAs {n : NetworkIdentity} :
    FailsAs (Named .shielded) (hashNetworkIdentity n) :=
  FailsAs.bind (bytes32_failsAs.bind fun _ _ => require_failsAs.bind fun _ _ =>
    aztecUint_failsAs.bind fun _ _ => aztecUint_failsAs.bind fun _ _ =>
    evmAddress_failsAs.bind fun _ _ => chainId_failsAs.bind fun _ _ => failsAs_ok)
    fun _ _ => failsAs_ok

theorem readinessDomain_failsAs {sourceChainId : UintLike} {environment manifestDigest : String}
    {network : NetworkIdentity} : FailsAs (Named .readiness)
      (readinessDomain sourceChainId environment network manifestDigest) := by
  refine (ruled_failsAs chainId_failsAs).bind fun _ _ => FailsAs.bind ?_ fun _ _ => failsAs_ok
  refine ruled_failsAs (FailsAs.bind ?_ fun _ _ => failsAs_ok)
  exact environmentHash_failsAs.bind fun _ _ => hashNetworkIdentity_failsAs.bind fun _ _ =>
    bytes32_failsAs.bind fun _ _ => failsAs_ok

omit [Ethers] in
theorem coderBytes32_hexlify (w : Word) : coderBytes32 (hexlify w.bytes) = .ok w := by
  unfold coderBytes32
  simp only [getBytes_hexlify]
  rw [dif_pos w.length_bytes]

theorem domainWords_built {sourceChainId : UintLike} {environment manifestDigest : String}
    {network : NetworkIdentity} {domain : ShieldedDomain}
    (built : readinessDomain sourceChainId environment network manifestDigest = .ok domain) :
    ∃ ws, domainWords domain = .ok ws := by
  simp only [readinessDomain, checked_bind, readinessRules_ok, pure_ok] at built
  obtain ⟨chain, read, salt, -, rfl⟩ := built
  obtain ⟨-, positive, bound⟩ := chainId_ok read
  have again : chainId "domain.chainId" (.text chain.repr) = .ok chain := by
    simp only [chainId, checked_bind, uint_ok_iff, uintSpelling_repr, require_ok, exists_const,
      pure_ok, Option.some.injEq, bne_iff_ne, ne_eq]
    exact ⟨chain, ⟨rfl, bound⟩, by omega, rfl⟩
  unfold domainWords
  rw [again]
  exact ⟨_, rfl⟩

omit [Ethers] in
theorem coderUint64_of {n : Nat} (bound : n ≤ uint64Max) : coderUint64 n = .ok n := by
  unfold coderUint64
  rw [if_pos ⟨Int.natCast_nonneg n, by exact_mod_cast bound⟩, Int.toNat_natCast]

omit [Ethers] in
theorem coderSeconds_of {x : JsNumber} {n : Nat} (whole : safeInteger x = some (n : Int)) :
    coderNumber x = .ok (n : Int) ∧ coderUint64 n = .ok n := by
  constructor
  · unfold coderNumber
    rw [whole]
  · refine coderUint64_of ?_
    unfold safeInteger at whole
    obtain ⟨m, -, small⟩ := Option.bind_eq_some_iff.mp whole
    split at small
    · next bound =>
      cases small
      unfold uint64Max
      omega
    · cases small

theorem recordWords_spelled {t : ReadinessType} {r : UntrustedObject} {a : t.Attestation}
    (spells : Spells t r a) : ∃ ws, readinessRecordWords t a = .ok ws := by
  cases t with
  | membership =>
    obtain ⟨descriptor, root, member, block, at_⟩ := a
    obtain ⟨⟨_, w, _, _, rfl⟩, ⟨_, v, _, _, _, rfl⟩, _, ⟨_, _, n, _, bound, rfl⟩, _, k, whole⟩ :=
      spells
    obtain ⟨number, small⟩ := coderSeconds_of whole
    simp only [readinessRecordWords, coderBytes32_hexlify, coderUint64_of bound, number, small,
      checked_bind, pure_ok, Except.ok.injEq, exists_eq_left', exists_eq']
  | recipientDeployment =>
    obtain ⟨descriptor, recipient, classId, deployed, block, at_⟩ := a
    obtain ⟨⟨_, w, _, _, rfl⟩, ⟨_, v, _, _, _, _, rfl⟩, ⟨_, c, _, _, _, _, rfl⟩, _,
      ⟨_, _, n, _, bound, rfl⟩, _, k, whole⟩ := spells
    obtain ⟨number, small⟩ := coderSeconds_of whole
    simp only [readinessRecordWords, coderBytes32_hexlify, coderUint64_of bound, number, small,
      checked_bind, pure_ok, Except.ok.injEq, exists_eq_left', exists_eq']
  | rootUpdate =>
    obtain ⟨root, block, at_⟩ := a
    obtain ⟨⟨_, v, _, _, _, rfl⟩, ⟨_, _, n, _, bound, rfl⟩, _, k, whole⟩ := spells
    obtain ⟨number, small⟩ := coderSeconds_of whole
    simp only [readinessRecordWords, coderBytes32_hexlify, coderUint64_of bound, number, small,
      checked_bind, pure_ok, Except.ok.injEq, exists_eq_left', exists_eq']

/-- A parsed attestation has a digest under every domain that could be built. -/
theorem readinessDigest_total {t : ReadinessType} {r : UntrustedObject} {a : t.Attestation}
    {sourceChainId : UintLike} {environment manifestDigest : String} {network : NetworkIdentity}
    {domain : ShieldedDomain}
    (built : readinessDomain sourceChainId environment network manifestDigest = .ok domain)
    (spells : Spells t r a) : ∃ digest, readinessDigest t a domain = .ok digest := by
  obtain ⟨ws, words⟩ := domainWords_built built
  obtain ⟨vs, members⟩ := recordWords_spelled spells
  simp only [readinessDigest, shieldedDomainSeparator, hashReadinessRecord, words, members,
    checked_bind, pure_ok, Except.ok.injEq, exists_eq_left', exists_eq']

omit [Ethers] in
theorem assertExpected_failsAs {field actual : String} {expected : Word} :
    FailsAs Refused (assertExpected field actual expected) :=
  FailsAs.ite (fun _ => failsAs_ok) fun _ => refuseReadiness_failsAs

omit [Ethers] in
theorem assertExpectedRoot_failsAs {actual : String} {root : Option String} :
    FailsAs Refused (assertExpectedRoot actual root) := by
  cases root with
  | none => exact failsAs_ok
  | some s => exact (raiseRuled_failsAs bytes32_failsAs).bind fun _ _ => assertExpected_failsAs

omit [Ethers] in
theorem checkSubject_failsAs {t : ReadinessType} {a : t.Attestation} {e : t.Expected} :
    FailsAs Refused (checkSubject t a e) := by
  cases t with
  | membership =>
    refine FailsAs.ite (fun _ => refuseReadiness_failsAs) fun _ => ?_
    exact (raiseRuled_failsAs bytes32_failsAs).bind fun _ _ => assertExpected_failsAs.bind
      fun _ _ => assertExpectedRoot_failsAs
  | recipientDeployment =>
    refine FailsAs.ite (fun _ => refuseReadiness_failsAs) fun _ => ?_
    exact (raiseRuled_failsAs bytes32_failsAs).bind fun _ _ =>
      (raiseRuled_failsAs assertAztecBytes32_failsAs).bind fun _ _ =>
      (raiseRuled_failsAs assertAztecBytes32_failsAs).bind fun _ _ =>
      assertExpected_failsAs.bind fun _ _ => assertExpected_failsAs.bind fun _ _ =>
      assertExpected_failsAs
  | rootUpdate => exact assertExpectedRoot_failsAs

omit [Ethers] in
theorem checkFresh_failsAs {t : ReadinessType} {a : t.Attestation} {policy : ReadinessPolicy t} :
    FailsAs Refused (checkFresh a policy) := by
  refine (raiseRuled_failsAs uint_failsAs).bind fun _ _ => (raiseRuled_failsAs uint_failsAs).bind
    fun _ _ => (raiseRuled_failsAs uint_failsAs).bind fun _ _ => ?_
  refine FailsAs.ite (fun _ => refuseReadiness_failsAs) fun _ => ?_
  refine FailsAs.ite (fun _ => refuseReadiness_failsAs) fun _ => ?_
  refine (raiseRuled_failsAs uint_failsAs).bind fun _ _ => ?_
  refine FailsAs.ite (fun _ => refuseReadiness_failsAs) fun _ => ?_
  exact FailsAs.ite (fun _ => refuseReadiness_failsAs) fun _ => failsAs_ok

end Domain

/-! ## The members a refusal prints -/

/-- A spelling whose refusal prints the value. -/
inductive PrintedSpelling where
  | seconds
  | digest
  | field
  | flag

def PrintedSpelling.Holds : PrintedSpelling → Untrusted → Prop
  | seconds, v => ∃ x n, v = .number x ∧ safeInteger x = some ((n : Nat) : Int)
  | digest, v => ∃ s w, v = .text s ∧ hexBytes 32 s = some w
  | field, v => ∃ s w, v = .text s ∧ hexBytes 32 s = some w ∧ w.toNat ≠ 0 ∧
      w.toNat < aztecFieldModulus
  | flag, v => ∃ b, v = .bool b

/-- The members in the order they are read, up to the last one that a refusal prints. -/
def ReadinessType.printedMembers : ReadinessType → List (String × PrintedSpelling)
  | .membership =>
    [("attestedAt", .seconds), ("descriptorDigest", .digest), ("root", .digest), ("member", .flag)]
  | .recipientDeployment =>
    [("attestedAt", .seconds), ("descriptorDigest", .digest), ("recipient", .field),
      ("classId", .field), ("deployed", .flag)]
  | .rootUpdate => [("attestedAt", .seconds), ("root", .digest)]

/-- A member that `JSON.stringify` throws on, after members that are spelled as they should. -/
def FirstUnprintable (r : UntrustedObject) : List (String × PrintedSpelling) → Prop
  | [] => False
  | (k, spelling) :: rest =>
    (r.member k).printed = none ∨ spelling.Holds (r.member k) ∧ FirstUnprintable r rest

/-- An object of the type's members, with a signature, whose first printed member that is not
spelled as it should be is one that `JSON.stringify` throws on. -/
def Unprintable (t : ReadinessType) (record : Presented) : Prop :=
  ∃ r, record = .object r ∧ (∀ k ∈ r.keys, k ∈ t.allowed) ∧
    (∀ k ∈ t.allowed, (r.get k).isSome = true) ∧
    (∃ bytes s, r.member "signature" = .text s ∧ hexBytes 65 s = some bytes) ∧
    FirstUnprintable r t.printedMembers

theorem readiness_bind_error {α β : Type} {x : Readiness α} {f : α → Readiness β}
    {e : ReadinessThrown} :
    (x >>= f) = .error e ↔ x = .error e ∨ ∃ a, x = .ok a ∧ f a = .error e := by
  cases x <;> simp [bind, Except.bind]

theorem readiness_pure_error {α : Type} {a : α} {e : ReadinessThrown} :
    (pure a : Readiness α) = .error e ↔ False := by
  simp [pure, Except.pure]

theorem FailsAs.not_typeError {α : Type} {x : Readiness α} (h : FailsAs Refused x) :
    x = .error .typeError ↔ False := by
  refine ⟨fun thrown => ?_, False.elim⟩
  obtain ⟨_, _, _, other⟩ := h _ thrown
  cases other

theorem valueRule_typeError {α : Type} {fn : Checked α} :
    valueRule fn = .error .typeError ↔ False := by
  cases fn <;> simp [valueRule, Except.mapError]

theorem rules_typeError {α : Type} {fn : Readiness α} :
    rules fn = .error .typeError ↔ fn = .error .typeError := by
  cases fn with
  | ok a => simp [rules, Except.mapError]
  | error e =>
    cases e with
    | refused | typeError => simp [rules, Except.mapError, ReadinessThrown.ruled]
    | value e =>
      simp only [rules, Except.mapError, ReadinessThrown.ruled, Except.error.injEq, reduceCtorEq,
        iff_false]
      split <;> simp

theorem refusePrinted_typeError {α : Type} {v : Untrusted} {refusal : String → ReadinessThrown}
    (other : ∀ shown, refusal shown ≠ .typeError) :
    (refusePrinted v refusal : Readiness α) = .error .typeError ↔ v.printed = none := by
  unfold refusePrinted
  split
  · next shown printed => simp [printed, other shown]
  · next none => simp [none]

theorem bytes32Of_typeError {field : String} {v : Untrusted} :
    bytes32Of field v = .error .typeError ↔ v.printed = none := by
  cases v with
  | text s => simp [bytes32Of, valueRule_typeError, Untrusted.printed]
  | undefined | null | bool | number | bigint | other | unprintable =>
    simp only [bytes32Of]
    exact refusePrinted_typeError (by simp)

theorem aztecBytes32Of_typeError {field : String} {v : Untrusted} :
    aztecBytes32Of field v = .error .typeError ↔ v.printed = none := by
  cases v with
  | text s => simp [aztecBytes32Of, valueRule_typeError, Untrusted.printed]
  | undefined | null | bool | number | bigint | other | unprintable =>
    simp only [aztecBytes32Of]
    exact bytes32Of_typeError

theorem height_typeError {field : String} {v : Untrusted} :
    height field v = .error .typeError ↔ False := by
  cases v with
  | text s => exact valueRule_typeError
  | undefined | null | bool | number | bigint | other | unprintable =>
    exact refuseReadiness_failsAs.not_typeError

theorem bool_typeError {field : String} {v : Untrusted} :
    bool field v = .error .typeError ↔ v.printed = none := by
  cases v with
  | bool b => simp [bool, Untrusted.printed]
  | undefined | null | text | number | bigint | other | unprintable =>
    simp only [bool]
    exact refusePrinted_typeError (by simp)

theorem seconds_typeError {v : Untrusted} :
    seconds v = .error .typeError ↔ v.printed = none := by
  cases v with
  | number x =>
    unfold seconds
    simp only [Untrusted.printed, reduceCtorEq, iff_false]
    split
    · split
      · simp [refuseReadiness]
      · simp
    · rw [refusePrinted_typeError (by simp)]
      simp [Untrusted.printed]
  | undefined | null | text | bool | bigint | other | unprintable =>
    simp only [seconds]
    exact refusePrinted_typeError (by simp)

theorem checkKeys_failsAs {t : ReadinessType} {keys : List String} :
    FailsAs Refused (checkKeys t keys) := by
  induction keys with
  | nil => exact failsAs_ok
  | cons k rest ih =>
    refine FailsAs.ite (fun _ => refuseReadiness_failsAs) fun _ => ?_
    exact FailsAs.ite (fun _ => refuseReadiness_failsAs) fun _ => ih

theorem checkPresent_failsAs {t : ReadinessType} {r : UntrustedObject} {keys : List String} :
    FailsAs Refused (checkPresent t r keys) := by
  induction keys with
  | nil => exact failsAs_ok
  | cons k rest ih => exact FailsAs.ite (fun _ => ih) fun _ => refuseReadiness_failsAs

theorem signatureOf_failsAs {v : Untrusted} : FailsAs Refused (signatureOf v) := by
  cases v with
  | text s =>
    unfold signatureOf
    simp only
    split
    · exact failsAs_ok
    · exact refuseReadiness_failsAs
  | undefined | null | number | bool | bigint | other | unprintable =>
    exact refuseReadiness_failsAs

theorem digest_returns {field : String} {v : Untrusted} :
    (∃ w, bytes32Of field v = .ok w) ↔ PrintedSpelling.digest.Holds v := by
  simp only [bytes32Of_ok, PrintedSpelling.Holds]
  exact exists_comm

theorem field_returns {field : String} {v : Untrusted} :
    (∃ w, aztecBytes32Of field v = .ok w) ↔ PrintedSpelling.field.Holds v := by
  simp only [aztecBytes32Of_ok, PrintedSpelling.Holds]
  exact exists_comm

theorem seconds_returns {v : Untrusted} :
    (∃ x, seconds v = .ok x) ↔ PrintedSpelling.seconds.Holds v := by
  simp only [seconds_ok, PrintedSpelling.Holds, exists_and_left]

theorem membershipOf_typeError {r : UntrustedObject} {x : JsNumber} :
    membershipOf r x = .error .typeError ↔
      FirstUnprintable r ReadinessType.membership.printedMembers.tail := by
  simp only [membershipOf, readiness_bind_error, readiness_pure_error, bytes32Of_typeError,
    bool_typeError, height_typeError, valueRule_typeError, and_false, exists_false, or_false,
    exists_and_right, digest_returns, ReadinessType.printedMembers, List.tail_cons,
    FirstUnprintable]

theorem recipientDeploymentOf_typeError {r : UntrustedObject} {x : JsNumber} :
    recipientDeploymentOf r x = .error .typeError ↔
      FirstUnprintable r ReadinessType.recipientDeployment.printedMembers.tail := by
  simp only [recipientDeploymentOf, readiness_bind_error, readiness_pure_error,
    bytes32Of_typeError, aztecBytes32Of_typeError, bool_typeError, height_typeError, and_false,
    exists_false, or_false, exists_and_right, digest_returns, field_returns,
    ReadinessType.printedMembers, List.tail_cons, FirstUnprintable]

theorem rootUpdateOf_typeError {r : UntrustedObject} {x : JsNumber} :
    rootUpdateOf r x = .error .typeError ↔
      FirstUnprintable r ReadinessType.rootUpdate.printedMembers.tail := by
  simp only [rootUpdateOf, readiness_bind_error, readiness_pure_error, bytes32Of_typeError,
    height_typeError, valueRule_typeError, and_false, exists_false, or_false,
    ReadinessType.printedMembers, List.tail_cons, FirstUnprintable]

/-- What the members of a type throw does not depend on the time read before them. -/
theorem attestationOf_typeError {t : ReadinessType} {r : UntrustedObject} {x : JsNumber} :
    attestationOf t r x = .error .typeError ↔ FirstUnprintable r t.printedMembers.tail := by
  cases t with
  | membership => exact membershipOf_typeError
  | recipientDeployment => exact recipientDeploymentOf_typeError
  | rootUpdate => exact rootUpdateOf_typeError

theorem printedMembers_cons (t : ReadinessType) :
    t.printedMembers = ("attestedAt", .seconds) :: t.printedMembers.tail := by
  cases t <;> rfl

/-- A record's parser throws the language's error exactly on an unprintable member. -/
theorem parse_typeError {t : ReadinessType} {record : Presented} :
    parseReadinessRecord t record = .error .typeError ↔ Unprintable t record := by
  cases record with
  | notObject => simp [parseReadinessRecord, refuseReadiness, Unprintable]
  | object r =>
    simp only [parseReadinessRecord, readiness_bind_error, readiness_pure_error, Unprintable,
      checkKeys_failsAs.not_typeError, checkPresent_failsAs.not_typeError,
      signatureOf_failsAs.not_typeError, seconds_typeError, rules_typeError,
      attestationOf_typeError, and_false, exists_false, or_false, false_or, exists_and_right,
      seconds_returns, Presented.object.injEq, exists_eq_left', checkKeys_ok, checkPresent_ok,
      signatureOf_ok, exists_const]
    rw [printedMembers_cons t, FirstUnprintable, List.tail_cons]

/-- A value rule's refusal, the module's own, or the language's error. -/
def Ruled (e : ReadinessThrown) : Prop :=
  Refused e ∨ e = .typeError ∨ ∃ v, e = .value v ∧ v.name = .shielded

theorem valueRule_failsAs {α : Type} {fn : Checked α} (h : FailsAs (Named .shielded) fn) :
    FailsAs Ruled (valueRule fn) := by
  cases fn with
  | ok a => exact failsAs_ok
  | error e => exact failsAs_error (.inr (.inr ⟨e, rfl, h e rfl⟩))

theorem rules_failsAs {α : Type} {fn : Readiness α} (h : FailsAs Ruled fn) :
    FailsAs (fun e => Refused e ∨ e = .typeError) (rules fn) := by
  cases fn with
  | ok a => exact failsAs_ok
  | error e =>
    refine failsAs_error ?_
    rcases h e rfl with ⟨code, field, detail, rfl⟩ | rfl | ⟨v, rfl, named⟩
    · exact .inl ⟨code, field, detail, rfl⟩
    · exact .inr rfl
    · refine .inl ⟨.shared v.code, v.field, v.detail, ?_⟩
      simp only [ReadinessThrown.ruled, named, if_true]

theorem refusePrinted_failsAs {α : Type} {P : ReadinessThrown → Prop} {v : Untrusted}
    {refusal : String → ReadinessThrown} (other : P .typeError) (h : ∀ shown, P (refusal shown)) :
    FailsAs P (refusePrinted v refusal : Readiness α) := by
  unfold refusePrinted
  split
  · exact failsAs_error (h _)
  · exact failsAs_error other

theorem bytes32Of_failsAs {field : String} {v : Untrusted} : FailsAs Ruled (bytes32Of field v) := by
  cases v with
  | text s => exact valueRule_failsAs bytes32_failsAs
  | undefined | null | bool | number | bigint | other | unprintable =>
    simp only [bytes32Of]
    exact refusePrinted_failsAs (.inr (.inl rfl)) fun _ => .inr (.inr ⟨_, rfl, rfl⟩)

theorem aztecBytes32Of_failsAs {field : String} {v : Untrusted} :
    FailsAs Ruled (aztecBytes32Of field v) := by
  cases v with
  | text s => exact valueRule_failsAs assertAztecBytes32_failsAs
  | undefined | null | bool | number | bigint | other | unprintable =>
    simp only [aztecBytes32Of]
    exact bytes32Of_failsAs

theorem height_failsAs {field : String} {v : Untrusted} : FailsAs Ruled (height field v) := by
  cases v with
  | text s => exact valueRule_failsAs uint_failsAs
  | undefined | null | bool | number | bigint | other | unprintable =>
    exact fun e h => .inl (refuseReadiness_failsAs e h)

theorem bool_failsAs {field : String} {v : Untrusted} : FailsAs Ruled (bool field v) := by
  cases v with
  | bool b => exact failsAs_ok
  | undefined | null | text | number | bigint | other | unprintable =>
    simp only [bool]
    exact refusePrinted_failsAs (.inr (.inl rfl)) fun _ => .inl ⟨_, _, _, rfl⟩

theorem seconds_failsAs {v : Untrusted} :
    FailsAs (fun e => Refused e ∨ e = .typeError) (seconds v) := by
  have printed (v : Untrusted) : FailsAs (fun e => Refused e ∨ e = .typeError)
      (refusePrinted v fun shown => .refused .timestampNotInteger "attestedAt" ("got " ++ shown) :
        Readiness JsNumber) :=
    refusePrinted_failsAs (.inr rfl) fun _ => .inl ⟨_, _, _, rfl⟩
  unfold seconds
  simp only
  split
  · split
    · exact FailsAs.ite (fun _ e h => .inl (refuseReadiness_failsAs e h)) fun _ => failsAs_ok
    · exact printed _
  · exact printed _

theorem attestationOf_failsAs {t : ReadinessType} {r : UntrustedObject} {x : JsNumber} :
    FailsAs Ruled (attestationOf t r x) := by
  cases t with
  | membership =>
    exact bytes32Of_failsAs.bind fun _ _ => bytes32Of_failsAs.bind fun _ _ =>
      bool_failsAs.bind fun _ _ => height_failsAs.bind fun _ _ =>
      (valueRule_failsAs aztecField_failsAs).bind fun _ _ => failsAs_ok
  | recipientDeployment =>
    exact bytes32Of_failsAs.bind fun _ _ => aztecBytes32Of_failsAs.bind fun _ _ =>
      aztecBytes32Of_failsAs.bind fun _ _ => bool_failsAs.bind fun _ _ =>
      height_failsAs.bind fun _ _ => failsAs_ok
  | rootUpdate =>
    exact bytes32Of_failsAs.bind fun _ _ => height_failsAs.bind fun _ _ =>
      (valueRule_failsAs aztecField_failsAs).bind fun _ _ => failsAs_ok

theorem FailsAs.mono {ε α : Type} {P Q : ε → Prop} {x : Except ε α} (h : FailsAs P x)
    (imp : ∀ e, P e → Q e) : FailsAs Q x := fun e thrown => imp e (h e thrown)

theorem parse_failsAs {t : ReadinessType} {record : Presented} :
    FailsAs (fun e => Refused e ∨ e = .typeError) (parseReadinessRecord t record) := by
  cases record with
  | notObject => exact refuseReadiness_failsAs.mono fun _ => .inl
  | object r =>
    exact (checkKeys_failsAs.mono fun _ => .inl).bind fun _ _ =>
      (checkPresent_failsAs.mono fun _ => .inl).bind fun _ _ =>
      (signatureOf_failsAs.mono fun _ => .inl).bind fun _ _ => seconds_failsAs.bind fun _ _ =>
      (rules_failsAs attestationOf_failsAs).bind fun _ _ => failsAs_ok

section Law

variable [Ethers] [ReadinessRecovery]

/-- After the parser, every failure is the module's own. -/
theorem verify_error {t : ReadinessType} {record : Presented} {policy : ReadinessPolicy t}
    {e : ReadinessThrown} (thrown : verifyReadinessRecord t record policy = .error e) :
    Refused e ∨ parseReadinessRecord t record = .error e := by
  rcases readiness_bind_error.mp thrown with failed | ⟨⟨a, signature⟩, parsed, rest⟩
  · exact .inr failed
  · refine .inl ?_
    obtain ⟨r, rfl⟩ : ∃ r, record = .object r := by
      cases record with
      | notObject => cases parsed
      | object r => exact ⟨r, rfl⟩
    have spells := (parse_ok.mp parsed).spells
    refine FailsAs.bind (raise_failsAs readinessDomain_failsAs) (fun domain built => ?_) e rest
    refine (raiseRuled_failsAs evmAddress_failsAs).bind fun expected _ => ?_
    obtain ⟨digest, hashed⟩ := readinessDigest_total (raise_ok.mp built) spells
    rw [hashed]
    refine failsAs_ok.bind fun _ _ => FailsAs.bind ?_ fun signer _ => ?_
    · unfold recoverReadinessAddress
      split
      · exact failsAs_ok
      · exact refuseReadiness_failsAs
    · refine FailsAs.ite (fun _ => refuseReadiness_failsAs) fun _ => ?_
      exact checkSubject_failsAs.bind fun _ _ => checkFresh_failsAs.bind fun _ _ => failsAs_ok

/-- A verified record is exactly one that is asked for, and everything else is the module's own
refusal, unless the record holds a member that its refusal cannot print. -/
theorem verification_exact_and_closed (t : ReadinessType) (record : Presented)
    (policy : ReadinessPolicy t) :
    ((∀ v, verifyReadinessRecord t record policy = .ok v ↔ Accepted t record policy v) ∧
      ∀ e, verifyReadinessRecord t record policy = .error e →
        ∃ code field detail, e = .refused code field detail) ↔
      ¬Unprintable t record := by
  constructor
  · rintro ⟨-, closed⟩ unprintable
    have thrown : verifyReadinessRecord t record policy = .error .typeError :=
      readiness_bind_error.mpr (.inl (parse_typeError.mpr unprintable))
    obtain ⟨_, _, _, other⟩ := closed _ thrown
    cases other
  · intro printable
    refine ⟨fun v => verify_ok, fun e thrown => ?_⟩
    rcases verify_error thrown with refused | failed
    · exact refused
    · rcases parse_failsAs e failed with refused | rfl
      · exact refused
      · exact absurd (parse_typeError.mp failed) printable

end Law

/-- A root update whose time is a bigint. -/
def bigintTime : UntrustedObject where
  keys := ["root", "rootBlock", "attestedAt", "signature"]
  get := fun
    | "root" => some (.text (hex64 7))
    | "rootBlock" => some (.text "1")
    | "attestedAt" => some (.bigint 1)
    | "signature" => some (.text (hexlify (Bytes.ofNat 65 0).bytes))
    | _ => none
  get_keys := by simp

def rootPolicy : ReadinessPolicy .rootUpdate where
  domain :=
    { sourceChainId := .bigint 11155111
      environment := "development"
      network :=
        { aztecChainId := .bigint 1
          protocolVersion := .bigint 1
          rollupAddress := hexlify (Bytes.ofNat 20 1).bytes
          l1ChainId := .bigint 1
          genesisOrNetworkDigest := hex64 1 }
      manifestDigest := hex64 1 }
  expectedSigner := hexlify (Bytes.ofNat 20 1).bytes
  expected := (⟨none⟩ : ExpectedRoot)
  now := .bigint 1
  maxAgeSeconds := .bigint 60
  maxFutureSkewSeconds := .bigint 60
  minBlock := .bigint 1

/-- The refusal of that time is lost to the language's own error. -/
theorem bigintTime_throws :
    letI : Ethers := documentedEthers
    letI : ReadinessRecovery := ⟨fun _ _ => none⟩
    verifyReadinessRecord .rootUpdate (.object bigintTime) rootPolicy = .error .typeError ∧
      ¬∃ code field detail, ReadinessThrown.typeError = .refused code field detail := by
  refine ⟨readiness_bind_error.mpr (.inl (parse_typeError.mpr ?_)), ?_⟩
  · exact ⟨bigintTime, rfl, by decide, by decide,
      ⟨.ofNat 65 0, _, rfl, hexBytes_hexlify _⟩, .inl rfl⟩
  · rintro ⟨code, field, detail, same⟩
    cases same

end XochiSdk.Signer
