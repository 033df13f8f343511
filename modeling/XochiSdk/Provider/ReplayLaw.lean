import XochiSdk.Provider.ReplayStore
import Mathlib.Logic.Relation
import XochiSdk.Signer.IntentVerify

/-!
# Retries are byte-identical

Requests under one store, each suspended at its lookup, its signature and its record, and resumed in
any order. What a key retains is settled by the first record, and whoever answers answers with it.
-/

namespace XochiSdk.Provider

open XochiSdk.Js Signer Function

structure Request where
  submitter : Int
  timestamp : Int
  payloadHash : Octets
  signer : Identity

def Request.key (request : Request) : DbKey := ⟨request.submitter, request.payloadHash⟩

/-- Where a call of `signThroughLedger` stands. -/
inductive Phase where
  | asked
  | looked (found : Option SignSignalsResult)
  | signed (candidate : SignSignalsResult)
  | recorded (candidate : SignSignalsResult) (canonical : ReplayRecordResult)
  | answered (response : LedgeredSignResult)
  | failed (why : String)

def outcome : Except String LedgeredSignResult → Phase
  | .ok response => .answered response
  | .error why => .failed why

section

variable {ι σ Signature : Type} [DecidableEq ι]

/-- The store, the calls, and what was signed for each. -/
structure World (ι σ : Type) where
  store : σ
  phase : ι → Phase
  made : List (ι × SignSignalsResult)

def World.move (w : World ι σ) (i : ι) (phase : Phase) : World ι σ :=
  { w with phase := update w.phase i phase }

@[simp] theorem move_phase_self (w : World ι σ) (i : ι) (phase : Phase) :
    (w.move i phase).phase i = phase := by
  simp [World.move]

theorem move_phase_of_ne {w : World ι σ} {i j : ι} {phase : Phase} (other : j ≠ i) :
    (w.move i phase).phase j = w.phase j := by
  simp [World.move, other]

/-- No call has begun. -/
def start (db : ReplayDb σ) : World ι σ := ⟨db.fresh, fun _ => .asked, []⟩

/-- A lookup found a bundle of the signer's own. -/
def Own (signer : Identity) (found : Option SignSignalsResult) : Prop :=
  ∃ recorded, found = some recorded ∧
    resultMatchesIdentity recorded signer.publicKeyX signer.publicKeyY = true

variable (curve : Curve Signature) (db : ReplayDb σ) (requests : ι → Request)

/-- One step of one call, or of the store. What the store drops in a step is `allowed`. -/
inductive Step (allowed : σ → σ → Prop) : World ι σ → World ι σ → Prop where
  | sweep {w : World ι σ} {s : σ} (swept : db.Sweep w.store s) (kept : allowed w.store s) :
      Step allowed w { w with store := s }
  | refuse {w : World ι σ} {i : ι} {why : String} (here : w.phase i = .asked)
      (refused : snapshotDigestSignerIdentity curve (requests i).signer = .error why) :
      Step allowed w (w.move i (.failed why))
  | lookup {w : World ι σ} {i : ι} {found : Option SignSignalsResult} {s : σ} {identity : Identity}
      (here : w.phase i = .asked)
      (shown : snapshotDigestSignerIdentity curve (requests i).signer = .ok identity)
      (call : db.Lookup w.store (requests i).key found s) (kept : allowed w.store s) :
      Step allowed w ({ w with store := s }.move i (.looked found))
  | replay {w : World ι σ} {i : ι} {recorded : SignSignalsResult}
      (here : w.phase i = .looked (some recorded)) (own : Own (requests i).signer (some recorded)) :
      Step allowed w (w.move i
        (outcome (replayRecorded curve (requests i).signer (requests i).payloadHash recorded)))
  | sign {w : World ι σ} {i : ι} {found : Option SignSignalsResult} {adapterSignature : Octets}
      {candidate : SignSignalsResult} (here : w.phase i = .looked found)
      (own : ¬Own (requests i).signer found)
      (signed : signPayloadHash curve (requests i).signer (requests i).payloadHash
        adapterSignature = .ok candidate) :
      Step allowed w
        ({ w with made := (i, candidate) :: w.made }.move i (.signed candidate))
  | signFails {w : World ι σ} {i : ι} {found : Option SignSignalsResult} {why : String}
      (here : w.phase i = .looked found) (own : ¬Own (requests i).signer found) :
      Step allowed w (w.move i (.failed why))
  | record {w : World ι σ} {i : ι} {candidate : SignSignalsResult} {canonical : ReplayRecordResult}
      {swept s : σ} (here : w.phase i = .signed candidate)
      (call : db.Record w.store (requests i).key (requests i).timestamp candidate canonical swept s)
      (kept : allowed w.store swept) (retained : allowed swept s) :
      Step allowed w ({ w with store := s }.move i (.recorded candidate canonical))
  | settle {w : World ι σ} {i : ι} {candidate : SignSignalsResult} {canonical : ReplayRecordResult}
      (here : w.phase i = .recorded candidate canonical) :
      Step allowed w (w.move i (outcome (settleCanonical curve (requests i).signer
        (requests i).payloadHash candidate canonical)))

/-- The worlds that runs come to. -/
def Reached (allowed : σ → σ → Prop) (w : World ι σ) : Prop :=
  Relation.ReflTransGen (Step curve db requests allowed) (start db) w

/-- The record of a key is not evicted. -/
def Keeps (key : DbKey) (s s' : σ) : Prop :=
  (db.retained s key).isSome = true → (db.retained s' key).isSome = true

/-- The requests for a key are all under one signer identity. -/
def OneIdentity (key : DbKey) : Prop :=
  ∀ i j, (requests i).key = key → (requests j).key = key →
    (requests i).signer.publicKeyX = (requests j).signer.publicKeyX ∧
      (requests i).signer.publicKeyY = (requests j).signer.publicKeyY

/-- A call that is not in flight. -/
def Phase.Settled : Phase → Prop
  | .asked => True
  | .answered _ => True
  | .failed _ => True
  | _ => False

/-! ## Bundles that pass -/

variable {curve db requests}

theorem matches_iff {result : SignSignalsResult} {x y : Octets} :
    resultMatchesIdentity result x y = true ↔ result.pubkeyX = x ∧ result.pubkeyY = y := by
  rw [resultMatchesIdentity, Bool.and_eq_true, beq_iff_eq, beq_iff_eq]

/-- What passes is what was stored, of the identity and the payload. -/
theorem validateReplayResult_ok {stored result : SignSignalsResult} {identity : Identity}
    {payloadHash : Octets}
    (h : validateReplayResult curve stored identity payloadHash = .ok result) :
    result = stored ∧ stored.payloadHash = payloadHash ∧
      resultMatchesIdentity stored identity.publicKeyX identity.publicKeyY = true := by
  unfold validateReplayResult at h
  split at h
  · cases h
  · split at h
    · cases h
    · rename_i same
      split at h
      · cases h
      · rename_i payload
        refine ⟨?_, not_not.mp payload, not_not.mp same⟩
        split at h
        · cases h
        · split_ifs at h
          exact (Except.ok.inj h).symm

theorem snapshotDigestSignerIdentity_ok {signer identity : Identity}
    (h : snapshotDigestSignerIdentity curve signer = .ok identity) :
    identity = signer ∧ signer.publicKeyX.length = 32 ∧ signer.publicKeyY.length = 32 := by
  unfold snapshotDigestSignerIdentity at h
  split at h
  · cases h
  · rename_i lengths
    rw [not_or, not_not, not_not] at lengths
    split at h
    · cases h
    · exact ⟨(Except.ok.inj h).symm, lengths⟩

theorem validatedSignDigest_ok {identity : Identity} {digest adapterSignature signature : Octets}
    (h : validatedSignDigest curve identity digest adapterSignature = .ok signature) :
    digest.length = 32 ∧ identity.publicKeyX.length = 32 ∧ identity.publicKeyY.length = 32 ∧
      signature = adapterSignature ∧ adapterSignature.length = 64 ∧
      ∃ s, curve.fromCompact adapterSignature = some s ∧ curve.hasHighS s = false ∧
        curve.verify s digest (uncompressedPublicKey identity) = true := by
  unfold validatedSignDigest at h
  split at h
  · cases h
  · rename_i digest_
    obtain ⟨shown, snapshot, rest⟩ := bind_ok.mp h
    obtain ⟨rfl, lengthX, lengthY⟩ := snapshotDigestSignerIdentity_ok snapshot
    simp only at rest
    split at rest
    · cases rest
    · rename_i compact
      split at rest
      · cases rest
      · rename_i s parsed
        split at rest
        · cases rest
        · rename_i low
          split at rest
          · cases rest
          · rename_i verified
            split at rest
            · exact ⟨not_not.mp digest_, lengthX, lengthY, (Except.ok.inj rest).symm,
                not_not.mp compact, s, parsed, Bool.not_eq_true _ ▸ low, not_not.mp verified⟩
            · cases rest

/-- A bundle that was signed passes, for every signer of the same key. -/
theorem signPayloadHash_valid {identity other : Identity}
    {payloadHash adapterSignature : Octets} {candidate : SignSignalsResult}
    (h : signPayloadHash curve identity payloadHash adapterSignature = .ok candidate)
    (sameX : identity.publicKeyX = other.publicKeyX)
    (sameY : identity.publicKeyY = other.publicKeyY) :
    validateReplayResult curve candidate other payloadHash = .ok candidate := by
  obtain ⟨signature, signed, returned⟩ := bind_ok.mp h
  obtain ⟨digest, lengthX, lengthY, rfl, compact, s, parsed, low, verified⟩ :=
    validatedSignDigest_ok signed
  obtain rfl := Except.ok.inj returned
  have key : uncompressedPublicKey other = uncompressedPublicKey identity := by
    rw [uncompressedPublicKey, uncompressedPublicKey, sameX, sameY]
  unfold validateReplayResult
  simp only [parsed]
  rw [if_neg, if_neg, if_neg (by simp), if_neg (by simp [low]), if_neg,
    if_neg (by simp [sameX, sameY])]
  · rw [key, verified]
    decide
  · rw [not_not, matches_iff]
    exact ⟨sameX, sameY⟩
  · simp [compact, lengthX, lengthY, curve.commitment_length, digest]

/-! ## One key -/

/-- A call published its own candidate. -/
def Inserted : Phase → Prop
  | .recorded _ canonical => canonical.inserted = true
  | .answered response => response.replayed = false
  | _ => False

/-- What a call of a key knows, by what the key retains and what passes. -/
def Fits (kept : Option SignSignalsResult) (Valid : SignSignalsResult → Prop) : Phase → Prop
  | .looked (some found) => kept = some found
  | .signed candidate => Valid candidate
  | .recorded candidate canonical => kept = some canonical.result ∧
      (canonical.inserted = true → canonical.result = candidate)
  | .answered response => kept = some response.result
  | _ => True

theorem Fits.of_none {Valid : SignSignalsResult → Prop} {phase : Phase}
    (fits : Fits none Valid phase) (kept : Option SignSignalsResult) :
    Fits kept Valid phase ∧ ¬Inserted phase := by
  cases phase with
  | asked => exact ⟨trivial, id⟩
  | looked found =>
    cases found with
    | none => exact ⟨trivial, id⟩
    | some found => exact absurd fits (by simp [Fits])
  | signed candidate => exact ⟨fits, id⟩
  | recorded candidate canonical => exact absurd fits.1 (by simp)
  | answered response => exact absurd fits (by simp [Fits])
  | failed why => exact ⟨trivial, id⟩

/-- A bundle passes for every request of the key. -/
def Passes (curve : Curve Signature) (requests : ι → Request) (key : DbKey)
    (bundle : SignSignalsResult) : Prop :=
  ∀ i, (requests i).key = key →
    validateReplayResult curve bundle (requests i).signer key.payloadHash = .ok bundle

/-- What holds of a key whose record is not evicted. -/
structure Settles (curve : Curve Signature) (db : ReplayDb σ) (requests : ι → Request) (key : DbKey)
    (w : World ι σ) : Prop where
  passes : ∀ bundle, db.retained w.store key = some bundle → Passes curve requests key bundle
  fits : ∀ i, (requests i).key = key →
    Fits (db.retained w.store key) (Passes curve requests key) (w.phase i)
  single : ∀ i j, (requests i).key = key → (requests j).key = key →
    Inserted (w.phase i) → Inserted (w.phase j) → i = j
  present : ∀ bundle, db.retained w.store key = some bundle →
    ∃ i, (requests i).key = key ∧ Inserted (w.phase i)

variable {key : DbKey} {w : World ι σ}

omit [DecidableEq ι] in
theorem settles_start : Settles curve db requests key (start db) := by
  have none_ := db.fresh_retains key
  refine ⟨fun bundle kept => ?_, fun i _ => trivial, fun i j _ _ first => first.elim,
    fun bundle kept => ?_⟩
  · rw [start, none_] at kept
    cases kept
  · rw [start, none_] at kept
    cases kept

omit [DecidableEq ι] in
/-- A store that retains the same under the key. -/
theorem Settles.store (inv : Settles curve db requests key w) {s : σ}
    (same : db.retained s key = db.retained w.store key) :
    Settles curve db requests key { w with store := s } := by
  refine ⟨fun bundle kept => inv.passes bundle (same ▸ kept), fun i here => ?_, inv.single,
    fun bundle kept => inv.present bundle (same ▸ kept)⟩
  show Fits (db.retained s key) _ _
  rw [same]
  exact inv.fits i here

/-- A move of one call that publishes nothing anew. -/
theorem Settles.move (inv : Settles curve db requests key w) {i : ι} {phase : Phase}
    (fits : (requests i).key = key →
      Fits (db.retained w.store key) (Passes curve requests key) phase)
    (same : (requests i).key = key → (Inserted phase ↔ Inserted (w.phase i))) :
    Settles curve db requests key (w.move i phase) := by
  have inserted : ∀ j, (requests j).key = key →
      (Inserted ((w.move i phase).phase j) ↔ Inserted (w.phase j)) := by
    intro j there
    by_cases eq : j = i
    · subst eq
      rw [move_phase_self]
      exact same there
    · rw [move_phase_of_ne eq]
  refine ⟨inv.passes, fun j there => ?_, fun j k hj hk first second => ?_, fun bundle kept => ?_⟩
  · by_cases eq : j = i
    · subst eq
      rw [move_phase_self]
      exact fits there
    · rw [move_phase_of_ne eq]
      exact inv.fits j there
  · exact inv.single j k hj hk ((inserted j hj).mp first) ((inserted k hk).mp second)
  · obtain ⟨j, there, first⟩ := inv.present bundle kept
    exact ⟨j, there, (inserted j there).mpr first⟩

/-- The first record of a key: what is retained is the candidate of the call that published it. -/
theorem Settles.publish (inv : Settles curve db requests key w) {i : ι} {s : σ}
    {candidate : SignSignalsResult} (here : (requests i).key = key)
    (none_ : db.retained w.store key = none) (valid : Passes curve requests key candidate)
    (kept : db.retained s key = some candidate) :
    Settles curve db requests key
      ({ w with store := s }.move i (.recorded candidate ⟨candidate, true⟩)) := by
  have idle : ∀ j, (requests j).key = key → Fits (some candidate) (Passes curve requests key)
      (w.phase j) ∧ ¬Inserted (w.phase j) := by
    intro j there
    have fits := inv.fits j there
    rw [none_] at fits
    exact fits.of_none (some candidate)
  have only : ∀ j, (requests j).key = key →
      Inserted (({ w with store := s }.move i (.recorded candidate ⟨candidate, true⟩)).phase j) →
      j = i := by
    intro j there inserted
    by_contra other
    rw [move_phase_of_ne other] at inserted
    exact (idle j there).2 inserted
  refine ⟨fun bundle found => ?_, fun j there => ?_, fun j k hj hk first second => ?_,
    fun bundle found => ⟨i, here, ?_⟩⟩
  · obtain rfl := Option.some.inj (kept.symm.trans found)
    exact valid
  · show Fits (db.retained s key) _ _
    rw [kept]
    by_cases eq : j = i
    · subst eq
      rw [move_phase_self]
      exact ⟨rfl, fun _ => rfl⟩
    · rw [move_phase_of_ne eq]
      exact (idle j there).1
  · rw [only j hj first, only k hk second]
  · rw [move_phase_self]
    rfl

theorem kept_of_drops {s s' : σ} (drops : Drops db.retained s s') (keeps : Keeps db key s s') :
    db.retained s' key = db.retained s key := by
  rcases drops key with same | gone
  · exact same
  · rw [gone]
    cases found : db.retained s key with
    | none => rfl
    | some bundle =>
      have stays := keeps (by rw [found]; rfl)
      rw [gone] at stays
      cases stays

omit [DecidableEq ι] in
theorem passes_matches {bundle : SignSignalsResult} (passes : Passes curve requests key bundle)
    {i : ι} (here : (requests i).key = key) :
    resultMatchesIdentity bundle (requests i).signer.publicKeyX (requests i).signer.publicKeyY =
      true :=
  (validateReplayResult_ok (passes i here)).2.2

omit [DecidableEq ι] in
theorem key_payloadHash {i : ι} (here : (requests i).key = key) :
    (requests i).payloadHash = key.payloadHash := by
  rw [← here]
  rfl

/-- A step in which the key's record is not evicted. -/
theorem settles_step {w' : World ι σ} (one : OneIdentity requests key)
    (inv : Settles curve db requests key w)
    (step : Step curve db requests (Keeps db key) w w') : Settles curve db requests key w' := by
  cases step with
  | sweep swept kept => exact inv.store (kept_of_drops (db.sweep_drops swept) kept)
  | @refuse i why here refused =>
    refine inv.move (fun _ => trivial) fun _ => ?_
    rw [here]
    exact Iff.rfl
  | @lookup i found s identity here shown call kept =>
    have same := kept_of_drops (db.lookup_drops call) kept
    refine (inv.store same).move (fun there => ?_) fun _ => ?_
    · have answer := db.lookup_found call
      rw [there] at answer
      cases found with
      | none => trivial
      | some bundle => exact answer.symm
    · show _ ↔ Inserted (w.phase i)
      rw [here]
      exact Iff.rfl
  | @replay i recorded here own =>
    refine inv.move (fun there => ?_) fun there => ?_
    all_goals
      have kept := inv.fits i there
      rw [here] at kept
      have valid := inv.passes recorded kept i there
      rw [← key_payloadHash there] at valid
      rw [replayRecorded, valid]
    · exact kept
    · rw [here]
      exact iff_of_false (by simp [outcome, Inserted, pure, Except.pure, bind, Except.bind]) id
  | @sign i found adapterSignature candidate here own signed =>
    have unmade : Settles curve db requests key { w with made := (i, candidate) :: w.made } :=
      ⟨inv.passes, inv.fits, inv.single, inv.present⟩
    refine unmade.move (fun there => fun j elsewhere => ?_) fun _ => ?_
    · have identity := one i j there elsewhere
      rw [← key_payloadHash there]
      exact signPayloadHash_valid signed identity.1 identity.2
    · show _ ↔ Inserted (w.phase i)
      rw [here]
      exact Iff.rfl
  | @signFails i found why here own =>
    refine inv.move (fun _ => trivial) fun _ => ?_
    rw [here]
    exact Iff.rfl
  | @record i candidate canonical swept s here call kept retained =>
    have same := kept_of_drops (db.record_drops call) kept
    by_cases there : (requests i).key = key
    · have valid := inv.fits i there
      rw [here] at valid
      rw [there] at call
      cases found : db.retained swept key with
      | none =>
        obtain ⟨rfl, now⟩ := db.record_new call fun existing stays => by
          rw [found] at stays
          cases stays
        exact inv.publish there (same ▸ found) valid now
      | some existing =>
        have before : db.retained w.store key = some existing := same ▸ found
        have wins : resultMatchesIdentity existing candidate.pubkeyX candidate.pubkeyY = true := by
          have first := matches_iff.mp (passes_matches (inv.passes existing before) there)
          have second := matches_iff.mp (passes_matches valid there)
          rw [matches_iff, first.1, first.2, second.1, second.2]
          exact ⟨rfl, rfl⟩
        obtain ⟨rfl, now⟩ := db.record_existing call found wins
        refine (inv.store (now.trans before.symm)).move (fun _ => ?_) fun _ => ?_
        · exact ⟨now, fun inserted => by cases inserted⟩
        · show _ ↔ Inserted (w.phase i)
          rw [here]
          exact iff_of_false (by simp [Inserted]) id
    · have drops : db.retained s key = db.retained swept key := by
        rcases db.record_other call (Ne.symm there) with stays | gone
        · exact stays
        · rw [gone]
          cases found : db.retained swept key with
          | none => rfl
          | some bundle =>
            have stays := retained (by rw [found]; rfl)
            rw [gone] at stays
            cases stays
      exact (inv.store (drops.trans same)).move (fun here => absurd here there)
        fun here => absurd here there
  | @settle i candidate canonical here =>
    refine inv.move (fun there => ?_) fun there => ?_
    all_goals
      have fits := inv.fits i there
      rw [here] at fits
      obtain ⟨kept, own⟩ := fits
      have valid := inv.passes canonical.result kept i there
      rw [← key_payloadHash there] at valid
      have honest : ¬(canonical.inserted = true ∧ canonical.result ≠ candidate) :=
        fun lie => lie.2 (own lie.1)
      rw [settleCanonical, valid]
      simp only [bind, Except.bind, if_neg honest]
    · exact kept
    · rw [here]
      simp [outcome, Inserted, pure, Except.pure]

theorem settles_reached (one : OneIdentity requests key)
    (reached : Reached curve db requests (Keeps db key) w) : Settles curve db requests key w := by
  induction reached with
  | refl => exact settles_start
  | tail _ step ih => exact settles_step one ih step

/-! ## Where bundles come from -/

/-- A bundle was signed for a request of the key. -/
def Made (requests : ι → Request) (w : World ι σ) (key : DbKey) (bundle : SignSignalsResult) :
    Prop :=
  ∃ j, (requests j).key = key ∧ (j, bundle) ∈ w.made

/-- What a call holds was signed for its key, and what it answered is of its payload and signer. -/
def Traced (requests : ι → Request) (w : World ι σ) (request : Request) : Phase → Prop
  | .looked (some found) => Made requests w request.key found
  | .signed candidate => Made requests w request.key candidate
  | .recorded _ canonical => Made requests w request.key canonical.result
  | .answered response => Made requests w request.key response.result ∧
      response.result.payloadHash = request.payloadHash ∧
      resultMatchesIdentity response.result request.signer.publicKeyX
        request.signer.publicKeyY = true
  | _ => True

structure Origins (db : ReplayDb σ) (requests : ι → Request) (w : World ι σ) : Prop where
  store : ∀ key bundle, db.retained w.store key = some bundle → Made requests w key bundle
  phase : ∀ i, Traced requests w (requests i) (w.phase i)

omit [DecidableEq ι] in
theorem Made.mono {w' : World ι σ} (more : ∀ m ∈ w.made, m ∈ w'.made) {key : DbKey}
    {bundle : SignSignalsResult} (made : Made requests w key bundle) :
    Made requests w' key bundle := by
  obtain ⟨j, there, among⟩ := made
  exact ⟨j, there, more _ among⟩

omit [DecidableEq ι] in
theorem Traced.mono {w' : World ι σ} (more : ∀ m ∈ w.made, m ∈ w'.made) {request : Request}
    {phase : Phase} (traced : Traced requests w request phase) :
    Traced requests w' request phase := by
  cases phase with
  | looked found =>
    cases found with
    | none => trivial
    | some found => exact Made.mono more traced
  | signed candidate => exact Made.mono more traced
  | recorded candidate canonical => exact Made.mono more traced
  | answered response => exact ⟨Made.mono more traced.1, traced.2⟩
  | asked => trivial
  | failed why => trivial

/-- A step of one call, with more signed and a store that retains nothing of elsewhere. -/
theorem Origins.move (inv : Origins db requests w) {w' : World ι σ} {i : ι} {phase : Phase}
    (more : ∀ m ∈ w.made, m ∈ w'.made) (phases : w'.phase = w.phase)
    (store : ∀ key bundle, db.retained w'.store key = some bundle → Made requests w' key bundle)
    (traced : Traced requests w' (requests i) phase) : Origins db requests (w'.move i phase) := by
  refine ⟨store, fun j => ?_⟩
  by_cases eq : j = i
  · subst eq
    rw [move_phase_self]
    exact traced
  · rw [move_phase_of_ne eq, phases]
    exact (inv.phase j).mono more

omit [DecidableEq ι] in
theorem drops_made {s s' : σ} (drops : Drops db.retained s s')
    (store : ∀ key bundle, db.retained s key = some bundle → Made requests w key bundle) :
    ∀ key bundle, db.retained s' key = some bundle → Made requests w key bundle := by
  intro key bundle kept
  rcases drops key with same | gone
  · exact store key bundle (same ▸ kept)
  · rw [gone] at kept
    cases kept

omit [DecidableEq ι] in
theorem traced_outcome {request : Request} {response : Except String LedgeredSignResult}
    (traced : ∀ answer, response = .ok answer → Traced requests w request (.answered answer)) :
    Traced requests w request (outcome response) := by
  cases response with
  | ok answer => exact traced answer rfl
  | error why => trivial

theorem origins_step {allowed : σ → σ → Prop} {w' : World ι σ} (inv : Origins db requests w)
    (step : Step curve db requests allowed w w') : Origins db requests w' := by
  cases step with
  | sweep swept kept => exact ⟨drops_made (db.sweep_drops swept) inv.store, inv.phase⟩
  | refuse here refused => exact inv.move (fun _ => id) rfl inv.store trivial
  | @lookup i found s identity here shown call kept =>
    have store := drops_made (db.lookup_drops call) inv.store
    refine inv.move (fun _ => id) rfl store ?_
    cases found with
    | none => trivial
    | some bundle => exact store _ _ (db.lookup_found call).symm
  | @replay i recorded here own =>
    refine inv.move (fun _ => id) rfl inv.store (traced_outcome fun answer h => ?_)
    have made := inv.phase i
    rw [here] at made
    obtain ⟨validated, valid, returned⟩ := bind_ok.mp h
    obtain ⟨rfl, payload, same⟩ := validateReplayResult_ok valid
    obtain rfl := Except.ok.inj returned
    exact ⟨made, payload, same⟩
  | @sign i found adapterSignature candidate here own signed =>
    refine inv.move (fun m among => List.mem_cons_of_mem _ among) rfl ?_ ?_
    · intro key bundle kept
      exact (inv.store key bundle kept).mono fun m among => List.mem_cons_of_mem _ among
    · exact ⟨i, rfl, List.mem_cons_self⟩
  | signFails here own => exact inv.move (fun _ => id) rfl inv.store trivial
  | @record i candidate canonical swept s here call kept retained =>
    have made := inv.phase i
    rw [here] at made
    have before := drops_made (db.record_drops call) inv.store
    have here_ : db.retained s (requests i).key = some canonical.result ∧
        Made requests w (requests i).key canonical.result := by
      by_cases known : ∃ existing, db.retained swept (requests i).key = some existing ∧
          resultMatchesIdentity existing candidate.pubkeyX candidate.pubkeyY = true
      · obtain ⟨existing, found, same⟩ := known
        obtain ⟨rfl, now⟩ := db.record_existing call found same
        exact ⟨now, before _ _ found⟩
      · obtain ⟨rfl, now⟩ := db.record_new call fun existing found => by
          rw [← Bool.not_eq_true]
          exact fun same => known ⟨existing, found, same⟩
        exact ⟨now, made⟩
    refine inv.move (fun _ => id) rfl (fun key bundle found => ?_) here_.2
    by_cases there : key = (requests i).key
    · subst there
      obtain rfl := Option.some.inj (here_.1.symm.trans found)
      exact here_.2
    · rcases db.record_other call there with stays | gone
      · exact before key bundle (stays ▸ found)
      · have missing : db.retained s key = some bundle := found
        rw [gone] at missing
        cases missing
  | @settle i candidate canonical here =>
    refine inv.move (fun _ => id) rfl inv.store (traced_outcome fun answer h => ?_)
    have made := inv.phase i
    rw [here] at made
    obtain ⟨validated, valid, returned⟩ := bind_ok.mp h
    obtain ⟨rfl, payload, same⟩ := validateReplayResult_ok valid
    split at returned
    · cases returned
    · obtain rfl := Except.ok.inj returned
      exact ⟨made, payload, same⟩

theorem origins_reached {allowed : σ → σ → Prop}
    (reached : Reached curve db requests allowed w) : Origins db requests w := by
  induction reached with
  | refl =>
    refine ⟨fun key bundle kept => ?_, fun _ => trivial⟩
    rw [start, db.fresh_retains] at kept
    cases kept
  | tail _ step ih => exact origins_step ih step

/-! ## The law -/

/-- In every run in which a key's record is not evicted, with its requests under one identity, all
answers for the key carry one bundle, no two are first answers, and once some call has answered and
none is in flight one is. In every run an answer's bundle is of the request's payload and signer,
and was signed for a request of its submitter and payload. -/
def RetriesIdentical (curve : Curve Signature) (db : ReplayDb σ) (requests : ι → Request) : Prop :=
  (∀ key, OneIdentity requests key → ∀ w, Reached curve db requests (Keeps db key) w →
    (∀ i j a b, (requests i).key = key → (requests j).key = key → w.phase i = .answered a →
      w.phase j = .answered b → a.result = b.result) ∧
    (∀ i j a b, (requests i).key = key → (requests j).key = key → w.phase i = .answered a →
      w.phase j = .answered b → a.replayed = false → b.replayed = false → i = j) ∧
    ((∃ i a, (requests i).key = key ∧ w.phase i = .answered a) →
      (∀ i, (requests i).key = key → (w.phase i).Settled) →
      ∃ i a, (requests i).key = key ∧ w.phase i = .answered a ∧ a.replayed = false)) ∧
  ∀ w, Reached curve db requests (fun _ _ => True) w → ∀ i a, w.phase i = .answered a →
    a.result.payloadHash = (requests i).payloadHash ∧
    a.result.pubkeyX = (requests i).signer.publicKeyX ∧
    a.result.pubkeyY = (requests i).signer.publicKeyY ∧
    ∃ j, (requests j).submitter = (requests i).submitter ∧
      (requests j).payloadHash = (requests i).payloadHash ∧ (j, a.result) ∈ w.made

theorem retriesIdentical (curve : Curve Signature) (db : ReplayDb σ) (requests : ι → Request) :
    RetriesIdentical curve db requests := by
  refine ⟨fun key one w reached => ?_, fun w reached i a here => ?_⟩
  · have inv := settles_reached one reached
    have kept : ∀ i a, (requests i).key = key → w.phase i = .answered a →
        db.retained w.store key = some a.result := by
      intro i a there here
      have fits := inv.fits i there
      rwa [here] at fits
    refine ⟨fun i j a b hi hj first second => ?_, fun i j a b hi hj first second left right => ?_,
      fun answered settled => ?_⟩
    · exact Option.some.inj ((kept i a hi first).symm.trans (kept j b hj second))
    · refine inv.single i j hi hj ?_ ?_
      · rw [first]
        exact left
      · rw [second]
        exact right
    · obtain ⟨i, a, there, here⟩ := answered
      obtain ⟨j, elsewhere, inserted⟩ := inv.present _ (kept i a there here)
      have done := settled j elsewhere
      cases phase : w.phase j with
      | answered b =>
        rw [phase] at inserted
        exact ⟨j, b, elsewhere, phase, inserted⟩
      | recorded candidate canonical =>
        rw [phase] at done
        exact done.elim
      | asked | looked | signed | failed =>
        rw [phase] at inserted
        exact inserted.elim
  · have traced := (origins_reached reached).phase i
    rw [here] at traced
    obtain ⟨⟨j, key, among⟩, payload, same⟩ := traced
    obtain ⟨x, y⟩ := matches_iff.mp same
    exact ⟨payload, x, y, j, congrArg DbKey.submitter key, congrArg DbKey.payloadHash key, among⟩

/-- Over every store that keeps the contract, and over the store in memory. -/
theorem retries_byte_identical (curve : Curve Signature) (requests : ι → Request) :
    (∀ db : ReplayDb σ, RetriesIdentical curve db requests) ∧
    ∀ retentionSeconds maxEntries (positive : 0 < maxEntries),
      RetriesIdentical curve (memoryReplayDb retentionSeconds maxEntries positive) requests :=
  ⟨fun db => retriesIdentical curve db requests,
    fun _ _ _ => retriesIdentical curve _ requests⟩

end

end XochiSdk.Provider
