import XochiSdk.Library.Async
import XochiSdk.Signer.Ethers
import XochiSdk.Signer.RecipientAcks

/-!
# One acceptance per acknowledgement

`verifyRecipientAck` called any number of times over one replay store, which consumes a key in
one step. A call runs its checks, sends the key, and is told whether the key was new. The store
may fail before the key is consumed or after it, and others may consume keys in it.
-/

namespace XochiSdk.Signer.AckReplay

open XochiSdk.Js XochiSdk.Library

/-- The arguments of one call. -/
structure AckCall where
  primaryType : RecipientAckType
  message : primaryType.Message
  signature : String
  policy : RecipientAckVerificationPolicy primaryType

inductive Ask where
  /-- The key travels to the store. -/
  | reach
  /-- The store's answer travels back. -/
  | answered
  deriving DecidableEq

@[reducible] def Ask.Answer (_ : Ask) : Type := Unit

/-- What is seen of a call. -/
inductive Deed where
  | called (c : AckCall)
  | consumed (key : Word)
  /-- The store already has the key. -/
  | found (key : Word)
  | accepted (c : AckCall)
  | refused (e : RefusalError)

/-- The keys the store has consumed. -/
abbrev Store : Type := List Word

/-- The store's own failures carry nothing the call reads. -/
abbrev Code (α : Type) : Type := Async Store Deed Ask Ask.Answer Unit α

def ask (q : Ask) : Code Unit := Async.await q

/-- The store's step: it consumes the key unless it has it. -/
def take (key : Word) (s : Store) : Store × List Deed :=
  if key ∈ s then (s, [.found key]) else (key :: s, [.consumed key])

/-- `policy.consumeReplayKey`. -/
def consumeReplayKey (key : Word) : Code Bool := do
  ask .reach
  let consumed ← Async.act (take key) fun s => .pure (decide (key ∉ s))
  ask .answered
  pure consumed

def nonceReplayed : RefusalError :=
  ⟨.ack, .nonceReplayed, "nonce", "already consumed for this type and binding"⟩

section

variable [Ethers] [Poseidon2]

def AckCall.checks (c : AckCall) : Checked VerifiedRecipientAck :=
  ackChecks c.primaryType c.message c.signature c.policy

/-- The call, once its checks have passed. -/
def consumeAndAccept (c : AckCall) (verified : VerifiedRecipientAck) : Code Unit := do
  if ← consumeReplayKey verified.replayKey then Async.doing id [.accepted c]
  else Async.doing id [.refused nonceReplayed]

def verifyRecipientAck (c : AckCall) : Code Unit := do
  Async.doing id [.called c]
  match c.checks with
  | .error e => Async.doing id [.refused e]
  | .ok verified => consumeAndAccept c verified

end

abbrev Trace : Type := List (Entry Deed Ask Ask.Answer Unit)

/-- The world is the keys others have consumed. -/
abbrev AckScene : Type := Scene (List Word) Store Deed Ask Ask.Answer Unit

@[reducible] def ready (_ : List Word) (_ : Store) (q : Ask) (_ : Except Unit q.Answer) : Prop :=
  True

/-- Others consume a key. -/
def outside (w : List Word) (s : Store) (w' : List Word) (s' : Store) : Prop :=
  ∃ key, w' = key :: w ∧ s' = key :: s

def start (w : List Word) (s : Store) : Prop := s = w

/-- Every interleaving of the calls. -/
def Runs [Ethers] [Poseidon2] (sc : AckScene) (threads : List (Code Unit)) : Prop :=
  Pool verifyRecipientAck ready outside start sc threads

/-! ## What a run may not do -/

/-- The type, the binding's digest and the nonce, as the message spells them. -/
def AckCall.subject (c : AckCall) : RecipientAckType × Option Word × Option Word :=
  (c.primaryType, hexBytes 32 (c.primaryType.bindingDigest c.message),
    hexBytes 32 (c.primaryType.nonce c.message))

/-- The call whose acknowledgement an entry accepts. -/
def accepted? : Entry Deed Ask Ask.Answer Unit → Option AckCall
  | .did _ (.accepted c) => some c
  | _ => none

/-- The acknowledgements accepted, in order. -/
def accepted (trace : Trace) : List AckCall := trace.filterMap accepted?

section

variable [Ethers] [Poseidon2]

/-- The call's checks pass, and the key is its own. -/
def AckCall.Keyed (c : AckCall) (key : Word) : Prop :=
  ∃ verified, c.checks = .ok verified ∧ verified.replayKey = key

/-- What the digests of a call's key are computed from. -/
def AckCall.used (c : AckCall) : List (List UInt8) :=
  match c.subject with
  | (primaryType, some bindingDigest, some nonce) =>
    [utf8 primaryType.typeString, encodeWords (replayWords primaryType bindingDigest nonce)]
  | _ => []

/-- Each acknowledgement is accepted once, keys are consumed for accepted checks only, and a
call is turned away as replayed only where its own key is gone. -/
structure Exact (sc : AckScene) : Prop where
  /-- No two acceptances are of one type, binding and nonce. -/
  once : (accepted sc.trace).Pairwise (·.subject ≠ ·.subject)
  /-- An acceptance is of the call's own arguments, whose key it has consumed. -/
  accepted : ∀ i c, .did i (.accepted c) ∈ sc.trace → .did i (.called c) ∈ sc.trace ∧
    ∃ key, c.Keyed key ∧ .did i (.consumed key) ∈ sc.trace
  /-- A key is consumed once every other check has passed. -/
  checked : ∀ i key, .did i (.consumed key) ∈ sc.trace →
    ∃ c, .did i (.called c) ∈ sc.trace ∧ c.Keyed key
  /-- A refused call has consumed no key. -/
  spared : ∀ i e key, .did i (.refused e) ∈ sc.trace → .did i (.consumed key) ∉ sc.trace
  /-- A call is refused for what its checks say, or as replayed where its key was found. -/
  refused : ∀ i e, .did i (.refused e) ∈ sc.trace → ∃ c, .did i (.called c) ∈ sc.trace ∧
    (c.checks = .error e ∨ e = nonceReplayed ∧ ∃ key, .did i (.found key) ∈ sc.trace)
  /-- A key that is found was consumed by others, or for the same type, binding and nonce. -/
  unblocked : ∀ i c key, .did i (.called c) ∈ sc.trace → .did i (.found key) ∈ sc.trace →
    key ∈ sc.world ∨ ∃ j c', .did j (.called c') ∈ sc.trace ∧
      .did j (.consumed key) ∈ sc.trace ∧
      (Distinguishes keccak256 (c.used ++ c'.used) → c'.subject = c.subject)

/-! ## The key of a call -/

/-- A checked call's key is over its own type, binding and nonce. -/
theorem Keyed.words {c : AckCall} {key : Word} (h : c.Keyed key) : ∃ binding nonce,
    c.subject = (c.primaryType, some binding, some nonce) ∧
      key = recipientAckReplayKey c.primaryType binding nonce := by
  obtain ⟨verified, passed, rfl⟩ := h
  simp only [AckCall.checks, ackChecks, checked_bind, ackRules, withRefusalsAs_ok] at passed
  obtain ⟨_, -, passed⟩ := passed
  simp only [checkRecipientAck, checked_bind] at passed
  obtain ⟨_, -, _, -, _, -, _, -, _, -, _, -, _, -, _, -, _, -, _, -, passed⟩ := passed
  obtain ⟨binding, binding_ok, _, -, _, -, _, -, _, -, _, -, passed⟩ := passed
  obtain ⟨nonce, nonce_ok, _, -, _, -, _, -, passed⟩ := passed
  split at passed
  · cases passed
  rw [checked_bind] at passed
  obtain ⟨_, -, passed⟩ := passed
  split at passed
  · cases passed
  rw [pure_ok] at passed
  refine ⟨binding, nonce, ?_, ?_⟩
  · rw [AckCall.subject, nonzeroDigest_ok binding_ok, nonzeroDigest_ok nonce_ok]
  · rw [← passed]

/-- Calls of one subject have one key. -/
theorem Keyed.same {c c' : AckCall} {key key' : Word} (h : c.Keyed key) (h' : c'.Keyed key')
    (same : c.subject = c'.subject) : key = key' := by
  obtain ⟨binding, nonce, subject, rfl⟩ := words h
  obtain ⟨binding', nonce', subject', rfl⟩ := words h'
  rw [subject, subject'] at same
  obtain ⟨type, binding, nonce⟩ := by simpa only [Prod.mk.injEq, Option.some.injEq] using same
  rw [type, binding, nonce]

/-- Calls of one key have one subject, as far as the hash tells their preimages apart. -/
theorem Keyed.subject {c c' : AckCall} {key : Word} (h : c.Keyed key) (h' : c'.Keyed key)
    (apart : Distinguishes keccak256 (c.used ++ c'.used)) : c'.subject = c.subject := by
  obtain ⟨binding, nonce, subject, is⟩ := words h
  obtain ⟨binding', nonce', subject', is'⟩ := words h'
  rw [AckCall.used, AckCall.used, subject, subject'] at apart
  have preimages : encodeWords (replayWords c'.primaryType binding' nonce') =
      encodeWords (replayWords c.primaryType binding nonce) :=
    apart.eq (by simp) (by simp) (is'.symm.trans is)
  have members := encodeWords_injective preimages
  simp only [replayWords, List.cons.injEq, and_true] at members
  obtain ⟨type, binding, nonce⟩ := members
  have type := RecipientAckType.typeString_injective (utf8_injective (apart.eq (by simp) (by simp) type))
  rw [subject, subject', type, binding, nonce]

/-! ## What every change keeps -/

structure Inv (sc : AckScene) : Prop where
  exact : Exact sc
  one : ∀ i c c', .did i (.called c) ∈ sc.trace → .did i (.called c') ∈ sc.trace → c = c'
  owner : ∀ i j key, .did i (.consumed key) ∈ sc.trace → .did j (.consumed key) ∈ sc.trace → i = j
  stored : ∀ i key, .did i (.consumed key) ∈ sc.trace → key ∈ sc.shared
  known : ∀ key ∈ sc.shared, key ∈ sc.world ∨ ∃ i, .did i (.consumed key) ∈ sc.trace

def discipline : Discipline (List Word) Store Deed Ask Ask.Answer Unit :=
  .keeping Inv ready fun _ => True

omit [Ethers] [Poseidon2] in
theorem mem_did {sc : AckScene} {i j : Nat} {s : Store} {d d' : Deed} :
    .did j d' ∈ (sc.did i (s, [d])).trace ↔ .did j d' ∈ sc.trace ∨ j = i ∧ d' = d := by
  simp

omit [Ethers] [Poseidon2] in
theorem mem_got {sc : AckScene} {i j : Nat} {q : Ask} {a : Except Unit q.Answer} {d : Deed} :
    .did j d ∈ (sc.got i q a).trace ↔ .did j d ∈ sc.trace := by
  simp

omit [Ethers] [Poseidon2] in
theorem accepted_other {sc : AckScene} {i : Nat} {s : Store} {d : Deed}
    (other : ∀ c, d ≠ .accepted c) : accepted (sc.did i (s, [d])).trace = accepted sc.trace := by
  cases d with
  | accepted c => exact absurd rfl (other c)
  | _ => simp [accepted, accepted?]

theorem Inv.got {sc : AckScene} (inv : Inv sc) (i : Nat) (q : Ask) (a : Except Unit q.Answer) :
    Inv (sc.got i q a) := by
  have same : AckReplay.accepted (sc.got i q a).trace = AckReplay.accepted sc.trace := by
    simp [AckReplay.accepted, accepted?]
  obtain ⟨⟨once, accepted, checked, spared, refused, unblocked⟩, one, owner, stored, known⟩ := inv
  constructor
  · constructor <;> simp only [mem_got, same, Scene.got_world]
    · exact once
    · exact accepted
    · exact checked
    · exact spared
    · exact refused
    · exact unblocked
  all_goals simp only [mem_got, Scene.got_world, Scene.got_shared]
  · exact one
  · exact owner
  · exact stored
  · exact known

/-- A call that starts. -/
theorem Inv.called {sc : AckScene} (inv : Inv sc) {i : Nat} (fresh : ∀ e ∈ sc.trace, e.call ≠ i)
    (c : AckCall) : Inv (sc.did i (sc.shared, [.called c])) := by
  have new : ∀ d, .did i d ∉ sc.trace := fun d mem => fresh _ mem rfl
  have same := @accepted_other sc i sc.shared (.called c) (by simp)
  obtain ⟨⟨once, accepted, checked, spared, refused, unblocked⟩, one, owner, stored, known⟩ := inv
  constructor
  · constructor <;> simp only [mem_did, same, Scene.did_world, reduceCtorEq, and_false, or_false]
    · exact once
    · grind
    · grind
    · exact spared
    · grind
    · grind
  all_goals simp only [mem_did, Scene.did_world, Scene.did_shared, reduceCtorEq, and_false,
    or_false]
  · grind
  · exact owner
  · exact stored
  · exact known

/-- The store consumes the key of a call whose checks have passed. -/
theorem Inv.consumed {sc : AckScene} (inv : Inv sc) {i : Nat} {c : AckCall} {key : Word}
    (called : .did i (.called c) ∈ sc.trace) (keyed : c.Keyed key) (new : key ∉ sc.shared)
    (lasts : ∀ e, .did i (.refused e) ∉ sc.trace) :
    Inv (sc.did i (key :: sc.shared, [.consumed key])) := by
  have same := @accepted_other sc i (key :: sc.shared) (.consumed key)
    (by simp)
  obtain ⟨⟨once, accepted, checked, spared, refused, unblocked⟩, one, owner, stored, known⟩ := inv
  have unconsumed : ∀ j, .did j (.consumed key) ∉ sc.trace := fun j mem => new (stored j key mem)
  constructor
  · constructor <;> simp only [mem_did, same, Scene.did_world, reduceCtorEq, and_false, or_false,
      Deed.consumed.injEq]
    · exact once
    · grind
    · grind
    · grind
    · exact refused
    · grind
  all_goals simp only [mem_did, Scene.did_world, Scene.did_shared, reduceCtorEq, and_false,
    or_false, Deed.consumed.injEq]
  · exact one
  · grind
  · grind
  · grind

/-- The store has the key already: others put it there, or a call of the same subject did. -/
theorem Inv.found {sc : AckScene} (inv : Inv sc) {i : Nat} {c : AckCall} {key : Word}
    (called : .did i (.called c) ∈ sc.trace) (keyed : c.Keyed key) (old : key ∈ sc.shared) :
    Inv (sc.did i (sc.shared, [.found key])) := by
  have same := @accepted_other sc i sc.shared (.found key) (by simp)
  obtain ⟨⟨once, accepted, checked, spared, refused, unblocked⟩, one, owner, stored, known⟩ := inv
  constructor
  · constructor <;> simp only [mem_did, same, Scene.did_world, reduceCtorEq, and_false, or_false,
      Deed.found.injEq]
    · exact once
    · exact accepted
    · exact checked
    · exact spared
    · grind
    · intro j c' key' called' found
      rcases found with found | ⟨rfl, rfl⟩
      · exact unblocked j c' key' called' found
      · obtain rfl := one j c c' called called'
        rcases known key' old with others | ⟨k, consumed⟩
        · exact .inl others
        · obtain ⟨c'', called'', keyed'⟩ := checked k key' consumed
          exact .inr ⟨k, c'', called'', consumed, Keyed.subject keyed keyed'⟩
  all_goals simp only [mem_did, Scene.did_world, Scene.did_shared, reduceCtorEq, and_false,
    or_false]
  · exact one
  · exact owner
  · exact stored
  · exact known

theorem Inv.refused {sc : AckScene} (inv : Inv sc) {i : Nat} {c : AckCall} {e : RefusalError}
    (called : .did i (.called c) ∈ sc.trace)
    (why : c.checks = .error e ∨ e = nonceReplayed ∧ ∃ key, .did i (.found key) ∈ sc.trace)
    (unspent : ∀ key, .did i (.consumed key) ∉ sc.trace) :
    Inv (sc.did i (sc.shared, [.refused e])) := by
  have same := @accepted_other sc i sc.shared (.refused e) (by simp)
  obtain ⟨⟨once, accepted, checked, spared, refused, unblocked⟩, one, owner, stored, known⟩ := inv
  constructor
  · constructor <;> simp only [mem_did, same, Scene.did_world, reduceCtorEq, and_false, or_false,
      Deed.refused.injEq]
    · exact once
    · exact accepted
    · exact checked
    · grind
    · grind
    · exact unblocked
  all_goals simp only [mem_did, Scene.did_world, Scene.did_shared, reduceCtorEq, and_false,
    or_false]
  · exact one
  · exact owner
  · exact stored
  · exact known

omit [Ethers] [Poseidon2] in
theorem mem_accepted {trace : Trace} {c : AckCall} :
    c ∈ accepted trace ↔ ∃ i, .did i (.accepted c) ∈ trace := by
  rw [accepted, List.mem_filterMap]
  constructor
  · rintro ⟨e, mem, is⟩
    cases e with
    | got => simp [accepted?] at is
    | did i d =>
      cases d with
      | accepted c' =>
        simp only [accepted?, Option.some.injEq] at is
        rw [is] at mem
        exact ⟨i, mem⟩
      | _ => simp [accepted?] at is
  · rintro ⟨i, mem⟩
    exact ⟨_, mem, rfl⟩

/-- An acceptance: whoever accepted the same subject before consumed the same key, and so is
the same call. -/
theorem Inv.accepted {sc : AckScene} (inv : Inv sc) {i : Nat} {c : AckCall} {key : Word}
    (called : .did i (.called c) ∈ sc.trace) (keyed : c.Keyed key)
    (consumed : .did i (.consumed key) ∈ sc.trace)
    (first : ∀ c', .did i (.accepted c') ∉ sc.trace) :
    Inv (sc.did i (sc.shared, [.accepted c])) := by
  have grown : AckReplay.accepted (sc.did i (sc.shared, [.accepted c])).trace =
      AckReplay.accepted sc.trace ++ [c] := by
    simp [AckReplay.accepted, accepted?]
  obtain ⟨⟨once, accepted, checked, spared, refused, unblocked⟩, one, owner, stored, known⟩ := inv
  constructor
  · constructor <;> simp only [mem_did, grown, Scene.did_world, reduceCtorEq, and_false, or_false,
      Deed.accepted.injEq]
    · refine List.pairwise_append.mpr ⟨once, List.pairwise_singleton _ _, ?_⟩
      intro c' before c'' last subject
      obtain rfl := List.mem_singleton.mp last
      obtain ⟨j, mem⟩ := mem_accepted.mp before
      obtain ⟨-, key', keyed', consumed'⟩ := accepted j c' mem
      rw [Keyed.same keyed' keyed subject] at consumed'
      obtain rfl := owner i j key consumed consumed'
      exact first c' mem
    · grind
    · exact checked
    · exact spared
    · exact refused
    · exact unblocked
  all_goals simp only [mem_did, Scene.did_world, Scene.did_shared, reduceCtorEq, and_false,
    or_false]
  · exact one
  · exact owner
  · exact stored
  · exact known

theorem upholds : discipline.Upholds outside start Inv := by
  refine Discipline.keeping_upholds ?_ ?_ (fun i sc q a inv _ _ => inv.got i q a)
    fun _ _ _ => trivial
  · rintro w s rfl
    constructor
    · constructor <;> simp [AckReplay.accepted]
    all_goals simp
  · rintro sc w s inv ⟨key, rfl, rfl⟩
    obtain ⟨⟨once, accepted, checked, spared, refused, unblocked⟩, one, owner, stored, known⟩ := inv
    constructor
    · exact ⟨once, accepted, checked, spared, refused, by grind⟩
    · exact one
    · exact owner
    · grind
    · grind

/-! ## The code -/

/-- What a call has done so far. -/
def Own (i : Nat) (deeds : List Deed) (trace : Trace) : Prop :=
  ∀ d, .did i d ∈ trace ↔ d ∈ deeds

omit [Ethers] [Poseidon2] in
theorem Own.later {i : Nat} {deeds : List Deed} {sc sc' : AckScene} (own : Own i deeds sc.trace)
    (grows : Grows (fun e => e.call ≠ i) sc sc') : Own i deeds sc'.trace := by
  intro d
  rw [← own d]
  exact ⟨fun mem => grows.mem_before mem (by simp [Entry.call]), grows.mem⟩

omit [Ethers] [Poseidon2] in
theorem Own.got {i : Nat} {deeds : List Deed} {sc : AckScene} (own : Own i deeds sc.trace)
    (q : Ask) (a : Except Unit q.Answer) : Own i deeds (sc.got i q a).trace :=
  fun d => mem_got.trans (own d)

omit [Ethers] [Poseidon2] in
theorem Own.did {i : Nat} {deeds : List Deed} {sc : AckScene} (own : Own i deeds sc.trace)
    (s : Store) (d : Deed) : Own i (d :: deeds) (sc.did i (s, [d])).trace := by
  intro d'
  rw [mem_did, own d', List.mem_cons]
  tauto

/-- The answer of the store is awaited, and the call ends as it says. -/
theorem answered_safe {i : Nat} {sc : AckScene} {deeds : List Deed} {d : Deed}
    (own : Own i deeds sc.trace) (ends : ∀ sc : AckScene, Inv sc → Own i deeds sc.trace →
      Inv (sc.did i (sc.shared, [d]))) :
    Safe discipline i ((ask .answered).bind fun _ => Async.doing id [d]) (fun _ _ => True) sc := by
  refine .bind (.keeps_await ?_)
  intro sc' inv' grows answer _ _
  cases answer with
  | error _ => trivial
  | ok _ =>
    exact .keeps_doing fun _ =>
      ⟨ends _ (inv'.got i .answered (.ok ())) ((own.later grows).got .answered (.ok ())), trivial⟩

omit [Ethers] [Poseidon2] in
/-- The call's own turns: the key travels, is consumed or found, and the answer travels back. -/
theorem consumeAndAccept_eq (c : AckCall) (verified : VerifiedRecipientAck) :
    consumeAndAccept c verified = (ask .reach).bind fun _ =>
      .act (take verified.replayKey) fun s => (ask .answered).bind fun _ => Async.doing id
        [if verified.replayKey ∈ s then .refused nonceReplayed else .accepted c] := by
  refine congrArg (Async.ask Ask.reach) (funext fun reached => ?_)
  cases reached with
  | error _ => rfl
  | ok _ =>
    refine congrArg (Async.act _) (funext fun s => ?_)
    refine congrArg (Async.ask Ask.answered) (funext fun answered => ?_)
    cases answered with
    | error _ => rfl
    | ok _ =>
      by_cases old : verified.replayKey ∈ s
      · simp only [Async.ofExcept, Async.bind, old, not_true_eq_false, decide_false, if_true]
        rfl
      · simp only [Async.ofExcept, Async.bind, old, not_false_eq_true, decide_true, if_false]
        rfl

theorem consumeAndAccept_safe {i : Nat} {sc : AckScene} {c : AckCall}
    {verified : VerifiedRecipientAck} (own : Own i [.called c] sc.trace)
    (passed : c.checks = .ok verified) :
    Safe discipline i (consumeAndAccept c verified) (fun _ _ => True) sc := by
  have keyed : c.Keyed verified.replayKey := ⟨verified, passed, rfl⟩
  rw [consumeAndAccept_eq]
  refine .bind (.keeps_await ?_)
  intro sc₁ inv₁ grows₁ reached _ _
  cases reached with
  | error _ => trivial
  | ok _ =>
    have inv := inv₁.got i .reach (.ok ())
    have own := (own.later grows₁).got .reach (.ok ())
    revert inv own
    generalize sc₁.got i .reach (.ok ()) = sc
    intro inv own
    have called : .did i (.called c) ∈ sc.trace := (own _).mpr (by simp)
    refine .keeps fun _ => ?_
    by_cases old : verified.replayKey ∈ sc.shared
    · simp only [take, old, if_true]
      refine ⟨inv.found called keyed old, ?_⟩
      refine answered_safe (own.did _ _) ?_
      intro sc inv own
      refine inv.refused ((own (.called c)).mpr (by simp)) (.inr ⟨rfl, verified.replayKey, ?_⟩) ?_
      · exact (own _).mpr (by simp)
      · intro key mem
        simpa using (own _).mp mem
    · have lasts : ∀ e, .did i (.refused e) ∉ sc.trace := by
        intro e mem
        simpa using (own _).mp mem
      have consumed := inv.consumed called keyed old lasts
      simp only [take, old, if_false]
      refine ⟨consumed, answered_safe (own.did _ _) ?_⟩
      intro sc inv own
      refine inv.accepted ((own (.called c)).mpr (by simp)) keyed ((own _).mpr (by simp)) ?_
      intro c' mem
      simpa using (own _).mp mem

theorem verifyRecipientAck_safe {i : Nat} {sc : AckScene} (c : AckCall) (inv : Inv sc)
    (fresh : ∀ e ∈ sc.trace, e.call ≠ i) :
    Safe discipline i (verifyRecipientAck c) (fun _ _ => True) sc := by
  have started := inv.called fresh c
  have none : Own i [] sc.trace :=
    fun d => ⟨fun mem => absurd rfl (fresh _ mem), fun mem => by cases mem⟩
  have own := none.did sc.shared (.called c)
  unfold verifyRecipientAck
  refine .bind (.keeps_doing fun _ => ⟨started, ?_⟩)
  cases passed : c.checks with
  | error e =>
    refine .keeps_doing fun _ => ⟨?_, trivial⟩
    refine started.refused ((own _).mpr (by simp)) (.inl passed) ?_
    intro key mem
    simpa using (own _).mp mem
  | ok verified => exact consumeAndAccept_safe own passed

/-- A run of any calls accepts each acknowledgement once. -/
theorem accepts_once {sc : AckScene} {threads : List (Code Unit)} (run : Runs sc threads) :
    Exact sc :=
  (Pool.sound upholds (fun c _ _ inv fresh => verifyRecipientAck_safe c inv fresh) run
    trivial).exact

/-- What a call still has to do once the store has answered. -/
def answer (c : AckCall) (key : Word) (s : Store) : Code Unit :=
  (ask .answered).bind fun _ =>
    Async.doing id [if key ∈ s then .refused nonceReplayed else .accepted c]

/-- Two calls with one valid acknowledgement, turn by turn. -/
theorem runs_twice {c : AckCall} {verified : VerifiedRecipientAck}
    (passed : c.checks = .ok verified) : ∃ sc threads, Runs sc threads ∧
      AckReplay.accepted sc.trace = [c] ∧ .did 1 (.found verified.replayKey) ∈ sc.trace ∧
        .did 1 (.refused nonceReplayed) ∈ sc.trace := by
  have code : verifyRecipientAck c = .act (fun s => (s, [.called c])) fun _ =>
      consumeAndAccept c verified := by
    unfold verifyRecipientAck
    rw [passed]
    rfl
  rw [consumeAndAccept_eq] at code
  generalize verified.replayKey = key at *
  have new : take key [] = ([key], [.consumed key]) := if_neg (by simp)
  have old : take key [key] = ([key], [.found key]) := if_pos (by simp)
  have start : Runs ⟨[], [], []⟩ [] := .init rfl
  have called := Pool.call (Pool.call start c) c
  rw [code] at called
  have reached := Pool.answer called (i := 0) rfl (.ok ()) trivial
  change Pool _ _ _ _ (Scene.did _ 0 (take key [])) [answer c key [], _] at reached
  rw [new] at reached
  have reached := Pool.answer reached (i := 1) rfl (.ok ()) trivial
  change Pool _ _ _ _ (Scene.did _ 1 (take key [key])) [_, answer c key [key]] at reached
  rw [old] at reached
  have told := Pool.answer reached (i := 0) rfl (.ok ()) trivial
  change Pool _ _ _ _ (Scene.did _ 0 (_, [ite (key ∈ []) _ _])) _ at told
  rw [if_neg (by simp)] at told
  have told := Pool.answer told (i := 1) rfl (.ok ()) trivial
  change Pool _ _ _ _ (Scene.did _ 1 (_, [ite (key ∈ [key]) _ _])) _ at told
  rw [if_pos (by simp)] at told
  exact ⟨_, _, told, rfl, by simp, by simp⟩

end

/-! ## A signed acknowledgement presented twice -/

/-- The sponge hash at the inputs the sample's address and signature ask it. -/
def samplePoseidon2Values : List (List Int × Int) :=
  [([0xd52de36b, 0x2a7cb3bc90801273e8b55228ad62489d0ee8c72bdf0fcfafa82d3461bcb05ecf,
      0x1a2d126b720b34667a7286aabdb35dea906223aca72dbeb4e2c6690565be732b],
      0xc90f101851780dc441d57d5ad9a12563046987e22a229d65931ae45db2e3404),
   ([0x16f8af27, 0xcd9728af, 0xc90f101851780dc441d57d5ad9a12563046987e22a229d65931ae45db2e3404],
      0x181bbc3f8647f6de25e9619f3d98c378156277765abc6c07ecddb4ced4e5ad08),
   ([0xa4b0d7c0, 0x6a17, 0x181bbc3f8647f6de25e9619f3d98c378156277765abc6c07ecddb4ced4e5ad08, 0,
      0], 0x24f4f6d7a099c2acd1f218bb59fa8db8d1d8fac54f3fa1c45d9712a1a37dcebb),
   ([0x7d62e47a, 0x2f7d07db78643da21eefb63ee07d28d1cc23dd86ec9b3a9fa29323bf17269d15,
      0x24f4f6d7a099c2acd1f218bb59fa8db8d1d8fac54f3fa1c45d9712a1a37dcebb],
      0x10b99c24c549a2bedfd671718f5e2d9a37489964563ba2d9c179abe1e1a96db6),
   ([0xcdc2619f, 0xf9b794a7ed4f35243c0f91d7cfdb2abe7e4a2ac39c99438c2af8d9e8df4e860,
      0x12d36ef549150ea16ff7864f33cdde58a3e319c36d439531e11c0bfa322fd449],
      0x1831458388363771b9d961df73109c004311f779c2d8b72595e650ef62018245),
   ([0x2e570e4a, 0x3b95082c8e877285d11fc8b93bd208ac7835c056cf3e6f5be036354936b297b,
      0x1831458388363771b9d961df73109c004311f779c2d8b72595e650ef62018245,
      0xb2a3525230cf98b6b43f62c3a607226d81f5f0b7682cd480fb74c0d35ba790f,
      0x2af28f52bc3e9a316dfccfd442adf93ab7929a9676df16dd5af304bfe6c80c6d,
      0xa1dab0b62259ed094c98b54ab450f195a18fda87785cc8f733c4ebd1233b08d,
      0x2d71793495ec7e3557ce1aa0183654b8bfa9b04ae648008a7b988312f5e9960a],
      0x305d196db9ac7e1e45a4acc38eca3f4150c675bf93813d3168706f5426eebf1f),
   ([0x3b36bbbc, 0x305d196db9ac7e1e45a4acc38eca3f4150c675bf93813d3168706f5426eebf1f,
      0x10b99c24c549a2bedfd671718f5e2d9a37489964563ba2d9c179abe1e1a96db6],
      0x25a54caad7e9fd04332eda0033c26a3a45fd2033f64d1c913e018beb2993670f),
   ([0x24c76938ed06b8ec1d9094b1013d190baa4011372f0604643bda812a63b832e,
      0x11f0cc2f11d28ecaad5a336e364ee25d168aa42fa05e4873023f5b812295742,
      0x2a7cb3bc90801273e8b55228ad62489d0ee8c72bdf0fcfafa82d3461bcb05ecf,
      0x1a2d126b720b34667a7286aabdb35dea906223aca72dbeb4e2c6690565be732b,
      0x235eb8e15ae9229ac47e945162606cd245775f2a00c9f88980e7abc671936029],
      0x2a8576a8b06a03da65d18c1c7f8d2705336d36d756406451e1ffe85c6c271639)]

@[reducible] def samplePoseidon2 : Poseidon2 :=
  ⟨fun inputs => (samplePoseidon2Values.lookup inputs).getD 0⟩

def sampleNetwork : NetworkIdentity where
  aztecChainId := .text "11155111"
  protocolVersion := .text "679261766"
  rollupAddress := "0xb6b6b6b6b6b6b6b6b6b6b6b6b6b6b6b6b6b6b6b6"
  l1ChainId := .text "11155111"
  genesisOrNetworkDigest := "0x6e6e6e6e6e6e6e6e6e6e6e6e6e6e6e6e6e6e6e6e6e6e6e6e6e6e6e6e6e6e6e6e"

/-- The descriptor that spells its members so. -/
def spelled (f : DescriptorFields) (network : NetworkIdentity) :
    RecipientDescriptor where
  aztecAddress := hex64 f.aztecAddress
  classId := hex64 f.classId
  salt := hex64 f.salt
  deployer := hex64 f.deployer
  signingPublicKeyX := hex64 f.signingPublicKeyX
  signingPublicKeyY := hex64 f.signingPublicKeyY
  npkMHash := hex64 f.npkMHash
  ivpkMX := hex64 f.ivpkMX
  ivpkMY := hex64 f.ivpkMY
  ovpkMHash := hex64 f.ovpkMHash
  tpkMHash := hex64 f.tpkMHash
  mspkMHash := hex64 f.mspkMHash
  fbpkMHash := hex64 f.fbpkMHash
  network := network

theorem descriptorFields_spelled {f : DescriptorFields} (network : NetworkIdentity)
    (nonzero : f.aztecAddress ≠ 0)
    (below : ∀ v ∈ [f.aztecAddress, f.classId, f.salt, f.deployer, f.signingPublicKeyX,
        f.signingPublicKeyY, f.npkMHash, f.ivpkMX, f.ivpkMY, f.ovpkMHash, f.tpkMHash,
        f.mspkMHash, f.fbpkMHash], v < aztecFieldModulus) :
    descriptorFields (spelled f network) = .ok f := by
  simp only [List.forall_mem_cons, List.not_mem_nil, false_implies, implies_true, and_true] at below
  obtain ⟨h1, h2, h3, h4, h5, h6, h7, h8, h9, h10, h11, h12, h13⟩ := below
  rw [descriptorFields, withRefusalsAs_ok]
  simp only [spelled, assertAztecBytes32_hex64 _ nonzero h1, aztecField_hex64 _ h2,
    aztecField_hex64 _ h3, aztecField_hex64 _ h4, aztecField_hex64 _ h5, aztecField_hex64 _ h6,
    aztecField_hex64 _ h7, aztecField_hex64 _ h8, aztecField_hex64 _ h9, aztecField_hex64 _ h10,
    aztecField_hex64 _ h11, aztecField_hex64 _ h12, aztecField_hex64 _ h13, bind, Except.bind,
    toNat_word h1]
  rfl

def sampleFields : DescriptorFields where
  aztecAddress := 0x2abc53b778dd33eb5a7d1d752d937764fa162893f536c24c236520e507319ff9
  classId := 0x2f7d07db78643da21eefb63ee07d28d1cc23dd86ec9b3a9fa29323bf17269d15
  salt := 0x6a17
  deployer := 0
  signingPublicKeyX := 0x2a7cb3bc90801273e8b55228ad62489d0ee8c72bdf0fcfafa82d3461bcb05ecf
  signingPublicKeyY := 0x1a2d126b720b34667a7286aabdb35dea906223aca72dbeb4e2c6690565be732b
  npkMHash := 0x3b95082c8e877285d11fc8b93bd208ac7835c056cf3e6f5be036354936b297b
  ivpkMX := 0xf9b794a7ed4f35243c0f91d7cfdb2abe7e4a2ac39c99438c2af8d9e8df4e860
  ivpkMY := 0x12d36ef549150ea16ff7864f33cdde58a3e319c36d439531e11c0bfa322fd449
  ovpkMHash := 0xb2a3525230cf98b6b43f62c3a607226d81f5f0b7682cd480fb74c0d35ba790f
  tpkMHash := 0x2af28f52bc3e9a316dfccfd442adf93ab7929a9676df16dd5af304bfe6c80c6d
  mspkMHash := 0xa1dab0b62259ed094c98b54ab450f195a18fda87785cc8f733c4ebd1233b08d
  fbpkMHash := 0x2d71793495ec7e3557ce1aa0183654b8bfa9b04ae648008a7b988312f5e9960a

def sampleDescriptor : RecipientDescriptor := spelled sampleFields sampleNetwork

def sampleBinding : RecipientBinding where
  sourceWallet := "0xf39fd6e51aad88f6f4ce6ab8827279cfffb92266"
  sourceChainId := .text "84532"
  aztecRecipient := "0x2abc53b778dd33eb5a7d1d752d937764fa162893f536c24c236520e507319ff9"
  aztecToken := "0x2b2b2b2b2b2b2b2b2b2b2b2b2b2b2b2b2b2b2b2b2b2b2b2b2b2b2b2b2b2b2b2b"
  descriptorDigest := "0x657b333db2a51e6254297c2f406f84539825f5d76c7f9836e29ef8f2c0431f1b"
  corridorId := "0xc0c0c0c0c0c0c0c0c0c0c0c0c0c0c0c0c0c0c0c0c0c0c0c0c0c0c0c0c0c0c0c0"
  corridorRevision := .text "1"
  manifestDigest := "0x4d4d4d4d4d4d4d4d4d4d4d4d4d4d4d4d4d4d4d4d4d4d4d4d4d4d4d4d4d4d4d4d"
  nonce := "0x0e0e0e0e0e0e0e0e0e0e0e0e0e0e0e0e0e0e0e0e0e0e0e0e0e0e0e0e0e0e0e0e"
  challengeExpiry := .text "1900000000"
  purpose := "xochi.shielded.recipient-binding.v1"

def sampleAck : BackupPersistenceAck where
  bindingDigest := "0x730dec73ce68b684420e21c48d5387f5f6fa861a2602cd1310c0e53ba5eb64a2"
  aztecRecipient := "0x2abc53b778dd33eb5a7d1d752d937764fa162893f536c24c236520e507319ff9"
  nonce := "0x0e0e0e0e0e0e0e0e0e0e0e0e0e0e0e0e0e0e0e0e0e0e0e0e0e0e0e0e0e0e0e0e"
  challengeExpiry := .text "1900000000"
  backupCommitment := "0x89d38145c86cef1776f2ce78a7a34412ac6a8891a2de5a886c11a4fbd4c875ab"
  backupFormatId := "0xe37c67f007c5a5bbebbc6c5b9aefd99f252b2cc121e3fc9a269801940f605348"
  purpose := "xochi.shielded.backup-persistence-ack.v1"

/-- A backup acknowledgement the recipient has signed. -/
def sampleCall : AckCall where
  primaryType := .backupPersistenceAck
  message := sampleAck
  signature := "0x26b8bc6366b24614524fa012ac7c2157eb68c5c3a8c36f0d79f3614ad97337f0" ++
    "2a8576a8b06a03da65d18c1c7f8d2705336d36d756406451e1ffe85c6c271639"
  policy :=
    { binding := sampleBinding, descriptor := sampleDescriptor,
      profile := aztecRecipientProfiles[1], environment := "staging",
      network := sampleNetwork, expected := sampleAck.backupCommitment, now := .text "1899999999" }

theorem sampleFields_read : descriptorFields sampleDescriptor = .ok sampleFields :=
  descriptorFields_spelled sampleNetwork (by decide) (by decide)

theorem sampleDescriptor_passes :
    (@verifyRecipientDescriptor documentedEthers samplePoseidon2 sampleDescriptor
      sampleCall.policy.profile).isOk = true := by
  simp only [verifyRecipientDescriptor, deriveRecipientAddress, sampleFields_read]
  decide +kernel

/-- The field element the recipient has signed. -/
def sampleMessageField : Nat :=
  15998309321393313790697326387726838896621766101428951815341683827841615224873

theorem word_ok {c : Checked Word} {n : Nat} (h : c.toOption.map (·.toNat) = some n) :
    c = .ok (uintWord n) := by
  cases c with
  | error e => cases h
  | ok w =>
    cases h
    rw [uintWord, Bytes.ofNat_toNat]

theorem sampleDigests :
    @hashNetworkIdentity documentedEthers sampleNetwork = .ok (uintWord
      67380818552224996374939379750202518131554635591602024503762879072404568873339) ∧
    @hashRecipientBinding documentedEthers sampleBinding = .ok (uintWord
      74798166256700289155585001616335503618840068929732205192505121855155561764360) ∧
    @hashRecipientDescriptor documentedEthers sampleDescriptor =
      .ok (uintWord 0x657b333db2a51e6254297c2f406f84539825f5d76c7f9836e29ef8f2c0431f1b) := by
  have network : @hashNetworkIdentity documentedEthers sampleNetwork = .ok (uintWord
      67380818552224996374939379750202518131554635591602024503762879072404568873339) :=
    word_ok (by decide +kernel)
  refine ⟨network, word_ok (by decide +kernel), word_ok ?_⟩
  simp only [hashRecipientDescriptor, sampleFields_read]
  rw [show sampleDescriptor.network = sampleNetwork from rfl, network]
  decide +kernel

theorem sampleAck_passes :
    (@checkRecipientAck documentedEthers samplePoseidon2 .backupPersistenceAck sampleAck
      sampleCall.signature sampleCall.policy).isOk = true := by
  have signature : @verifyRecipientSchnorr samplePoseidon2 sampleDescriptor.signingPublicKeyX
      sampleDescriptor.signingPublicKeyY sampleMessageField sampleCall.signature = true := by
    decide +kernel
  -- so that the kernel compares the message instead of checking the signature again
  have signed : @verifyRecipientSchnorr samplePoseidon2 sampleDescriptor.signingPublicKeyX
      sampleDescriptor.signingPublicKeyY = fun m s =>
        (m == sampleMessageField && s == sampleCall.signature) ||
          @verifyRecipientSchnorr samplePoseidon2 sampleDescriptor.signingPublicKeyX
            sampleDescriptor.signingPublicKeyY m s := by
    funext m s
    by_cases same : m = sampleMessageField ∧ s = sampleCall.signature
    · rw [same.1, same.2, signature]
      simp
    · have other : (m == sampleMessageField && s == sampleCall.signature) = false := by
        simpa using same
      rw [other, Bool.false_or]
  have descriptor : sampleCall.policy.descriptor = sampleDescriptor := rfl
  have binding : sampleCall.policy.binding = sampleBinding := rfl
  have network : sampleCall.policy.network = sampleNetwork := rfl
  have network' : sampleDescriptor.network = sampleNetwork := rfl
  obtain ⟨networkHash, bindingHash, descriptorHash⟩ := sampleDigests
  simp only [checkRecipientAck, bindingDomain, shieldedDomain, shieldedDomainSalt, descriptor,
    binding, network, network', descriptorHash, bindingHash, networkHash]
  rw [signed]
  decide +kernel

theorem ackChecks_isOk [Ethers] [Poseidon2] {t : RecipientAckType} {message : t.Message}
    {signature : String} {policy : RecipientAckVerificationPolicy t}
    (described : (verifyRecipientDescriptor policy.descriptor policy.profile).isOk = true)
    (acknowledged : (checkRecipientAck t message signature policy).isOk = true) :
    (ackChecks t message signature policy).isOk = true := by
  unfold ackChecks
  cases address : verifyRecipientDescriptor policy.descriptor policy.profile with
  | error e =>
    rw [address] at described
    cases described
  | ok _ =>
    cases verified : checkRecipientAck t message signature policy with
    | error e =>
      rw [verified] at acknowledged
      cases acknowledged
    | ok v => rfl

theorem sampleCall_passes :
    (@AckCall.checks documentedEthers samplePoseidon2 sampleCall).isOk = true :=
  @ackChecks_isOk documentedEthers samplePoseidon2 .backupPersistenceAck sampleAck
    sampleCall.signature sampleCall.policy sampleDescriptor_passes sampleAck_passes

/-- The acknowledgement presented twice at once is accepted once. -/
theorem accepts_once_sample : ∃ sc threads, @Runs documentedEthers samplePoseidon2 sc threads ∧
    @Exact documentedEthers samplePoseidon2 sc ∧ accepted sc.trace = [sampleCall] ∧
      .did 1 (.refused nonceReplayed) ∈ sc.trace := by
  let := documentedEthers
  let := samplePoseidon2
  cases passed : sampleCall.checks with
  | error e =>
    have passes := sampleCall_passes
    rw [passed] at passes
    cases passes
  | ok verified =>
    obtain ⟨sc, threads, run, once, -, refused⟩ := runs_twice passed
    exact ⟨sc, threads, run, accepts_once run, once, refused⟩

end XochiSdk.Signer.AckReplay
