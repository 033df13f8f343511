import XochiSdk.Solver.FeeLadder
import XochiSdk.Solver.Gateway

/-!
# What the gateway's calls do to each other

The gateway reads its clock and never sets it, and every hash it follows in a slot was signed for
that slot's call at its nonce. Each call keeps to both whatever the others do while it waits, if
they do, so all of them do in any interleaving.
-/

namespace XochiSdk.Solver

open XochiSdk.Js XochiSdk.Library

/-- The refusal of an order that is claimed already. -/
def Thrown.alreadyClaimed : Thrown → Bool
  | .refusal .already_claimed _ _ => true
  | _ => false

/-- What is returned, or thrown for another reason than that the order is claimed already. -/
def Spared {α : Type} : Except Thrown α → Prop
  | .ok _ => True
  | .error x => x.alreadyClaimed = false

section

variable {W : Type}

/-- The hash was signed for a request's call, at its nonce. -/
def SignedFor (r : TransactionLike) (hash : String)
    (sc : Scene W Gateway Deed Ask Ask.Answer Thrown) : Prop :=
  ∃ j, Entry.did j (.signed r.call r.nonce hash) ∈ sc.trace

/-- How the gateway goes on: the clock is not turned back, a slot keeps its call and its nonce, and
a hash is added to it only once it is signed for them. -/
structure Onward (sc sc' : Scene W Gateway Deed Ask Ask.Answer Thrown) : Prop where
  leads : Leads sc sc'
  clock : sc.shared.clock ≤ sc'.shared.clock
  kept : ∀ (id : Nat) state, sc.shared.slots[id]? = some state →
    ∃ state', sc'.shared.slots[id]? = some state' ∧
      state'.request.call = state.request.call ∧ state'.request.nonce = state.request.nonce
  signed : ∀ (id : Nat) state', sc'.shared.slots[id]? = some state' → ∀ hash ∈ state'.hashes,
    SignedFor state'.request hash sc' ∨
      ∃ state, sc.shared.slots[id]? = some state ∧ hash ∈ state.hashes

variable {sc sc' sc'' : Scene W Gateway Deed Ask Ask.Answer Thrown} {i : Nat}

theorem SignedFor.later {r : TransactionLike} {hash : String} (signed : SignedFor r hash sc)
    (leads : Leads sc sc') : SignedFor r hash sc' := by
  obtain ⟨j, mem⟩ := signed
  exact ⟨j, leads.mem mem⟩

theorem SignedFor.congr {r r' : TransactionLike} {hash : String} (signed : SignedFor r hash sc)
    (call : r'.call = r.call) (nonce : r'.nonce = r.nonce) : SignedFor r' hash sc := by
  unfold SignedFor
  rw [call, nonce]
  exact signed

theorem Onward.refl (sc : Scene W Gateway Deed Ask Ask.Answer Thrown) : Onward sc sc where
  leads := .refl _
  clock := le_rfl
  kept _ state here := ⟨state, here, rfl, rfl⟩
  signed _ state here _ mem := .inr ⟨state, here, mem⟩

theorem Onward.trans (first : Onward sc sc') (next : Onward sc' sc'') : Onward sc sc'' where
  leads := first.leads.trans next.leads
  clock := first.clock.trans next.clock
  kept id state here := by
    obtain ⟨state', here', call, nonce⟩ := first.kept id state here
    obtain ⟨state'', here'', call', nonce'⟩ := next.kept id state' here'
    exact ⟨state'', here'', call'.trans call, nonce'.trans nonce⟩
  signed id state'' here'' hash mem := by
    rcases next.signed id state'' here'' hash mem with signed | ⟨state', here', mem'⟩
    · exact .inl signed
    rcases first.signed id state' here' hash mem' with signed | old
    · obtain ⟨same, there, call, nonce⟩ := next.kept id state' here'
      rw [here''] at there
      cases there
      exact .inl ((signed.later next.leads).congr call nonce)
    · exact .inr old

/-- The slots as they were, and the clock no earlier. -/
theorem Onward.same (leads : Leads sc sc') (clock : sc.shared.clock ≤ sc'.shared.clock)
    (slots : sc'.shared.slots = sc.shared.slots) : Onward sc sc' where
  leads := leads
  clock := clock
  kept _ state here := ⟨state, by rw [slots]; exact here, rfl, rfl⟩
  signed _ state here _ mem := .inr ⟨state, by rw [← slots]; exact here, mem⟩

theorem Onward.got (i : Nat) (q : Ask) (a : Except Thrown q.Answer)
    (sc : Scene W Gateway Deed Ask Ask.Answer Thrown) : Onward sc (sc.got i q a) :=
  .same (leads_got i q a sc) le_rfl rfl

/-- A slot is written over with what keeps its call, its nonce and its signings. -/
theorem onward_setSlot {slot : Slot} {change : SlotState → SlotState} {effects : List Deed}
    (call : ∀ state, sc.shared.slotState slot = some state →
      (change state).request.call = state.request.call)
    (nonce : ∀ state, sc.shared.slotState slot = some state →
      (change state).request.nonce = state.request.nonce)
    (hashes : ∀ state, sc.shared.slotState slot = some state → ∀ hash ∈ (change state).hashes,
      hash ∈ state.hashes ∨ SignedFor (change state).request hash sc) :
    Onward sc (sc.did i (sc.shared.setSlot slot change, effects)) := by
  have leads := leads_did i (sc.shared.setSlot slot change, effects) sc
  refine ⟨leads, le_rfl, fun id state here => ?_, fun id state' here' hash mem => ?_⟩
  · by_cases mine : slot.id = id
    · subst mine
      refine ⟨change state, ?_, call state here, nonce state here⟩
      simp only [Scene.did_shared, Gateway.setSlot, List.getElem?_modify_eq, here,
        Option.map_eq_map, Option.map_some]
    · refine ⟨state, ?_, rfl, rfl⟩
      simp only [Scene.did_shared, Gateway.setSlot, List.getElem?_modify_ne _ _ mine, here]
  · simp only [Scene.did_shared, Gateway.setSlot] at here'
    by_cases mine : slot.id = id
    · subst mine
      rw [List.getElem?_modify_eq] at here'
      cases here : sc.shared.slots[slot.id]? with
      | none =>
        rw [here] at here'
        cases here'
      | some state =>
        rw [here] at here'
        cases here'
        rcases hashes state here hash mem with old | signed
        · exact .inr ⟨state, rfl, old⟩
        · exact .inl (signed.later leads)
    · rw [List.getElem?_modify_ne _ _ mine] at here'
      exact .inr ⟨state', here', mem⟩

/-- A slot is added, with the signing it starts from. -/
theorem onward_newSlot {state : SlotState} (signed : ∀ hash ∈ state.hashes,
    SignedFor state.request hash sc) :
    Onward sc (sc.did i ({ sc.shared with slots := sc.shared.slots ++ [state] }, [])) := by
  have leads := leads_did i ({ sc.shared with slots := sc.shared.slots ++ [state] }, []) sc
  refine ⟨leads, le_rfl, fun id old here => ⟨old, ?_, rfl, rfl⟩, fun id state' here' hash mem => ?_⟩
  · exact List.getElem?_append_left (List.getElem?_eq_some_iff.mp here).1 ▸ here
  · rw [Scene.did_shared, List.getElem?_append] at here'
    split at here'
    · exact .inr ⟨state', here', mem⟩
    · rw [List.getElem?_singleton] at here'
      split at here'
      · cases here'
        exact .inl ((signed hash mem).later leads)
      · cases here'

/-- A slot of a call, at a nonce. -/
def Holds (slot : Slot) (call : ContractCall) (nonce : Nat)
    (sc : Scene W Gateway Deed Ask Ask.Answer Thrown) : Prop :=
  ∃ state, sc.shared.slotState slot = some state ∧ state.request.call = call ∧
    state.request.nonce = nonce

theorem Holds.later {slot : Slot} {call : ContractCall} {nonce : Nat}
    (holds : Holds slot call nonce sc) (onward : Onward sc sc') : Holds slot call nonce sc' := by
  obtain ⟨state, here, rfl, rfl⟩ := holds
  exact onward.kept _ state here

/-- A slot of a call at a nonce: the hashes it follows were signed for them. -/
def Follows (slot : Slot) (call : ContractCall) (nonce : Nat)
    (sc : Scene W Gateway Deed Ask Ask.Answer Thrown) : Prop :=
  ∃ state, sc.shared.slotState slot = some state ∧ state.request.call = call ∧
    state.request.nonce = nonce ∧ ∀ hash ∈ state.hashes, SignedFor state.request hash sc

theorem Follows.later {slot : Slot} {call : ContractCall} {nonce : Nat}
    (follows : Follows slot call nonce sc) (onward : Onward sc sc') :
    Follows slot call nonce sc' := by
  obtain ⟨state, here, rfl, rfl, signed⟩ := follows
  obtain ⟨state', here', call, nonce⟩ := onward.kept _ state here
  refine ⟨state', here', call, nonce, fun hash mem => ?_⟩
  rcases onward.signed _ state' here' hash mem with new | ⟨old, there, mem⟩
  · exact new
  · rw [Gateway.slotState] at here
    rw [here] at there
    cases there
    exact ((signed hash mem).later onward.leads).congr call nonce

end

section

variable (W : Type) (ready : W → Gateway → (q : Ask) → Except Thrown q.Answer → Prop)

/-- Meanwhile the gateway goes on; a question is answered as `ready` has it, and never with the
gateway's own refusal of a claimed order. -/
def around : Discipline W Gateway Deed Ask Ask.Answer Thrown where
  rely i sc sc' := Grows (fun e => e.call ≠ i) sc sc' ∧ Onward sc sc'
  guar i sc sc' := Grows (fun e => e.call = i) sc sc' ∧ Onward sc sc'
  ready w s q a := ready w s q a ∧ Spared a
  admits _ := True

end

/-- Whatever happens meanwhile, the code goes on as the gateway does; and it is not refused because
the order is claimed already, unless it may be. -/
def Steady {α : Type} (mayRefuse : Prop) (c : Code α) : Prop :=
  ∀ W ready i sc, Safe (around W ready) i c (fun r _ => ¬mayRefuse → Spared r) sc

section

variable {W : Type} {ready : W → Gateway → (q : Ask) → Except Thrown q.Answer → Prop} {i : Nat}
  {sc sc' : Scene W Gateway Deed Ask Ask.Answer Thrown}

/-- A finished run of steady code went on as the gateway does. -/
theorem Steady.onward {α : Type} {m : Prop} {c : Code α} {r : Except Thrown α}
    (steady : Steady m c) (run : Plays (around W ready) i c sc r sc') : Onward sc sc' :=
  run.related (steady W ready i sc) Onward (fun _ => trivial) .refl (fun _ _ _ => .trans)
    (fun _ _ guar => guar.2) fun _ _ q a relied => relied.2.trans (.got i q a _)

theorem Steady.spared {α : Type} {c : Code α} {r : Except Thrown α} (steady : Steady False c)
    (run : Plays (around W ready) i c sc r sc') : Spared r :=
  run.post (fun _ => trivial) (steady W ready i sc) id

end

namespace Steady

variable {α β : Type} {m : Prop}

theorem pure (a : α) : Steady m (.pure a) := fun _ _ _ _ _ => trivial

theorem stuck : Steady m (.stuck : Code α) := fun _ _ _ _ => trivial

theorem throw {x : Thrown} (h : ¬m → x.alreadyClaimed = false) : Steady m (.throw x : Code α) :=
  fun _ _ _ _ => h

theorem bind {c : Code α} {f : α → Code β} (first : Steady m c) (rest : ∀ a, Steady m (f a)) :
    Steady m (c.bind f) := by
  intro W ready i sc
  refine .bind ((first W ready i sc).mono fun r sc held => ?_)
  cases r with
  | ok a => exact rest a W ready i sc
  | error x => exact held

/-- `try … catch`, where what was thrown is not lost. -/
theorem tried {c : Code α} {f : Except Thrown α → Code β} (first : Steady m c)
    (ok : ∀ a, Steady m (f (.ok a)))
    (error : ∀ x : Thrown, (¬m → x.alreadyClaimed = false) → Steady m (f (.error x))) :
    Steady m (c.attempt.bind f) := by
  intro W ready i sc
  refine .bind (.attempt ((first W ready i sc).mono fun r sc held => ?_))
  cases r with
  | ok a => exact ok a W ready i sc
  | error x => exact error x held W ready i sc

theorem attempt {c : Code α} (h : Steady m c) : Steady m c.attempt :=
  fun W ready i sc => .attempt ((h W ready i sc).mono fun _ _ _ _ => trivial)

/-- Two ways to what the rest goes on from. -/
theorem either {p : Prop} [Decidable p] {c c' : Code α} {f : α → Code β} (one : Steady m c)
    (other : Steady m c') (rest : ∀ a, Steady m (f a)) :
    Steady m (if p then c.bind f else c'.bind f) := by
  split
  · exact one.bind rest
  · exact other.bind rest

theorem always {c : Code α} {cleanup : Code Unit} (h : Steady m c) (cleaned : Steady m cleanup) :
    Steady m (c.always cleanup) := by
  refine .tried h (fun a => .bind cleaned fun _ => .pure a) fun x held => ?_
  exact .bind cleaned fun _ => .throw held

theorem await (q : Ask) : Steady m (Async.await q) :=
  fun _ _ _ _ => .await fun _ _ _ ready _ _ => ready.2

theorem get : Steady m Async.get := by
  intro W ready i sc
  refine .get ?_ fun _ => trivial
  rw [Scene.did_nothing]
  exact ⟨.refl _, .refl _⟩

theorem act {change : Gateway → Gateway} {effects : List Deed}
    (h : ∀ {W : Type} i (sc : Scene W Gateway Deed Ask Ask.Answer Thrown),
      Onward sc (sc.did i (change sc.shared, effects))) :
    Steady m (Async.doing change effects) :=
  fun _ _ i sc => .doing fun _ => ⟨⟨Scene.did_grows sc i _, h i sc⟩, fun _ => trivial⟩

/-- A change of neither the clock nor the slots. -/
theorem doing {change : Gateway → Gateway} {effects : List Deed}
    (clock : ∀ s, (change s).clock = s.clock) (slots : ∀ s, (change s).slots = s.slots) :
    Steady m (Async.doing change effects) :=
  act fun _ sc => .same (leads_did ..) (clock sc.shared).ge (slots sc.shared)

/-- A change of a slot that leaves its latest signing and the hashes it follows. -/
theorem setSlot {slot : Slot} {change : SlotState → SlotState} {effects : List Deed}
    (request : ∀ state, (change state).request = state.request)
    (hashes : ∀ state, (change state).hashes = state.hashes) :
    Steady m (Async.doing (·.setSlot slot change) effects) := by
  refine act fun _ _ => onward_setSlot (fun state _ => by rw [request]) (fun state _ => by
    rw [request]) fun state _ hash mem => .inl ?_
  rw [hashes] at mem
  exact mem

end Steady

section

variable {W : Type} {ready : W → Gateway → (q : Ask) → Except Thrown q.Answer → Prop}

variable {α : Type} {i : Nat} {sc : Scene W Gateway Deed Ask Ask.Answer Thrown}
  {post : Except Thrown α → Scene W Gateway Deed Ask Ask.Answer Thrown → Prop}

/-- A signing changes nothing but what has happened. -/
theorem signed_safe [Ethers] {request : TransactionLike} {raw : String} {rest : String → Code α}
    (h : ∀ sc', Onward sc sc' → SignedFor request (Ethers.keccak256 raw) sc' →
      Safe (around W ready) i (rest (Ethers.keccak256 raw)) post sc') :
    Safe (around W ready) i ((signed request raw).bind rest) post sc := by
  have onward : Onward sc (sc.did i
      (sc.shared, [.signed request.call request.nonce (Ethers.keccak256 raw)])) :=
    .same (leads_did ..) le_rfl rfl
  refine fun _ => ⟨⟨Scene.did_grows sc i _, onward⟩, h _ onward ⟨i, ?_⟩⟩
  exact List.mem_append_right _ (List.mem_singleton.mpr rfl)

theorem get_safe {rest : Gateway → Code α}
    (h : Safe (around W ready) i (rest sc.shared) post sc) :
    Safe (around W ready) i (Async.get.bind rest) post sc := by
  refine fun _ => ⟨⟨Scene.did_grows sc i _, .same (leads_did ..) le_rfl rfl⟩, ?_⟩
  rw [Scene.did_nothing]
  exact h

theorem slotState_safe {slot : Slot} {rest : SlotState → Code α}
    (h : ∀ state, sc.shared.slotState slot = some state →
      Safe (around W ready) i (rest state) post sc) :
    Safe (around W ready) i ((slotState slot).bind rest) post sc := by
  refine get_safe ?_
  dsimp only [Async.bind]
  split
  · next state here => exact h state here
  · trivial

end

variable {m : Prop}

theorem ask_steady (q : Ask) : Steady m (ask q) := .await q

theorem now_steady : Steady m now := .bind Steady.get fun _ => .pure _

theorem slotState_steady (slot : Slot) : Steady m (slotState slot) := by
  refine .bind Steady.get fun s => ?_
  cases s.slotState slot with
  | none => exact .stuck
  | some state => exact .pure state

theorem latestSec_steady (providers : List Signer) (latest : Int) :
    Steady m (latestSec providers latest) := by
  induction providers generalizing latest with
  | nil => exact .pure _
  | cons provider rest ih => exact .bind (ask_steady _) fun head => ih _

theorem nowSec_steady (providers : List Signer) (withLocal : Bool) :
    Steady m (nowSec providers withLocal) :=
  .bind now_steady fun _ => latestSec_steady _ _

theorem recordBroadcast_clock (timeout : Int) (slot : Slot) (hash raw : String)
    (landBy : Option Int) (s : Gateway) :
    (s.recordBroadcast timeout slot hash raw landBy).clock = s.clock := by
  unfold Gateway.recordBroadcast
  dsimp only
  split <;> rfl

theorem recordBroadcast_slots (timeout : Int) (slot : Slot) (hash raw : String)
    (landBy : Option Int) (s : Gateway) :
    (s.recordBroadcast timeout slot hash raw landBy).slots = s.slots := by
  unfold Gateway.recordBroadcast
  dsimp only
  split <;> rfl

theorem recordBroadcast_steady (opts : Options) (slot : Slot) (hash raw : String)
    (landBy : Option Int) : Steady m (recordBroadcast opts slot hash raw landBy) :=
  .doing (recordBroadcast_clock _ slot hash raw landBy)
    (recordBroadcast_slots _ slot hash raw landBy)

theorem receiptOf_steady (provider : Signer) (hashes : List String) :
    Steady m (receiptOf provider hashes) := by
  induction hashes with
  | nil => exact .pure _
  | cons hash rest ih =>
    refine .bind (ask_steady _) fun receipt => ?_
    cases receipt with
    | some => exact .pure _
    | none => exact ih

theorem resolveSlot_steady (provider : Signer) (hashes : List String) (slot : Option (String × Nat))
    {effect : Nat → Code Bool} (h : ∀ n, Steady m (effect n)) :
    Steady m (resolveSlot provider hashes slot (some effect)) := by
  have receipts : Steady m (receiptOf provider hashes) := receiptOf_steady provider hashes
  cases slot with
  | none =>
    refine .bind (.pure _) fun consumedBy => .bind receipts fun landed => ?_
    cases landed with
    | some => exact .pure _
    | none => cases consumedBy <;> exact .pure _
  | some slot =>
    refine .bind (ask_steady _) fun block => .bind (ask_steady _) fun count => ?_
    refine .bind (.pure _) fun consumedBy => .bind receipts fun landed => ?_
    cases landed with
    | some => exact .pure _
    | none =>
      cases consumedBy with
      | none => exact .pure _
      | some block =>
        refine .bind (h block) fun done => ?_
        dsimp only
        split
        · exact .pure _
        · exact .bind receipts fun again => .pure _

section

variable (opts : Options) [Ethers]

theorem signed_steady (request : TransactionLike) (raw : String) : Steady m (signed request raw) :=
  .bind (.doing (fun _ => rfl) fun _ => rfl) fun _ => .pure _

omit [Ethers] in
theorem rebroadcast_steady (slot : Slot) : Steady m (rebroadcast opts slot) := by
  refine .bind (slotState_steady slot) fun state => .bind (.attempt (ask_steady _)) fun sent => ?_
  cases sent with
  | error err => exact .pure _
  | ok _ => exact .bind (recordBroadcast_steady opts slot _ _ _) fun _ => .pure _

/-- A slot is re-signed for its own call, at its own nonce. -/
theorem resignAt_safe {W : Type}
    {ready : W → Gateway → (q : Ask) → Except Thrown q.Answer → Prop} {i : Nat} (prior : Slot)
    (fees : FeeData) {r : TransactionLike} {sc : Scene W Gateway Deed Ask Ask.Answer Thrown}
    {call : ContractCall} {nonce : Nat} (own : r.call = call ∧ r.nonce = nonce)
    (held : Holds prior call nonce sc) :
    Safe (around W ready) i (resignAt opts prior fees r) (fun r _ => ¬m → Spared r) sc := by
  have resigned (fee : Int) : (bumpedRequest r fee fees).call = call ∧
      (bumpedRequest r fee fees).nonce = nonce := by
    unfold bumpedRequest
    split <;> exact own
  unfold resignAt
  dsimp only
  generalize (if prior.originalFee > fees.market r then _ else _ : Int) = top
  split
  · exact fun _ => trivial
  generalize bumpFee r.offered (fees.market r) = fee
  obtain ⟨sameCall, sameNonce⟩ := resigned fee
  generalize bumpedRequest r fee fees = next at sameCall sameNonce
  refine .bind (.await fun sc₁ relied raw answered _ => ?_)
  cases raw with
  | error x => exact fun _ => answered.2
  | ok raw =>
  replace held := held.later (relied.2.trans (.got i _ (.ok raw) sc₁))
  generalize sc₁.got i _ (.ok raw) = sc₂ at held ⊢
  refine signed_safe fun sc₃ onward signed => ?_
  replace held := held.later onward
  refine .bind (.attempt (.await fun sc₄ relied sent answered _ => ?_))
  have onward := relied.2.trans (.got i _ sent sc₄)
  replace held := held.later onward
  replace signed := signed.later onward.leads
  generalize sc₄.got i _ sent = sc₅ at held signed ⊢
  have adopted : Onward sc₅ (sc₅.did i (sc₅.shared.setSlot prior
      (·.adopt next raw (Ethers.keccak256 raw)), outDeeds next)) := by
    obtain ⟨state, here, ownCall, ownNonce⟩ := held
    refine onward_setSlot (fun state' there => ?_) (fun state' there => ?_)
      fun state' there hash mem => ?_
    · rw [here] at there
      cases there
      exact sameCall.trans ownCall.symm
    · rw [here] at there
      cases there
      exact sameNonce.trans ownNonce.symm
    · rcases List.mem_append.mp mem with old | new
      · exact .inl old
      · rw [List.mem_singleton.mp new]
        exact .inr signed
  have adopting := And.intro (Scene.did_grows sc₅ i
    (sc₅.shared.setSlot prior (·.adopt next raw (Ethers.keccak256 raw)), outDeeds next)) adopted
  cases sent with
  | error err =>
    dsimp only
    split
    · exact fun _ => trivial
    · exact fun _ => ⟨adopting, fun _ => trivial⟩
  | ok _ =>
    refine fun _ => ⟨adopting, ?_⟩
    exact Steady.bind (recordBroadcast_steady opts prior _ _ _) (fun _ => .pure _) W ready i _

theorem replaceAtSameNonce_steady (prior : Slot) (given : Option FeeData) :
    Steady m (replaceAtSameNonce opts prior given) := by
  rw [replaceAtSameNonce_eq]
  refine .bind ?_ fun fees W ready i sc => ?_
  · cases given with
    | some => exact .pure _
    | none => exact ask_steady _
  refine slotState_safe fun state here => ?_
  exact resignAt_safe opts prior fees ⟨rfl, rfl⟩ ⟨state, here, rfl, rfl⟩

theorem signCancel_steady (slot : Slot) : Steady m (signCancel slot) := by
  refine .bind (slotState_steady slot) fun state => ?_
  dsimp only
  split
  · exact .pure _
  · exact .bind (ask_steady _) fun _ => .bind (ask_steady _) fun _ =>
      .bind (slotState_steady slot) fun _ => .bind (ask_steady _) fun _ =>
      .bind (signed_steady _ _) fun _ => .setSlot (fun _ => rfl) fun _ => rfl

omit [Ethers] in
theorem broadcastCancel_steady (slot : Slot) (past : String) :
    Steady m (broadcastCancel opts slot past) := by
  refine .bind (slotState_steady slot) fun state => ?_
  dsimp only
  split
  · exact .stuck
  refine .bind (.attempt (ask_steady _)) fun sent => ?_
  cases sent with
  | ok _ => exact .bind (recordBroadcast_steady opts _ _ _ _) fun _ => .pure _
  | error err =>
    dsimp only
    split
    · exact .bind (.setSlot (fun _ => rfl) fun _ => rfl) fun _ => .pure _
    split
    · exact .bind (.setSlot (fun _ => rfl) fun _ => rfl) fun _ => .pure _
    refine .bind (.attempt (ask_steady _)) fun held => ?_
    rcases held with readErr | none | state
    · exact .pure _
    · exact .pure _
    · exact .bind (recordBroadcast_steady opts _ _ _ _) fun _ => .pure _

theorem releaseSlot_steady (slot : Slot) (landBy : Int) :
    Steady m (releaseSlot opts slot landBy) := by
  refine .bind (.attempt (signCancel_steady slot)) fun signed => ?_
  cases signed with
  | error err => exact .pure _
  | ok _ => exact broadcastCancel_steady opts slot _

theorem releaseEach_steady (sec : Int) (slots : List Slot) :
    Steady m (releaseEach opts sec slots) := by
  induction slots with
  | nil => exact .pure _
  | cons slot rest ih =>
    unfold releaseEach
    split
    · exact ih
    · split
      · exact ih
      · exact .bind (releaseSlot_steady opts slot _) fun _ => ih

theorem releaseDeadSlots_steady (key : Nat × String) (provider : Signer) :
    Steady m (releaseDeadSlots opts key provider) := by
  refine .bind Steady.get fun s => ?_
  dsimp only
  split
  · exact .pure _
  · exact .bind (nowSec_steady _ _) fun sec => releaseEach_steady opts sec _

omit [Ethers] in
theorem assignNonce_steady (key : Nat × String) (provider : Signer) (sender : String) :
    Steady m (assignNonce key provider sender) := by
  refine .bind (ask_steady _) fun pending => .bind Steady.get fun s => ?_
  let forget : Code Nat := do
    Async.modify fun s => { s with lastNonce := s.lastNonce.delete key }
    pure pending
  have forgets : Steady m forget := .bind (.doing (fun _ => rfl) fun _ => rfl) fun _ => .pure _
  cases s.lastNonce.get key with
  | none => exact forgets
  | some last =>
    dsimp only
    split
    · exact forgets
    refine .bind (ask_steady _) fun held => ?_
    have answered (expired : Bool) : Steady m (afterLast forget provider last held expired) := by
      unfold afterLast
      split
      · exact forgets
      split
      · exact .pure _
      refine .bind (.attempt (ask_steady _)) fun sent => ?_
      cases sent with
      | ok _ => exact .pure _
      | error err =>
        dsimp only
        split
        · exact .pure _
        split
        · exact forgets
        refine .bind (ask_steady _) fun again => ?_
        split
        · exact .pure _
        · exact forgets
    split
    · exact .pure _
    refine .bind now_steady fun clock => ?_
    split
    · refine .bind (nowSec_steady _ _) fun sec => .bind (.pure _) fun expired => ?_
      exact answered expired
    · exact .bind (.pure _) fun expired => answered expired

omit [Ethers] in
theorem waitHead_steady (slot : Slot) (w : Wait) : Steady m (waitHead slot w) := by
  unfold waitHead
  split
  · exact .pure _
  · refine .bind (.attempt (ask_steady _)) fun head => ?_
    cases head <;> exact .pure _

omit [Ethers] in
theorem waitReceipt_steady (slot : Slot) (w : Wait) : Steady m (waitReceipt slot w) := by
  refine .bind (slotState_steady slot) fun state => ?_
  refine .bind (.attempt (receiptOf_steady _ _)) fun landed => ?_
  cases landed <;> exact .pure _

theorem nudge_steady (slot : Slot) (newBlock : Option (Option Int)) (w : Wait) :
    Steady m (nudge opts slot newBlock w) := by
  have held (w : Wait) : Steady m (nudgeHeld opts slot w) := by
    unfold nudgeHeld
    refine .bind (slotState_steady slot) fun state => .bind (ask_steady _) fun held => ?_
    cases held with
    | some => exact .pure _
    | none => exact .bind (rebroadcast_steady opts slot) fun _ => .pure _
  cases newBlock with
  | none => exact held w
  | some headBaseFee =>
    refine .bind (ask_steady _) fun fees => .bind (slotState_steady slot) fun state => ?_
    dsimp only
    split
    · refine .bind (replaceAtSameNonce_steady opts slot _) fun replaced => ?_
      cases replaced.1 with
      | true => exact .pure _
      | false => exact held w
    · exact held w

theorem passLast_steady (method : String) (slot : Slot) (hashes : List String) (landBy : Int) :
    Steady m (passLast opts method slot hashes landBy) := by
  refine .bind (releaseSlot_steady opts slot landBy) fun released => ?_
  cases released.1 <;> exact .pure _

theorem passOn_steady (method : String) (slot : Slot) (deadline : Int)
    (followed : String → TxOutcome) (newBlock : Option (Option Int)) (w : Wait) :
    Steady m (passOn opts method slot deadline followed newBlock w) := by
  refine .bind now_steady fun clock => ?_
  split
  · exact .pure _
  · refine .bind (ask_steady _) fun _ => ?_
    refine .bind (.attempt (nudge_steady opts slot _ _)) fun nudged => ?_
    cases nudged <;> exact .pure _

theorem receiptPass_steady (method : String) (slot : Slot) (deadline : Int) (w : Wait) :
    Steady m (receiptPass opts method slot deadline w) := by
  refine .bind (waitHead_steady slot w) fun head => ?_
  refine .bind (waitReceipt_steady slot _) fun landed => ?_
  dsimp only
  split
  · exact .pure _
  · refine .bind (slotState_steady slot) fun state => ?_
    split
    · split
      · exact .bind (passLast_steady opts method slot _ _) fun _ => .pure _
      · exact passOn_steady opts method slot deadline _ _ _
    · exact passOn_steady opts method slot deadline _ _ _

theorem awaitReceipt_steady (method : String) (slot : Slot) (deadline : Int) (fuel : Nat)
    (w : Wait) : Steady m (awaitReceipt opts method slot deadline fuel w) := by
  induction fuel generalizing w with
  | zero => exact .stuck
  | succ fuel ih =>
    refine .bind (receiptPass_steady opts method slot deadline w) fun pass => ?_
    cases pass with
    | inl => exact .pure _
    | inr w => exact ih w

omit [Ethers] in
theorem queued_steady {α : Type} {key : Queue} {run : Code α} (h : Steady m run) :
    Steady m (queued key run) := by
  refine .bind Steady.get fun s => .bind (.doing (fun _ => rfl) fun _ => rfl) fun _ => ?_
  refine .bind (ask_steady _) fun _ => .always h (.doing (fun s => ?_) fun s => ?_)
  · dsimp only
    split <;> rfl
  · dsimp only
    split <;> rfl

omit [Ethers] in
theorem serialized_steady {α : Type} {signer : Signer} {run : Nat × String → Code α}
    (h : ∀ key, Steady m (run key)) : Steady m (serialized signer run) :=
  .bind (ask_steady _) fun _ => .bind (ask_steady _) fun _ => queued_steady (h _)

/-- A slot starts from its own signing. -/
theorem signedSlot_steady {α : Type} (plan : SendPlan) (key : Nat × String) (sender : String)
    (request : TransactionLike) (raw : String) {rest : String → Slot → Code α}
    (h : ∀ hash slot, Steady m (rest hash slot)) :
    Steady m ((signed request raw).bind fun hash =>
      (newSlot plan key sender request raw hash).bind fun slot => rest hash slot) := by
  intro W ready i sc
  refine signed_safe fun sc₁ _ signed => get_safe fun _ => ?_
  refine ⟨⟨Scene.did_grows sc₁ i _, onward_newSlot fun hash mem => ?_⟩, h _ _ W ready i _⟩
  rw [List.mem_singleton.mp mem]
  exact signed

theorem sendQueued_steady {plan : SendPlan} (recheck : Steady m plan.recheck) (key : Nat × String) :
    Steady m (sendQueued opts plan key) := by
  refine .bind recheck fun _ => .bind (.attempt (ask_steady _)) fun simulated => ?_
  cases simulated with
  | error err => exact .throw fun _ => rfl
  | ok _ =>
    refine .bind (releaseDeadSlots_steady opts key _) fun _ => .bind (ask_steady _) fun sender => ?_
    refine .bind (assignNonce_steady key _ sender) fun nonce => ?_
    refine .bind (ask_steady _) fun filled => .bind (ask_steady _) fun raw => ?_
    refine signedSlot_steady plan key sender _ raw fun hash slot => ?_
    refine .bind (.attempt (ask_steady _)) fun sent => ?_
    cases sent with
    | error err => exact .bind (.doing (fun _ => rfl) fun _ => rfl) fun _ => .pure _
    | ok _ =>
      exact .bind (.doing (recordBroadcast_clock _ slot _ _ _)
        (recordBroadcast_slots _ slot _ _ _)) fun _ => .pure _

omit [Ethers] in
theorem keepOutcome_steady (action : Action) (slot : Slot) (outcome : TxOutcome) :
    Steady m (keepOutcome action slot outcome) := by
  cases outcome with
  | in_doubt | cancelled | confirmed | reverted => exact .doing (fun _ => rfl) fun _ => rfl
  | not_sent => exact .pure _

theorem send_steady (fuel : Nat) {plan : SendPlan} (recheck : Steady m plan.recheck) :
    Steady m (send opts fuel plan) := by
  refine .bind (serialized_steady (sendQueued_steady opts recheck)) fun sent => ?_
  dsimp only
  split
  · exact .pure _
  · refine .bind now_steady fun clock => ?_
    refine .bind (awaitReceipt_steady opts _ _ _ fuel _) fun outcome => ?_
    exact .bind (keepOutcome_steady _ _ outcome) fun _ => .pure _

theorem rescue_steady (prior : Slot) (landBy : Int) : Steady m (rescue opts prior landBy) := by
  refine .bind (nowSec_steady _ _) fun sec => ?_
  dsimp only
  split
  · exact .bind (releaseSlot_steady opts prior landBy) fun _ => .pure _
  refine .bind (.setSlot (fun _ => rfl) fun _ => rfl) fun _ => ?_
  refine .bind (slotState_steady prior) fun state => ?_
  split
  · refine .bind (replaceAtSameNonce_steady opts prior none) fun replaced => ?_
    split
    · exact .pure _
    · exact .bind (rebroadcast_steady opts prior) fun _ => .pure _
  · exact rebroadcast_steady opts prior

omit [Ethers] in
theorem refused_other {code : EscrowRefusal} {message : String} {orderId : Option String}
    (h : code ≠ .already_claimed) :
    (Thrown.refusal code message orderId).alreadyClaimed = false := by
  unfold Thrown.alreadyClaimed
  split
  · next same =>
    cases same
    exact absurd rfl h
  · rfl

theorem guardInDoubt_steady (key : Action) {doneCode : EscrowRefusal}
    (refuses : doneCode = .already_claimed → m) (orderId : String)
    {isDone : Option Nat → Code Bool} (h : ∀ block, Steady m (isDone block)) (landBy : Int) :
    Steady m (guardInDoubt opts key doneCode orderId isDone landBy) := by
  have refusal (message : String) : Steady m
      (.throw (.refusal doneCode message (some orderId)) : Code Unit) :=
    .throw fun other => refused_other fun same => other (refuses same)
  refine .bind Steady.get fun s => ?_
  split
  · exact .pure _
  refine .bind (slotState_steady _) fun state => ?_
  refine .bind (resolveSlot_steady _ _ _ fun n => h (some n)) fun resolved => ?_
  cases resolved with
  | confirmed => exact .bind (.doing (fun _ => rfl) fun _ => rfl) fun _ => refusal _
  | in_doubt =>
    refine .bind (h none) fun done => ?_
    split
    · exact .bind (.doing (fun _ => rfl) fun _ => rfl) fun _ => refusal _
    · exact .bind (rescue_steady opts _ landBy) fun _ => .throw fun _ => rfl
  | reverted | not_sent | cancelled => exact .doing (fun _ => rfl) fun _ => rfl

/-! ### Accepting -/

omit [Ethers] in
theorem origin_steady (chainId : Nat) (prepared : PreparedFill) :
    Steady m (origin opts chainId prepared) := by
  unfold origin
  split
  · exact .pure _
  · exact .throw fun _ => rfl

omit [Ethers] in
theorem destination_steady (chainId : Nat) (prepared : PreparedFill) :
    Steady m (destination opts chainId prepared) := by
  unfold destination
  split
  · exact .pure _
  · exact .throw fun _ => rfl

omit [Ethers] in
theorem requireOwnFillAuth_steady (prepared : PreparedFill) (self : String) :
    Steady m (requireOwnFillAuth prepared self) := by
  unfold requireOwnFillAuth
  split
  · exact .throw fun _ => rfl
  split
  · exact .throw fun _ => rfl
  · exact .pure _

omit [Ethers] in
theorem requireOneFillPerOrder_steady (prepared : PreparedFill) (s : Gateway) :
    Steady m (requireOneFillPerOrder prepared s) := by
  unfold requireOneFillPerOrder
  split
  · split
    · exact .throw fun _ => rfl
    · exact .pure _
  · exact .pure _

theorem requireAcceptedFillAuth_steady (prepared : PreparedFill) (accepted : FillAcceptance) :
    Steady m (requireAcceptedFillAuth prepared accepted) := by
  unfold requireAcceptedFillAuth
  split
  · exact .throw fun _ => rfl
  split
  · exact .throw fun _ => rfl
  · exact .pure _

theorem requireSameAccepting_steady (prepared : PreparedFill) (inFlight : Accepting) :
    Steady m (requireSameAccepting prepared inFlight) := by
  unfold requireSameAccepting
  split
  · exact .throw fun _ => rfl
  · exact .pure _

omit [Ethers] in
theorem isFilled_steady (prepared : PreparedFill) (blockTag : Option Nat) :
    Steady m (isFilled opts prepared blockTag) :=
  .bind (destination_steady opts _ prepared) fun _ => ask_steady _

omit [Ethers] in
theorem owedInventory_steady (prepared : PreparedFill) (dest : DestinationChainConfig) :
    Steady m (owedInventory prepared dest) := by
  have each (sec : Int) (fills : List (String × OwedFill)) (owed : Int) :
      Steady m (owedEach dest sec fills owed) := by
    induction fills generalizing owed with
    | nil => exact .pure _
    | cons fill rest ih =>
      unfold owedEach
      split
      · exact .bind (.doing (fun _ => rfl) fun _ => rfl) fun _ => ih _
      · refine .bind (ask_steady _) fun filled => ?_
        split
        · exact .bind (.doing (fun _ => rfl) fun _ => rfl) fun _ => ih _
        · exact ih _
  refine .bind Steady.get fun s => ?_
  dsimp only
  split
  · exact .pure _
  · exact .bind (nowSec_steady _ _) fun sec => each sec _ 0

omit [Ethers] in
theorem fillPreflight_steady (prepared : PreparedFill) (dest : DestinationChainConfig)
    (reserveOwed : Bool) : Steady m (fillPreflight prepared dest reserveOwed) := by
  refine .bind (ask_steady _) fun filled => ?_
  split
  · exact .bind (.doing (fun _ => rfl) fun _ => rfl) fun _ => .throw fun _ => rfl
  refine .bind (ask_steady _) fun self => ?_
  refine .either (owedInventory_steady prepared dest) (.pure _) fun owed => ?_
  refine .bind (ask_steady _) fun balance => ?_
  split
  · exact .throw fun _ => rfl
  refine .bind (ask_steady _) fun allowance => ?_
  split
  · exact .throw fun _ => rfl
  refine .bind (.attempt (ask_steady _)) fun simulated => ?_
  cases simulated with
  | error err => exact .throw fun _ => rfl
  | ok _ => exact .pure _

omit [Ethers] in
theorem claimReadiness_steady (prepared : PreparedFill) :
    Steady m (claimReadiness opts prepared) := by
  refine .bind (origin_steady opts _ prepared) fun origin => .bind (ask_steady _) fun paused => ?_
  split
  · exact .pure _
  refine .bind (ask_steady _) fun claimer => .bind (ask_steady _) fun gas => ?_
  refine .bind (ask_steady _) fun fees => ?_
  split
  · exact .pure _
  · dsimp only
    split <;> exact .pure _

theorem sign_steady (prepared : PreparedFill) (dest : DestinationChainConfig) :
    Steady m (sign prepared dest) :=
  .bind (ask_steady _) fun _ => .bind (.doing (fun _ => rfl) fun _ => rfl) fun _ => .pure _

omit [Ethers] in
theorem checkFillWindow_steady (nowSec refundableAt fillAuthDeadline fillInclusionSec : Int) :
    Steady m (checkFillWindow nowSec refundableAt fillAuthDeadline fillInclusionSec) := by
  unfold checkFillWindow
  dsimp only
  split
  · exact .throw fun _ => rfl
  split
  · exact .throw fun _ => rfl
  · exact .pure _

omit [Ethers] in
theorem acceptChecks_steady (prepared : PreparedFill) (dest : DestinationChainConfig) :
    Steady True (acceptChecks opts prepared dest) := by
  refine .bind (origin_steady opts _ prepared) fun origin => .bind (nowSec_steady _ _) fun sec => ?_
  split
  · exact .throw fun _ => rfl
  refine .bind (checkFillWindow_steady _ _ _ _) fun _ => ?_
  refine .bind (fillPreflight_steady prepared dest true) fun _ => ?_
  refine .bind (claimReadiness_steady opts prepared) fun unclaimable => ?_
  split
  · exact .throw fun other => absurd trivial other
  · exact .pure _

omit [Ethers] in
theorem handOver_steady (prepared : PreparedFill) (o : AcceptOptions) (signed : SignedAcceptance) :
    Steady m (handOver prepared o signed) := by
  unfold handOver
  split
  · exact .bind (ask_steady _) fun _ => .bind (.attempt (ask_steady _)) fun _ => .pure _
  · exact .bind (.attempt (ask_steady _)) fun _ => .pure _

theorem signAcceptance_steady (prepared : PreparedFill) (o : AcceptOptions) :
    Steady True (signAcceptance opts prepared o) := by
  refine .bind (destination_steady opts _ prepared) fun dest => .bind (ask_steady _) fun self => ?_
  refine .bind (requireOwnFillAuth_steady prepared self) fun _ => ?_
  refine .either (sign_steady prepared dest) ?_ fun signed => handOver_steady prepared o signed
  exact queued_steady (.bind (acceptChecks_steady opts prepared dest) fun _ =>
    sign_steady prepared dest)

theorem startAccept_steady (prepared : PreparedFill) (o : AcceptOptions) :
    Steady True (startAccept opts prepared o) :=
  .bind Steady.get fun _ => .bind (.doing (fun _ => rfl) fun _ => rfl) fun _ =>
    .always (signAcceptance_steady opts prepared o) (.doing (fun _ => rfl) fun _ => rfl)

theorem accept_steady (prepared : PreparedFill) (o : AcceptOptions) (fuel : Nat) :
    Steady True (accept opts prepared o fuel) := by
  induction fuel with
  | zero => exact .stuck
  | succ fuel ih =>
    unfold accept
    split
    · exact .throw fun _ => rfl
    refine .bind Steady.get fun s => ?_
    split
    · refine .bind (requireSameAccepting_steady prepared _) fun _ => ?_
      exact .bind (ask_steady _) fun _ => ih
    refine .bind (requireOneFillPerOrder_steady prepared s) fun _ => ?_
    split
    · exact startAccept_steady opts prepared o
    refine .bind (requireAcceptedFillAuth_steady prepared _) fun _ => ?_
    split
    · exact handOver_steady prepared o _
    · exact startAccept_steady opts prepared _

theorem restoreAcceptance_steady (prepared : PreparedFill) :
    Steady True (restoreAcceptance opts prepared) := by
  refine .bind (destination_steady opts _ prepared) fun dest => .bind (ask_steady _) fun self => ?_
  refine .bind (requireOwnFillAuth_steady prepared self) fun _ => .bind Steady.get fun s => ?_
  dsimp only
  split
  refine .bind (requireSameAccepting_steady prepared _) fun _ => ?_
  all_goals
    refine .bind (requireOneFillPerOrder_steady prepared s) fun _ => ?_
    split
    · exact requireAcceptedFillAuth_steady prepared _
    · exact .doing (fun _ => rfl) fun _ => rfl

/-! ### Filling -/

theorem sendFill_steady (fuel : Nat) (prepared : PreparedFill) :
    Steady m (sendFill opts fuel prepared) := by
  refine .bind (destination_steady opts _ prepared) fun dest => ?_
  refine .bind (guardInDoubt_steady opts _ nofun _ (isFilled_steady opts prepared) _) fun _ => ?_
  refine .bind (nowSec_steady _ _) fun destNow => ?_
  split
  · exact .throw fun _ => rfl
  refine .bind (.attempt (.bind (origin_steady opts _ prepared) fun _ => nowSec_steady _ _))
    fun _ => ?_
  refine .bind (fillPreflight_steady prepared dest false) fun _ => ?_
  refine .bind (.attempt (claimReadiness_steady opts prepared)) fun _ => send_steady opts fuel ?_
  refine .bind (nowSec_steady _ _) fun sec => ?_
  split
  · exact .throw fun _ => rfl
  · exact .pure _

theorem fill_steady (fuel : Nat) (prepared : PreparedFill) :
    Steady m (fill opts fuel prepared) := by
  have underWay : Steady m (fillUnderWay opts fuel prepared) := by
    refine .bind (sendFill_steady opts fuel prepared) fun outcome => ?_
    dsimp only
    split
    · exact .bind (.doing (fun _ => rfl) fun _ => rfl) fun _ => .pure _
    · exact .bind (.pure _) fun _ => .pure _
  refine .bind Steady.get fun s => .bind (requireOneFillPerOrder_steady prepared s) fun _ => ?_
  split
  · exact .throw fun _ => rfl
  refine .bind (requireAcceptedFillAuth_steady prepared _) fun _ => ?_
  split
  · exact .throw fun _ => rfl
  split
  · exact .throw fun _ => rfl
  · exact .bind (.doing (fun _ => rfl) fun _ => rfl) fun _ =>
      .always underWay (.doing (fun _ => rfl) fun _ => rfl)

/-! ### Claiming -/

omit [Ethers] in
theorem lockStatus_steady (prepared : PreparedFill) (blockTag : Option Nat) :
    Steady m (lockStatus opts prepared blockTag) :=
  .bind (origin_steady opts _ prepared) fun _ => ask_steady _

omit [Ethers] in
theorem seeLock_steady (prepared : PreparedFill) : Steady m (seeLock opts prepared) := by
  refine .bind (lockStatus_steady opts prepared none) fun status => ?_
  dsimp only
  split
  · exact .bind (.doing (fun _ => rfl) fun _ => rfl) fun _ => .pure _
  · exact .pure _

theorem guardInDoubtClaim_steady (prepared : PreparedFill) :
    Steady True (guardInDoubtClaim opts prepared) := by
  refine guardInDoubt_steady opts _ (fun _ => trivial) _ (fun block => ?_) _
  exact .bind (lockStatus_steady opts prepared block) fun _ => .pure _

omit [Ethers] in
theorem checkClaimWindow_steady (prepared : PreparedFill) (origin : OriginChainConfig) :
    Steady m (checkClaimWindow opts prepared origin) := by
  refine .bind (nowSec_steady _ _) fun sec => ?_
  dsimp only
  split
  · exact .throw fun _ => rfl
  · exact .pure _

theorem claim_steady (fuel : Nat) (prepared : PreparedFill) (attestation : VerifiedAttestation) :
    Steady True (claim opts fuel prepared attestation) := by
  refine .bind (origin_steady opts _ prepared) fun origin => ?_
  refine .bind (guardInDoubtClaim_steady opts prepared) fun _ => ?_
  refine .bind (seeLock_steady opts prepared) fun status => ?_
  split
  · exact .throw fun other => absurd trivial other
  split
  · exact .throw fun _ => rfl
  refine .bind (checkClaimWindow_steady opts prepared origin) fun _ => ?_
  refine .bind (.attempt (ask_steady _)) fun simulated => ?_
  cases simulated with
  | error err => exact .throw fun _ => rfl
  | ok payee =>
    dsimp only
    split
    · exact .throw fun _ => rfl
    · exact send_steady opts fuel (checkClaimWindow_steady opts prepared origin)

omit [Ethers] in
theorem scanClaimed_steady (prepared : PreparedFill) (origin : OriginChainConfig)
    (head fuel fromBlock : Nat) : Steady m (scanClaimed prepared origin head fuel fromBlock) := by
  induction fuel generalizing fromBlock with
  | zero => exact .stuck
  | succ fuel ih =>
    unfold scanClaimed
    split
    · refine .bind (ask_steady _) fun logs => ?_
      split
      · exact .pure _
      · exact ih _
    · exact .throw fun _ => rfl

omit [Ethers] in
theorem whoClaimed_steady (fuel : Nat) (prepared : PreparedFill) :
    Steady m (whoClaimed opts fuel prepared) :=
  .bind (origin_steady opts _ prepared) fun origin => .bind (ask_steady _) fun head =>
    scanClaimed_steady prepared origin head fuel _

omit [Ethers] in
theorem afterWindow_steady (fuel : Nat) (prepared : PreparedFill) :
    Steady m (afterWindow opts fuel prepared) := by
  refine .bind (.attempt (seeLock_steady opts prepared)) fun status => ?_
  split
  · exact .pure _
  · refine .bind (.attempt (whoClaimed_steady opts fuel prepared)) fun who => ?_
    cases who <;> exact .pure _
  · exact .pure _

omit [Ethers] in
theorem passLock_steady (fuel : Nat) (prepared : PreparedFill) :
    Steady m (passLock opts fuel prepared) := by
  refine .bind (seeLock_steady opts prepared) fun status => ?_
  cases status with
  | claimed => exact .bind (whoClaimed_steady opts fuel prepared) fun _ => .pure _
  | none => exact .throw fun _ => rfl
  | opened | refunded => exact .pure _

omit [Ethers] in
theorem fetchVerified_steady (prepared : PreparedFill) (verified : Option VerifiedAttestation) :
    Steady m (fetchVerified prepared verified) := by
  refine .tried (ask_steady _) (fun fetched => .pure _) fun err spared => ?_
  cases verified with
  | none => exact .throw spared
  | some verified => exact .pure _

theorem passClaim_steady (fuel : Nat) (prepared : PreparedFill)
    (verified : Option VerifiedAttestation) :
    Steady True (passClaim opts fuel prepared verified) := by
  cases verified with
  | none => exact .pure _
  | some attestation =>
    refine .bind (claim_steady opts fuel prepared attestation) fun outcome => ?_
    split <;> exact .pure _

theorem claimPass_steady (fuel : Nat) (prepared : PreparedFill) (lastSendSec : Int)
    (loop : ClaimLoop) : Steady True (claimPass opts fuel prepared lastSendSec loop) := by
  refine .bind (.attempt (passLock_steady opts fuel prepared)) fun lock => ?_
  split
  · exact .pure _
  · exact .pure _
  refine .bind (.attempt (.bind (origin_steady opts _ prepared) fun _ => nowSec_steady _ _))
    fun chain => ?_
  split
  · exact .pure _
  refine .bind now_steady fun clock => .bind (.doing (fun _ => rfl) fun _ => rfl) fun _ => ?_
  dsimp only
  split
  · exact .bind (afterWindow_steady opts fuel prepared) fun _ => .pure _
  refine .bind (.attempt (.bind (guardInDoubtClaim_steady opts prepared) fun _ =>
    fetchVerified_steady prepared _)) fun verified => ?_
  split
  · exact .pure _
  refine .bind (.attempt (passClaim_steady opts fuel prepared _)) fun claimed => ?_
  split <;> exact .pure _

omit [Ethers] in
theorem attempted_steady {α : Type} {action : Action} {c : Code α} (h : Steady m c) :
    Steady m (attempted action c) :=
  .bind (.doing (fun _ => rfl) fun _ => rfl) fun _ => .always h (.doing (fun _ => rfl) fun _ => rfl)

theorem claimTurn_steady (prepared : PreparedFill) (o : ClaimLoopOptions) (fuel : Nat)
    (loop : ClaimLoop) : Steady True (claimTurn opts prepared o fuel loop) := by
  refine .bind Steady.get fun s => ?_
  dsimp only
  split
  · exact .pure _
  split
  · exact .bind (afterWindow_steady opts fuel prepared) fun _ => .pure _
  refine .bind (attempted_steady (claimPass_steady opts fuel prepared _ loop)) fun pass => ?_
  cases pass with
  | done => exact .pure _
  | again threw loop => exact .bind now_steady fun _ => .pure _

theorem claimUntilRefundable_steady (fuel : Nat) (prepared : PreparedFill)
    (o : ClaimLoopOptions) : Steady True (claimUntilRefundable opts fuel prepared o) := by
  have turns (fuel : Nat) (loop : ClaimLoop) :
      Steady True (claimTurns opts prepared o fuel loop) := by
    induction fuel generalizing loop with
    | zero => exact .stuck
    | succ fuel ih =>
      refine .bind (claimTurn_steady opts prepared o fuel loop) fun turn => ?_
      cases turn with
      | inl => exact .pure _
      | inr rest => exact .bind (ask_steady _) fun _ => ih _
  have loop : Steady True (runClaimLoop opts fuel prepared o) :=
    .bind (origin_steady opts _ prepared) fun _ => turns fuel o.start
  unfold claimUntilRefundable
  split
  · exact .throw fun _ => rfl
  refine .bind Steady.get fun s => ?_
  dsimp only
  split
  · exact ask_steady _
  refine .bind (.doing (fun _ => rfl) fun _ => rfl) fun _ => ?_
  exact .bind (.always loop (.doing (fun _ => rfl) fun _ => rfl)) fun _ => .pure _

/-! ### Every interleaving -/

theorem Call.code_steady (fuel : Nat) (c : Call) : Steady True (c.code opts fuel) := by
  cases c with
  | accept prepared o => exact .bind (accept_steady opts prepared o fuel) fun _ => .pure _
  | restoreAcceptance prepared => exact restoreAcceptance_steady opts prepared
  | fill prepared => exact .bind (fill_steady opts fuel prepared) fun _ => .pure _
  | claim prepared attestation =>
    exact .bind (attempted_steady (claim_steady opts fuel prepared attestation)) fun _ => .pure _
  | claimUntilRefundable prepared o =>
    exact claimUntilRefundable_steady opts fuel prepared o

section

variable {W : Type} {ready : W → Gateway → (q : Ask) → Except Thrown q.Answer → Prop}
  {sc : Scene W Gateway Deed Ask Ask.Answer Thrown}
  {threads : List (Async Gateway Deed Ask Ask.Answer Thrown Unit)}

/-- Every hash that is followed was signed for its slot's call, at its nonce. -/
def AllFollow (sc : Scene W Gateway Deed Ask Ask.Answer Thrown) : Prop :=
  ∀ (id : Nat) state, sc.shared.slots[id]? = some state → ∀ hash ∈ state.hashes,
    SignedFor state.request hash sc

omit [Ethers] in
theorem AllFollow.later {sc' : Scene W Gateway Deed Ask Ask.Answer Thrown}
    (follow : AllFollow sc) (onward : Onward sc sc') : AllFollow sc' := by
  intro id state' here' hash mem
  rcases onward.signed id state' here' hash mem with signed | ⟨state, here, mem⟩
  · exact signed
  · obtain ⟨same, there, call, nonce⟩ := onward.kept id state here
    rw [here'] at there
    cases there
    exact ((follow id state here hash mem).later onward.leads).congr call nonce

/-- Time passes outside, and signals abort; what the gateway keeps is its own. -/
def Outside (W : Type) (_ : W) (s : Gateway) (_ : W) (s' : Gateway) : Prop :=
  s.clock ≤ s'.clock ∧ s'.slots = s.slots

omit [Ethers] in
theorem around_upholds : (around W ready).Upholds (Outside W) (fun _ s => s.slots = [])
    AllFollow where
  init _ s none id state here := by
    dsimp only at here
    rw [none] at here
    cases here
  kept _ _ _ follow guar := follow.later guar.2
  relied i j _ _ other _ guar :=
    ⟨guar.1.mono fun e mine same => other (mine.symm.trans same), guar.2⟩
  moved sc w s follow moved id state here := by
    dsimp only at here
    rw [moved.2] at here
    exact follow id state here
  seen j sc w s _ moved := ⟨⟨[], by simp, by simp⟩, .same ⟨[], by simp, by simp⟩ moved.1 moved.2⟩
  refl _ sc _ := ⟨.refl _, .refl sc⟩
  trans _ _ _ _ first next := ⟨first.1.trans next.1, first.2.trans next.2⟩
  answered i sc q a _ _ _ := ⟨Scene.got_grows sc i q a, .got i q a sc⟩
  admits _ _ _ := trivial

/-- In any interleaving of the gateway's calls every hash it follows was signed for its slot's
call, at its nonce. -/
theorem gateway_follows
    (run : Pool (fun call : Nat × Call => call.2.code opts call.1) (around W ready).ready
      (Outside W) (fun _ s => s.slots = []) sc threads) : AllFollow sc :=
  Pool.sound around_upholds (fun c i sc _ _ =>
    (Call.code_steady opts c.1 c.2 W ready i sc).mono fun _ _ _ => trivial) run trivial

end

end

end XochiSdk.Solver
