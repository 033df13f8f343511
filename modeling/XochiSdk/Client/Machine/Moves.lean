import XochiSdk.Library.History
import XochiSdk.Client.Machine.Update

/-!
# What a validated move does

`transition` said once: where the table has the edge it leaves `moved`, and it touches
neither the wallet nor the server. Every later proof reads a move from here.
-/

namespace XochiSdk.Client

open XochiSdk.Js XochiSdk.Shared XochiSdk.Signer XochiSdk.Library Emits

/-! ## Quiet effects -/

/-- An effect for the host's timers, log and events alone. -/
def Effect.quiet : Effect → Bool
  | .timer _ | .emit _ => true
  | .api _ | .wallet _ => false

def Quiet (fx : List Effect) : Prop := ∀ e ∈ fx, e.quiet = true

@[simp] theorem quiet_nil : Quiet [] := by simp [Quiet]

@[simp] theorem quiet_cons {e : Effect} {fx : List Effect} :
    Quiet (e :: fx) ↔ e.quiet = true ∧ Quiet fx := by
  simp [Quiet]

@[simp] theorem quiet_append {fx fy : List Effect} :
    Quiet (fx ++ fy) ↔ Quiet fx ∧ Quiet fy := by
  simp only [Quiet, List.mem_append, or_imp, forall_and]

@[simp] theorem timer_quiet (call : TimerCall) : (Effect.timer call).quiet = true := rfl

@[simp] theorem emit_quiet (event : MachineEvent) : (Effect.emit event).quiet = true := rfl

@[simp] theorem api_quiet (call : ApiCall) : (Effect.api call).quiet = false := rfl

@[simp] theorem wallet_quiet (call : WalletCall) : (Effect.wallet call).quiet = false := rfl

@[simp] theorem setTimer_log (timer : TimerName) (ms : ℚ) (repeats : Bool) :
    (setTimer timer ms repeats).log = [.timer (.set timer ms repeats)] := rfl

@[simp] theorem clearTimer_log (timer : TimerName) :
    (clearTimer timer).log = [.timer (.clear timer)] := rfl

@[simp] theorem report_quiet (level : LogLevel) (message : String) (data : List Value) :
    Quiet (report level message data).log := by
  simp [report]

@[simp] theorem endAllocation_quiet (allocate : Option Allocation) (ok : Bool) :
    Quiet (endAllocation allocate ok).log := by
  cases allocate <;> simp [endAllocation]

@[simp] theorem endAllocations_quiet (flights : List QuoteFlight) :
    Quiet (endAllocations flights).log := by
  induction flights with
  | nil => simp [endAllocations]
  | cons flight rest ih => simp [endAllocations, ih]

@[simp] theorem supersedeFlights_value (m : Model) :
    (supersedeFlights m).value = { m with flights := [] } := rfl

@[simp] theorem supersedeFlights_quiet (m : Model) : Quiet (supersedeFlights m).log := by
  simp [supersedeFlights]

@[simp] theorem abandonSign_value (m : Model) :
    (abandonSign m).value =
      { m with
        sign := none, pendingIntentSig := none, awaitingPull := false, isSigningPull := false } := by
  unfold abandonSign
  split <;> split <;> rfl

@[simp] theorem abandonSign_quiet (m : Model) : Quiet (abandonSign m).log := by
  unfold abandonSign
  split <;> split <;> simp

/-! ## The move -/

/-- The status is one quote requests are ignored in. -/
def busy (m : Model) : Bool := quoteBusyStates.contains m.intent.status

/-- The intent is dispatched, or its deposit address shown: the status poll runs. -/
def inFlight (m : Model) : Bool := pollInflightStates.contains m.intent.status

theorem idle_of_allocatable {m : Model}
    (allocatable : allocatableStates.contains m.intent.status = true) : busy m = false := by
  unfold busy
  generalize m.intent.status = status at allocatable ⊢
  cases status <;> first | rfl | cases allocatable

/-- The move drops every quote in the air. -/
def supersedes (m : Model) (target : IntentStatus) : Bool :=
  quoteBusyStates.contains target && !busy m

/-- The move ends the sign ceremony. -/
def endsCeremony (m : Model) (target : IntentStatus) : Bool :=
  m.intent.status == .executing || (m.intent.status == .signing && !ownExecute m target)

/-- The model a move to `target` leaves, with the intent it asks for. -/
def moved (m : Model) (target : IntentStatus) (intent : IntentState) : Model :=
  { m with
    intent := { intent with notSent := false }
    flights := if supersedes m target then [] else m.flights
    sign := if endsCeremony m target then none else m.sign
    pendingIntentSig := if endsCeremony m target then none else m.pendingIntentSig
    awaitingPull := if endsCeremony m target then false else m.awaitingPull
    isSigningPull := if endsCeremony m target then false else m.isSigningPull }

private theorem abandoned_if (b : Bool) (m : Model) :
    (if b then abandonSign m else pure m : Machine Model).value =
        { m with
          sign := if b then none else m.sign
          pendingIntentSig := if b then none else m.pendingIntentSig
          awaitingPull := if b then false else m.awaitingPull
          isSigningPull := if b then false else m.isSigningPull } ∧
      Quiet (if b then abandonSign m else pure m : Machine Model).log := by
  cases b <;> simp

/-- A move's two side effects, whatever decides them. -/
private theorem landing (b : Bool) (c : Model → Bool) (m : Model)
    (same : c { m with flights := if b then [] else m.flights } = c m) :
    let landed : Machine Model := do
      let next ← if b then supersedeFlights m else pure m
      if c next then abandonSign next else pure next
    landed.value =
      { m with
        flights := if b then [] else m.flights
        sign := if c m then none else m.sign
        pendingIntentSig := if c m then none else m.pendingIntentSig
        awaitingPull := if c m then false else m.awaitingPull
        isSigningPull := if c m then false else m.isSigningPull } ∧ Quiet landed.log := by
  have ended := abandoned_if (c m) { m with flights := if b then [] else m.flights }
  cases b with
  | false =>
    change c m = c m at same
    exact ⟨ended.1, quiet_append.mpr ⟨quiet_nil, ended.2⟩⟩
  | true =>
    change c { m with flights := [] } = c m at same
    rw [← same] at ended ⊢
    exact ⟨ended.1, quiet_append.mpr ⟨supersedeFlights_quiet m, ended.2⟩⟩

theorem moved_sign (m : Model) (target : IntentStatus) (intent : IntentState) :
    (moved m target intent).sign = m.sign ∨ (moved m target intent).sign = none := by
  unfold moved
  dsimp only
  split
  · exact .inr rfl
  · exact .inl rfl

theorem transition_of_edge {m : Model} {target : IntentStatus} {updates : IntentState → IntentState}
    (edge : canTransitionTo m.intent.status target = true) :
    (transition m target updates).value = moved m target (updates { m.intent with status := target })
      ∧ Quiet (transition m target updates).log := by
  have landed : applyStatusTransition m.intent target updates =
      some (updates { m.intent with status := target }) := if_pos edge
  unfold transition
  rw [landed]
  generalize updates { m.intent with status := target } = intent
  exact landing (supersedes m target)
    (fun next => m.intent.status == .executing ||
      (m.intent.status == .signing && !ownExecute next target))
    { m with intent := { intent with notSent := false } } rfl

theorem transition_of_no_edge {m : Model} {target : IntentStatus}
    {updates : IntentState → IntentState}
    (edge : canTransitionTo m.intent.status target = false) :
    (transition m target updates).value = m ∧ Quiet (transition m target updates).log := by
  unfold transition applyStatusTransition
  simp [edge]

/-- Before execution, a move that stays there changes the intent alone. -/
theorem moved_idle {target : IntentStatus} {intent : IntentState} (idle : busy m = false)
    (still : quoteBusyStates.contains target = false) :
    moved m target intent = { m with intent := { intent with notSent := false } } := by
  have staying : supersedes m target = false := by
    unfold supersedes
    rw [still]
    rfl
  have unsigned : endsCeremony m target = false := by
    unfold busy at idle
    unfold endsCeremony
    generalize m.intent.status = status at idle ⊢
    cases status <;> first | rfl | cases idle
  simp only [moved, staying, unsigned, Bool.false_eq_true, if_false]

/-- Out of a ceremony, a move clears it, whatever it had collected. -/
theorem transition_signing {m m₁ : Model} {target : IntentStatus}
    {updates : IntentState → IntentState} {sign : Option SignFlow}
    {pendingIntentSig : Option String} {awaitingPull isSigningPull : Bool}
    (signing : m.intent.status = .signing) (back : target = .quoted ∨ target = .failed)
    (same : m₁ = { m with
      sign := sign, pendingIntentSig := pendingIntentSig
      awaitingPull := awaitingPull, isSigningPull := isSigningPull }) :
    (transition m₁ target updates).value = moved m target (updates { m.intent with status := target })
      ∧ Quiet (transition m₁ target updates).log := by
  have status : m₁.intent.status = .signing := by rw [same]; exact signing
  have edge : canTransitionTo m₁.intent.status target = true := by
    rw [status]
    rcases back with rfl | rfl <;> rfl
  have ends : endsCeremony m₁ target = true ∧ endsCeremony m target = true := by
    simp only [endsCeremony, ownExecute, status, signing]
    rcases back with rfl | rfl <;> exact ⟨rfl, rfl⟩
  refine ⟨?_, (transition_of_edge edge).2⟩
  rw [(transition_of_edge edge).1]
  have quotes : supersedes m₁ target = supersedes m target := by rw [same]; rfl
  simp only [moved, ends.1, ends.2, quotes, if_true]
  subst same
  rfl

/-- Staged for its own execute, a flow keeps its ceremony through the move. -/
theorem signing_to_executing {m : Model} {flow : SignFlow} (signing : m.intent.status = .signing)
    (live : m.sign = some flow) (stage : flow.stage = .execute) :
    (transition m .executing id).value =
        { m with intent := { m.intent with status := .executing, notSent := false } } ∧
      Quiet (transition m .executing id).log := by
  have landed : (transition m .executing id).value =
        moved m .executing { m.intent with status := .executing } ∧
      Quiet (transition m .executing id).log := transition_of_edge (by rw [signing]; rfl)
  have still : supersedes m .executing = false := by
    unfold supersedes busy
    rw [signing]
    rfl
  have own : endsCeremony m .executing = false := by
    unfold endsCeremony ownExecute
    rw [signing, live]
    simp [stage]
  refine ⟨?_, landed.2⟩
  rw [landed.1]
  simp only [moved, still, own, Bool.false_eq_true, if_false]

end XochiSdk.Client
