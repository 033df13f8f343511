import XochiSdk.Client.Machine.Model

/-!
# Effect helpers and validated moves

`machine.ts`, from the effect helpers to `transition`, with `endSignFlow`, `abandonSign` and
`awaitingResend`, which a move may call.
-/

namespace XochiSdk.Client

open XochiSdk.Js XochiSdk.Shared XochiSdk.Signer XochiSdk.Library Emits

abbrev Machine := Emits Effect

def setTimer (timer : TimerName) (ms : ℚ) (repeats : Bool) : Machine Unit :=
  emit (.timer (.set timer ms repeats))

def clearTimer (timer : TimerName) : Machine Unit := emit (.timer (.clear timer))

/-- `log`, with the machine's prefix. -/
def report (level : LogLevel) (message : String) (data : List Value) : Machine Unit :=
  emit (.emit (.log level ("[useIntent] " ++ message) data))

def patch (m : Model) (updates : IntentState → IntentState) : Model :=
  { m with intent := updates m.intent }

def nextId (m : Model) (letter : String) : String × Model :=
  (letter ++ toString (m.seq + 1), { m with seq := m.seq + 1 })

def endAllocation (allocate : Option Allocation) (ok : Bool) : Machine Unit :=
  match allocate with
  | some allocation => emit (.emit (.allocation allocation.ref ok))
  | none => pure ()

def endAllocations : List QuoteFlight → Machine Unit
  | [] => pure ()
  | flight :: rest => do
    endAllocation flight.allocate false
    endAllocations rest

/-- Drop every quote still in flight: a newer ask has made their answers moot. -/
def supersedeFlights (m : Model) : Machine Model := do
  endAllocations m.flights
  pure { m with flights := [] }

def withoutFlight (m : Model) (id : String) : Model :=
  { m with flights := m.flights.filter fun f => f.id != id }

def putFlight (m : Model) (flight : QuoteFlight) : Model :=
  { m with flights := (m.flights.filter fun f => f.id != flight.id) ++ [flight] }

/-- A not-accepted execute is waiting for its resend: no request is in flight. -/
def awaitingResend (m : Model) : Bool :=
  match m.sign with
  | some flow => flow.stage == .execute && (flow.execute.bind (·.resendAt)).isSome
  | none => false

def endSignFlow (m : Model) (flow : SignFlow) : Model :=
  { m with
    sign := none
    isSigningPull := if flow.origin = .pull then false else m.isSigningPull }

/-- End the whole sign ceremony: nothing signed so far can execute after this. -/
def abandonSign (m : Model) : Machine Model := do
  if m.sign.isSome then clearTimer .signPrompt
  if awaitingResend m then clearTimer .execute
  pure { m with
    sign := none, pendingIntentSig := none, awaitingPull := false, isSigningPull := false }

/-- `applyStatusTransition`; `none` is the previous state back, unchanged. -/
def applyStatusTransition (prev : IntentState) (target : IntentStatus)
    (updates : IntentState → IntentState) : Option IntentState :=
  if canTransitionTo prev.status target then some (updates { prev with status := target })
  else none

/-- The flow is staged for its own execute step. -/
def ownExecute (m : Model) (target : IntentStatus) : Bool :=
  target == .executing &&
    match m.sign with
    | some flow => flow.stage == .execute
    | none => false

/-- A validated status move; an invalid one is logged and changes nothing. Entering a state
past quoting drops every quote in the air, and leaving the ceremony for anything but its own
execute step ends it. -/
def transition (m : Model) (target : IntentStatus) (updates : IntentState → IntentState) :
    Machine Model :=
  match applyStatusTransition m.intent target updates with
  | none => do
    report .warn s!"Invalid transition: {m.intent.status.text} -> {target.text}" []
    pure m
  | some intent => do
    let source := m.intent.status
    let next := { m with intent := { intent with notSent := false } }
    let next ←
      if quoteBusyStates.contains target && !quoteBusyStates.contains source then
        supersedeFlights next
      else pure next
    if source == .executing || (source == .signing && !ownExecute next target) then
      abandonSign next
    else pure next

/-- `transition` to a status a reply names: one outside the union is a move no table has. -/
def transitionTo (m : Model) (target : WireStatus) (updates : IntentState → IntentState) :
    Machine Model :=
  match target with
  | .known status => transition m status updates
  | .inherited printed => do
    report .warn s!"Invalid transition: {m.intent.status.text} -> {printed}" []
    pure m

end XochiSdk.Client
