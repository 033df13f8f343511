import Mathlib.Data.List.Basic

/-!
# The event feed

`HttpSolverTransport.events` (`packages/solver-sdk/src/client.ts`) as a machine: one run of the
generator at a time, stopped and started again, whose venue, handlers, listeners and consumer do
what they like at every step. `history` is what has happened, in order.
-/

namespace XochiSdk.Solver.Feed

/-- What `parseSolverEvent` makes of an entry: the thrown `UnknownSolverEventError` carries the
entry's type. -/
inductive Parsed (Event : Type) where
  | event (event : Event)
  | unknownType (type : List UInt16)
  | invalid

structure FeedOptions (Raw Event : Type) where
  parseSolverEvent : Raw → Parsed Event
  /-- `onFeedGap` is given. -/
  onFeedGap : Bool
  /-- `onInvalidEvent` is given. -/
  onInvalidEvent : Bool

/-- A parsed answer, with the cursor it was requested by and its place among the answers. -/
structure FeedBatch (Raw : Type) where
  place : Nat
  requestedCursor : String
  events : List Raw
  cursor : String
  dropped : Option Nat
  reset : Option Bool
  deriving DecidableEq

/-- `dropped > 0 || reset`. -/
def FeedBatch.gap {Raw : Type} (batch : FeedBatch Raw) : Bool :=
  decide (0 < batch.dropped.getD 0) || batch.reset.getD false

/-- The two sets of listeners. -/
inductive Audience where
  | gap | unknown
  deriving DecidableEq

/-- What listeners are told of. -/
inductive Topic (Raw : Type) where
  | gap (batch : FeedBatch Raw)
  | unknown (batch : FeedBatch Raw) (i : Nat) (type : List UInt16)
  deriving DecidableEq

def Topic.audience {Raw : Type} : Topic Raw → Audience
  | gap _ => .gap
  | unknown .. => .unknown

/-- Who hears that an entry is skipped: `onInvalidEvent`, or the console, by the type or for the
last time, or nobody. -/
inductive Notice where
  | handler
  | warning (key : List UInt16)
  | lastWarning
  | silent
  deriving DecidableEq

inductive FeedMark (Raw : Type) where
  | subscribed (audience : Audience) (listener : Nat)
  | unsubscribed (audience : Audience) (listener : Nat)
  | asked (cursor : String)
  | received (batch : FeedBatch Raw)
  | gapHandled (batch : FeedBatch Raw)
  | heard (topic : Topic Raw) (listener : Nat)
  | told (topic : Topic Raw)
  | yielded (batch : FeedBatch Raw) (i : Nat)
  | resumed (batch : FeedBatch Raw) (i : Nat)
  | skipped (batch : FeedBatch Raw) (i : Nat) (notice : Notice)
  | advanced (batch : FeedBatch Raw)
  deriving DecidableEq

/-- Where the generator stands. -/
inductive FeedPhase (Raw : Type) where
  | stopped
  | loop
  | sent (requestedCursor : String)
  | gapHandler (batch : FeedBatch Raw)
  /-- The listeners in `done` have returned. -/
  | telling (topic : Topic Raw) (done : List Nat)
  | entry (batch : FeedBatch Raw) (i : Nat)
  | invalidHandler (batch : FeedBatch Raw) (i : Nat)
  | yielded (batch : FeedBatch Raw) (i : Nat)

/-- What the world does next. A call of the client's that is under way `returns` or `throws`, and
the consumer asks for the next event (`returns`) or leaves the loop (`throws`). -/
inductive FeedInput (Raw : Type) where
  | start
  | turn (aborted : Bool)
  | answer (events : List Raw) (cursor : String) (dropped : Option Nat) (reset : Option Bool)
  /-- The request fails, or its answer is no batch. -/
  | fail
  | returns
  | throws
  | subscribe (audience : Audience) (listener : Nat)
  | unsubscribe (audience : Audience) (listener : Nat)

def maxWarnedUnknownTypes : Nat := 32

structure EventFeed (Raw : Type) where
  cursor : String
  listeners : Audience → List Nat
  warnedUnknownTypes : List (List UInt16)
  unknownTypeWarningsCapped : Bool
  phase : FeedPhase Raw
  batches : Nat
  history : List (FeedMark Raw)

namespace EventFeed

variable {Raw Event : Type} (opts : FeedOptions Raw Event)

/-- A transport that starts at `since`. -/
def start (since : String) : EventFeed Raw where
  cursor := since
  listeners _ := []
  warnedUnknownTypes := []
  unknownTypeWarningsCapped := false
  phase := .stopped
  batches := 0
  history := []

/-- On to a phase, with what is seen of it. -/
def goes (s : EventFeed Raw) (phase : FeedPhase Raw) (marks : List (FeedMark Raw)) :
    EventFeed Raw :=
  { s with phase := phase, history := s.history ++ marks }

/-- The listener that a loop over the set calls next: one not called since it was added. -/
def nextListener (s : EventFeed Raw) (audience : Audience) (done : List Nat) : Option Nat :=
  (s.listeners audience).find? fun listener => !done.contains listener

/-- `skipUnknownType` after its listeners, without a handler. -/
def warnUnknownType (s : EventFeed Raw) (batch : FeedBatch Raw) (i : Nat) (type : List UInt16) :
    EventFeed Raw :=
  let key := type.take 64
  let next (notice : Notice) := s.goes (.entry batch (i + 1)) [.skipped batch i notice]
  if s.warnedUnknownTypes.contains key then next .silent
  else if maxWarnedUnknownTypes ≤ s.warnedUnknownTypes.length then
    if s.unknownTypeWarningsCapped then next .silent
    else { next .lastWarning with unknownTypeWarningsCapped := true }
  else { next (.warning key) with warnedUnknownTypes := s.warnedUnknownTypes ++ [key] }

/-- The entry at `i`, or the end of the batch. -/
def readEntry (s : EventFeed Raw) (batch : FeedBatch Raw) (i : Nat) : EventFeed Raw :=
  match batch.events[i]? with
  | none => { s.goes .loop [.advanced batch] with cursor := batch.cursor }
  | some raw =>
    match opts.parseSolverEvent raw with
    | .event _ => s.goes (.yielded batch i) [.yielded batch i]
    | .unknownType type => s.goes (.telling (.unknown batch i type) []) []
    | .invalid =>
      if opts.onInvalidEvent then s.goes (.invalidHandler batch i) [] else s.goes .stopped []

/-- Every listener of a topic has returned. -/
def allTold (s : EventFeed Raw) : Topic Raw → EventFeed Raw
  | .gap batch => s.goes (.entry batch 0) [.told (.gap batch)]
  | .unknown batch i type =>
    let told := s.goes (.invalidHandler batch i) [.told (.unknown batch i type)]
    if opts.onInvalidEvent then told else told.warnUnknownType batch i type

/-- `FeedBatchSchema.parse` has returned: a gap is reported before the events. -/
def receive (s : EventFeed Raw) (batch : FeedBatch Raw) : EventFeed Raw :=
  let phase : FeedPhase Raw :=
    if batch.gap then
      if opts.onFeedGap then .gapHandler batch else .telling (.gap batch) []
    else .entry batch 0
  { s.goes phase [.received batch] with batches := s.batches + 1 }

/-- A listener of a loop under way is called again if it leaves the set and comes back. -/
def unsubscribePhase (audience : Audience) (listener : Nat) : FeedPhase Raw → FeedPhase Raw
  | .telling topic done =>
    if topic.audience = audience then .telling topic (done.filter (· ≠ listener))
    else .telling topic done
  | phase => phase

/-- One step; `none` where the input has no place in the phase. -/
def step (s : EventFeed Raw) (input : FeedInput Raw) : Option (EventFeed Raw) :=
  match input with
  | .subscribe audience listener =>
    if (s.listeners audience).contains listener then none
    else some
      { s with
        listeners := Function.update s.listeners audience (s.listeners audience ++ [listener])
        history := s.history ++ [.subscribed audience listener] }
  | .unsubscribe audience listener =>
    some
      { s with
        listeners :=
          Function.update s.listeners audience ((s.listeners audience).filter (· ≠ listener))
        phase := unsubscribePhase audience listener s.phase
        history := s.history ++ [.unsubscribed audience listener] }
  | .start =>
    match s.phase with
    | .stopped => some (s.goes .loop [])
    | _ => none
  | .turn aborted =>
    match s.phase with
    | .loop =>
      if aborted then some (s.goes .stopped [])
      else some (s.goes (.sent s.cursor) [.asked s.cursor])
    | .telling topic done =>
      match s.nextListener topic.audience done with
      | some _ => none
      | none => some (s.allTold opts topic)
    | .entry batch i => some (s.readEntry opts batch i)
    | _ => none
  | .answer events cursor dropped reset =>
    match s.phase with
    | .sent requestedCursor =>
      some (s.receive opts ⟨s.batches, requestedCursor, events, cursor, dropped, reset⟩)
    | _ => none
  | .fail =>
    match s.phase with
    | .sent _ => some (s.goes .stopped [])
    | _ => none
  | .returns =>
    match s.phase with
    | .gapHandler batch => some (s.goes (.telling (.gap batch) []) [.gapHandled batch])
    | .telling topic done =>
      (s.nextListener topic.audience done).map fun listener =>
        s.goes (.telling topic (done ++ [listener])) [.heard topic listener]
    | .invalidHandler batch i =>
      some (s.goes (.entry batch (i + 1)) [.skipped batch i .handler])
    | .yielded batch i => some (s.goes (.entry batch (i + 1)) [.resumed batch i])
    | _ => none
  | .throws =>
    match s.phase with
    | .gapHandler _ | .invalidHandler _ _ | .yielded _ _ => some (s.goes .stopped [])
    | .telling topic done =>
      (s.nextListener topic.audience done).map fun _ => s.goes .stopped []
    | _ => none

/-- Inputs one after another; one that has no place is passed over. -/
def runFrom (s : EventFeed Raw) (inputs : List (FeedInput Raw)) : EventFeed Raw :=
  inputs.foldl (fun s input => (s.step opts input).getD s) s

def run (since : String) (inputs : List (FeedInput Raw)) : EventFeed Raw :=
  (start since).runFrom opts inputs

end EventFeed

end XochiSdk.Solver.Feed
