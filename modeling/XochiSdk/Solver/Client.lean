import XochiSdk.Js.Value
import XochiSdk.Library.Async
import Mathlib.Algebra.Order.Ring.Int

/-!
# The solver client

`packages/solver-sdk/src/client.ts`: `SolverClient.run`, over a transport, a solver and a wallet
that answer what they like. One run, whose transport may report a feed gap or an unknown event
type whenever the run waits.
-/

namespace XochiSdk.Solver.Feed

open XochiSdk.Js XochiSdk.Library

/-- `SOLVER_RFC_VERSION`. -/
def solverRfcVersion : String := "0.6.0-draft"

structure IntentAnnouncement where
  auctionId : String
  closesAt : Int
  deriving DecidableEq

structure Award where
  auctionId : String
  solverId : String
  deriving DecidableEq

/-- `SolverEvent`. -/
inductive SolverEvent where
  | announcement (announcement : IntentAnnouncement)
  | award (award : Award)
  deriving DecidableEq

structure BidDraft where
  output : String

structure Bid where
  auctionId : String
  signature : String
  deriving DecidableEq

structure FillReceipt where
  intentId : String

/-- What an awaited call threw: its message, and whether it is a `ZodError`. -/
structure Failure where
  message : String
  validation : Bool

/-- What a run throws. -/
inductive Thrown where
  | error (message : String)
  /-- `VenueVersionSkewError`. -/
  | skew (advertised : String)
  | failed (failure : Failure)

/-- What a transport reports beside its events: a gap of the feed, or an entry of an unknown
type. -/
inductive Report where
  | feedGap (reset : Bool)
  | unknownEvent
  deriving DecidableEq

/-- What the run awaits of its transport, solver and wallet. -/
inductive Ask where
  | capabilities
  /-- An awaited call of the client's own is resumed one turn after it settles. -/
  | resumed
  | nextEvent
  | quote (announcement : IntentAnnouncement)
  | signBid (announcement : IntentAnnouncement) (draft : BidDraft)
  | submitBid (bid : Bid)
  | fill (award : Award)
  | submitFill (receipt : FillReceipt)
  | onError (event : SolverEvent)

/-- What each is answered with: of the capabilities, `capabilities?.rfcVersion`. -/
@[reducible] def Ask.Answer : Ask → Type
  | .capabilities => Value
  | .nextEvent => Option SolverEvent
  | .quote _ => Option BidDraft
  | .signBid .. => Bid
  | .fill _ => FillReceipt
  | .resumed | .submitBid _ | .submitFill _ | .onError _ => Unit

/-- What is seen of a run: its capabilities reads, the bids it signs, its calls of the solver's
`fill`, and what its transport reported to it. -/
inductive Deed where
  | readStarted
  | cleared
  | bidSigned (bid : Bid)
  | fillCalled (award : Award)
  | reported (report : Report)
  deriving DecidableEq

/-- A run's flag, whether its listeners are subscribed, and the clock. -/
structure Listening where
  subscribed : Bool
  versionRecheckPending : Bool
  now : Int

structure Options where
  solverId : String
  /-- The transport implements `getCapabilities`. -/
  hasCapabilities : Bool
  /-- `onError` is given. -/
  hasOnError : Bool

abbrev Code (α : Type) : Type := Async Listening Deed Ask Ask.Answer Thrown α

def ask (q : Ask) : Code q.Answer := Async.await q

/-- The two listeners of a run. -/
def Report.heard (report : Report) (s : Listening) : Listening :=
  match report with
  | .feedGap reset => if reset then { s with versionRecheckPending := true } else s
  | .unknownEvent => { s with versionRecheckPending := true }

/-- The report re-arms the version gate. -/
def Report.rearms : Report → Bool
  | .feedGap reset => reset
  | .unknownEvent => true

/-- `silent`. -/
def silent (why : String) : Thrown :=
  .error ("SolverClient: refusing to run -- the venue did not tell me its RFC version: " ++ why)

/-- `Error.message`. -/
def Thrown.message : Thrown → String
  | .error message => message
  | .skew advertised => "SolverClient: refusing to run -- version skew: the venue serves RFC " ++
      advertised ++ s!", this SDK implements {solverRfcVersion} (exact match required; RFC §12)"
  | .failed failure => failure.message

/-- `isValidationFailure`. -/
def Thrown.isValidationFailure : Thrown → Bool
  | .failed failure => failure.validation
  | _ => false

/-- Why a capabilities read that threw told nothing. -/
def unread (err : Thrown) : String :=
  if err.isValidationFailure then
    s!"GET /solver/capabilities answered a body this SDK cannot read ({err.message}). " ++
      "The venue DID answer, so this is not a reachability problem -- the body does not " ++
      "satisfy the RFC §12 capability shape, and the venue has to correct it"
  else
    s!"GET /solver/capabilities failed ({err.message}). " ++
      "The venue never answered, so this is not a disagreement about the version -- " ++
      "check reachability, routing and the base URL"

/-- What the advertised version refuses. -/
def checkAdvertised : Value → Except Thrown Unit
  | .str advertised =>
    if advertised = "" then
      .error (silent s!"it advertised no usable rfcVersion (got {jsonShown (.str advertised)})")
    else if advertised ≠ solverRfcVersion then .error (.skew advertised)
    else .ok ()
  | other => .error (silent s!"it advertised no usable rfcVersion (got {jsonShown other})")

section

variable (opts : Options)

/-- `assertVenueRfcVersion`. -/
def assertVenueRfcVersion : Code Unit :=
  if !opts.hasCapabilities then
    .throw (silent ("this transport does not implement getCapabilities(), so nothing can show it " ++
      s!"speaks {solverRfcVersion} (RFC §12)"))
  else do
    Async.doing id [.readStarted]
    let capabilities ← (ask .capabilities).attempt
    match capabilities with
    | .error err => .throw (silent (unread err))
    | .ok advertised => .ofExcept (checkAdvertised advertised)

/-- The gate: the flag is cleared once the awaited check is resumed. -/
def gate : Code Unit := do
  assertVenueRfcVersion opts
  ask .resumed
  Async.doing (fun s => { s with versionRecheckPending := false }) [.cleared]

/-- `handleAnnouncement`. -/
def handleAnnouncement (announcement : IntentAnnouncement) : Code Unit := do
  let s ← Async.get
  if s.now ≥ announcement.closesAt then pure ()
  else do
    let draft ← ask (.quote announcement)
    match draft with
    | none => pure ()
    | some draft => do
      let bid ← ask (.signBid announcement draft)
      Async.doing id [.bidSigned bid]
      ask (.submitBid bid)

/-- `solver.fill`, and its receipt's POST. -/
def handleAward (award : Award) : Code Unit := do
  Async.doing id [.fillCalled award]
  let receipt ← ask (.fill award)
  ask (.submitFill receipt)

/-- `isForThisSolver`. -/
def isForThisSolver (solverId : String) : Bool :=
  asciiLower solverId == asciiLower opts.solverId

/-- `ownAward`. -/
def ownAward : SolverEvent → Bool
  | .announcement _ => false
  | .award award => isForThisSolver opts award.solverId

/-- What an event is acted on by. -/
def act : SolverEvent → Code Unit
  | .announcement announcement => handleAnnouncement announcement
  | .award award => if isForThisSolver opts award.solverId then handleAward award else pure ()

/-- One event: gated where the flag is set or the award is this solver's own. -/
def handleEvent (event : SolverEvent) : Code Unit := do
  let s ← Async.get
  if s.versionRecheckPending || ownAward opts event then gate opts
  (act opts event).orElse fun err =>
    if opts.hasOnError then ask (.onError event) else .throw err

/-- The loop over `transport.events`. -/
def events : Nat → Code Unit
  | 0 => .stuck
  | fuel + 1 => do
    let event ← ask .nextEvent
    match event with
    | none => pure ()
    | some event => do
      handleEvent opts event
      events fuel

/-- `run`. -/
def run (fuel : Nat) : Code Unit := do
  Async.modify fun s => { s with subscribed := true }
  Async.always (do
      gate opts
      events opts fuel)
    (Async.modify fun s => { s with subscribed := false })

end

/-! ## Runs -/

abbrev Trace : Type := List (Entry Deed Ask Ask.Answer Thrown)

abbrev FeedScene : Type := Scene Unit Listening Deed Ask Ask.Answer Thrown

/-- What happens while a run waits: its transport reports, and time passes. The run's own
entries are of call 0, its transport's of call 1. -/
inductive Outside : FeedScene → FeedScene → Prop where
  | none (sc : FeedScene) : Outside sc sc
  | report {sc sc' : FeedScene} (before : Outside sc sc') (report : Report)
      (subscribed : sc'.shared.subscribed = true) :
      Outside sc (sc'.did 1 (report.heard sc'.shared, [.reported report]))
  | time {sc sc' : FeedScene} (before : Outside sc sc') (now : Int) :
      Outside sc { sc' with shared := { sc'.shared with now := now } }

end XochiSdk.Solver.Feed
