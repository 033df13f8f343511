import XochiSdk.Client.Machine.Sign

/-!
# Status updates and the poll

`machine.ts`, the Status section: one status update applied, from the poll or the stream, and
the poll's own replies.
-/

namespace XochiSdk.Client

open XochiSdk.Js XochiSdk.Shared XochiSdk.Signer XochiSdk.Library Emits

def optionalValue (s : Option String) : Value := (s.map Value.str).getD .undefined

/-- A status message as the log prints it. -/
def statusMessageValue (msg : StatusMessage) : Value :=
  .obj [("type", .str "intent_status"), ("intentId", .str msg.intentId),
    ("status", .str msg.status.text), ("txHash", optionalValue msg.txHash),
    ("receivingTxHash", optionalValue msg.receivingTxHash),
    ("settlementTxHash", optionalValue msg.settlementTxHash),
    ("settlementChainId", (msg.settlementChainId.map Value.num).getD .undefined),
    ("reconciling", (msg.reconciling.map Value.bool).getD .undefined),
    ("substatus", optionalValue msg.substatus), ("error", optionalValue msg.error),
    ("refundReason", optionalValue msg.refundReason)]

/-- The updates of a message that asks for a move: a `failed` after an execute or a revealed
address is marked by the Worker's own substatus. -/
def statusUpdates (m : Model) (msg : StatusMessage) (intent : IntentState) : IntentState :=
  let plan := mapStatusUpdate msg
  if plan.1 = .failed ∧ pollInflightStates.contains m.intent.status = true then
    { plan.2 intent with mayHaveMoved := failureMayHaveMoved msg.substatus }
  else plan.2 intent

/-- An unmapped status never reads as progress. -/
def markUnmapped (m : Model) (unmapped : Bool) : Model :=
  if unmapped && pollInflightStates.contains m.intent.status && !m.intent.reconciling then
    patch m fun intent => { intent with reconciling := true }
  else m

/-- "Not sent yet" holds only while the intent reads `quoted`. -/
def endNotSent (m : Model) (status : IntentStatus) : Model :=
  if m.intent.notSent && status != .quoted then
    patch m fun intent => { intent with notSent := false, reconciling := true }
  else m

/-- Apply one status update: a same-status one merges its receipt, any other is a move. -/
def applyStatusUpdate (m : Model) (msg : StatusMessage) (unmapped : Bool) : Machine Model := do
  report .debug "Status update:" [statusMessageValue msg]
  let status := (mapStatusUpdate msg).1
  let next ←
    if status = m.intent.status then
      match mergeSameStatusReceipt m.intent msg with
      | some updates => pure (patch m updates)
      | none => pure m
    else transition m status (statusUpdates m msg)
  pure (endNotSent (markUnmapped next unmapped) status)

def pollTick (m : Model) (elapsedInterval : Bool) : Machine Model :=
  match m.poll with
  | none => pure m
  | some poll => do
    let polls := poll.polls + 1
    emit (.api (.status poll.intentId poll.gen polls))
    pure { m with poll := some { poll with
      polls := polls
      spent := if elapsedInterval then poll.spent + 1 else poll.spent } }

/-- The status reply when it names any intent but the polled one. -/
def foreignStatus (result : Outcome IntentStatusResult) (id : String) :
    Option IntentStatusData :=
  match result with
  | .ok (.data row) => if row.intentId = some id then none else some row
  | _ => none

/-- An `executing` intent that reads `quoted` after `/execute` has answered. -/
def readsNotSent (m : Model) (poll : PollState) (id : String) (attempt : Nat)
    (result : Outcome IntentStatusResult) : Bool :=
  match result with
  | .ok (.data row) =>
    decide (attempt ≥ poll.answered) && row.status == .quoted && !row.unmapped &&
      m.intent.intentId == some id && m.intent.status == .executing && m.sign.isNone &&
      !m.intent.reconciling
  | _ => false

/-- A slow execute escalates to "Still confirming". -/
def escalatesToReconcile (intent : IntentState) (id : String) (attempt : Nat) : Bool :=
  decide (attempt ≥ reconcileAfterAttempts) && intent.intentId == some id &&
    !intent.reconciling && !intent.notSent

section

variable [Host]

/-- A not-sent intent read as gone past the Worker's finish of an unexecuted one. -/
def sweptPastFinish (intent : IntentState) (id : String) (now : Int) : Bool :=
  match unexecutedFinishAt intent.quote with
  | none => false
  | some finish => intent.notSent && intent.intentId == some id && decide ((now : ℚ) > finish * 1000)

inductive PollVerdict where
  | stop
  | progress
  deriving DecidableEq

/-- The message a status row is applied as. -/
def rowMessage (id : String) (row : IntentStatusData) : StatusMessage where
  intentId := id
  status := row.status
  txHash := row.txHash
  receivingTxHash := row.receivingTxHash
  settlementTxHash := row.settlementTxHash
  settlementChainId := row.settlementChainId
  reconciling := none
  substatus :=
    if withheldSettlementConfirmed (if row.unmapped then .undefined else .str row.status.text)
        row.legsWithheld row.settlementConfirmed then some "filled"
    else row.substatus
  error := row.error
  refundReason := row.refundReason

/-- A definitive 404: Retry only for a not-sent intent past its finish, else held and
reported once. -/
def onNotFound (next : Model) (id : String) (now : Int) : Machine (Model × Option PollVerdict) :=
  if sweptPastFinish next.intent id now then do
    report .warn "A not-sent intent is gone (swept unexecuted); offering Retry" []
    let next ← transition next .failed fun intent =>
      { intent with
        error := some (.text notSentSweptError)
        reconciling := false
        mayHaveMoved := false }
    pure (next, if next.intent.status = .failed then some .stop else none)
  else
    match notFoundDriftWarning id next.notFoundReported with
    | none => pure (next, none)
    | some warning => do
      emit (.emit (.log .warn warning []))
      pure ({ next with notFoundReported := some id }, none)

/-- A served row: applied, then judged as progress or the end of the poll. -/
def onStatusRow (next : Model) (id : String) (row : IntentStatusData) (unsentRead : Bool) :
    Machine (Model × Option PollVerdict) := do
  let previous := next.intent.status
  let next ← applyStatusUpdate next (rowMessage id row) row.unmapped
  let next :=
    if next.intent.intentId = some id ∧ next.intent.legsWithheld ≠ some row.legsWithheld then
      patch next fun intent => { intent with legsWithheld := some row.legsWithheld }
    else next
  let resumedNotSent := unsentRead && next.intent.notSent && next.intent.quote.isNone
  let verdict :=
    if row.terminal then some PollVerdict.stop
    else if next.intent.status ≠ previous ∨ resumedNotSent = true then some .progress
    else none
  pure (next, verdict)

/-- The poll past its ceiling: never a silent stop. -/
def exhaustPoll (next : Model) (poll answered : PollState) (id : String) : Machine Model := do
  clearTimer .poll
  let waited : Nat := poll.spent * statusPollMs.toNat / 1000
  report .warn (s!"status poll stopped after ~{waited}s " ++
    s!"with no observable change ({poll.spent} intervals, {poll.polls} polls); " ++
    "leaving resolution to reconciliation/webhooks") []
  let next := { next with poll := some { answered with stopped := true } }
  pure (if next.intent.intentId = some id ∧ next.intent.pollExhausted = false then
    patch next fun intent => { intent with pollExhausted := true } else next)

/-- The reply's own marks, before it is read: a not-sent read, and the escalation. -/
def markRead (m : Model) (id : String) (attempt : Nat) (unsentRead : Bool) : Machine Model := do
  let next ←
    if unsentRead && !m.intent.notSent then do
      report .warn s!"Intent {id} reads quoted after execute: not sent yet" []
      pure (patch m fun intent => { intent with notSent := true })
    else pure m
  pure (if escalatesToReconcile next.intent id attempt then
    patch next fun intent => { intent with reconciling := true } else next)

/-- What a status reply says, and its verdict on the poll. -/
def readStatus (next : Model) (id : String) (result : Outcome IntentStatusResult)
    (unsentRead : Bool) (now : Int) : Machine (Model × Option PollVerdict) :=
  match result with
  | .error failure => do
    report .error "status poll threw; counting the attempt" [.str failure.detail]
    pure (next, none)
  | .ok .transient => pure (next, none)
  | .ok .notFound => onNotFound next id now
  | .ok (.data row) => onStatusRow next id row unsentRead

/-- The poll after an answer: stopped, refilled, counted, or past its ceiling. -/
def settlePoll (next : Model) (poll answered : PollState) (id : String)
    (verdict : Option PollVerdict) : Machine Model :=
  match verdict with
  | some .stop => do
    clearTimer .poll
    pure { next with poll := some { answered with stopped := true } }
  | some .progress => pure { next with poll := some { answered with spent := 0 } }
  | none =>
    if (poll.spent : Int) < poll.max then pure { next with poll := some answered }
    else exhaustPoll next poll answered id

def onStatus (m : Model) (gen attempt : Nat) (result : Outcome IntentStatusResult) (now : Int) :
    Machine Model :=
  match m.poll with
  | none => pure m
  | some poll =>
    let answers := match result with
      | .ok _ => true
      | .error _ => false
    if poll.gen ≠ gen ∨ poll.stopped = true then pure m
    else if answers && decide (attempt < poll.answered) then pure m
    else
      let id := poll.intentId
      match foreignStatus result id with
      | some foreign => do
        report .warn "Ignoring a status response for another intent; keeping the poll active"
          [.obj [("response", (foreign.intentId.map Value.str).getD .null), ("current", .str id)]]
        pure m
      | none => do
        let unsentRead := readsNotSent m poll id attempt result
        let answered :=
          if answers then { poll with answered := max poll.answered attempt } else poll
        let next ← markRead m id attempt unsentRead
        let (next, verdict) ← readStatus next id result unsentRead now
        settlePoll next poll answered id verdict

end

end XochiSdk.Client
