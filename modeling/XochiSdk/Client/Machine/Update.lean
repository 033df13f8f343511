import XochiSdk.Client.Machine.Status

/-!
# `update`

`machine.ts`: the step for each message, the timers, and the reactive rules run after every
step until nothing changes.
-/

namespace XochiSdk.Client

open XochiSdk.Js XochiSdk.Shared XochiSdk.Signer XochiSdk.Library Emits

section

variable [Host]

/-! ## Timers -/

def tickExpiry (m : Model) (now : Int) : Machine Model :=
  match textOrNone (m.intent.quote.map (·.expiry)) with
  | none => pure m
  | some expiry =>
    match Host.dateParse expiry with
    | none => pure { m with quoteExpiresIn := some .unknown }
    | some t =>
      let remaining := max 0 ((t.ms - now) / 1000)
      let next := { m with quoteExpiresIn := some (.secs remaining) }
      if remaining = 0 then
        transition next .expired fun intent =>
          { intent with error := some (.text "Quote expired") }
      else pure next

/-- A quote asked for by the form: ignored past quoting, and without an amount. -/
def requestQuote (m : Model) (now : Int) : Machine Model :=
  if quoteBusyStates.contains m.intent.status then do
    report .debug "Ignoring quote request during" [.str m.intent.status.text]
    pure m
  else if m.amount ≠ "" then startQuote m now (quoteOpts m.amount)
  else pure m

def promptTimeout : ErrorReport where
  rejected := false
  value := some (.text "wallet_prompt_timeout")
  detail := "wallet_prompt_timeout"
  notAccepted := none

def onTimer (m : Model) (timer : TimerName) (now : Int) : Machine Model :=
  match timer with
  | .debounce => requestQuote m now
  | .refresh =>
    match m.refresh with
    | none => pure m
    | some plan =>
      let next := { m with refresh := none }
      if !shouldRefreshQuote next.intent.status next.hidden plan.hasAllocatedDeposit then pure next
      else
        startQuote next now
          { amount := plan.amount, silent := next.ctx.paused, forceRefresh := true,
            allocate := none }
  | .expiry => tickExpiry m now
  | .poll =>
    if awaitingResend m then resendBackstop m now
    else
      match m.poll with
      | some poll => if poll.stopped then pure m else pollTick m true
      | none => pure m
  | .signPrompt => signFlowFailed m promptTimeout
  | .execute => resendExecute m now

/-! ## The step -/

/-- "May have moved" holds until Reset, and "not sent yet" until the Worker ends the intent. -/
def survivesClearedAmount (intent : IntentState) : Bool :=
  (intent.status == .failed && intent.mayHaveMoved) || intent.notSent

def allocationRefused (m : Model) : Bool :=
  m.amount == "" || isChainId m.ctx.fromChainId || !textSet m.ctx.wallet.address ||
    !allocatableStates.contains m.intent.status

def onContextChanged (m : Model) (ctx : Context) : Machine Model :=
  let next := { m with ctx := ctx }
  if m.flights.isEmpty || tradeKey next.ctx == tradeKey m.ctx then pure next
  else do
    if m.intent.status == .quoting && m.amount != "" then
      setTimer .debounce quoteDebounceMs false
    supersedeFlights next

def onQuoteRequested (m : Model) (amount : String) : Machine Model := do
  clearTimer .debounce
  clearTimer .refresh
  let kept ← if amount = m.amount then pure m else supersedeFlights m
  let next := { kept with allocationKey := none, amount := amount, refresh := none }
  if amount = "" ∨ amount = "0" then
    if survivesClearedAmount m.intent then pure next
    else abandonSign { next with intent := initialIntentState }
  else do
    setTimer .debounce quoteDebounceMs false
    pure next

def onAllocateRequested (m : Model) (key ref : String) (now : Int) : Machine Model :=
  if allocationRefused m then do
    emit (.emit (.allocation ref false))
    pure m
  else
    let key := m.allocationKey.getD key
    startQuote { m with allocationKey := some key } now
      { amount := m.amount, silent := false, forceRefresh := true, allocate := some ⟨key, ref⟩ }

def onCancelSign (m : Model) : Machine Model :=
  if m.intent.status ≠ .signing ∨ m.sign.isNone then pure m
  else do
    let abandoned ← abandonSign m
    transition abandoned .quoted fun intent =>
      { intent with error := some (.text "Signature cancelled") }

def onReset (m : Model) : Machine Model := do
  clearTimer .debounce
  clearTimer .refresh
  clearTimer .signPrompt
  if awaitingResend m then clearTimer .execute
  emit (.wallet .resetApproval)
  let kept ← supersedeFlights m
  pure { kept with
    intent := initialIntentState
    amount := ""
    submittedAt := none
    clientFillMs := none
    awaitingPull := false
    isSigningPull := false
    pendingIntentSig := none
    allocationKey := none
    refresh := none
    quotedTrade := none
    sign := none }

def onResume (m : Model) (intentId : String) (status : IntentStatus) (owner : String)
    (depositDeadline : Option Int) (substatus : Option String) : Machine Model :=
  match buildResumedState m.intent intentId status owner depositDeadline with
  | none => pure m
  | some resumed => do
    let intent :=
      if resumed.status = .failed then
        { resumed with mayHaveMoved := failureMayHaveMoved substatus }
      else resumed
    clearTimer .debounce
    let kept ← supersedeFlights m
    pure { kept with intent := intent }

/-- The rest of `onVisible` for a model that waits for no resend: its poll goes on, or is armed
anew. -/
def wakePoll (next : Model) : Machine Model :=
  match next.poll with
  | none => pure next
  | some poll =>
    if poll.stopped then
      pure { patch next (fun intent => { intent with pollExhausted := false }) with poll := none }
    else pollTick next false

def onVisible (m : Model) (now : Int) : Machine Model := do
  let hasAllocatedDeposit := (m.intent.quote.map (·.hasDeposit)).getD false
  let next ←
    if m.amount ≠ "" ∧
        shouldRefreshOnReturn m.intent.status m.ctx.paused hasAllocatedDeposit = true then
      startQuote m now { quoteOpts m.amount with forceRefresh := true }
    else pure m
  if awaitingResend next then resendBackstop next now else wakePoll next

def onStream (m : Model) (message : StatusMessage) : Machine Model :=
  if m.intent.intentId ≠ some message.intentId then do
    report .warn "Ignoring a status frame for another intent:"
      [.obj [("frame", .str message.intentId),
        ("current", (m.intent.intentId.map Value.str).getD .null)]]
    pure m
  else applyStatusUpdate m message false

/-- The step for one message; the error is a throw. -/
def step (wall : WallClock) (m : Model) (msg : Msg) : Except SignerError (Machine Model) :=
  match msg.body with
  | .contextChanged ctx => .ok (onContextChanged m ctx)
  | .quoteRequested amount => .ok (onQuoteRequested m amount)
  | .allocateRequested key ref => .ok (onAllocateRequested m key ref msg.now)
  | .refreshRequested => .ok (requestQuote m msg.now)
  | .signRequested => .ok (beginSign m msg.now)
  | .cancelSignRequested => .ok (onCancelSign m)
  | .pullSignRequested => beginPullSign m msg.now
  | .resetRequested => .ok (onReset m)
  | .resumeRequested intentId status owner depositDeadline substatus =>
    .ok (onResume m intentId status owner depositDeadline substatus)
  | .visibilityChanged => .ok (if msg.hidden then pure m else onVisible m msg.now)
  | .streamStatus message => .ok (onStream m message)
  | .timerFired timer => .ok (onTimer m timer msg.now)
  | .sessionReplied flight result => .ok (onSession m flight result msg.now)
  | .quoteReplied flight result => .ok (onQuote wall m flight result msg.now)
  | .signReplied flow purpose result => onSigned m flow purpose result msg.now
  | .approvalReplied flow result => .ok (onApproval m flow result)
  | .executeReplied flow result => .ok (onExecuted m flow result msg.now)
  | .statusReplied gen attempt result => .ok (onStatus m gen attempt result msg.now)

/-! ## Reactive rules -/

/-- What a rule did: nothing, or a new model. The rules run until none does anything. -/
abbrev Rule := Model → Machine (Option Model)

/-- A held pre-execution quote is reset when its account or chain changes. -/
def watchWallet : Rule := fun m =>
  let wallet := m.ctx.wallet
  let key := jsonArray [jsonTextOrNull wallet.address,
    jsonNumberOrNull wallet.chainId,
    jsonTextOrNull m.intent.quotedAddress,
    jsonNumberOrNull m.intent.quotedChainId]
  if key = m.watched.wallet then pure none
  else
    let next := { m with watched := { m.watched with wallet := key } }
    let quotedAddress := m.intent.quotedAddress.getD ""
    let address := wallet.address.getD ""
    let accountChanged := address == "" ||
      Host.toLowerCase address != Host.toLowerCase quotedAddress
    let chainChanged := m.intent.quotedChainId.isSome && wallet.chainId != m.intent.quotedChainId
    if quotedAddress == "" || !(accountChanged || chainChanged)
        || !walletInterruptibleStates.contains next.intent.status || next.intent.mayHaveMoved then
      pure (some next)
    else do
      clearTimer .debounce
      clearTimer .refresh
      clearTimer .signPrompt
      pure (some { next with
        intent := initialIntentState
        refresh := none
        awaitingPull := false
        isSigningPull := false
        pendingIntentSig := none
        sign := none })

def jsonBool (b : Bool) : String := if b then "true" else "false"

/-- Replace a held preview with a wallet-bound executable quote once a wallet is present. -/
def upgradePreview (now : Int) : Rule := fun m =>
  let isPreview := (m.intent.quote.map (·.preview)).getD false
  let key := jsonArray [jsonString (tradeKey m.ctx), jsonString m.amount, jsonBool isPreview,
    jsonString m.intent.status.text]
  if key = m.watched.upgrade then pure none
  else
    let next := { m with watched := { m.watched with upgrade := key } }
    if !shouldUpgradePreviewQuote (textSet next.ctx.wallet.address) (next.amount != "")
        next.intent.status isPreview (!isChainId next.ctx.fromChainId) then
      pure (some next)
    else do
      let started ← startQuote next now
        { amount := next.amount, silent := true, forceRefresh := true, allocate := none }
      pure (some started)

/-- The expiry to count down to, while a quote without a deposit address is on screen. -/
def expiryKey (m : Model) : Option String :=
  match m.intent.quote with
  | some quote =>
    if m.intent.status = .quoted ∧ quote.expiry ≠ "" ∧ quote.hasDeposit = false then
      some quote.expiry
    else none
  | none => none

/-- The rest of `armExpiry`, with the old countdown cleared and the key noted in `next`. -/
def startExpiry (m next : Model) (now : Int) : Machine (Option Model) :=
  match expiryKey m with
  | none => pure (some { next with quoteExpiresIn := none })
  | some _ => do
    setTimer .expiry 1000 true
    let ticked ← tickExpiry next now
    pure (some ticked)

/-- The quote countdown, armed for the expiry on screen. -/
def armExpiry (now : Int) : Rule := fun m =>
  let key := expiryKey m
  if key = m.watched.expiry then pure none
  else do
    let next := { m with watched := { m.watched with expiry := key } }
    if m.watched.expiry.isSome then clearTimer .expiry
    startExpiry m next now

/-- The key of the poll this model runs: none outside the in-flight states, and none while an
execute is outstanding. -/
def pollKey (m : Model) : Option String :=
  let waiting := awaitingResend m
  let executePending := (match m.sign with
    | some flow => flow.stage == .execute
    | none => false) && !waiting
  if !executePending && pollInflightStates.contains m.intent.status && textSet m.intent.intentId then
    some (m.intent.intentId.getD "" ++ ":" ++ m.intent.status.text ++
      (if waiting then ":resend" else ""))
  else none

/-- The poll as it is armed under a key. -/
def armedPoll (m : Model) (key : String) (now : Int) : PollState where
  key := key
  intentId := m.intent.intentId.getD ""
  gen := m.seq + 1
  polls := 0
  answered := 0
  spent := 0
  max := pollCeilingAttempts m.intent.status m.intent.depositDeadline now statusPollMs
    statusPollFlatCeilingMs (unexecutedFinishAt m.intent.quote)
  stopped := false

/-- The rest of `armPoll`, with the old poll's timer cleared. -/
def startPoll (m : Model) (now : Int) : Machine (Option Model) :=
  match pollKey m with
  | none => pure (some { m with poll := none })
  | some key => do
    setTimer .poll statusPollMs true
    let next : Model := { m with seq := m.seq + 1, poll := some (armedPoll m key now) }
    if awaitingResend m then pure (some next)
    else do
      let ticked ← pollTick next false
      pure (some ticked)

/-- The status poll, armed per intent and phase while in flight. -/
def armPoll (now : Int) : Rule := fun m =>
  let key := pollKey m
  if key = m.poll.map (·.key) then pure none
  else do
    match m.poll with
    | some poll => if !poll.stopped then clearTimer .poll
    | none => pure ()
    startPoll m now

/-- The rules in order, each from the model the one before left; whether any did anything. -/
def runRules : List Rule → Model → Machine (Model × Bool)
  | [], m => pure (m, false)
  | rule :: rest, m => do
    match ← rule m with
    | none => runRules rest m
    | some next => do
      let (last, _) ← runRules rest next
      pure (last, true)

def settleRules (now : Int) : List Rule :=
  [watchWallet, upgradePreview now, armExpiry now, armPoll now]

/-- At most `passes` passes of the rules, stopping after one that did nothing. -/
def settlePasses (now : Int) : Nat → Model → Machine Model
  | 0, m => pure m
  | passes + 1, m => do
    let (next, changed) ← runRules (settleRules now) m
    if changed then settlePasses now passes next else pure next

def settle (m : Model) (now : Int) : Machine Model := settlePasses now 4 m

/-- One message: the step, then the reactive rules. The error is a throw, after which the host
still holds the model it had. -/
def update (wall : WallClock) (m : Model) (msg : Msg) : Except SignerError (Machine Model) :=
  (step wall { m with hidden := msg.hidden } msg).map fun stepped => do
    let next ← stepped
    settle next msg.now

end

end XochiSdk.Client
