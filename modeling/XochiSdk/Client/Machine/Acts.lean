import XochiSdk.Client.Machine.Moves

/-!
# The acts of a step

Every step and every reactive rule of the machine is a chain of the acts below, or one of the
signing outcomes of `Ceremony`. An act carries the guard its branch of the source checks;
everything later is proved of acts, and the handlers are not unfolded again.
-/

namespace XochiSdk.Client

open XochiSdk.Js XochiSdk.Shared XochiSdk.Signer XochiSdk.Library Emits

/-- The trade is before execution, and no failure that may have moved funds, unless a quote
was in the air already. -/
def Quotable (m : Model) : Prop :=
  busy m = false ∧
    (m.intent.status = .failed → m.intent.mayHaveMoved = true → m.flights ≠ [])

theorem quotable_quoting {m : Model} {intent : IntentState} (h : intent.status = .quoting) :
    Quotable { m with intent := intent } := by
  refine ⟨by simp only [busy, h]; rfl, fun failed => ?_⟩
  exact absurd (h.symm.trans failed) (by decide)

/-! ## Effects that matter -/

/-- A prompt: a signature, or the approval before one. -/
def Effect.prompts : Effect → Bool
  | .wallet (.signTypedData ..) | .wallet (.ensureApproval ..) => true
  | _ => false

def Effect.executes : Effect → Bool
  | .api (.execute ..) => true
  | _ => false

def Effect.asksQuote : Effect → Bool
  | .api (.quote ..) => true
  | _ => false

/-! ## Causes -/

/-- What sets an act off: a message, or the reactive rules after one. -/
structure Cause where
  body : Option MsgBody
  now : Int

def Msg.cause (msg : Msg) : Cause := ⟨some msg.body, msg.now⟩

def rulesCause (now : Int) : Cause := ⟨none, now⟩

/-- The messages that may ask for a quote or answer one. -/
def MsgBody.asksQuote : MsgBody → Bool
  | .allocateRequested .. | .refreshRequested | .visibilityChanged | .sessionReplied ..
  | .quoteReplied .. | .timerFired .debounce | .timerFired .refresh => true
  | _ => false

/-- The messages that may end a ceremony short of its execute. -/
def MsgBody.endsCeremony : MsgBody → Bool
  | .signReplied .. | .approvalReplied .. | .cancelSignRequested | .pullSignRequested
  | .timerFired .signPrompt => true
  | _ => false

/-- The messages after which an execute may turn out not to have been sent. -/
def MsgBody.readsUnsent : MsgBody → Bool
  | .executeReplied .. | .statusReplied _ _ (.ok (.data _)) | .visibilityChanged
  | .timerFired .execute | .timerFired .poll => true
  | _ => false

/-- The messages that carry a status row or frame. -/
def MsgBody.reports : MsgBody → Bool
  | .streamStatus .. | .statusReplied _ _ (.ok (.data _)) => true
  | _ => false

/-- A message asks for a quote the screen is to show. The rules ask silently. -/
def Asks (cause : Cause) : Prop := ∃ body, cause.body = some body ∧ body.asksQuote = true

def EndsCeremony (cause : Cause) : Prop :=
  ∃ body, cause.body = some body ∧ body.endsCeremony = true

def ReadsUnsent (cause : Cause) : Prop := ∃ body, cause.body = some body ∧ body.readsUnsent = true

def Reports (cause : Cause) : Prop := ∃ body, cause.body = some body ∧ body.reports = true

@[simp] theorem Msg.cause_now (msg : Msg) : msg.cause.now = msg.now := rfl

theorem Msg.cause_body {msg : Msg} {body : MsgBody} (h : msg.body = body) :
    msg.cause.body = some body :=
  congrArg some h

theorem EndsCeremony.of_body {msg : Msg} {body : MsgBody} (h : msg.body = body)
    (ends : body.endsCeremony = true) : EndsCeremony msg.cause :=
  ⟨body, Msg.cause_body h, ends⟩

theorem ReadsUnsent.of_body {msg : Msg} {body : MsgBody} (h : msg.body = body)
    (reads : body.readsUnsent = true) : ReadsUnsent msg.cause :=
  ⟨body, Msg.cause_body h, reads⟩

theorem Asks.of_body {msg : Msg} {body : MsgBody} (h : msg.body = body)
    (asks : body.asksQuote = true) : Asks msg.cause :=
  ⟨body, Msg.cause_body h, asks⟩

/-- A price the rules count down: an allocated deposit has none. -/
def Counted (m : Model) : Prop :=
  m.intent.status = .quoted ∧ ∀ quote, m.intent.quote = some quote → quote.hasDeposit = false

/-- The countdown may end the quote: at Confirm, on its own timer, or as it is armed. -/
def Expires (cause : Cause) (m : Model) : Prop :=
  cause.body = some .signRequested ∨ (m.intent.quote.isSome = true ∧
    (cause.body = some (.timerFired .expiry) ∨ (cause.body = none ∧ Counted m)))

/-- An execute's flow ends by its reply, with its resends, or by a prompt timer that fires
late. -/
def Stops (cause : Cause) (m : Model) : Prop :=
  ∀ flow, m.sign = some flow → flow.stage = .execute → awaitingResend m = true ∨
    cause.body = some (.timerFired .signPrompt) ∨
    ∃ result, cause.body = some (.executeReplied flow.id result)

theorem Stops.of_stage {cause : Cause} {m : Model}
    (h : ∀ flow, m.sign = some flow → flow.stage ≠ .execute) : Stops cause m :=
  fun flow live stage => absurd stage (h flow live)

theorem Stops.of_none {cause : Cause} {m : Model} (h : m.sign = none) : Stops cause m :=
  .of_stage fun _ live => by rw [h] at live; cases live

/-- One poll, read on: it answers for the same intent, and never comes back to life. -/
structure PollState.ContinuesFrom (poll old : PollState) : Prop where
  key : poll.key = old.key
  intentId : poll.intentId = old.intentId
  gen : poll.gen = old.gen
  answered : old.answered ≤ poll.answered
  stopped : old.stopped = true → poll.stopped = true

theorem PollState.ContinuesFrom.refl (poll : PollState) : poll.ContinuesFrom poll :=
  ⟨rfl, rfl, rfl, Nat.le_refl _, id⟩

theorem PollState.ContinuesFrom.trans {a b c : PollState} (first : a.ContinuesFrom b)
    (second : b.ContinuesFrom c) : a.ContinuesFrom c where
  key := first.key.trans second.key
  intentId := first.intentId.trans second.intentId
  gen := first.gen.trans second.gen
  answered := second.answered.trans first.answered
  stopped := first.stopped ∘ second.stopped

/-- Where a status message comes from: the stream, or the row of the live poll. -/
inductive Delivered (cause : Cause) (m : Model) (message : StatusMessage) : Prop where
  | stream (body : cause.body = some (.streamStatus message))
      (own : m.intent.intentId = some message.intentId)
  | row {gen attempt : Nat} {row : IntentStatusData} {poll : PollState}
      (body : cause.body = some (.statusReplied gen attempt (.ok (.data row))))
      (polls : m.poll = some poll) (gen_eq : poll.gen = gen) (live : poll.stopped = false)
      (unread : poll.answered ≤ attempt) (own : row.intentId = some poll.intentId)
      (applied : message = rowMessage poll.intentId row)

theorem Delivered.reports {cause : Cause} {m : Model} {message : StatusMessage}
    (from_ : Delivered cause m message) : Reports cause := by
  cases from_ with
  | stream body => exact ⟨_, body, rfl⟩
  | row body => exact ⟨_, body, rfl⟩

section

variable [Host]

/-- The key of the account watch: the wallet, and what the held quote was priced for. -/
def walletKey (m : Model) : String :=
  jsonArray [jsonTextOrNull m.ctx.wallet.address,
    jsonNumberOrNull m.ctx.wallet.chainId,
    jsonTextOrNull m.intent.quotedAddress,
    jsonNumberOrNull m.intent.quotedChainId]

/-! ## Flights -/

/-- A flight as `startQuote` makes it. -/
structure Fresh (m : Model) (flight : QuoteFlight) : Prop where
  id : flight.id = "q" ++ toString m.seq
  ctx : flight.ctx = m.ctx
  amount : flight.amount = m.amount
  origin : flight.depositOrigin = !isChainId flight.ctx.fromChainId
  access : quoteAccessDecision (textSet flight.ctx.wallet.address)
    flight.ctx.settlementPreference flight.depositOrigin flight.allocate.isSome =
      if flight.preview then .preview else .executable
  allocates : flight.allocate.isSome = true → flight.silent = false ∧ flight.depositOrigin = true

/-- A flight whose request may be sent. -/
def Ready (m : Model) (flight : QuoteFlight) : Prop :=
  (flight ∈ m.flights ∧ flight.stage = .session) ∨ Fresh m flight

/-- The request passed what `sendQuote` checks of it. -/
structure Sendable (flight : QuoteFlight) (now : Int) : Prop where
  keys : ¬(flight.ctx.settlementPreference = .stealth ∧ flight.ctx.stealthMetaAddress = none)
  valid : validateSwapParams (flightRequest flight now) now = []

/-- A flight's request, sent. -/
def QuoteFlight.sent (flight : QuoteFlight) (now : Int) : QuoteFlight :=
  { flight with stage := .api, request := some (flightRequest flight now) }

/-- What a served quote's gates proved, with the addresses seen after it. -/
inductive Verified (wall : WallClock) (m : Model) (flight : QuoteFlight) (quote : QuoteResponse) :
    Option StoredDepositAttestation → SeenDepositAddresses → Prop where
  | intent (hdeposit : quote.hasDeposit = false) : Verified wall m flight quote none
      m.seenDepositAddresses
  | deposit {request : QuoteRequest} {verified : VerifiedDeposit}
      (hdeposit : quote.hasDeposit = true)
      (precheck : depositPrecheck quote flight.request = .ok request)
      (check : checkDepositQuote wall request quote m.config.depositAttestationSigner
        m.seenDepositAddresses = .ok verified) :
      Verified wall m flight quote (some verified.stored) verified.seen

/-- The quote reply a flight in the air is answered by, before execution. -/
structure Answered (cause : Cause) (m : Model) (flight : QuoteFlight) (quote : QuoteResponse) :
    Prop where
  body : cause.body = some (.quoteReplied flight.id (.ok quote))
  found : findFlight m flight.id .api = some flight
  idle : busy m = false
  live : endedStates.contains m.intent.status = false

/-- An execute reply that reads as a response for this intent, to the flow that waits for one. -/
structure ExecuteAnswered (cause : Cause) (m : Model) (flow : SignFlow) (reply : RelayedExecuteReply) :
    Prop where
  body : ∃ response, cause.body = some (.executeReplied flow.id (.reply response)) ∧
    readRelayedExecuteReply response = some reply
  sign : m.sign = some flow
  stage : flow.stage = .execute
  sent : awaitingResend m = false
  own : m.intent.intentId = some reply.intentId

/-- The model after an execute's answer is taken: its flow is over. -/
def answeredExecute (m : Model) (flow : SignFlow) : Model :=
  endSignFlow { m with pendingIntentSig := none } flow

inductive Act (wall : WallClock) (cause : Cause) : Model → List Effect → Model → Prop where
  | quiet {m : Model} {fx : List Effect} (h : Quiet fx) : Act wall cause m fx m
  /-- Bookkeeping no decision about funds reads. -/
  | noted {m : Model} {hidden : Bool} {allocationKey : Option String}
      {quoteExpiresIn : Option Countdown} {submittedAt clientFillMs : Option Int}
      {notFoundReported : Option String} {seq : Nat} {upgrade : String} {expiry : Option String}
      (h : m.seq ≤ seq) :
      Act wall cause m [] { m with
        hidden := hidden, allocationKey := allocationKey, quoteExpiresIn := quoteExpiresIn
        submittedAt := submittedAt, clientFillMs := clientFillMs
        notFoundReported := notFoundReported, seq := seq
        watched := { m.watched with upgrade := upgrade, expiry := expiry } }
  | watched {m : Model} (rule : cause.body = none) :
      Act wall cause m [] { m with watched := { m.watched with wallet := walletKey m } }
  /-- Notes on the intent that leave its status, its quote and its marks alone. -/
  | annotated {m : Model} {error : Option ErrorValue} {refusal : Option SignRefusal}
      {txHash receivingTxHash settlementTxHash : Option String}
      {settlementChainId : Option JsNumber} {substatus refundReason : Option String}
      {legsWithheld : Option Bool} {reconciling notSent pollExhausted : Bool}
      (h : notSent = m.intent.notSent ∨ (notSent = false ∧ Reports cause)) :
      Act wall cause m [] { m with intent := { m.intent with
        error := error, refusal := refusal, txHash := txHash, receivingTxHash := receivingTxHash
        settlementTxHash := settlementTxHash, settlementChainId := settlementChainId
        substatus := substatus, refundReason := refundReason, legsWithheld := legsWithheld
        reconciling := reconciling, notSent := notSent, pollExhausted := pollExhausted } }
  /-- "Not sent yet": only of an intent that reads `executing`, with no execute out. -/
  | unsent {m : Model} {error : Option ErrorValue} (reads : ReadsUnsent cause)
      (free : m.sign = none) (h : m.intent.status = .executing) :
      Act wall cause m [] { m with intent := { m.intent with notSent := true, error := error } }
  | contextChanged {m : Model} {ctx : Context} (body : cause.body = some (.contextChanged ctx)) :
      Act wall cause m [] { m with
        ctx := ctx, flights := if tradeKey ctx = tradeKey m.ctx then m.flights else [] }
  | amountChanged {m : Model} {amount : String} (body : cause.body = some (.quoteRequested amount)) :
      Act wall cause m [] { m with
        flights := if amount = m.amount then m.flights else []
        allocationKey := none, amount := amount, refresh := none }
  | cleared {m : Model} {amount : String} (body : cause.body = some (.quoteRequested amount))
      (none_asked : amount = "" ∨ amount = "0") (dropped : survivesClearedAmount m.intent = false) :
      Act wall cause m [] { m with
        intent := initialIntentState, sign := none, pendingIntentSig := none
        awaitingPull := false, isSigningPull := false }
  | reset {m : Model} {fx : List Effect} (body : cause.body = some .resetRequested)
      (h : ∀ e ∈ fx, e.quiet = true ∨ e = .wallet .resetApproval) :
      Act wall cause m fx { m with
        intent := initialIntentState, amount := "", submittedAt := none, clientFillMs := none
        awaitingPull := false, isSigningPull := false, pendingIntentSig := none
        allocationKey := none, refresh := none, quotedTrade := none, sign := none, flights := [] }
  | resumed {m : Model} {intentId owner : String} {status : IntentStatus}
      {depositDeadline : Option Int} {substatus : Option String} {adopted : IntentState}
      (body : cause.body = some (.resumeRequested intentId status owner depositDeadline substatus))
      (adopts : buildResumedState m.intent intentId status owner depositDeadline = some adopted) :
      Act wall cause m [] { m with
        intent := { adopted with
          mayHaveMoved :=
            if adopted.status = .failed then failureMayHaveMoved substatus
            else adopted.mayHaveMoved }
        flights := [] }
  /-- A session is asked for: the flight waits for it. -/
  | asked {m : Model} {flight : QuoteFlight} {interactive : Bool} (quotable : Quotable m)
      (fresh : Fresh m flight) (session : flight.stage = .session) :
      Act wall cause m [.wallet (.ensureSession flight.id interactive)] (putFlight m flight)
  | sent {m : Model} {flight : QuoteFlight} (quotable : Quotable m) (ready : Ready m flight)
      (sendable : Sendable flight cause.now) :
      Act wall cause m [.api (.quote flight.id (flightRequest flight cause.now) flight.forceRefresh)]
        (putFlight m (flight.sent cause.now))
  | dropped {m : Model} {id : String} : Act wall cause m [] (withoutFlight m id)
  /-- A visible ask: `quoting`, with the quote on screen kept or let go. -/
  | requoted {m : Model} {quote : Option QuoteResponse} {error : Option ErrorValue}
      (asks : Asks cause) (quotable : Quotable m) (kept : quote = m.intent.quote ∨ quote = none)
      (edge : canTransitionTo m.intent.status .quoting = true) :
      Act wall cause m [] { m with intent := { m.intent with
        status := .quoting, quote := quote, error := error, notSent := false } }
  /-- A quote that failed or was refused: `failed`, showing at most a declined quote. -/
  | unquoted {m : Model} {quote : Option QuoteResponse} {error : Option ErrorValue} {notSent : Bool}
      (asks : Asks cause) (quotable : Quotable m)
      (kept : quote = m.intent.quote ∨ quote = none ∨
        ∃ id declined, cause.body = some (.quoteReplied id (.ok declined)) ∧
          quote = some declined ∧ declined.canSolve = false)
      (h : notSent = true → m.intent.notSent = true) :
      Act wall cause m [] { m with intent := { m.intent with
        status := .failed, quote := quote, error := error, notSent := notSent } }
  | allocationFailed {m : Model} {error : Option ErrorValue} (asks : Asks cause)
      (allocatable : allocatableStates.contains m.intent.status = true) :
      Act wall cause m [] { m with intent := { m.intent with status := .quoted, error := error } }
  | accepted {m : Model} {flight : QuoteFlight} {quote : QuoteResponse}
      {attested : Option StoredDepositAttestation} {seen : SeenDepositAddresses}
      {refresh : Option RefreshPlan} {pollExhausted notSent : Bool}
      (answered : Answered cause m flight quote)
      (gates : quoteRefusal wall quote flight m.config.pullRecipients = none)
      (verified : Verified wall m flight quote attested seen)
      (plan : refresh = m.refresh ∨ refresh = some ⟨flight.amount, quote.hasDeposit⟩)
      (edge : m.intent.status = .quoted ∨ canTransitionTo m.intent.status .quoted = true)
      (h : notSent = true → m.intent.notSent = true) :
      Act wall cause m [] { m with
        intent := { quoteState flight quote attested m.intent with
          status := .quoted, pollExhausted := pollExhausted, notSent := notSent }
        flights := m.flights.filter fun f => f.id != flight.id
        quotedTrade := some (tradeKey flight.ctx)
        refresh := refresh
        seenDepositAddresses := seen }
  /-- A verified answer that does not land: its address is seen and its refresh may be planned. -/
  | late {m : Model} {flight : QuoteFlight} {quote : QuoteResponse}
      {attested : Option StoredDepositAttestation} {seen : SeenDepositAddresses}
      {refresh : Option RefreshPlan} (answered : Answered cause m flight quote)
      (verified : Verified wall m flight quote attested seen)
      (plan : refresh = m.refresh ∨ refresh = some ⟨flight.amount, quote.hasDeposit⟩) :
      Act wall cause m [] { m with refresh := refresh, seenDepositAddresses := seen }
  | unplanned {m : Model} : Act wall cause m [] { m with refresh := none }
  | lapsed {m : Model} {error : Option ErrorValue}
      (edge : canTransitionTo m.intent.status .expired = true)
      (expires : Expires cause m) :
      Act wall cause m [] (moved m .expired { m.intent with status := .expired, error := error })
  /-- Back to the quote, from a ceremony. -/
  | returned {m : Model} {error : Option ErrorValue} {refusal : Option SignRefusal}
      (ends : EndsCeremony cause) (edge : canTransitionTo m.intent.status .quoted = true) :
      Act wall cause m []
        (moved m .quoted { m.intent with status := .quoted, error := error, refusal := refusal })
  /-- Confirm on a deposit route, inside the attested window. -/
  | revealed {m : Model} {quote : QuoteResponse} {deadline : Int}
      (body : cause.body = some .signRequested) (held : m.intent.quote = some quote)
      (signable : canSignQuote m.intent.status (some quote) = true)
      (current : holdsCurrentQuote m = true) (deposit : quote.hasDeposit = true)
      (window : m.intent.depositDeadline = some deadline)
      (left : depositMinWindowSeconds ≤ deadline - cause.now / 1000) :
      Act wall cause m []
        (moved m .awaiting_deposit { m.intent with status := .awaiting_deposit })
  /-- A wallet step of Confirm's own ceremony failed. -/
  | signFailed {m : Model} {flow : SignFlow} {error : Option ErrorValue}
      (ends : EndsCeremony cause) (live : m.sign = some flow)
      (origin : flow.origin = .sign) (stage : flow.stage ≠ .execute)
      (signing : m.intent.status = .signing) :
      Act wall cause m [] (moved m .failed { m.intent with status := .failed, error := error })
  | delivered {m : Model} {message : StatusMessage} (from_ : Delivered cause m message)
      (edge : canTransitionTo m.intent.status message.status = true) :
      Act wall cause m [] (moved m message.status
        (statusUpdates m message { m.intent with status := message.status }))
  /-- A not-sent intent, read as gone past the Worker's finish of it. -/
  | swept {m : Model} {gen attempt : Nat} {poll : PollState}
      (body : cause.body = some (.statusReplied gen attempt (.ok .notFound)))
      (polls : m.poll = some poll) (gen_eq : poll.gen = gen) (live : poll.stopped = false)
      (past : sweptPastFinish m.intent poll.intentId cause.now = true)
      (edge : canTransitionTo m.intent.status .failed = true) :
      Act wall cause m [] (moved m .failed { m.intent with
        status := .failed, error := some (.text notSentSweptError)
        reconciling := false, mayHaveMoved := false })
  | executeFailed {m : Model} {flow : SignFlow} {reply : RelayedExecuteReply} {error : String}
      {mayHaveMoved : Bool} (answered : ExecuteAnswered cause m flow reply)
      (decided : decideExecuteResult (decodeReply reply) = .failed error mayHaveMoved)
      (edge : canTransitionTo m.intent.status .failed = true) :
      Act wall cause m [] (moved (answeredExecute m flow) .failed { m.intent with
        status := .failed, error := some (.text error), mayHaveMoved := mayHaveMoved })
  | executeMoved {m : Model} {flow : SignFlow} {reply : RelayedExecuteReply}
      {status : IntentStatus} {decided updates : ExecuteUpdates}
      (answered : ExecuteAnswered cause m flow reply)
      (decision : decideExecuteResult (decodeReply reply) = .transition (.known status) decided)
      (kept : updates = decided ∨ updates = { decided with reconciling := true })
      (edge : canTransitionTo m.intent.status status = true) :
      Act wall cause m []
        (moved (answeredExecute m flow) status
          (updates.apply { m.intent with status := status }))
  /-- A sign flow is over, and with it what it had collected, or some of it. -/
  | stopped {m : Model} {pendingIntentSig : Option String} {awaitingPull isSigningPull : Bool}
      (free : Stops cause m)
      (pending : pendingIntentSig = m.pendingIntentSig ∨ pendingIntentSig = none)
      (awaits : awaitingPull = true → m.awaitingPull = true)
      (signs : isSigningPull = true → m.isSigningPull = true) :
      Act wall cause m [] { m with
        sign := none, pendingIntentSig := pendingIntentSig
        awaitingPull := awaitingPull, isSigningPull := isSigningPull }
  /-- The account or chain changed under a held quote. -/
  | walletReset {m : Model} (rule : cause.body = none) (changed : walletKey m ≠ m.watched.wallet)
      (interruptible : walletInterruptibleStates.contains m.intent.status = true)
      (still : m.intent.mayHaveMoved = false) :
      Act wall cause m [] { m with
        watched := { m.watched with wallet := walletKey m }
        intent := initialIntentState, refresh := none, awaitingPull := false
        isSigningPull := false, pendingIntentSig := none, sign := none }
  /-- The poll armed, ticked, answered or stopped. -/
  | polled {m : Model} {poll : Option PollState} {seq : Nat} {fx : List Effect} (h : m.seq ≤ seq)
      (key : ∀ p, poll = some p →
        (∃ old, m.poll = some old ∧ p.ContinuesFrom old) ∨
        (cause.body = none ∧ pollKey m = some p.key ∧ p.intentId = m.intent.intentId.getD ""))
      (reads : ∀ e ∈ fx, e.quiet = true ∨
        ∃ p attempt, poll = some p ∧ e = .api (.status p.intentId p.gen attempt) ∧
          (cause.body = none → pollKey m = some p.key)) :
      Act wall cause m fx { m with poll := poll, seq := seq }

/-- No act prompts the wallet or sends an execute, and a quote request finds the trade before
execution. -/
theorem Act.effects {wall : WallClock} {cause : Cause} {m m' : Model} {fx : List Effect}
    (act : Act wall cause m fx m') : ∀ e ∈ fx,
      e.prompts = false ∧ e.executes = false ∧ (e.asksQuote = true → Quotable m) := by
  have quietly {e : Effect} (h : e.quiet = true) :
      e.prompts = false ∧ e.executes = false ∧ (e.asksQuote = true → Quotable m) := by
    cases e with
    | timer | emit => exact ⟨rfl, rfl, fun asks => by cases asks⟩
    | api | wallet => cases h
  intro e he
  cases act
  case quiet quiet => exact quietly (quiet e he)
  case asked quotable _ _ =>
    rw [List.mem_singleton.mp he]
    exact ⟨rfl, rfl, fun _ => quotable⟩
  case sent quotable _ _ =>
    rw [List.mem_singleton.mp he]
    exact ⟨rfl, rfl, fun _ => quotable⟩
  case reset _ only =>
    rcases only e he with quiet | rfl
    · exact quietly quiet
    · exact ⟨rfl, rfl, fun asks => by cases asks⟩
  case polled _ _ reads =>
    rcases reads e he with quiet | ⟨_, _, _, rfl, -⟩
    · exact quietly quiet
    · exact ⟨rfl, rfl, fun asks => by cases asks⟩
  all_goals cases he

/-- No act starts or restages a flow: only the ceremony does. -/
theorem Act.sign {wall : WallClock} {cause : Cause} {m m' : Model} {fx : List Effect}
    (h : Act wall cause m fx m') : m'.sign = m.sign ∨ m'.sign = none := by
  cases h
  case executeFailed | executeMoved =>
    exact .inr ((moved_sign _ _ _).elim id id)
  all_goals first
    | exact .inl rfl
    | exact .inr rfl
    | exact moved_sign _ _ _

theorem Chain.sign {wall : WallClock} {cause : Cause} {m m' : Model} {fx : List Effect}
    (chain : Chain (Act wall cause) m fx m') (h : m.sign = none) : m'.sign = none :=
  chain.invariant (P := fun m => m.sign = none)
    (fun _ _ _ none act => act.sign.elim (fun same => same.trans none) id) h

/-- The computation is a chain of acts from the model. -/
def Does (wall : WallClock) (cause : Cause) (m : Model) (x : Machine Model) : Prop :=
  Chain (Act wall cause) m x.log x.value

namespace Does

variable {wall : WallClock} {cause : Cause} {m m' : Model}

theorem done : Does wall cause m (pure m) := .refl m

theorem act (h : Act wall cause m [] m') : Does wall cause m (pure m') := .single h

theorem chain (h : Chain (Act wall cause) m [] m') : Does wall cause m (pure m') := h

theorem bind {x : Machine Model} {f : Model → Machine Model} (first : Does wall cause m x)
    (second : Does wall cause x.value (f x.value)) : Does wall cause m (x >>= f) :=
  Chain.trans first second

/-- Quiet effects before the rest. -/
theorem after {α : Type} {x : Machine α} {f : α → Machine Model} (h : Quiet x.log)
    (rest : Does wall cause m (f x.value)) : Does wall cause m (x >>= f) :=
  Chain.trans (.single (.quiet h)) rest

/-- An act before the rest. -/
theorem step {x : Machine Model} (h : Act wall cause m [] m') (rest : Does wall cause m' x) :
    Does wall cause m x :=
  Chain.trans (.single h) rest

theorem of_parts {x : Machine Model} (value : x.value = m') (effects : Quiet x.log)
    (chain : Chain (Act wall cause) m [] m') : Does wall cause m x := by
  have := Chain.trans (.single (.quiet effects)) chain
  rw [← value] at this
  simpa [Does] using this

theorem ite {c : Prop} [Decidable c] {x y : Machine Model} (yes : c → Does wall cause m x)
    (no : ¬c → Does wall cause m y) : Does wall cause m (if c then x else y) := by
  split
  · exact yes ‹_›
  · exact no ‹_›

/-- A move, by what it does where the table has its edge. -/
theorem move {target : IntentStatus} {updates : IntentState → IntentState}
    (h : canTransitionTo m.intent.status target = true →
      Act wall cause m [] (moved m target (updates { m.intent with status := target }))) :
    Does wall cause m (transition m target updates) := by
  cases edge : canTransitionTo m.intent.status target with
  | true => exact of_parts (transition_of_edge edge).1 (transition_of_edge edge).2 (.single (h edge))
  | false => exact of_parts (transition_of_no_edge edge).1 (transition_of_no_edge edge).2 (.refl m)

/-- A patch of the error alone. -/
theorem erred {updates : IntentState → IntentState} (error : Option ErrorValue)
    (h : updates m.intent = { m.intent with error := error }) :
    Does wall cause m (pure (patch m updates)) := by
  have noted : Act wall cause m [] { m with intent := { m.intent with error := error } } :=
    .annotated (.inl rfl)
  rw [← h] at noted
  exact .act noted

end Does

end

end XochiSdk.Client
