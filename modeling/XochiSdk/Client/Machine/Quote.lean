import XochiSdk.Client.Machine.Transition

/-!
# Quotes

`machine.ts`, the Quote section: a quote asked for, its session, its request, and the gates
its answer meets. A quote request is refused, held, dropped or sent; its answer is dropped,
refused or accepted.
-/

namespace XochiSdk.Client

open XochiSdk.Js XochiSdk.Shared XochiSdk.Signer XochiSdk.Library Emits

section

variable [Host]

/-- `JSON.stringify` of a text or null. -/
def jsonTextOrNull (s : Option String) : String :=
  match s with
  | some s => jsonString s
  | none => "null"

/-- `JSON.stringify` of a chain id or null. -/
def jsonNumberOrNull (n : Option Int) : String :=
  match n with
  | some n => Host.numberText n
  | none => "null"

/-- `JSON.stringify` of an array, its elements printed. -/
def jsonArray (elements : List String) : String := "[" ++ ",".intercalate elements ++ "]"

/-- Every context field the quote request is built from, through the request's own
normalisation: two forms that send one request are one trade. -/
def tradeKey (c : Context) : String :=
  let fields := normalizeTradeFields c.settlementPreference c.recipientAddress c.refundAddress
    c.stealthMetaAddress
  jsonArray [
    Host.numberText c.fromChainId,
    Host.numberText c.toChainId,
    jsonString c.fromToken,
    jsonString c.toToken,
    jsonString c.settlementPreference.text,
    Host.numberText c.trustScore,
    Host.numberText c.slippageBps,
    jsonTextOrNull fields.recipientAddress,
    jsonTextOrNull fields.refundAddress,
    jsonTextOrNull (fields.stealthMetaAddress.map (·.spendingPubKey)),
    jsonTextOrNull (fields.stealthMetaAddress.map (·.viewingPubKey)),
    jsonNumberOrNull (fields.stealthMetaAddress.map (·.chainId)),
    jsonTextOrNull c.wallet.address,
    jsonNumberOrNull c.wallet.chainId,
    jsonTextOrNull (normalizeQuoteCode c.ref),
    jsonTextOrNull (normalizeQuoteCode c.promo)]

/-- The held quote still describes the trade on the form. -/
def holdsCurrentQuote (m : Model) : Bool :=
  m.intent.quotedFromAmount == some m.amount && m.quotedTrade == some (tradeKey m.ctx)

structure QuoteOpts where
  amount : String
  silent : Bool
  forceRefresh : Bool
  allocate : Option Allocation

def quoteOpts (amount : String) : QuoteOpts where
  amount := amount
  silent := false
  forceRefresh := false
  allocate := none

/-- The request a flight sends, built from the context it was started in. -/
def flightRequest (flight : QuoteFlight) (now : Int) : QuoteRequest :=
  let ctx := flight.ctx
  buildQuoteRequest
    { wallet := if flight.preview then none else ctx.wallet.address
      preview := flight.preview
      allocationKey := flight.allocate.map (·.key)
      fromChainId := ctx.fromChainId
      toChainId := ctx.toChainId
      fromToken := ctx.fromToken
      toToken := ctx.toToken
      fromAmount := flight.amount
      deadline := now / 1000 + quoteDeadlineSecs
      slippageBps := ctx.slippageBps
      trustScore := ctx.trustScore
      settlementPreference := ctx.settlementPreference
      recipientAddress := ctx.recipientAddress
      refundAddress := ctx.refundAddress
      stealthMetaAddress := ctx.stealthMetaAddress
      ref := ctx.ref
      promo := ctx.promo }

def sendQuote (m : Model) (flight : QuoteFlight) (now : Int) : Machine Model :=
  let ctx := flight.ctx
  -- Fail-closed on the stealth keys: the request is held, and a visible hold lets go of the
  -- quote on screen.
  if ctx.settlementPreference = .stealth ∧ ctx.stealthMetaAddress = none then do
    endAllocation flight.allocate false
    let next := withoutFlight m flight.id
    if flight.silent then pure next
    else transition next .quoting fun intent => { intent with quote := none, error := none }
  else
    let request := flightRequest flight now
    match validateSwapParams request now with
    | error :: errors => do
      report .warn "Quote request failed validation:" [.arr ((error :: errors).map .str)]
      endAllocation flight.allocate false
      let next := withoutFlight m flight.id
      if flight.silent then pure next
      else
        let shown := if error == "" then "Invalid swap parameters" else error
        pure (patch next fun intent =>
          { intent with status := .failed, error := some (.text shown) })
    | [] => do
      let next ← if flight.silent then pure m else transition m .quoting id
      emit (.api (.quote flight.id request flight.forceRefresh))
      pure (putFlight next { flight with stage := .api, request := some request })

def startQuote (m : Model) (now : Int) (opts : QuoteOpts) : Machine Model :=
  -- "May have moved" holds until Reset.
  if m.intent.status = .failed ∧ m.intent.mayHaveMoved = true then do
    report .debug "Ignoring quote request: the last order may have moved funds" []
    endAllocation opts.allocate false
    pure m
  else
    let ctx := m.ctx
    let connected := textSet ctx.wallet.address
    let depositOrigin := !isChainId ctx.fromChainId
    let access := quoteAccessDecision connected ctx.settlementPreference depositOrigin
      opts.allocate.isSome
    if access = .needs_wallet then do
      endAllocation opts.allocate false
      pure (patch m fun intent =>
        { intent with error := some (.text "Connect a wallet to quote this route") })
    else
      let preview := access == .preview
      let (id, next) := nextId m "q"
      let flight : QuoteFlight :=
        { id := id
          stage := .session
          amount := opts.amount
          silent := opts.silent
          forceRefresh := opts.forceRefresh
          allocate := opts.allocate
          ctx := ctx
          depositOrigin := depositOrigin
          preview := preview
          request := none }
      if depositOrigin && !preview then
        if opts.silent && !connected then pure next
        else do
          emit (.wallet (.ensureSession id (!opts.silent)))
          pure (putFlight next flight)
      else sendQuote next flight now

/-- A quote reply that finds the trade past quoting is logged and dropped. -/
def dropStaleFlight (m : Model) (flight : QuoteFlight) : Machine Model := do
  report .warn s!"Dropping a quote reply: intent is {m.intent.status.text}" [.str flight.id]
  endAllocation flight.allocate false
  pure (withoutFlight m flight.id)

/-- An allocation that did not land: only a trade still before execution returns to
`quoted`. -/
def allocationFailed (m : Model) (error : ErrorValue) : Model :=
  if allocatableStates.contains m.intent.status then
    patch m fun intent => { intent with status := .quoted, error := some error }
  else patch m fun intent => { intent with error := some error }

/-- A quote that failed without an answer to judge: shown on the allocation's own terms, or as
the intent's failure. -/
def quoteFailed (m : Model) (flight : QuoteFlight) (error : ErrorValue) : Model :=
  match flight.allocate with
  | some _ => allocationFailed m error
  | none =>
    patch m fun intent =>
      { intent with status := .failed, error := some error, quote := none }

def findFlight (m : Model) (id : String) (stage : FlightStage) : Option QuoteFlight :=
  m.flights.find? fun f => f.id == id && f.stage == stage

def onSession (m : Model) (id : String) (result : SessionResult) (now : Int) : Machine Model :=
  match findFlight m id .session with
  | none => pure m
  | some flight =>
    if quoteBusyStates.contains m.intent.status then dropStaleFlight m flight
    else if result = .ok then sendQuote m flight now
    else do
      let next := withoutFlight m id
      endAllocation flight.allocate false
      if flight.silent then pure next
      else
        pure (quoteFailed next flight
          (.text "Wallet sign-in is required to allocate a Tron deposit route"))

/-- A quote the gates refused: applied only when not silent. -/
def refuseQuote (m : Model) (flight : QuoteFlight) (error : String)
    (quote : Option QuoteResponse) : Machine Model := do
  endAllocation flight.allocate false
  if flight.silent then pure m
  else
    transition m .failed fun intent =>
      { intent with error := some (.text error), quote := quote }

/-- The request or the proof threw: the confirm surface is kept intact when silent. -/
def quoteThrew (m : Model) (flight : QuoteFlight) (failure : ErrorReport) : Machine Model := do
  report .error "Quote error:" [.str failure.detail]
  endAllocation flight.allocate false
  if flight.silent then pure m
  else pure (quoteFailed m flight (failure.value.getD (.text "Quote request failed")))

/-- A served quote a gate refused: what to log, and the refusal's patch. -/
structure QuoteRefusal where
  level : LogLevel
  message : String
  data : List Value
  error : String
  quote : Option QuoteResponse

def quoteMismatchError : String :=
  "This quote did not match the requested trade, so it cannot be signed."

/-- A quote the server did not serve, or served as not solvable: the second is held for the
screen to show its reason. -/
def declinedRefusal (quote : QuoteResponse) : Option QuoteRefusal :=
  if quote.success = false then
    some { level := .warn
           message := "Quote request rejected:"
           data := [.ofText quote.error]
           error := (textOrNone quote.error).getD "Failed to get quote"
           quote := none }
  else if quote.canSolve = false then
    some { level := .warn
           message := "Quote not solvable:"
           data := [.ofText quote.error]
           error := (textOrNone quote.error).getD "No liquidity available for this route"
           quote := some quote }
  else none

/-- A preview answering a wallet-bound request, or the other way around. -/
def previewRefusal (quote : QuoteResponse) (flight : QuoteFlight) : Option QuoteRefusal :=
  if quote.preview ≠ flight.preview then
    some { level := .error
           message := "Refusing a quote that answers the wrong kind of request"
           data := [.obj [("requestedPreview", .bool flight.preview),
             ("servedPreview", .bool quote.preview)]]
           error := quoteMismatchError
           quote := none }
  else none

def echoRefusal (quote : QuoteResponse) (flight : QuoteFlight) : Option QuoteRefusal :=
  (recipientEchoError (flight.request.bind (·.recipientAddress)) quote.recipientAddress).map
    fun echoError =>
      { level := .warn
        message := "Recipient echo rejected:"
        data := [.str echoError.text]
        error := "Couldn't confirm the destination address for this route. Please try again."
        quote := none }

/-- `request?.settlementPreference ?? ctx.settlementPreference`. -/
def QuoteFlight.settlement (flight : QuoteFlight) : SettlementType :=
  match flight.request with
  | some request => request.settlementPreference
  | none => flight.ctx.settlementPreference

def claimInfoValue (info : Option ClaimInfo) : Value :=
  match info with
  | none => .undefined
  | some info =>
    .obj [("factoryAddress", .ofText info.factoryAddress),
      ("salt", (info.salt.map Value.ofInt).getD .undefined)]

def claimRefusal (quote : QuoteResponse) (flight : QuoteFlight) : Option QuoteRefusal :=
  (claimInfoError quote.claimInfo flight.ctx.toChainId flight.settlement).map fun claimError =>
    { level := .error
      message := "Stealth claim info rejected:"
      data := [.str claimError.code.text, claimInfoValue quote.claimInfo]
      error := s!"{claimError.message}. Send this one public, or try again later."
      quote := none }

/-- The resolved payout address: the request's recipient, or the wallet. -/
def resolvedRecipient (ctx : Context) : String :=
  (textOrNone (ctx.recipientAddress.map trim)).getD (ctx.wallet.address.getD "")

/-- Never pay the destination token contract. -/
def payoutRefusal (flight : QuoteFlight) : Option QuoteRefusal :=
  let recipient := resolvedRecipient flight.ctx
  if recipientIsDestinationToken recipient flight.ctx.toToken then
    some { level := .error
           message := "Refusing a quote whose payout recipient is the destination token"
           data := [.obj [("recipient", .str recipient), ("toToken", .str flight.ctx.toToken)]]
           error := "That destination address is the token's own contract. " ++
             "Funds sent there cannot be recovered."
           quote := none }
  else none

/-- The origin chain and the quote disagree on whether this is a deposit route. -/
def depositDisagrees (quote : QuoteResponse) (flight : QuoteFlight) : Bool :=
  if quote.preview then quote.hasDeposit else flight.depositOrigin != quote.hasDeposit

def depositRefused (quote : QuoteResponse) (flight : QuoteFlight) : Option QuoteRefusal :=
  if depositDisagrees quote flight then
    some { level := .error
           message := "Deposit-route disagreement between origin chain and quote"
           data := [.obj [("isDepositOrigin", .bool flight.depositOrigin),
             ("preview", .bool quote.preview), ("hasDepositAddress", .bool quote.hasDeposit),
             ("fromChainId", .ofInt flight.ctx.fromChainId)]]
           error := "This route is not available right now."
           quote := none }
  else none

/-- The signer's checks over an intent to sign. -/
def signableCheck (wall : WallClock) (quote : QuoteResponse) (flight : QuoteFlight)
    (pullRecipients : Option PinnedPullRecipients) : Except (SignableKind × String) Unit :=
  match flight.request with
  | some request => checkSignableQuote wall request quote pullRecipients
  | none => .error (.intent_mismatch, "no request on record")

def signableRefusal (wall : WallClock) (quote : QuoteResponse) (flight : QuoteFlight)
    (pullRecipients : Option PinnedPullRecipients) : Option QuoteRefusal :=
  if !quote.hasDeposit && quote.eip712Data.isSome then
    match signableCheck wall quote flight pullRecipients with
    | .ok () => none
    | .error (kind, reason) =>
      some { level := .error
             message := "Refusing a quote that does not match the request:"
             data := [.str kind.text, .str reason]
             error := quoteMismatchError
             quote := none }
  else none

/-- The gates every served quote passes, in order; `none` when it passes them all. -/
def quoteRefusal (wall : WallClock) (quote : QuoteResponse) (flight : QuoteFlight)
    (pullRecipients : Option PinnedPullRecipients) : Option QuoteRefusal :=
  declinedRefusal quote <|> previewRefusal quote flight <|> echoRefusal quote flight
    <|> claimRefusal quote flight <|> payoutRefusal flight <|> depositRefused quote flight
    <|> signableRefusal wall quote flight pullRecipients

/-- The gates the attestation check presupposes; the request to verify it against. -/
def depositPrecheck (quote : QuoteResponse) (request : Option QuoteRequest) :
    Except DepositRejection QuoteRequest :=
  match quote.settlementType, request with
  | none, _ =>
    .error ⟨.unavailable, "quote did not state a resolved settlement type (route.settlement_type)"⟩
  | some _, none =>
    .error ⟨.unavailable, "no connected wallet to bind the deposit attestation to"⟩
  | some resolved, some request =>
    if !textSet request.wallet then
      .error ⟨.unavailable, "no connected wallet to bind the deposit attestation to"⟩
    else if resolved ≠ request.settlementPreference then
      .error ⟨.unavailable, s!"quote resolved settlement type {resolved.text} but " ++
        s!"{request.settlementPreference.text} was requested"⟩
    else .ok request

def attestationRejected (m : Model) (flight : QuoteFlight) (verdict : DepositRejection) :
    Machine Model := do
  report .warn "Deposit attestation rejected:" [.str verdict.kind.text, .str verdict.reason]
  refuseQuote m flight
    (if verdict.kind = .addressReuse then
      "We were given a deposit address that was already in use. Reload the page and try again."
    else "This deposit route is not available right now.")
    none

/-- The state a landed quote leaves. -/
def quoteState (flight : QuoteFlight) (quote : QuoteResponse)
    (attestedDeposit : Option StoredDepositAttestation) (intent : IntentState) : IntentState :=
  { intent with
    intentId := some quote.intentId
    quoteId := some quote.quoteId
    quote := some quote
    error := none
    refusal := none
    refundReason := none
    quotedAddress := if quote.preview then none else flight.ctx.wallet.address
    quotedChainId := flight.ctx.wallet.chainId
    quotedFromAmount := some flight.amount
    quotedSettlement := some flight.settlement
    depositDeadline := if quote.hasDeposit then quote.depositDeadline else none
    attestedDeposit := attestedDeposit }

/-- The refresh timer before the expiry, and the end of the flight's allocation. -/
def planRefresh (m : Model) (flight : QuoteFlight) (quote : QuoteResponse) (now : Int) :
    Machine Model := do
  let next ←
    match computeRefreshDelayMs quote.expiry now quoteRefreshBufferMs with
    | some refreshMs =>
      if refreshMs > 0 then do
        setTimer .refresh refreshMs false
        pure { m with refresh := some ⟨flight.amount, quote.hasDeposit⟩ }
      else pure m
    | none => pure m
  endAllocation flight.allocate true
  pure next

/-- A silent answer never replaces the quote the user is signing, a second answer refreshes
in place, and any other asks for the move to `quoted`. Only a quote that landed leaves its
trade: a refused move keeps the old quote, and its trade, held. -/
def acceptQuote (m : Model) (flight : QuoteFlight) (quote : QuoteResponse)
    (attestedDeposit : Option StoredDepositAttestation) (now : Int) : Machine Model :=
  let landed := quoteState flight quote attestedDeposit
  let trade := some (tradeKey flight.ctx)
  if flight.silent then
    if m.intent.status ≠ .quoted then pure m
    else planRefresh { patch m landed with quotedTrade := trade } flight quote now
  else if m.intent.status = .quoted then
    planRefresh
      { patch m (fun intent => { landed intent with pollExhausted := false }) with
        quotedTrade := trade }
      flight quote now
  else do
    let next ← transition m .quoted fun intent => { landed intent with pollExhausted := false }
    -- The move is refused exactly where the table has no edge to `quoted`.
    let next :=
      if canTransitionTo m.intent.status .quoted then { next with quotedTrade := trade } else next
    planRefresh next flight quote now

/-- An answered flight's verdict on a served quote. -/
def onServedQuote (wall : WallClock) (m : Model) (flight : QuoteFlight) (quote : QuoteResponse)
    (now : Int) : Machine Model :=
  match quoteRefusal wall quote flight m.config.pullRecipients with
  | some refusal => do
    report refusal.level refusal.message refusal.data
    refuseQuote m flight refusal.error refusal.quote
  | none =>
    if !quote.hasDeposit then acceptQuote m flight quote none now
    else
      match depositPrecheck quote flight.request with
      | .error verdict => attestationRejected m flight verdict
      | .ok request =>
        match checkDepositQuote wall request quote m.config.depositAttestationSigner
            m.seenDepositAddresses with
        | .error verdict => attestationRejected m flight verdict
        | .ok verified =>
          acceptQuote { m with seenDepositAddresses := verified.seen } flight quote
            (some verified.stored) now

def onQuote (wall : WallClock) (model : Model) (id : String) (result : Outcome QuoteResponse)
    (now : Int) : Machine Model :=
  match findFlight model id .api with
  | none => pure model
  | some flight =>
    let status := model.intent.status
    if quoteBusyStates.contains status || endedStates.contains status then
      dropStaleFlight model flight
    else
      let m := withoutFlight model id
      match result with
      | .error failure => quoteThrew m flight failure
      | .ok quote => onServedQuote wall m flight quote now

end

end XochiSdk.Client
