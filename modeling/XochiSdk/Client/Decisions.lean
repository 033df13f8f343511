import XochiSdk.Client.State
import XochiSdk.Shared.Chains
import Mathlib.Algebra.Order.Floor.Ring
import Mathlib.Data.Rat.Floor

/-!
# Lifecycle decisions

`packages/client/src/machine/decisions.ts`: the pure decisions the machine maps onto its
transitions and effects.
-/

namespace XochiSdk.Client

open XochiSdk.Js XochiSdk.Shared

/-! ## Lifecycle state sets -/

/-- Quote requests are ignored while in one of these states. -/
def quoteBusyStates : List IntentStatus :=
  [.signing, .awaiting_deposit, .executing, .bridging, .settling]

/-- States an explicit deposit-route allocation may start from. -/
def allocatableStates : List IntentStatus := [.idle, .pending, .quoting, .quoted]

/-- A delivered or returned trade. -/
def endedStates : List IntentStatus := [.completed, .refunded]

/-- A pre-execution quote is reset when the wallet changes in these states. -/
def walletInterruptibleStates : List IntentStatus := [.quoted, .signing, .expired, .failed]

/-- The status poll runs while in one of these in-flight states. -/
def pollInflightStates : List IntentStatus :=
  [.awaiting_deposit, .executing, .bridging, .settling]

/-- Every failure after an execute may have moved funds but the Worker's own marker. -/
def failureMayHaveMoved (substatus : Option String) : Bool :=
  substatus != some notExecutedSubstatus

/-- `typeof v === "string" && /^\d+$/.test(v) ? Number(v) : v`, where that is a finite
number: what both deadline readers take from an untyped member. -/
def readDeadline (v : Value) : Option ℚ :=
  match v with
  | .str s =>
    if isDecimal s then (roundToDouble (readDigits 10 s.toList)).map fun n => ((n : ℕ) : ℚ) else none
  | .num n => n.value
  | _ => none

/-- `Math.floor(new Date(expiry).getTime() / 1000)`, where the expiry reads as a date. -/
def expirySecs [Host] (quote : QuoteResponse) : Option ℚ :=
  (Host.dateParse quote.expiry).map fun t => (t.secs : ℚ)

/-- The signed intent's member, `undefined` where nothing is there to sign. -/
def intentMember (quote : QuoteResponse) (key : String) : Value :=
  match quote.eip712Data with
  | some eip712 => eip712.message.get key
  | none => .undefined

def pullMember (quote : QuoteResponse) (key : String) : Value :=
  match quote.pullAuthorization with
  | some pull => pull.message.get key
  | none => .undefined

/-- The latest time (unix seconds) the Worker finishes this quote's unclaimed intent: the
later of the signed deadline and the expiry, and the grace. -/
def unexecutedFinishAt [Host] (quote : Option QuoteResponse) : Option ℚ :=
  match quote with
  | none => none
  | some quote =>
    match expirySecs quote, readDeadline (intentMember quote "deadline") with
    | some expiry, some signed => some (max expiry signed + quotedExpiryGraceSecs)
    | some expiry, none => some (expiry + quotedExpiryGraceSecs)
    | none, some signed => some (signed + quotedExpiryGraceSecs)
    | none, none => none

/-! ## The status poll's cadence and ceilings -/

def statusPollMs : Int := 4000

def statusPollFlatCeilingAttempts : Int := 150

def statusPollFlatCeilingMs : Int := statusPollFlatCeilingAttempts * statusPollMs

def depositPollGraceMs : Int := 600000

def pollCeilingMaxMs : Int := 7200000

/-- How many polls to run before giving up, for the phase being entered. -/
def pollCeilingAttempts (status : IntentStatus) (depositDeadlineSecs : Option Int) (nowMs pollMs
    flatCeilingMs : Int) (unexecutedFinishSecs : Option ℚ) : Int :=
  let flat := ⌈(flatCeilingMs : ℚ) / pollMs⌉
  let windowMs : Option ℚ :=
    match status, depositDeadlineSecs, unexecutedFinishSecs with
    | .awaiting_deposit, some deadline, _ =>
      if deadline = 0 then none else some (deadline * 1000 - nowMs + depositPollGraceMs)
    | .executing, _, some finish =>
      if finish = 0 then none else some (finish * 1000 - nowMs + pollMs)
    | _, _, _ => none
  match windowMs with
  | none => flat
  | some windowMs =>
    if windowMs ≤ 0 then flat else max flat ⌈min windowMs pollCeilingMaxMs / pollMs⌉

def canAdoptResumedIntent (state : IntentState) : Bool :=
  state.status == .idle && !textSet state.intentId

/-- The state to hold after adopting a resumed intent; `none` when the adopt is refused. -/
def buildResumedState (prev : IntentState) (intentId : String) (status : IntentStatus)
    (owner : String) (depositDeadline : Option Int) : Option IntentState :=
  if intentId == "" || owner == "" || !canAdoptResumedIntent prev then none
  else
    some { initialIntentState with
      intentId := some intentId
      status := status
      quotedAddress := some owner
      depositDeadline := depositDeadline }

/-! ## The quote request -/

/-- A presented code as sent: trimmed and uppercase, none when empty. -/
def normalizeQuoteCode [Host] (presented : Option String) : Option String :=
  textOrNone (presented.map fun code => Host.toUpperCase (trim code))

/-- The request fields the server reads through a normalisation. -/
structure TradeFields where
  recipientAddress : Option String
  refundAddress : Option String
  stealthMetaAddress : Option StealthMetaAddress
  deriving DecidableEq

def normalizeTradeFields (settlementPreference : SettlementType)
    (recipientAddress refundAddress : Option String)
    (stealthMetaAddress : Option StealthMetaAddress) : TradeFields where
  recipientAddress := textOrNone (recipientAddress.map trim)
  refundAddress := textOrNone (refundAddress.map trim)
  stealthMetaAddress := if settlementPreference = .stealth then stealthMetaAddress else none

structure BuildQuoteRequestInput where
  wallet : Option String
  preview : Bool
  allocationKey : Option String
  fromChainId : Int
  toChainId : Int
  fromToken : String
  toToken : String
  fromAmount : String
  deadline : Int
  slippageBps : ℚ
  trustScore : ℚ
  settlementPreference : SettlementType
  recipientAddress : Option String
  refundAddress : Option String
  stealthMetaAddress : Option StealthMetaAddress
  ref : Option String
  promo : Option String

/-- Build the quote request body, with the trade fields normalised. -/
def buildQuoteRequest [Host] (input : BuildQuoteRequestInput) : QuoteRequest :=
  let fields := normalizeTradeFields input.settlementPreference input.recipientAddress
    input.refundAddress input.stealthMetaAddress
  { wallet := input.wallet
    preview := input.preview
    allocationKey := input.allocationKey
    fromChainId := input.fromChainId
    toChainId := input.toChainId
    fromToken := input.fromToken
    toToken := input.toToken
    fromAmount := input.fromAmount
    deadline := input.deadline
    slippageBps := input.slippageBps
    trustScore := input.trustScore
    settlementPreference := input.settlementPreference
    recipientAddress := fields.recipientAddress
    refundAddress := fields.refundAddress
    stealthMetaAddress := fields.stealthMetaAddress
    ref := normalizeQuoteCode input.ref
    promo := normalizeQuoteCode input.promo }

inductive QuoteAccessDecision where
  | executable
  | preview
  | needs_wallet
  deriving DecidableEq

/-- Whether pricing is indicative or executable. -/
def quoteAccessDecision (connected : Bool) (settlementPreference : SettlementType)
    (isDepositOrigin allocateDepositRoute : Bool) : QuoteAccessDecision :=
  if settlementPreference ≠ .public then if connected then .executable else .needs_wallet
  else if isDepositOrigin then
    if !allocateDepositRoute then .preview
    else if connected then .executable
    else .needs_wallet
  else if connected then .executable
  else .preview

def shouldUpgradePreviewQuote (connected hasAmount : Bool) (status : IntentStatus)
    (quoteIsPreview isDepositOrigin : Bool) : Bool :=
  !isDepositOrigin && connected && hasAmount && status == .quoted && quoteIsPreview

/-- The signing gate: a preview or a declined quote is never signable. -/
def canSignQuote (status : IntentStatus) (quote : Option QuoteResponse) : Bool :=
  match quote with
  | none => false
  | some quote => status == .quoted && quote.canSolve && !quote.preview

/-- The refresh delay, `none` where the expiry does not read as a date. -/
def computeRefreshDelayMs [Host] (expiryIso : String) (now bufferMs : Int) : Option Int :=
  (Host.dateParse expiryIso).map fun t => t.ms - now - bufferMs

def shouldRefreshQuote (status : IntentStatus) (hidden hasAllocatedDeposit : Bool) : Bool :=
  if status ≠ .quoted then false else if hidden then false else !hasAllocatedDeposit

def shouldRefreshOnReturn (status : IntentStatus) (paused hasAllocatedDeposit : Bool) : Bool :=
  if paused || hasAllocatedDeposit then false else status == .quoted || status == .expired

/-! ## The sign preflight -/

inductive SignPreflight where
  | awaitingDeposit
  | noQuote
  /-- Refused while the quote is still the right one to show. -/
  | rejectToQuoted (refusal : SignRefusal) (error : String)
  | rejectToExpired (error : String)
  | proceed
  deriving DecidableEq

def walletChanged : SignPreflight :=
  .rejectToQuoted .wallet_changed "The wallet or network changed. Get a fresh quote."

/-- What `decideSignPreflight` reads. -/
structure SignPreflightInput where
  hasDepositAddress : Bool
  hasEip712 : Bool
  address : Option String
  quotedAddress : Option String
  quotedChainId : Option Int
  chainId : Option Int
  originChainId : Int
  /-- Quote expiry in ms; 0 when the quote carries none, `none` when it is no date. -/
  expiryMs : Option Int
  now : Int

/-- Whether a quote may be signed, in the order the source checks. -/
def decideSignPreflight [Host] (input : SignPreflightInput) : SignPreflight :=
  let address := input.address.getD ""
  let accountChanged := address == "" ||
    match input.quotedAddress with
    | some quoted => Host.toLowerCase address != Host.toLowerCase quoted
    | none => false
  let chainChanged :=
    match input.quotedChainId with
    | some quoted => input.chainId != some quoted
    | none => false
  let expired :=
    match input.expiryMs with
    | some expiryMs => expiryMs != 0 && input.now ≥ expiryMs
    | none => false
  if input.hasDepositAddress then .awaitingDeposit
  else if !input.hasEip712 then .noQuote
  else if accountChanged then walletChanged
  else if input.chainId != some input.originChainId then
    .rejectToQuoted (.wrong_chain input.originChainId)
      s!"Switch the wallet to {extendedChainName input.originChainId} to sign."
  else if chainChanged then walletChanged
  else if expired then .rejectToExpired "Quote expired"
  else .proceed

/-! ## The execute result -/

/-- The state updates an execute reply carries. -/
structure ExecuteUpdates where
  txHash : Option String
  receivingTxHash : Option String
  settlementTxHash : Option String
  settlementChainId : Option JsNumber
  reconciling : Bool

def ExecuteUpdates.apply (updates : ExecuteUpdates) (intent : IntentState) : IntentState :=
  { intent with
    txHash := updates.txHash
    receivingTxHash := updates.receivingTxHash
    settlementTxHash := updates.settlementTxHash
    settlementChainId := updates.settlementChainId
    reconciling := updates.reconciling }

inductive ExecuteDecision where
  | failed (error : String) (mayHaveMoved : Bool)
  | transition (status : WireStatus) (updates : ExecuteUpdates)

/-- Interpret an execute response: `failed` is final only with success withheld and
reconciling off, any other `failed` is in doubt. -/
def decideExecuteResult (result : ExecuteResponse) : ExecuteDecision :=
  let reconciling := result.reconciling.getD (!result.success)
  if result.status = .known .failed ∧ result.success = false ∧ reconciling = false then
    .failed ((textOrNone result.error).getD "Execution failed")
      (failureMayHaveMoved result.substatus)
  else
    let updates : ExecuteUpdates :=
      { txHash := textOrNone result.txHash
        receivingTxHash := textOrNone result.receivingTxHash
        settlementTxHash := textOrNone result.settlementTxHash
        settlementChainId := result.settlementChainId
        reconciling := reconciling }
    if result.status = .known .completed then
      .transition (.known .completed) { updates with reconciling := false }
    else if result.status = .known .failed then
      .transition (.known .executing) { updates with reconciling := true }
    else .transition result.status updates

inductive GiveUpReason where
  | exhausted
  | no_retry_after
  | stale_retry_after
  | deadline
  deriving DecidableEq

def GiveUpReason.text : GiveUpReason → String
  | exhausted => "exhausted"
  | no_retry_after => "no_retry_after"
  | stale_retry_after => "stale_retry_after"
  | deadline => "deadline"

inductive ExecuteResend where
  | resend (delayMs : ℚ)
  | give_up (reason : GiveUpReason)

def retryAfterMaxAgeSecs : Int := 60

/-- The last instant (ms) a resend under this deadline may be sent. -/
def resendLimit (deadline : ℚ) : ℚ := (deadline - executeResendMarginSecs) * 1000

/-- After the server refused an execute before accepting anything, whether to send the same
request again and when. -/
def decideExecuteResend (resends : Nat) (retryAfter : Option JsNumber) (deadline : Option ℚ)
    (now : Int) : ExecuteResend :=
  if resends ≥ maxExecuteResends then .give_up .exhausted
  else
    match retryAfter.bind (·.value) with
    | none => .give_up .no_retry_after
    | some retryAfter =>
      if retryAfter * 1000 < now - retryAfterMaxAgeSecs * 1000 then .give_up .stale_retry_after
      else
        let sendAt := max (retryAfter * 1000) (now + 1000)
        match deadline with
        | none => .give_up .deadline
        | some deadline =>
          if sendAt > resendLimit deadline then .give_up .deadline else .resend (sendAt - now)

/-- The earliest deadline (unix seconds) a resent execute carries; `none` without a readable
quote expiry. -/
def executeDeadline [Host] (quote : Option QuoteResponse) : Option ℚ :=
  match quote with
  | none => none
  | some quote =>
    (expirySecs quote).map fun expiry =>
      ([intentMember quote "deadline", pullMember quote "validBefore",
        pullMember quote "deadline"].filterMap readDeadline).foldl min expiry

/-! ## Status updates -/

/-- The transition a status message asks for, and the updates it carries. -/
def mapStatusUpdate (msg : StatusMessage) : IntentStatus × (IntentState → IntentState) :=
  match msg.status with
  | .completed =>
    (.completed, fun intent => { intent with
      txHash := textOrNone msg.txHash
      receivingTxHash := textOrNone msg.receivingTxHash
      settlementTxHash := textOrNone msg.settlementTxHash
      settlementChainId := msg.settlementChainId
      reconciling := false })
  | .refunded =>
    (.refunded, fun intent => { intent with
      error := none
      reconciling := false
      refundReason := some (getRefundReasonLabel msg.refundReason) })
  | .failed =>
    (.failed, fun intent => { intent with
      error := some (.text ((textOrNone msg.error).getD "Intent failed"))
      reconciling := false })
  | status =>
    (status, fun intent => { intent with
      receivingTxHash := textOrNone msg.receivingTxHash
      settlementTxHash := textOrNone msg.settlementTxHash
      settlementChainId := msg.settlementChainId
      substatus := msg.substatus
      reconciling := msg.reconciling.getD false })

/-- The drift warning for a 404 on a dispatched intent, once per id. -/
def notFoundDriftWarning (intentId : String) (reportedId : Option String) : Option String :=
  if intentId == "" || reportedId == some intentId then none
  else
    some (s!"[useIntent] Status poll 404 for dispatched intent {intentId}: holding, not failing. " ++
      "The worker has no row for a swap that was already dispatched; leaving the outcome to reconciliation.")

/-- A field a poll carries and the intent does not already hold. -/
def arrived (prev next : Option String) : Bool := textSet next && next != prev

/-- `a !== b` of two numbers or nulls, where the first is truthy. -/
def chainArrived (prev next : Option JsNumber) : Bool :=
  match next, prev with
  | none, _ => false
  | some next, none => (Value.num next).truthy
  | some next, some prev => (Value.num next).truthy && !(Value.num next).strictEq (.num prev)

/-- The receipt fields to merge from a poll whose status did not change, `none` when it
carries nothing new. -/
def mergeSameStatusReceipt (prev : IntentState) (msg : StatusMessage) :
    Option (IntentState → IntentState) :=
  let substatus := arrived prev.substatus msg.substatus
  let receiving := arrived prev.receivingTxHash msg.receivingTxHash
  let settlement := arrived prev.settlementTxHash msg.settlementTxHash
  let settlementChain := chainArrived prev.settlementChainId msg.settlementChainId
  if substatus || receiving || settlement || settlementChain then
    some fun intent => { intent with
      substatus := if substatus then msg.substatus else intent.substatus
      receivingTxHash := if receiving then msg.receivingTxHash else intent.receivingTxHash
      settlementTxHash := if settlement then msg.settlementTxHash else intent.settlementTxHash
      settlementChainId :=
        if settlementChain then msg.settlementChainId else intent.settlementChainId }
  else none

end XochiSdk.Client
