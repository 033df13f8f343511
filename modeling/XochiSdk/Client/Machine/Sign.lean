import XochiSdk.Client.Machine.Quote

/-!
# Sign and execute

`machine.ts`, the Sign & execute section: the ceremony from Confirm to `/execute`, the
verdict on an execute's reply, and the resends of one the server did not accept.
-/

namespace XochiSdk.Client

open XochiSdk.Js XochiSdk.Shared XochiSdk.Signer XochiSdk.Library Emits

section

variable [Host]

def signPreflight (m : Model) (now : Int) : SignPreflight :=
  let expiry := (m.intent.quote.map (·.expiry)).getD ""
  decideSignPreflight
    { hasDepositAddress := false
      hasEip712 := true
      address := m.ctx.wallet.address
      quotedAddress := m.intent.quotedAddress
      quotedChainId := m.intent.quotedChainId
      chainId := m.ctx.wallet.chainId
      originChainId := m.ctx.fromChainId
      expiryMs := if expiry == "" then some 0 else (Host.dateParse expiry).map (·.ms)
      now := now }

def pinValue (rejection : SolverPinRejection) : Value :=
  .obj [("ok", .bool false), ("field", .str rejection.field.text), ("reason", .str rejection.reason)]

/-- The wallet prompt for a signature, bounded by the prompt timer. -/
def promptSignature (m : Model) (flow : SignFlow) (purpose : Purpose)
    (typedData : Eip712TypedData) : Machine Model := do
  emit (.wallet (.signTypedData flow.id purpose typedData m.ctx.wallet.chainId))
  setTimer .signPrompt signPromptTimeoutMs false
  pure { m with sign := some flow }

/-- Confirm on a deposit route: the address is revealed only inside its attested window. -/
def revealDeposit (m : Model) (now : Int) : Machine Model :=
  let nowSecs := now / 1000
  let lapsed :=
    match m.intent.depositDeadline with
    | none => true
    | some deadline => deadline - nowSecs < depositMinWindowSeconds
  if lapsed then do
    report .warn "Not revealing a deposit address past its window"
      [.obj [("depositDeadline", (m.intent.depositDeadline.map Value.ofInt).getD .null),
        ("now", .ofInt nowSecs)]]
    transition m .expired fun intent => { intent with error := some (.text "Quote expired") }
  else transition m .awaiting_deposit id

/-- The rest of `beginIntentSign`, past its preflight: the pin is checked and the wallet asked. -/
def promptIntent (m : Model) (quote : QuoteResponse) (eip712 : Eip712TypedData) : Machine Model :=
  match validatePayoutPin eip712 quote.toAmount
      (textOrNone (textOrNone (m.ctx.recipientAddress.map trim) <|> m.ctx.wallet.address)) with
  | some rejection => do
    report .error "Refusing to sign intent:" [pinValue rejection]
    pure (patch m fun intent => { intent with refusal := some .payout_mismatch })
  | none => do
    let signing ← transition m .signing fun intent => { intent with refusal := none }
    if signing.intent.status ≠ .signing then pure signing
    else
      let (id, next) := nextId signing "s"
      promptSignature next
        { id := id, origin := .sign, stage := .intent, intentSignature := none, execute := none }
        .intent eip712

/-- Confirm on a pull route: the preflight, the payout pin, then the intent prompt. -/
def beginIntentSign (m : Model) (quote : QuoteResponse) (eip712 : Eip712TypedData) (now : Int) :
    Machine Model :=
  match signPreflight m now with
  | .rejectToQuoted refusal _ =>
    pure (patch m fun intent => { intent with refusal := some refusal })
  | .rejectToExpired error =>
    transition m .expired fun intent => { intent with error := some (.text error) }
  | .awaitingDeposit | .noQuote | .proceed => promptIntent m quote eip712

/-- Confirm: it acts on a held, signable quote that still describes the trade on the form. -/
def beginSign (m : Model) (now : Int) : Machine Model :=
  if m.intent.status ≠ .quoted then pure m
  else
    let noQuote := patch m fun intent => { intent with error := some (.text "No quote to sign") }
    match m.intent.quote with
    | none => pure noQuote
    | some quote =>
      if !canSignQuote m.intent.status (some quote) then pure noQuote
      else if !holdsCurrentQuote m then do
        report .warn "Not signing a quote for a trade no longer on the form"
          [.obj [("quotedFromAmount", (m.intent.quotedFromAmount.map Value.str).getD .null),
            ("amount", .str m.amount)]]
        pure m
      else if quote.hasDeposit then revealDeposit m now
      else
        match quote.eip712Data with
        | none => pure noQuote
        | some eip712 => beginIntentSign m quote eip712 now

/-- A wallet step failed: from Confirm, back to the quote or failed; from the "Sign 2 of 2"
tap, a dead prompt keeps the step-2 affordance. -/
def signFlowFailed (m : Model) (failure : ErrorReport) : Machine Model :=
  match m.sign with
  | none => pure m
  | some flow => do
    clearTimer .signPrompt
    let next := endSignFlow m flow
    let timedOut := match failure.value with
      | some value => value.isText "wallet_prompt_timeout"
      | none => false
    match flow.origin with
    | .sign =>
      if failure.rejected then
        transition next .quoted fun intent =>
          { intent with error := some (.text "Signature rejected") }
      else if timedOut then
        transition next .quoted fun intent =>
          { intent with
            error := some (.text "Couldn't reach the wallet. Press Confirm to try again.") }
      else do
        report .error "Sign error:" [.str failure.detail]
        transition next .failed fun intent =>
          { intent with error := some (failure.value.getD (.text "Signing failed")) }
    | .pull =>
      if failure.rejected then
        transition { next with awaitingPull := false } .quoted fun intent =>
          { intent with error := some (.text "Signature rejected") }
      else do
        report .error "Pull sign error:" [.str failure.detail]
        pure (patch next fun intent =>
          { intent with
            error :=
              some (.text "Couldn't reach the wallet. Tap to try the second signature again.") })

/-- `BigInt(raw)` of a served amount, or the failure it is reported as. -/
def readAmount (raw : Value) : Except ErrorReport Int :=
  let read := match raw with
    | .num n => n.toInteger
    | .bool b => some (if b then 1 else 0)
    | .undefined | .null => none
    | x => x.asBigInt
  match read with
  | some n => .ok n
  | none =>
    let detail := Host.bigIntError (raw.text.getD "")
    .error { rejected := false, value := some (.text detail), detail := detail, notAccepted := none }

/-- `quotedFromAmount || message.fromAmount || "0"`. -/
def expectedPullAmount (m : Model) (eip712 : Eip712TypedData) : Value :=
  if textSet m.intent.quotedFromAmount then .ofText m.intent.quotedFromAmount
  else
    let served := eip712.message.get "fromAmount"
    if served.truthy then served else .str "0"

/-- Origin-pull leg, step 1: the fail-closed solver pin, then the one-time approval. The error
is a throw out of `update`. -/
def completePull (m : Model) (flow : SignFlow) : Except SignerError (Machine Model) :=
  match m.intent.quote.bind (·.pullAuthorization), m.intent.quote.bind (·.eip712Data) with
  | some pull, some eip712 =>
    match readAmount (expectedPullAmount m eip712) with
    | .error failure => .ok (signFlowFailed { m with sign := some flow } failure)
    | .ok expected => do
      match ← validateSolverPin pull m.config.solverPin expected with
      | some rejection => pure do
        report .error "Refusing to sign origin pull:" [pinValue rejection]
        transition { m with sign := some flow } .quoted fun intent =>
          { intent with
            error := some (.text s!"Refusing to sign origin pull: {rejection.reason}")
            refusal := some .pull_unpinned }
      | none => pure do
        emit (.wallet (.ensureApproval flow.id (toString expected)))
        pure { m with sign := some { flow with stage := .approval } }
  | _, _ => .ok (pure (endSignFlow m flow))

/-- The "Sign 2 of 2" tap. -/
def beginPullSign (m : Model) (now : Int) : Except SignerError (Machine Model) :=
  let pull := m.intent.quote.bind (·.pullAuthorization)
  if !textSet m.pendingIntentSig || pull.isNone || m.isSigningPull || m.sign.isSome then
    .ok (pure m)
  else
    let refused (error : String) : Machine Model :=
      transition { m with awaitingPull := false } .quoted fun intent =>
        { intent with error := some (.text error) }
    match signPreflight m now with
    | .rejectToQuoted _ error => .ok (refused error)
    | .rejectToExpired error => .ok (refused error)
    | .awaitingDeposit | .noQuote | .proceed =>
      let (id, next) := nextId { m with isSigningPull := true } "s"
      completePull next
        { id := id, origin := .pull, stage := .approval, intentSignature := m.pendingIntentSig,
          execute := none }

def onApproval (m : Model) (flowId : String) (result : Outcome Bool) : Machine Model :=
  match m.sign with
  | none => pure m
  | some flow =>
    if flow.id ≠ flowId ∨ flow.stage ≠ .approval then pure m
    else
      match result with
      | .error failure => signFlowFailed m failure
      | .ok false =>
        transition m .quoted fun intent =>
          { intent with
            error := some (.text "Token approval required to continue")
            refusal := some .approval_required }
      | .ok true =>
        match m.intent.quote.bind (·.pullAuthorization) with
        | none => pure (endSignFlow m flow)
        | some pull => promptSignature m { flow with stage := .pull } .pull pull

/-- Dispatch `/execute` with the collected signatures. -/
def runExecute (m : Model) (flow : SignFlow) (signature : String)
    (pullSignature : Option String) (now : Int) : Machine Model :=
  if m.intent.status ≠ .signing then do
    report .warn s!"Dropping signature: intent is {m.intent.status.text}, not signing" []
    abandonSign m
  else do
    let request : ExecuteRequest :=
      { intentId := m.intent.intentId.getD ""
        quoteId := m.intent.quoteId.getD ""
        signature := signature
        nonce := now
        pullSignature := pullSignature }
    -- Staged before the move, so that `transition` can tell this step from a status update.
    let staged := { m with
      sign := some { flow with
        stage := .execute
        execute := some { request := request, resends := 0, resendAt := none, error := none } } }
    let executing ← transition staged .executing id
    if executing.intent.status ≠ .executing then abandonSign m
    else do
      emit (.api (.execute flow.id request))
      pure { executing with submittedAt := some now, clientFillMs := none }

def onSigned (m : Model) (flowId : String) (purpose : Purpose) (result : Outcome String)
    (now : Int) : Except SignerError (Machine Model) :=
  match m.sign with
  | none => .ok (pure m)
  | some flow =>
    if flow.id ≠ flowId ∨ flow.stage ≠ purpose.stage then .ok (pure m)
    else if m.intent.status ≠ .signing then .ok (abandonSign m)
    else
      match result with
      | .error failure => .ok do
        clearTimer .signPrompt
        signFlowFailed m failure
      | .ok signature =>
        match purpose with
        | .pull => .ok do
          clearTimer .signPrompt
          runExecute { m with awaitingPull := false } flow (flow.intentSignature.getD "")
            (some signature) now
        | .intent =>
          let next := { m with pendingIntentSig := some signature }
          let signed := { flow with intentSignature := some signature }
          if (next.intent.quote.bind (·.pullAuthorization)).isNone then .ok do
            clearTimer .signPrompt
            runExecute next signed signature none now
          -- A deep-link wallet will not re-open for a second prompt: the pull waits for a tap.
          else if next.ctx.wallet.stepwise then .ok do
            clearTimer .signPrompt
            pure { next with awaitingPull := true, sign := none }
          else
            (completePull next signed).map fun completed => do
              clearTimer .signPrompt
              completed

/-- This client gives up resending: the intent stays `executing`, marked "not sent yet". -/
def stopResending (m : Model) (flow : SignFlow) (error : ErrorValue) : Model :=
  patch (endSignFlow m flow) fun intent => { intent with notSent := true, error := some error }

def solverBusy : ErrorValue := .text "The solver is busy. Try again."

/-- `typeof report.value === "object" ? report.value?.retryAfter : undefined`. -/
def ErrorReport.retryAfter (failure : ErrorReport) : Option JsNumber :=
  match failure.value with
  | some (.structured error) => error.retryAfter
  | _ => none

/-- The server refused this execute before accepting anything: wait and resend within
`decideExecuteResend`'s bounds, else stop. `none` leaves the reply in doubt. -/
def onNotAccepted (m : Model) (flow : SignFlow) (failure : ErrorReport) (now : Int) :
    Machine (Option Model) :=
  let error := failure.value.getD solverBusy
  let inDoubt : Machine (Option Model) := do
    report .warn "Execute not accepted, but kept in doubt: the intent already is" []
    pure none
  match flow.execute with
  | none => inDoubt
  | some attempt =>
    if m.intent.intentId ≠ some attempt.request.intentId ∨ m.intent.status ≠ .executing
        ∨ m.intent.reconciling = true then inDoubt
    else
      match decideExecuteResend attempt.resends failure.retryAfter
          (executeDeadline m.intent.quote) now with
      | .give_up reason => do
        report .warn s!"Execute not accepted; not resending ({reason.text})" []
        pure (some (stopResending { m with pendingIntentSig := none } flow error))
      | .resend delayMs => do
        report .warn (s!"Execute not accepted (solver busy); resend {attempt.resends + 1}/" ++
          s!"{maxExecuteResends} in {Host.numberText delayMs}ms") [.str failure.detail]
        setTimer .execute delayMs false
        pure (some { m with
          pendingIntentSig := none
          sign := some { flow with
            execute := some { attempt with resendAt := some (now + delayMs), error := some error } } })

/-- The not-accepted wait is over: send the held request again, unchanged, under a new flow
id; past the deadline, stop instead. -/
def resendExecute (m : Model) (now : Int) : Machine Model :=
  match m.sign with
  | none => pure m
  | some flow =>
    match flow.execute with
    | none => pure m
    | some attempt =>
      if awaitingResend m = false ∨ m.intent.status ≠ .executing then pure m
      else
        let lapsed :=
          match executeDeadline m.intent.quote with
          | none => true
          | some deadline => (now : ℚ) > resendLimit deadline
        if lapsed then do
          report .warn "Execute not accepted; the deadline passed before the resend" []
          pure (stopResending m flow (attempt.error.getD solverBusy))
        else do
          let (id, next) := nextId m "s"
          emit (.api (.execute id attempt.request))
          pure { next with
            submittedAt := some now
            sign := some { flow with
              id := id
              execute := some { attempt with
                resends := attempt.resends + 1, resendAt := none, error := none } } }

/-- The first poll tick at or after `resendAt` does the `execute` timer's work. -/
def resendBackstop (m : Model) (now : Int) : Machine Model :=
  match m.sign.bind fun flow => flow.execute.bind (·.resendAt) with
  | none => pure m
  | some resendAt =>
    if (now : ℚ) < resendAt then pure m
    else do
      report .warn "The resend is due and still pending; resending from the poll timer" []
      clearTimer .execute
      resendExecute m now

/-- A thrown execute's report carrying the not-accepted flag. -/
def notAcceptedReport (result : ExecuteResult) : Option ErrorReport :=
  match result with
  | .error failure => if failure.notAccepted = some true then some failure else none
  | _ => none

/-- `v === undefined || typeof v === "string"`. -/
def optionalStr (v : Value) : Option (Option String) :=
  match v with
  | .undefined => some none
  | .str s => some (some s)
  | _ => none

def optionalNum (v : Value) : Option (Option JsNumber) :=
  match v with
  | .undefined => some none
  | .num n => some (some n)
  | _ => none

def optionalBool (v : Value) : Option (Option Bool) :=
  match v with
  | .undefined => some none
  | .bool b => some (some b)
  | _ => none

/-- The fields `decideExecuteResult` reads, each of its wire type; `status` is any text. -/
structure RelayedExecuteReply where
  success : Bool
  intentId : String
  status : String
  txHash : Option String
  receivingTxHash : Option String
  settlementTxHash : Option String
  settlementChainId : Option JsNumber
  reconciling : Option Bool
  error : Option String
  substatus : Option String

def readRelayedExecuteReply (value : Value) : Option RelayedExecuteReply := do
  let .bool success := value.member "success" | none
  let .str intentId := value.member "intentId" | none
  let .str status := value.member "status" | none
  let reconciling ← optionalBool (value.member "reconciling")
  let settlementChainId ← optionalNum (value.member "settlementChainId")
  let error ← optionalStr (value.member "error")
  let txHash ← optionalStr (value.member "txHash")
  let receivingTxHash ← optionalStr (value.member "receivingTxHash")
  let settlementTxHash ← optionalStr (value.member "settlementTxHash")
  let substatus ← optionalStr (value.member "substatus")
  pure {
    success := success
    intentId := intentId
    status := status
    txHash := txHash
    receivingTxHash := receivingTxHash
    settlementTxHash := settlementTxHash
    settlementChainId := settlementChainId
    reconciling := reconciling
    error := error
    substatus := substatus }

/-- The response with its status decoded: a granular failure keeps its own text as the
substatus. -/
def decodeReply (reply : RelayedExecuteReply) : ExecuteResponse :=
  let status := (decodeWireStatus (.str reply.status)).status
  { success := reply.success
    intentId := reply.intentId
    status := status
    txHash := reply.txHash
    receivingTxHash := reply.receivingTxHash
    settlementTxHash := reply.settlementTxHash
    settlementChainId := reply.settlementChainId
    reconciling := reply.reconciling
    error := reply.error
    substatus :=
      if status = .known .failed ∧ reply.status ≠ "failed" then some reply.status
      else reply.substatus }

/-- The execute response a reply carries for the intent, and whether its status was unmapped;
`none` when the execute is in doubt. -/
def executeResponseUnlessInDoubt (result : ExecuteResult) (intentId : Option String) :
    Machine (Option (ExecuteResponse × Bool)) :=
  match result with
  | .error failure => do
    report .warn "Execute in-doubt; polling to resolve:" [.str failure.detail]
    pure none
  | .malformed => do
    report .error "Execute reply is not an execute response; in doubt, polling" []
    pure none
  | .reply response =>
    match readRelayedExecuteReply response with
    | none => do
      report .error "Execute reply is not an execute response; in doubt, polling" []
      pure none
    | some reply =>
      if some reply.intentId ≠ intentId then do
        report .error "Execute reply names another intent; in doubt, polling"
          [.obj [("reply", .str reply.intentId), ("current", (intentId.map Value.str).getD .null)]]
        pure none
      else do
        if !(response.member "readToken").isUndefined then
          report .warn "Execute reply carried a readToken; keep it outside the machine" []
        pure (some (decodeReply reply, (decodeWireStatus (.str reply.status)).isUnmapped))

/-- Inline fill: the execute round-trip bounds submit to filled exactly. -/
def timeFill (next : Model) (status : WireStatus) (now : Int) : Model :=
  match next.submittedAt with
  | some submittedAt =>
    if status = .known .completed then { next with clientFillMs := some (now - submittedAt) }
    else next
  | none => next

/-- The verdict of a reply that reads as this intent's execute response. -/
def applyExecuteDecision (next : Model) (response : ExecuteResponse) (unmapped : Bool)
    (now : Int) : Machine Model :=
  match decideExecuteResult response with
  | .failed error mayHaveMoved =>
    transition next .failed fun intent =>
      { intent with error := some (.text error), mayHaveMoved := mayHaveMoved }
  | .transition status updates => do
    let updates := if unmapped then { updates with reconciling := true } else updates
    let timed := timeFill next status now
    let moved ← transitionTo timed status updates.apply
    -- A refused move must not drop an in-doubt verdict with it.
    let refused :=
      match status with
      | .known target => !canTransitionTo timed.intent.status target
      | .inherited _ => true
    pure (if updates.reconciling && refused then
      patch moved fun intent => { intent with reconciling := true } else moved)

/-- The rest of `onExecuted`, once the reply is no refusal: its flow is over, and the response is
read. -/
def readExecute (next : Model) (result : ExecuteResult) (now : Int) : Machine Model := do
  match ← executeResponseUnlessInDoubt result next.intent.intentId with
  | none => pure (patch next fun intent => { intent with reconciling := true })
  | some (response, unmapped) =>
    -- `quoted`: the Worker ended its own claim, and nothing is in flight.
    if response.success = false ∧ response.status = .known .quoted
        ∧ next.intent.status = .executing ∧ next.intent.reconciling = false then do
      report .warn "Execute ended unclaimed (the intent reads quoted); not sent yet" []
      pure (patch next fun intent =>
        { intent with
          notSent := true
          error := some (.text ((textOrNone response.error).getD "The order was not sent.")) })
    else applyExecuteDecision next response unmapped now

def onExecuted (m : Model) (flowId : String) (result : ExecuteResult) (now : Int) :
    Machine Model :=
  match m.sign with
  | none => pure m
  | some flow =>
    if flow.id ≠ flowId ∨ flow.stage ≠ .execute ∨ awaitingResend m = true then pure m
    else do
      let handled ←
        match notAcceptedReport result with
        | some failure => onNotAccepted m flow failure now
        | none => pure none
      match handled with
      | some handled => pure handled
      | none => do
        let next := endSignFlow { m with pendingIntentSig := none } flow
        readExecute next result now

end

end XochiSdk.Client
