import XochiSdk.Client.Machine.StatusActs

/-!
# The sign ceremony as acts

A step of the ceremony that prompts the wallet, sends an execute or keeps what was signed is
one `Ceremony` outcome, from the model it was handled in. Every other branch of the section is
a chain of acts.
-/

namespace XochiSdk.Client

open XochiSdk.Js XochiSdk.Shared XochiSdk.Signer XochiSdk.Library Emits

/-- What the decompositions below take from the model they start in; every reachable model
has it. -/
structure Coherent (m : Model) : Prop where
  /-- A planned refresh is for the amount on the form. -/
  refresh : ∀ plan, m.refresh = some plan → plan.amount = m.amount
  /-- Only Confirm raises an intent prompt. -/
  origin : ∀ flow, m.sign = some flow → flow.stage = .intent → flow.origin = .sign
  /-- A ceremony runs while signing, or beside an execute. -/
  confined : m.sign.isSome = true ∨ m.pendingIntentSig.isSome = true →
    m.intent.status = .signing ∨ m.intent.status = .executing
  /-- Confirm's own prompts are out only while signing. -/
  signing : ∀ flow, m.sign = some flow → flow.origin = .sign → flow.stage ≠ .execute →
    m.intent.status = .signing
  /-- An execute is out only while executing. -/
  executes : ∀ flow, m.sign = some flow → flow.stage = .execute → m.intent.status = .executing

/-- The execute a flow sends with what it collected. -/
def executeRequest (m : Model) (signature : String) (pullSignature : Option String) (now : Int) :
    ExecuteRequest where
  intentId := m.intent.intentId.getD ""
  quoteId := m.intent.quoteId.getD ""
  signature := signature
  nonce := now
  pullSignature := pullSignature

/-- The wallet reply that completes a ceremony, and the signatures it hands to `/execute`. -/
inductive Completes (msg : Msg) (m : Model) (flow : SignFlow) : String → Option String → Prop where
  | intent {signature : String} (body : msg.body = .signReplied flow.id .intent (.ok signature))
      (stage : flow.stage = .intent) (pull : m.intent.quote.bind (·.pullAuthorization) = none) :
      Completes msg m flow signature none
  | pull {signature : String} (body : msg.body = .signReplied flow.id .pull (.ok signature))
      (stage : flow.stage = .pull) :
      Completes msg m flow (flow.intentSignature.getD "") (some signature)

section

variable [Host]

/-- The pull's pin and amount, as `completePull` checks them, and the verdict. -/
structure PinRead (m : Model) (pull : Eip712TypedData) (expected : Int)
    (verdict : Option SolverPinRejection) : Prop where
  held : m.intent.quote.bind (·.pullAuthorization) = some pull
  amount : ∃ eip712, m.intent.quote.bind (·.eip712Data) = some eip712 ∧
    readAmount (expectedPullAmount m eip712) = .ok expected
  pin : validateSolverPin pull m.config.solverPin expected = .ok verdict

/-- The pull passed, and approval may be asked for. -/
abbrev Pinned (m : Model) (pull : Eip712TypedData) (expected : Int) : Prop :=
  PinRead m pull expected none

/-- The "Sign 2 of 2" tap passed its guards. -/
structure Taps (msg : Msg) (m : Model) : Prop where
  body : msg.body = .pullSignRequested
  pending : textSet m.pendingIntentSig = true
  idle : m.isSigningPull = false
  unsigned : m.sign = none
  preflight : signPreflight m msg.now = .proceed

/-- The flow the tap starts. -/
def tapFlow (m : Model) : SignFlow where
  id := "s" ++ toString (m.seq + 1)
  origin := .pull
  stage := .approval
  intentSignature := m.pendingIntentSig
  execute := none

inductive Ceremony (msg : Msg) (m : Model) : List Effect → Model → Prop where
  | prompted {quote : QuoteResponse} {eip712 : Eip712TypedData} {fx fy : List Effect}
      (body : msg.body = .signRequested) (held : m.intent.quote = some quote)
      (signable : canSignQuote m.intent.status (some quote) = true)
      (current : holdsCurrentQuote m = true) (pull : quote.hasDeposit = false)
      (typed : quote.eip712Data = some eip712) (preflight : signPreflight m msg.now = .proceed)
      (payout : validatePayoutPin eip712 quote.toAmount
        (textOrNone (textOrNone (m.ctx.recipientAddress.map trim) <|> m.ctx.wallet.address)) = none)
      (before : Quiet fx) (after : Quiet fy) :
      Ceremony msg m
        (fx ++ .wallet (.signTypedData ("s" ++ toString (m.seq + 1)) .intent eip712
          m.ctx.wallet.chainId) :: fy)
        { moved m .signing { m.intent with status := .signing, refusal := none } with
          seq := m.seq + 1
          sign := some { id := "s" ++ toString (m.seq + 1), origin := .sign, stage := .intent
                         intentSignature := none, execute := none } }
  | executed {flow : SignFlow} {signature : String} {pullSignature : Option String}
      {pendingIntentSig intentSignature : Option String} {awaitingPull : Bool} {fx : List Effect}
      (live : m.sign = some flow) (signing : m.intent.status = .signing)
      (completes : Completes msg m flow signature pullSignature)
      (awaits : awaitingPull = true → flow.stage = .intent ∧ m.awaitingPull = true)
      (before : Quiet fx) :
      Ceremony msg m
        (fx ++ [.api (.execute flow.id (executeRequest m signature pullSignature msg.now))])
        { m with
          intent := { m.intent with status := .executing, notSent := false }
          pendingIntentSig := pendingIntentSig, awaitingPull := awaitingPull
          submittedAt := some msg.now, clientFillMs := none
          sign := some { flow with
            stage := .execute
            intentSignature := intentSignature
            execute := some
              { request := executeRequest m signature pullSignature msg.now
                resends := 0, resendAt := none, error := none } } }
  /-- The first signature is kept for a tap. -/
  | kept {flow : SignFlow} {signature : String} {awaitingPull isSigningPull : Bool}
      {fx : List Effect} (body : msg.body = .signReplied flow.id .intent (.ok signature))
      (live : m.sign = some flow) (stage : flow.stage = .intent)
      (signing : m.intent.status = .signing)
      (signs : isSigningPull = true → m.isSigningPull = true) (h : Quiet fx) :
      Ceremony msg m fx { m with
        pendingIntentSig := some signature, awaitingPull := awaitingPull
        isSigningPull := isSigningPull, sign := none }
  | approvalAsked {flow : SignFlow} {signature : String} {pull : Eip712TypedData} {expected : Int}
      {fx : List Effect} (body : msg.body = .signReplied flow.id .intent (.ok signature))
      (live : m.sign = some flow) (stage : flow.stage = .intent)
      (signing : m.intent.status = .signing) (pinned : Pinned m pull expected) (before : Quiet fx) :
      Ceremony msg m (fx ++ [.wallet (.ensureApproval flow.id (toString expected))])
        { m with
          pendingIntentSig := some signature
          sign := some { flow with stage := .approval, intentSignature := some signature } }
  | tapped {pull : Eip712TypedData} {expected : Int} (taps : Taps msg m)
      (pinned : Pinned m pull expected) :
      Ceremony msg m [.wallet (.ensureApproval (tapFlow m).id (toString expected))]
        { m with isSigningPull := true, seq := m.seq + 1, sign := some (tapFlow m) }
  /-- The tap's pin was refused beside an execute: the refused move leaves the tap's flow. -/
  | tapRefused {pull : Eip712TypedData} {expected : Int} {rejection : SolverPinRejection}
      {fx : List Effect} (taps : Taps msg m) (read : PinRead m pull expected (some rejection))
      (edge : canTransitionTo m.intent.status .quoted = false) (h : Quiet fx) :
      Ceremony msg m fx { m with
        isSigningPull := true, seq := m.seq + 1, sign := some (tapFlow m) }
  | pullPrompted {flow : SignFlow} {pull : Eip712TypedData} {fy : List Effect}
      (body : msg.body = .approvalReplied flow.id (.ok true)) (live : m.sign = some flow)
      (stage : flow.stage = .approval)
      (held : m.intent.quote.bind (·.pullAuthorization) = some pull) (after : Quiet fy) :
      Ceremony msg m
        (.wallet (.signTypedData flow.id .pull pull m.ctx.wallet.chainId) :: fy)
        { m with sign := some { flow with stage := .pull } }
  /-- Not accepted: the request is held for a resend. -/
  | held {flow : SignFlow} {attempt : ExecuteAttempt} {failure : ErrorReport} {delayMs : ℚ}
      {error : Option ErrorValue} {fx : List Effect}
      (body : msg.body = .executeReplied flow.id (.error failure))
      (refused : failure.notAccepted = some true) (live : m.sign = some flow)
      (stage : flow.stage = .execute) (out : awaitingResend m = false)
      (sent : flow.execute = some attempt) (own : m.intent.intentId = some attempt.request.intentId)
      (executing : m.intent.status = .executing) (certain : m.intent.reconciling = false)
      (decision : decideExecuteResend attempt.resends failure.retryAfter
        (executeDeadline m.intent.quote) msg.now = .resend delayMs) (h : Quiet fx) :
      Ceremony msg m fx { m with
        pendingIntentSig := none
        sign := some { flow with
          execute := some { attempt with
            resendAt := some (msg.now + delayMs), error := error } } }
  | resent {flow : SignFlow} {attempt : ExecuteAttempt} {deadline : ℚ} {fx : List Effect}
      (live : m.sign = some flow) (sent : flow.execute = some attempt)
      (waits : awaitingResend m = true) (executing : m.intent.status = .executing)
      (bound : executeDeadline m.intent.quote = some deadline)
      (inTime : (msg.now : ℚ) ≤ resendLimit deadline) (before : Quiet fx) :
      Ceremony msg m
        (fx ++ [.api (.execute ("s" ++ toString (m.seq + 1)) attempt.request)])
        { m with
          seq := m.seq + 1
          submittedAt := some msg.now
          sign := some { flow with
            id := "s" ++ toString (m.seq + 1)
            execute := some { attempt with
              resends := attempt.resends + 1, resendAt := none, error := none } } }

/-- A step is one outcome of the ceremony, or a chain of acts. -/
def Steps (wall : WallClock) (msg : Msg) (m : Model) (x : Machine Model) : Prop :=
  Ceremony msg m x.log x.value ∨ Does wall msg.cause m x

theorem decideSignPreflight_cases {input : SignPreflightInput}
    (deposit : input.hasDepositAddress = false) (typed : input.hasEip712 = true) :
    (∃ refusal error, decideSignPreflight input = .rejectToQuoted refusal error) ∨
      (∃ error, decideSignPreflight input = .rejectToExpired error) ∨
        decideSignPreflight input = .proceed := by
  unfold decideSignPreflight
  simp only [deposit, typed, Bool.false_eq_true, if_false, Bool.not_true]
  split_ifs
  · exact .inl ⟨_, _, rfl⟩
  · exact .inl ⟨_, _, rfl⟩
  · exact .inl ⟨_, _, rfl⟩
  · exact .inr (.inl ⟨_, rfl⟩)
  · exact .inr (.inr rfl)

theorem signPreflight_cases (m : Model) (now : Int) :
    (∃ refusal error, signPreflight m now = .rejectToQuoted refusal error) ∨
      (∃ error, signPreflight m now = .rejectToExpired error) ∨ signPreflight m now = .proceed := by
  unfold signPreflight
  exact decideSignPreflight_cases rfl rfl

variable {wall : WallClock} {msg : Msg} {m : Model}

namespace Steps

theorem acts {x : Machine Model} (h : Does wall msg.cause m x) : Steps wall msg m x := .inr h

theorem ceremony {x : Machine Model} (h : Ceremony msg m x.log x.value) : Steps wall msg m x :=
  .inl h

theorem ite {c : Prop} [Decidable c] {x y : Machine Model} (yes : c → Steps wall msg m x)
    (no : ¬c → Steps wall msg m y) : Steps wall msg m (if c then x else y) := by
  split
  · exact yes ‹_›
  · exact no ‹_›

/-- A refused move leaves the model it was asked of. -/
theorem refused {x : Machine Unit} {m₁ : Model} {target : IntentStatus}
    {updates : IntentState → IntentState} (before : Quiet x.log)
    (edge : canTransitionTo m₁.intent.status target = false)
    (h : ∀ fx, Quiet fx → Ceremony msg m fx m₁) :
    Steps wall msg m (x >>= fun _ => transition m₁ target updates) := by
  refine .ceremony ?_
  rw [value_bind, log_bind, (transition_of_no_edge edge).1]
  exact h _ (quiet_append.mpr ⟨before, (transition_of_no_edge edge).2⟩)

end Steps

/-! ## Confirm -/

theorem revealDeposit_does {quote : QuoteResponse} (body : msg.body = .signRequested)
    (held : m.intent.quote = some quote)
    (signable : canSignQuote m.intent.status (some quote) = true)
    (current : holdsCurrentQuote m = true) (deposit : quote.hasDeposit = true) :
    Does wall msg.cause m (revealDeposit m msg.now) := by
  unfold revealDeposit
  dsimp only
  cases window : m.intent.depositDeadline with
  | none => exact .after (report_quiet _ _ _) (.move fun edge => .lapsed edge (.inl (Msg.cause_body body)))
  | some deadline =>
    refine .ite (fun _ => ?_) fun open_ => ?_
    · exact .after (report_quiet _ _ _) (.move fun edge => .lapsed edge (.inl (Msg.cause_body body)))
    · exact .move fun _ => .revealed (Msg.cause_body body) held signable current deposit window
        (by simpa using open_)

theorem beginIntentSign_steps {quote : QuoteResponse} {eip712 : Eip712TypedData}
    (body : msg.body = .signRequested) (quoted : m.intent.status = .quoted)
    (held : m.intent.quote = some quote)
    (signable : canSignQuote m.intent.status (some quote) = true)
    (current : holdsCurrentQuote m = true) (pull : quote.hasDeposit = false)
    (typed : quote.eip712Data = some eip712) :
    Steps wall msg m (beginIntentSign m quote eip712 msg.now) := by
  unfold beginIntentSign
  rcases signPreflight_cases m msg.now with ⟨refusal, error, pre⟩ | ⟨error, pre⟩ | pre
  · rw [pre]
    exact .acts (.act (.annotated (.inl rfl)))
  · rw [pre]
    exact .acts (.move fun edge => .lapsed edge (.inl (Msg.cause_body body)))
  · rw [pre]
    dsimp only [promptIntent]
    split
    · exact .acts (.after (report_quiet _ _ _) (.act (.annotated (.inl rfl))))
    · rename_i payout
      have edge : canTransitionTo m.intent.status .signing = true := by rw [quoted]; rfl
      let clears : IntentState → IntentState := fun intent => { intent with refusal := none }
      have landed : (transition m .signing clears).value =
            moved m .signing { m.intent with status := .signing, refusal := none } ∧
          Quiet (transition m .signing clears).log := transition_of_edge edge
      refine .ceremony ?_
      simp only [value_bind, log_bind]
      rw [landed.1, if_neg (by simp [moved])]
      exact .prompted body held signable current pull typed pre payout landed.2 (by simp)

theorem beginSign_steps (body : msg.body = .signRequested) :
    Steps wall msg m (beginSign m msg.now) := by
  unfold beginSign
  refine .ite (fun _ => .acts .done) fun quoted => ?_
  have quoted : m.intent.status = .quoted := not_not.mp quoted
  have noQuote : Does wall msg.cause m (pure (patch m fun intent =>
      { intent with error := some (.text "No quote to sign") })) := .act (.annotated (.inl rfl))
  dsimp only
  cases held : m.intent.quote with
  | none => exact .acts noQuote
  | some quote =>
    refine .ite (fun _ => .acts noQuote) fun signable => ?_
    refine .ite (fun _ => .acts (.after (report_quiet _ _ _) .done)) fun current => ?_
    simp only [Bool.not_eq_true', Bool.not_eq_false] at signable current
    refine .ite (fun deposit => ?_) fun pull => ?_
    · exact .acts (revealDeposit_does body held signable current deposit)
    · cases typed : quote.eip712Data with
      | none => exact .acts noQuote
      | some eip712 =>
        exact beginIntentSign_steps body quoted held signable current (by simpa using pull) typed

/-! ## A wallet step that failed -/

theorem endSignFlow_act (free : Stops msg.cause m) (flow : SignFlow) :
    Act wall msg.cause m [] (endSignFlow m flow) :=
  .stopped free (.inl rfl) id (by split <;> simp)

/-- The prompt is over and the quote is shown again. -/
theorem endSignFlow_returned {m₁ : Model} (ends : EndsCeremony msg.cause)
    (ended : Chain (Act wall msg.cause) m [] m₁)
    (updates : IntentState → IntentState)
    (h : ∀ intent, ∃ error refusal,
      updates intent = { intent with error := error, refusal := refusal }) :
    Does wall msg.cause m (transition m₁ .quoted updates) := by
  refine Chain.trans ended (Does.move (m := m₁) fun edge => ?_)
  obtain ⟨_, _, same⟩ := h { m₁.intent with status := .quoted }
  rw [same]
  exact .returned ends edge

/-- A move out of a ceremony that cleared what it had collected meanwhile. -/
theorem Does.leave {m₁ : Model} {target : IntentStatus} {updates : IntentState → IntentState}
    {sign : Option SignFlow} {pendingIntentSig : Option String} {awaitingPull isSigningPull : Bool}
    (signing : m.intent.status = .signing) (back : target = .quoted ∨ target = .failed)
    (same : m₁ = { m with
      sign := sign, pendingIntentSig := pendingIntentSig
      awaitingPull := awaitingPull, isSigningPull := isSigningPull })
    (h : canTransitionTo m.intent.status target = true →
      Act wall msg.cause m [] (moved m target (updates { m.intent with status := target }))) :
    Does wall msg.cause m (transition m₁ target updates) := by
  have landed : (transition m₁ target updates).value =
        moved m target (updates { m.intent with status := target }) ∧
      Quiet (transition m₁ target updates).log := transition_signing signing back same
  refine .of_parts landed.1 landed.2 (.single (h ?_))
  rw [signing]
  rcases back with rfl | rfl <;> rfl

theorem signFlowFailed_does {flow : SignFlow} {failure : ErrorReport} (coherent : Coherent m)
    (ending : EndsCeremony msg.cause)
    (live : m.sign = some flow)
    (h : flow.stage = .execute → failure = promptTimeout ∧ msg.body = .timerFired .signPrompt) :
    Does wall msg.cause m (signFlowFailed m failure) := by
  have free : Stops msg.cause m := by
    intro other live' stage
    rw [live] at live'
    cases live'
    exact .inr (.inl (Msg.cause_body (h stage).2))
  have ends : Chain (Act wall msg.cause) m [] (endSignFlow m flow) :=
    .single (endSignFlow_act free flow)
  unfold signFlowFailed
  rw [live]
  refine .after (by simp) ?_
  dsimp only
  cases origin : flow.origin with
  | sign =>
    refine .ite (fun _ => endSignFlow_returned ending ends _ fun _ => ⟨_, _, rfl⟩) fun _ => ?_
    refine .ite (fun _ => endSignFlow_returned ending ends _ fun _ => ⟨_, _, rfl⟩) fun answered => ?_
    have stage : flow.stage ≠ .execute := by
      intro out
      rw [(h out).1] at answered
      exact answered rfl
    have signing := coherent.signing flow live origin stage
    exact .after (report_quiet _ _ _)
      (.leave signing (.inr rfl) rfl fun _ => .signFailed ending live origin stage signing)
  | pull =>
    refine .ite (fun _ => ?_) fun _ => ?_
    · exact endSignFlow_returned ending (.snoc ends (.stopped (.of_none rfl) (.inl rfl) (by simp) id)) _
        fun _ => ⟨_, _, rfl⟩
    · exact .after (report_quiet _ _ _) (.step (endSignFlow_act free flow)
        (.act (.annotated (.inl rfl))))

theorem onApproval_steps {flowId : String} {result : Outcome Bool} (coherent : Coherent m)
    (body : msg.body = .approvalReplied flowId result) :
    Steps wall msg m (onApproval m flowId result) := by
  unfold onApproval
  cases live : m.sign with
  | none => exact .acts .done
  | some flow =>
    refine .ite (fun _ => .acts .done) fun here => ?_
    obtain ⟨rfl, stage⟩ : flow.id = flowId ∧ flow.stage = .approval := by simpa using here
    cases result with
    | error failure =>
      refine .acts (signFlowFailed_does coherent (.of_body body rfl) live fun out => ?_)
      rw [stage] at out
      cases out
    | ok approved =>
      cases approved with
      | false => exact .acts (.move fun edge => .returned (.of_body body rfl) edge)
      | true =>
        dsimp only
        cases held : m.intent.quote.bind (·.pullAuthorization) with
        | none =>
          refine .acts (.act (endSignFlow_act (.of_stage fun other live' => ?_) flow))
          rw [live] at live'
          cases live'
          rw [stage]
          decide
        | some pull =>
          have prompts : Ceremony msg m
              [.wallet (.signTypedData flow.id .pull pull m.ctx.wallet.chainId),
                .timer (.set .signPrompt signPromptTimeoutMs false)]
              { m with sign := some { flow with stage := .pull } } :=
            .pullPrompted body live stage held (by simp)
          exact .ceremony prompts

/-! ## The pull's pin and approval -/

/-- What `completePull` does, from the model that holds what was signed so far. -/
inductive PullCompletion (m : Model) (flow : SignFlow) (x : Machine Model) : Prop where
  | nothing (h : x = pure (endSignFlow m flow))
      (held : m.intent.quote.bind (·.pullAuthorization) = none ∨
        m.intent.quote.bind (·.eip712Data) = none)
  | unreadable {failure : ErrorReport} (rejected : failure.rejected = false)
      (h : x = signFlowFailed { m with sign := some flow } failure)
  | refused {pull : Eip712TypedData} {expected : Int} {rejection : SolverPinRejection}
      {error : ErrorValue} (read : PinRead m pull expected (some rejection))
      (h : x = do
        report .error "Refusing to sign origin pull:" [pinValue rejection]
        transition { m with sign := some flow } .quoted fun intent =>
          { intent with error := some error, refusal := some .pull_unpinned })
  | approval {pull : Eip712TypedData} {expected : Int} (pinned : Pinned m pull expected)
      (value : x.value = { m with sign := some { flow with stage := .approval } })
      (log : x.log = [.wallet (.ensureApproval flow.id (toString expected))])

theorem readAmount_error {raw : Value} {failure : ErrorReport}
    (h : readAmount raw = .error failure) : failure.rejected = false := by
  unfold readAmount at h
  dsimp only at h
  split at h
  · cases h
  · cases h
    rfl

theorem completePull_cases {flow : SignFlow} {x : Machine Model}
    (completed : completePull m flow = .ok x) : PullCompletion m flow x := by
  unfold completePull at completed
  cases held : m.intent.quote.bind (·.pullAuthorization) with
  | none =>
    rw [held] at completed
    cases completed
    exact .nothing rfl (.inl held)
  | some pull =>
    cases typed : m.intent.quote.bind (·.eip712Data) with
    | none =>
      rw [held, typed] at completed
      cases completed
      exact .nothing rfl (.inr typed)
    | some eip712 =>
      rw [held, typed] at completed
      dsimp only at completed
      cases amount : readAmount (expectedPullAmount m eip712) with
      | error failure =>
        rw [amount] at completed
        cases completed
        exact .unreadable (readAmount_error amount) rfl
      | ok expected =>
        rw [amount] at completed
        obtain ⟨verdict, pin, rest⟩ := bind_ok.mp completed
        cases verdict with
        | some rejection =>
          cases rest
          exact .refused ⟨held, ⟨eip712, typed, amount⟩, pin⟩ rfl
        | none =>
          cases rest
          exact .approval ⟨held, ⟨eip712, typed, amount⟩, pin⟩ rfl rfl

/-- A pull that cannot be read or pinned ends Confirm's ceremony where it stands. -/
theorem completePull_signed {flow : SignFlow} {signature : String} {x : Machine Model}
    (body : msg.body = .signReplied flow.id .intent (.ok signature))
    (live : m.sign = some flow) (stage : flow.stage = .intent) (origin : flow.origin = .sign)
    (signing : m.intent.status = .signing)
    (completed : completePull { m with pendingIntentSig := some signature }
      { flow with intentSignature := some signature } = .ok x) :
    Steps wall msg m (do
      clearTimer .signPrompt
      x) := by
  have ending : EndsCeremony msg.cause := .of_body body rfl
  rcases completePull_cases completed with ⟨rfl, -⟩ | ⟨rejected, rfl⟩ | ⟨read, rfl⟩ |
    ⟨pinned, value, log⟩
  · exact .ceremony (.kept body live stage signing (by split <;> simp) (by simp))
  · refine .acts (.after (by simp) ?_)
    unfold signFlowFailed
    refine .after (by simp) ?_
    dsimp only
    rw [rejected, origin]
    refine .ite (fun h => by cases h) fun _ => .ite (fun _ => ?_) fun _ => ?_
    · exact .leave signing (.inl rfl) rfl fun edge => .returned ending edge
    · exact .after (report_quiet _ _ _) (.leave signing (.inr rfl) rfl fun _ =>
        .signFailed ending live origin (by rw [stage]; decide) signing)
  · exact .acts (.after (by simp) (.after (report_quiet _ _ _)
      (.leave signing (.inl rfl) rfl fun edge => .returned ending edge)))
  · refine .ceremony ?_
    simp only [value_bind, log_bind, clearTimer_log]
    rw [value, log]
    have asks : Ceremony msg m ([.timer (.clear .signPrompt)] ++
        [.wallet (.ensureApproval flow.id (toString _))])
        { m with
          pendingIntentSig := some signature
          sign := some { flow with stage := .approval, intentSignature := some signature } } :=
      .approvalAsked body live stage signing ⟨pinned.held, pinned.amount, pinned.pin⟩ (by simp)
    exact asks

/-- The "Sign 2 of 2" tap. -/
theorem beginPullSign_steps {x : Machine Model} (coherent : Coherent m)
    (body : msg.body = .pullSignRequested) (begun : beginPullSign m msg.now = .ok x) :
    Steps wall msg m x := by
  have ending : EndsCeremony msg.cause := .of_body body rfl
  unfold beginPullSign at begun
  dsimp only at begun
  split at begun
  · cases begun
    exact .acts .done
  rename_i guards
  simp only [Bool.or_eq_true, Bool.not_eq_true', not_or, Bool.not_eq_false, Bool.not_eq_true] at guards
  obtain ⟨⟨⟨pending, -⟩, idle⟩, unsigned⟩ := guards
  have unsigned : m.sign = none := by simpa using unsigned
  have awaits : Act wall msg.cause m [] { m with awaitingPull := false } := by
    have stops : Act wall msg.cause m [] { m with
        sign := none, pendingIntentSig := m.pendingIntentSig
        awaitingPull := false, isSigningPull := m.isSigningPull } :=
      .stopped (.of_none unsigned) (.inl rfl) (by simp) id
    rwa [← unsigned] at stops
  have refuses (error : String) : Does wall msg.cause m
      (transition { m with awaitingPull := false } .quoted fun intent =>
        { intent with error := some (.text error) }) :=
    endSignFlow_returned ending (.single awaits) _ fun _ => ⟨_, _, rfl⟩
  rcases signPreflight_cases m msg.now with ⟨refusal, error, pre⟩ | ⟨error, pre⟩ | pre
  · rw [pre] at begun
    cases begun
    exact .acts (refuses _)
  · rw [pre] at begun
    cases begun
    exact .acts (refuses _)
  rw [pre] at begun
  have taps : Taps msg m := ⟨body, pending, idle, unsigned, pre⟩
  have counted : Act wall msg.cause m [] { m with seq := m.seq + 1 } := .noted (Nat.le_succ _)
  have ended : endSignFlow { m with isSigningPull := true, seq := m.seq + 1 } (tapFlow m) =
      { m with seq := m.seq + 1 } := by
    unfold endSignFlow tapFlow
    rw [if_pos rfl, ← unsigned, ← idle]
  rcases completePull_cases begun with ⟨rfl, -⟩ | ⟨rejected, rfl⟩ | ⟨read, rfl⟩ |
    ⟨pinned, value, log⟩
  · have nothing : Act wall msg.cause m [] (endSignFlow { m with isSigningPull := true, seq := m.seq + 1 }
        (tapFlow m)) := by
      rw [ended]
      exact counted
    exact .acts (.act nothing)
  · refine .acts (.after (by simp) ?_)
    dsimp only
    rw [rejected]
    refine .ite (fun h => by cases h) fun _ => .after (report_quiet _ _ _) (.step counted ?_)
    have erred : Does wall msg.cause { m with seq := m.seq + 1 } (pure (patch
        (endSignFlow { m with isSigningPull := true, seq := m.seq + 1 } (tapFlow m)) fun intent =>
        { intent with error := some (.text
            "Couldn't reach the wallet. Tap to try the second signature again.") })) := by
      rw [ended]
      exact .act (.annotated (.inl rfl))
    exact erred
  · rcases coherent.confined (.inr (by
      cases h : m.pendingIntentSig <;> simp_all [textSet])) with signing | executing
    · have signing' : ({ m with seq := m.seq + 1 } : Model).intent.status = .signing := signing
      exact .acts (.after (report_quiet _ _ _) (.step counted
        (.leave signing' (.inl rfl) rfl fun edge => .returned ending edge)))
    · have edge : canTransitionTo m.intent.status .quoted = false := by rw [executing]; rfl
      exact .refused (report_quiet _ _ _) edge fun fx h =>
        .tapRefused taps ⟨read.held, read.amount, read.pin⟩ edge h
  · refine .ceremony ?_
    rw [value, log]
    exact .tapped taps ⟨pinned.held, pinned.amount, pinned.pin⟩

end

end XochiSdk.Client
