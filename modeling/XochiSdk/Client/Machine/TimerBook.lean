import XochiSdk.Client.Machine.PollRules

/-!
# The timers

Every handler and every rule leaves armed the timers that the model it leaves runs: the prompt's
while a signature prompt is out, the resend's while one is awaited, the refresh, the poll and the
countdown while the model has them.
-/

namespace XochiSdk.Client

open XochiSdk.Js XochiSdk.Shared XochiSdk.Signer XochiSdk.Library Emits

/-- The prompt timer after an effect. -/
def armedAfter (armed : Bool) : Effect → Bool
  | .timer (.set .signPrompt ..) => true
  | .timer (.clear .signPrompt) => false
  | _ => armed

/-- A signature is asked for, and its prompt is out. -/
def prompting (m : Model) : Bool :=
  match m.sign with
  | some flow => flow.stage == .intent || flow.stage == .pull
  | none => false

/-- The poll that the model runs, unless it was stopped. -/
def polls (m : Model) : Bool :=
  match m.poll with
  | some poll => !poll.stopped
  | none => false

/-- Which of the five timers are armed. The debounce has no place in the model. -/
structure TimerBook where
  prompt : Bool
  execute : Bool
  refresh : Bool
  poll : Bool
  expiry : Bool
  deriving DecidableEq

namespace TimerBook

def put (b : TimerBook) (timer : TimerName) (armed : Bool) : TimerBook :=
  match timer with
  | .signPrompt => { b with prompt := armed }
  | .execute => { b with execute := armed }
  | .refresh => { b with refresh := armed }
  | .poll => { b with poll := armed }
  | .expiry => { b with expiry := armed }
  | .debounce => b

/-- The book after an effect. -/
def after (b : TimerBook) : Effect → TimerBook
  | .timer (.set timer ..) => b.put timer true
  | .timer (.clear timer) => b.put timer false
  | _ => b

end TimerBook

/-- The timers that a model runs. -/
def book (m : Model) : TimerBook where
  prompt := prompting m
  execute := awaitingResend m
  refresh := m.refresh.isSome
  poll := polls m
  expiry := m.watched.expiry.isSome

/-- An effect that leaves the book alone. -/
def Effect.OffBook (e : Effect) : Prop := ∀ b : TimerBook, b.after e = b

/-- From this book, the effects leave the timers armed that the model runs. -/
def Books (b : TimerBook) (x : Machine Model) : Prop := x.log.foldl TimerBook.after b = book x.value

theorem foldl_off {fx : List Effect} (off : ∀ e ∈ fx, e.OffBook) (b : TimerBook) :
    fx.foldl TimerBook.after b = b := by
  induction fx with
  | nil => rfl
  | cons e fx ih =>
    rw [List.foldl_cons, off e (by simp) b]
    exact ih fun e mem => off e (by simp [mem])

namespace Books

variable {b : TimerBook} {m m₁ : Model} {x : Machine Model} {α : Type}

theorem pure (same : b = book m₁) : Books b (Pure.pure m₁) := same

theorem fields (prompt : b.prompt = prompting m₁) (execute : b.execute = awaitingResend m₁)
    (refresh : b.refresh = m₁.refresh.isSome) (poll : b.poll = polls m₁)
    (expiry : b.expiry = m₁.watched.expiry.isSome) : Books b (Pure.pure m₁) := by
  obtain ⟨_, _, _, _, _⟩ := b
  cases prompt
  cases execute
  cases refresh
  cases poll
  cases expiry
  rfl

theorem bind {f : Model → Machine Model} (first : Books b x)
    (rest : Books (book x.value) (f x.value)) : Books b (x >>= f) := by
  unfold Books at first rest ⊢
  rw [log_bind, value_bind, List.foldl_append, first, rest]

theorem after {y : Machine α} {f : α → Machine Model} (off : ∀ e ∈ y.log, e.OffBook)
    (rest : Books b (f y.value)) : Books b (y >>= f) := by
  unfold Books at rest ⊢
  rw [log_bind, value_bind, List.foldl_append, foldl_off off, rest]

/-- Past a computation that answers with no model. -/
theorem through {c : TimerBook} {y : Machine α} {f : α → Machine Model}
    (first : y.log.foldl TimerBook.after b = c) (rest : Books c (f y.value)) :
    Books b (y >>= f) := by
  unfold Books at rest ⊢
  rw [log_bind, value_bind, List.foldl_append, first, rest]

/-- Past a timer that is set or cleared, whatever it was. -/
theorem put {f : Unit → Machine Model} {e : Effect} (rest : Books (b.after e) (f ())) :
    Books b (emit e >>= f) := rest

/-- From a model with the same timers. -/
theorem of {c : TimerBook} (h : Books c x) (same : b = c) : Books b x := same ▸ h

theorem ite {c : Prop} [Decidable c] {y : Machine Model} (yes : c → Books b x)
    (no : ¬c → Books b y) : Books b (if c then x else y) := by
  split
  · exact yes ‹c›
  · exact no ‹¬c›

end Books

theorem off_single {e : Effect} (h : ∀ b : TimerBook, b.after e = b) :
    ∀ e' ∈ [e], e'.OffBook := by
  intro e' mem
  rw [List.mem_singleton.mp mem]
  exact h

theorem report_off (level : LogLevel) (message : String) (data : List Value) :
    ∀ e ∈ (report level message data).log, e.OffBook :=
  off_single fun _ => rfl

section

variable {m : Model}

theorem endAllocation_off (allocate : Option Allocation) (ok : Bool) :
    ∀ e ∈ (endAllocation allocate ok).log, e.OffBook := by
  unfold endAllocation
  split
  · exact off_single fun _ => rfl
  · simp

theorem endAllocations_off (flights : List QuoteFlight) :
    ∀ e ∈ (endAllocations flights).log, e.OffBook := by
  induction flights with
  | nil => simp [endAllocations]
  | cons flight rest ih =>
    intro e mem
    rcases List.mem_append.mp mem with h | h
    · exact endAllocation_off _ _ e h
    · exact ih e h

theorem supersedeFlights_off (m : Model) : ∀ e ∈ (supersedeFlights m).log, e.OffBook := by
  intro e mem
  simp only [supersedeFlights, log_bind, log_pure, List.append_nil] at mem
  exact endAllocations_off _ e mem

theorem supersedeFlights_books (m : Model) : Books (book m) (supersedeFlights m) :=
  .after (endAllocations_off _) (.pure rfl)

/-- The book of a model whose prompt timer is in this state. -/
def promptBook (m : Model) (armed : Bool) : TimerBook := (book m).put .signPrompt armed

theorem promptBook_same {armed : Bool} (same : prompting m = armed) :
    promptBook m armed = book m := by
  rw [← same]
  rfl

theorem unsigned_idle (unsigned : m.sign = none) :
    prompting m = false ∧ awaitingResend m = false := by
  rw [prompting, awaitingResend, unsigned]
  exact ⟨rfl, rfl⟩

/-- Abandoning a ceremony clears its prompt, whatever the timer was. -/
theorem abandonSign_ends (armed : Bool) (live : m.sign.isSome = true) :
    Books (promptBook m armed) (abandonSign m) := by
  unfold abandonSign
  rw [if_pos live]
  refine .put ?_
  dsimp only
  split
  · exact .put (.pure rfl)
  · next waits => exact .fields rfl (Bool.eq_false_iff.mpr waits) rfl rfl rfl

theorem abandonSign_books (m : Model) : Books (book m) (abandonSign m) := by
  cases live : m.sign.isSome with
  | true => exact abandonSign_ends _ live
  | false =>
    obtain ⟨idle, waits⟩ := unsigned_idle (m := m) (by simpa using live)
    unfold abandonSign
    rw [live, waits, if_neg (by decide), if_neg (by decide)]
    exact .fields idle waits rfl rfl rfl

theorem transition_books (m : Model) (target : IntentStatus)
    (updates : IntentState → IntentState) : Books (book m) (transition m target updates) := by
  have leaves (source : IntentStatus) (next : Model) : Books (book next)
      (if source == .executing || (source == .signing && !ownExecute next target) then
        abandonSign next
      else pure next) :=
    .ite (fun _ => abandonSign_books next) fun _ => .pure rfl
  unfold transition
  split
  · exact .after (report_off _ _ _) (.pure rfl)
  · rename_i intent _
    dsimp only
    split
    · exact .bind (supersedeFlights_books _) (leaves _ _)
    · exact .bind (.pure rfl) (leaves _ _)

theorem transitionTo_books (m : Model) (target : WireStatus)
    (updates : IntentState → IntentState) : Books (book m) (transitionTo m target updates) := by
  unfold transitionTo
  split
  · exact transition_books _ _ _
  · exact .after (report_off _ _ _) (.pure rfl)

/-! ## Quotes -/

theorem allocationFailed_book (m : Model) (error : ErrorValue) :
    book (allocationFailed m error) = book m := by
  unfold allocationFailed
  split
  · exact rfl
  · exact rfl

theorem quoteFailed_book (m : Model) (flight : QuoteFlight) (error : ErrorValue) :
    book (quoteFailed m flight error) = book m := by
  unfold quoteFailed
  split
  · exact allocationFailed_book m error
  · exact rfl

theorem dropStaleFlight_books (m : Model) (flight : QuoteFlight) :
    Books (book m) (dropStaleFlight m flight) :=
  .after (report_off _ _ _) (.after (endAllocation_off _ _) (.pure rfl))

theorem refuseQuote_books (m : Model) (flight : QuoteFlight) (error : String)
    (quote : Option QuoteResponse) : Books (book m) (refuseQuote m flight error quote) := by
  refine .after (endAllocation_off _ _) ?_
  exact .ite (fun _ => .pure rfl) fun _ => transition_books _ _ _

theorem quoteThrew_books (m : Model) (flight : QuoteFlight) (failure : ErrorReport) :
    Books (book m) (quoteThrew m flight failure) := by
  refine .after (report_off _ _ _) (.after (endAllocation_off _ _) ?_)
  exact .ite (fun _ => .pure rfl) fun _ => .pure (quoteFailed_book _ _ _).symm

variable [Host]

theorem sendQuote_books (m : Model) (flight : QuoteFlight) (now : Int) :
    Books (book m) (sendQuote m flight now) := by
  unfold sendQuote
  dsimp only
  refine .ite (fun _ => ?_) fun _ => ?_
  · refine .after (endAllocation_off _ _) (.ite (fun _ => .pure rfl) fun _ => ?_)
    exact .of (transition_books _ _ _) rfl
  split
  · refine .after (report_off _ _ _) (.after (endAllocation_off _ _) ?_)
    exact .ite (fun _ => .pure rfl) fun _ => .pure rfl
  · have sends (next : Model) : Books (book next) (do
        emit (.api (.quote flight.id (flightRequest flight now) flight.forceRefresh))
        pure (putFlight next
          { flight with stage := .api, request := some (flightRequest flight now) })) :=
      .after (off_single fun _ => rfl) (.pure rfl)
    split
    · exact .bind (.pure rfl) (sends _)
    · exact .bind (transition_books _ _ _) (sends _)

theorem startQuote_books (m : Model) (now : Int) (opts : QuoteOpts) :
    Books (book m) (startQuote m now opts) := by
  unfold startQuote
  dsimp only
  refine .ite (fun _ => ?_) fun _ => .ite (fun _ => ?_) fun _ => .ite (fun _ => ?_) fun _ => ?_
  · exact .after (report_off _ _ _) (.after (endAllocation_off _ _) (.pure rfl))
  · exact .after (endAllocation_off _ _) (.pure rfl)
  · refine .ite (fun _ => .pure rfl) fun _ => ?_
    exact .after (off_single fun _ => rfl) (.pure rfl)
  · exact .of (sendQuote_books _ _ _) rfl

theorem onSession_books (m : Model) (id : String) (result : SessionResult) (now : Int) :
    Books (book m) (onSession m id result now) := by
  unfold onSession
  split
  · exact .pure rfl
  refine .ite (fun _ => dropStaleFlight_books _ _) fun _ => .ite (fun _ => ?_) fun _ => ?_
  · exact sendQuote_books _ _ _
  · refine .after (endAllocation_off _ _) (.ite (fun _ => .pure rfl) fun _ => .pure ?_)
    exact (quoteFailed_book (withoutFlight m id) _ _).symm

theorem planRefresh_books (m : Model) (flight : QuoteFlight) (quote : QuoteResponse)
    (now : Int) : Books (book m) (planRefresh m flight quote now) := by
  have ends (next : Model) : Books (book next) (do
      endAllocation flight.allocate true
      pure next) :=
    .after (endAllocation_off _ _) (.pure rfl)
  unfold planRefresh
  split
  · split
    · exact .put (.bind (.pure rfl) (ends _))
    · exact .bind (.pure rfl) (ends _)
  · exact .bind (.pure rfl) (ends _)

theorem acceptQuote_books (m : Model) (flight : QuoteFlight) (quote : QuoteResponse)
    (attested : Option StoredDepositAttestation) (now : Int) :
    Books (book m) (acceptQuote m flight quote attested now) := by
  unfold acceptQuote
  dsimp only
  refine .ite (fun _ => .ite (fun _ => .pure rfl) fun _ => ?_) fun _ =>
    .ite (fun _ => ?_) fun _ => ?_
  · exact .of (planRefresh_books _ _ _ _) rfl
  · exact .of (planRefresh_books _ _ _ _) rfl
  · refine .bind (transition_books _ _ _) ?_
    split
    · exact .of (planRefresh_books _ _ _ _) rfl
    · exact .of (planRefresh_books _ _ _ _) rfl

theorem onServedQuote_books (wall : WallClock) (m : Model) (flight : QuoteFlight)
    (quote : QuoteResponse) (now : Int) :
    Books (book m) (onServedQuote wall m flight quote now) := by
  have rejected (verdict : DepositRejection) :
      Books (book m) (attestationRejected m flight verdict) :=
    .after (report_off _ _ _) (refuseQuote_books _ _ _ _)
  unfold onServedQuote
  split
  · exact .after (report_off _ _ _) (refuseQuote_books _ _ _ _)
  refine .ite (fun _ => acceptQuote_books _ _ _ _ _) fun _ => ?_
  split
  · exact rejected _
  split
  · exact rejected _
  · exact .of (acceptQuote_books _ _ _ _ _) rfl

theorem onQuote_books (wall : WallClock) (m : Model) (id : String)
    (result : Outcome QuoteResponse) (now : Int) :
    Books (book m) (onQuote wall m id result now) := by
  unfold onQuote
  split
  · exact .pure rfl
  refine .ite (fun _ => dropStaleFlight_books _ _) fun _ => ?_
  dsimp only
  split
  · exact .of (quoteThrew_books _ _ _) rfl
  · exact .of (onServedQuote_books _ _ _ _ _) rfl

end


/-! ## Sign and execute -/

section

variable {m : Model}

/-- A ceremony that signs is abandoned by its return to the quote, whatever the timer was. -/
theorem transition_returns (armed : Bool) (updates : IntentState → IntentState)
    (signing : m.intent.status = .signing) (live : m.sign.isSome = true) :
    Books (promptBook m armed) (transition m .quoted updates) := by
  have edge : canTransitionTo m.intent.status .quoted = true := by rw [signing]; rfl
  unfold transition applyStatusTransition
  rw [if_pos edge, signing]
  have ends (next : Model) (same : promptBook m armed = promptBook next armed)
      (live : next.sign.isSome = true) : Books (promptBook m armed) (abandonSign next) :=
    same ▸ abandonSign_ends armed live
  refine .after (by simp) ?_
  exact ends _ rfl live

/-- A failed wallet step clears the prompt of the flow it ends. -/
theorem signFlowFailed_from {b : TimerBook} {flow : SignFlow} (live : m.sign = some flow)
    (failure : ErrorReport) (ended : b.put .signPrompt false = book (endSignFlow m flow)) :
    Books b (signFlowFailed m failure) := by
  have moves {m₁ : Model} (target : IntentStatus) (updates : IntentState → IntentState)
      (same : b.put .signPrompt false = book m₁) :
      Books (b.put .signPrompt false) (transition m₁ target updates) :=
    .of (transition_books m₁ target updates) same
  unfold signFlowFailed
  rw [live]
  refine .put ?_
  change Books (b.put .signPrompt false) _
  dsimp only
  split
  · refine .ite (fun _ => moves _ _ ended) fun _ => .ite (fun _ => moves _ _ ended) fun _ => ?_
    exact .after (report_off _ _ _) (moves _ _ ended)
  · refine .ite (fun _ => moves _ _ ended) fun _ => ?_
    exact .after (report_off _ _ _) (.pure ended)

theorem signFlowFailed_ends (armed : Bool) (failure : ErrorReport) (live : m.sign.isSome = true)
    (waits : awaitingResend m = false) :
    Books (promptBook m armed) (signFlowFailed m failure) := by
  obtain ⟨flow, live⟩ := Option.isSome_iff_exists.mp live
  refine signFlowFailed_from live failure ?_
  rw [promptBook, book, waits]
  rfl

theorem promptSignature_books (armed : Bool) {flow : SignFlow} (purpose : Purpose)
    (typed : Eip712TypedData) (stage : flow.stage = purpose.stage)
    (waits : awaitingResend m = false) :
    Books (promptBook m armed) (promptSignature m flow purpose typed) := by
  have out : prompting { m with sign := some flow } = true := by
    unfold prompting
    dsimp only
    rw [stage]
    cases purpose <;> rfl
  have sent : awaitingResend { m with sign := some flow } = false := by
    unfold awaitingResend
    dsimp only
    rw [stage]
    cases purpose <;> rfl
  unfold promptSignature
  refine .after (off_single fun _ => rfl) (.put ?_)
  exact .fields out.symm (waits.trans sent.symm) rfl rfl rfl

theorem revealDeposit_books (m : Model) (now : Int) :
    Books (book m) (revealDeposit m now) := by
  unfold revealDeposit
  refine .ite (fun _ => ?_) fun _ => transition_books _ _ _
  exact .after (report_off _ _ _) (transition_books _ _ _)

/-- A flow at any other stage awaits no resend. -/
theorem waits_of_stage {flow : SignFlow} (live : m.sign = some flow)
    (stage : flow.stage ≠ .execute) : awaitingResend m = false := by
  unfold awaitingResend
  rw [live]
  dsimp only
  cases at_ : flow.stage with
  | execute => exact absurd at_ stage
  | _ => rfl

theorem idle_of_stage {flow : SignFlow} (live : m.sign = some flow)
    (stage : flow.stage = .approval ∨ flow.stage = .execute) : prompting m = false := by
  unfold prompting
  rw [live]
  dsimp only
  rcases stage with stage | stage <;> rw [stage] <;> rfl

theorem onApproval_books (m : Model) (flowId : String) (result : Outcome Bool) :
    Books (book m) (onApproval m flowId result) := by
  unfold onApproval
  cases live : m.sign with
  | none => exact .pure rfl
  | some flow =>
    refine .ite (fun _ => .pure rfl) fun here => ?_
    have stage : flow.stage = .approval := not_not.mp (not_or.mp here).2
    have waits : awaitingResend m = false := waits_of_stage live (by rw [stage]; decide)
    have idle : prompting m = false := idle_of_stage live (.inl stage)
    split
    · exact signFlowFailed_ends _ _ (by rw [live]; rfl) waits
    · exact transition_books _ _ _
    · split
      · exact .fields idle waits rfl rfl rfl
      · exact promptSignature_books _ _ _ rfl waits

theorem runExecute_ends (m : Model) (flow : SignFlow) (signature : String)
    (pullSignature : Option String) (now : Int) (live : m.sign.isSome = true)
    (waits : awaitingResend m = false) :
    Books (promptBook m false) (runExecute m flow signature pullSignature now) := by
  unfold runExecute
  refine .ite (fun _ => .after (report_off _ _ _) (abandonSign_ends _ live)) fun signing => ?_
  have signing : m.intent.status = .signing := not_not.mp signing
  have staged (request : ExecuteRequest) : promptBook m false = book { m with
      sign := some { flow with
        stage := .execute
        execute := some { request := request, resends := 0, resendAt := none, error := none } } } := by
    rw [promptBook, book, waits]
    rfl
  dsimp only
  refine .bind (.of (transition_books _ _ _) (staged _)) (.ite (fun moved => ?_) fun _ => ?_)
  · -- staged for its execute, the flow moves on from `signing`
    have staged := fun request : ExecuteRequest => signing_to_executing (m := { m with
      sign := some { flow with
        stage := .execute
        execute := some { request := request, resends := 0, resendAt := none, error := none } } })
      signing rfl rfl
    exact absurd (congrArg (fun next : Model => next.intent.status) (staged _).1) moved
  · exact .after (off_single fun _ => rfl) (.pure rfl)

theorem patch_if_book (c : Prop) [Decidable c] (m : Model)
    (updates : IntentState → IntentState) :
    book (if c then patch m updates else m) = book m := by
  split <;> rfl

theorem timeFill_book (m : Model) (status : WireStatus) (now : Int) :
    book (timeFill m status now) = book m := by
  unfold timeFill
  split
  · split <;> rfl
  · rfl

theorem applyExecuteDecision_books (m : Model) (response : ExecuteResponse) (unmapped : Bool)
    (now : Int) : Books (book m) (applyExecuteDecision m response unmapped now) := by
  unfold applyExecuteDecision
  split
  · exact transition_books _ _ _
  · rw [← timeFill_book m _ now]
    refine .bind (transitionTo_books _ _ _) (.pure ?_)
    exact (patch_if_book _ _ _).symm

theorem executeResponse_off (result : ExecuteResult) (intentId : Option String) :
    ∀ e ∈ (executeResponseUnlessInDoubt result intentId).log, e.OffBook := by
  unfold executeResponseUnlessInDoubt
  split
  · exact report_off _ _ _
  · exact report_off _ _ _
  · split
    · exact report_off _ _ _
    · split
      · exact report_off _ _ _
      · split
        · exact report_off _ _ _
        · simp

theorem marked_book (m : Model) (unmapped : Bool) (status : IntentStatus) :
    book (endNotSent (markUnmapped m unmapped) status) = book m := by
  unfold endNotSent markUnmapped
  split <;> split <;> rfl

theorem applyStatusUpdate_books (m : Model) (message : StatusMessage) (unmapped : Bool) :
    Books (book m) (applyStatusUpdate m message unmapped) := by
  have marks (next : Model) (status : IntentStatus) :
      Books (book next) (pure (endNotSent (markUnmapped next unmapped) status)) :=
    .pure (marked_book _ _ _).symm
  unfold applyStatusUpdate
  refine .after (report_off _ _ _) ?_
  dsimp only
  split
  · split
    · exact .bind (.pure rfl) (marks _ _)
    · exact .bind (.pure rfl) (marks _ _)
  · exact .bind (transition_books _ _ _) (marks _ _)

theorem onStream_books (m : Model) (message : StatusMessage) :
    Books (book m) (onStream m message) := by
  unfold onStream
  refine .ite (fun _ => ?_) fun _ => applyStatusUpdate_books _ _ _
  exact .after (report_off _ _ _) (.pure rfl)

/-! ## Messages -/

theorem onQuoteRequested_books (m : Model) (amount : String) :
    Books (book m) (onQuoteRequested m amount) := by
  have rest (kept : Model) : Books ((book kept).put .refresh false) (do
      let next := { kept with allocationKey := none, amount := amount, refresh := none }
      if amount = "" ∨ amount = "0" then
        if survivesClearedAmount m.intent then pure next
        else abandonSign { next with intent := initialIntentState }
      else do
        setTimer .debounce quoteDebounceMs false
        pure next) := by
    refine .ite (fun _ => .ite (fun _ => .pure rfl) fun _ => ?_) fun _ => ?_
    · exact .of (abandonSign_books _) rfl
    · exact .after (off_single fun _ => rfl) (.pure rfl)
  unfold onQuoteRequested
  refine .after (off_single fun _ => rfl) (.put ?_)
  dsimp only
  split
  · exact .after (by simp) (rest m)
  · exact .after (supersedeFlights_off m) (rest { m with flights := [] })

theorem onCancelSign_books (m : Model) : Books (book m) (onCancelSign m) := by
  unfold onCancelSign
  refine .ite (fun _ => .pure rfl) fun _ => ?_
  exact .bind (abandonSign_books m) (transition_books _ _ _)

theorem onReset_books (m : Model) : Books (book m) (onReset m) := by
  have ends (b : TimerBook) (execute : b.execute = false) (prompt : b.prompt = false)
      (refresh : b.refresh = false) (poll : b.poll = polls m)
      (expiry : b.expiry = m.watched.expiry.isSome) : Books b (do
      emit (.wallet .resetApproval)
      let kept ← supersedeFlights m
      pure { kept with
        intent := initialIntentState, amount := "", submittedAt := none, clientFillMs := none
        awaitingPull := false, isSigningPull := false, pendingIntentSig := none
        allocationKey := none, refresh := none, quotedTrade := none, sign := none }) := by
    refine .after (off_single fun _ => rfl) (.after (supersedeFlights_off m) ?_)
    exact .fields prompt execute refresh poll expiry
  unfold onReset
  refine .after (off_single fun _ => rfl) (.put (.put ?_))
  dsimp only
  split
  · exact .put (ends _ rfl rfl rfl rfl rfl)
  · next waits => exact ends _ (Bool.eq_false_iff.mpr waits) rfl rfl rfl rfl

theorem onResume_books (m : Model) (intentId : String) (status : IntentStatus) (owner : String)
    (depositDeadline : Option Int) (substatus : Option String) :
    Books (book m) (onResume m intentId status owner depositDeadline substatus) := by
  unfold onResume
  split
  · exact .pure rfl
  · refine .after (off_single fun _ => rfl) (.bind (supersedeFlights_books m) ?_)
    exact .pure rfl

variable [Host]

/-- A resend is awaited only while executing. -/
def ResendsExecuting (m : Model) : Prop := awaitingResend m = true → m.intent.status = .executing

omit [Host] in
theorem ResendsExecuting.waits (resends : ResendsExecuting m)
    (elsewhere : m.intent.status ≠ .executing) : awaitingResend m = false :=
  Bool.eq_false_iff.mpr fun waits => elsewhere (resends waits)

omit [Host] in
theorem transition_waits (target : IntentStatus) (updates : IntentState → IntentState)
    (waits : awaitingResend m = false) :
    awaitingResend (transition m target updates).value = false := by
  cases edge : canTransitionTo m.intent.status target with
  | false =>
    rw [(transition_of_no_edge edge).1]
    exact waits
  | true =>
    rw [(transition_of_edge edge).1]
    rcases moved_sign m target (updates { m.intent with status := target }) with same | ended
    · unfold awaitingResend at waits ⊢
      rwa [same]
    · exact (unsigned_idle ended).2

theorem beginIntentSign_books (quote : QuoteResponse) (eip712 : Eip712TypedData) (now : Int)
    (waits : awaitingResend m = false) :
    Books (book m) (beginIntentSign m quote eip712 now) := by
  have prompts : Books (book m) (promptIntent m quote eip712) := by
    unfold promptIntent
    split
    · exact .after (report_off _ _ _) (.pure rfl)
    · refine .bind (transition_books _ _ _) (.ite (fun _ => .pure rfl) fun _ => ?_)
      exact promptSignature_books _ _ _ rfl (transition_waits _ _ waits)
  unfold beginIntentSign
  split
  · exact .pure rfl
  · exact transition_books _ _ _
  all_goals exact prompts

theorem beginSign_books (now : Int) (resends : ResendsExecuting m) :
    Books (book m) (beginSign m now) := by
  unfold beginSign
  refine .ite (fun _ => .pure rfl) fun quoted => ?_
  have waits : awaitingResend m = false :=
    resends.waits (by rw [not_not.mp quoted]; decide)
  dsimp only
  split
  · exact .pure rfl
  refine .ite (fun _ => .pure rfl) fun _ => .ite (fun _ => ?_) fun _ => ?_
  · exact .after (report_off _ _ _) (.pure rfl)
  refine .ite (fun _ => revealDeposit_books m now) fun _ => ?_
  split
  · exact .pure rfl
  · exact beginIntentSign_books _ _ _ waits

omit [Host] in
/-- With no resend awaited before or after, a flow changes the prompt's timer alone. -/
theorem promptBook_sign {flow : SignFlow} (armed : Bool) (waits : awaitingResend m = false)
    (stage : flow.stage ≠ .execute) :
    promptBook m armed = promptBook { m with sign := some flow } armed := by
  have still : awaitingResend { m with sign := some flow } = false := waits_of_stage rfl stage
  rw [promptBook, promptBook, book, book, waits, still]
  rfl

/-- The approval is asked for with no prompt timer. -/
theorem completePull_ends {flow : SignFlow} {x : Machine Model}
    (completed : completePull m flow = .ok x) (waits : awaitingResend m = false)
    (stage : flow.stage ≠ .execute)
    (refused : ∀ updates,
      Books (promptBook m false) (transition { m with sign := some flow } .quoted updates)) :
    Books (promptBook m false) x := by
  cases completePull_cases completed with
  | nothing same => exact same ▸ .fields rfl waits rfl rfl rfl
  | unreadable _ same =>
    rw [same, promptBook_sign false waits stage]
    exact signFlowFailed_ends false _ rfl (waits_of_stage rfl stage)
  | refused _ same => exact same ▸ .after (report_off _ _ _) (refused _)
  | approval _ value log =>
    have asked : Books (promptBook m false)
        (pure { m with sign := some { flow with stage := .approval } }) :=
      .fields rfl waits rfl rfl rfl
    unfold Books
    rw [value, log]
    exact asked

theorem beginPullSign_books {now : Int} {x : Machine Model}
    (begun : beginPullSign m now = .ok x) : Books (book m) x := by
  have refused (error : String) : Books (book m) (transition { m with awaitingPull := false }
      .quoted fun intent => { intent with error := some (.text error) }) :=
    .of (transition_books _ _ _) rfl
  unfold beginPullSign at begun
  dsimp only at begun
  split at begun
  · cases begun
    exact .pure rfl
  rename_i may
  have unsigned : m.sign = none := by
    cases live : m.sign with
    | none => rfl
    | some flow => simp [live] at may
  obtain ⟨idle, waits⟩ := unsigned_idle unsigned
  rcases signPreflight_cases m now with ⟨refusal, error, pre⟩ | ⟨error, pre⟩ | pre
  · rw [pre] at begun
    cases begun
    exact refused _
  · rw [pre] at begun
    cases begun
    exact refused _
  · rw [pre] at begun
    refine .of (completePull_ends begun waits (by simp) fun updates => ?_)
      (promptBook_same idle).symm
    refine .of (transition_books _ _ _) ?_
    exact (promptBook_sign false waits (by simp)).trans (promptBook_same rfl)

theorem onSigned_books {flowId : String} {purpose : Purpose} {result : Outcome String}
    {now : Int} {x : Machine Model} (signed : onSigned m flowId purpose result now = .ok x) :
    Books (book m) x := by
  unfold onSigned at signed
  cases live : m.sign with
  | none =>
    rw [live] at signed
    cases signed
    exact .pure rfl
  | some flow =>
  rw [live] at signed
  dsimp only at signed
  split at signed
  · cases signed
    exact .pure rfl
  rename_i here
  have stage : flow.stage = purpose.stage := not_not.mp (not_or.mp here).2
  have elsewhere : flow.stage ≠ .execute := by rw [stage]; cases purpose <;> decide
  have waits : awaitingResend m = false := waits_of_stage live elsewhere
  have kept : promptBook m false = promptBook { m with sign := some flow } false :=
    promptBook_sign false waits elsewhere
  split at signed
  · cases signed
    exact abandonSign_books m
  rename_i signing
  have signing : m.intent.status = .signing := not_not.mp signing
  cases result with
  | error failure =>
    cases signed
    exact .put (signFlowFailed_ends false _ (by rw [live]; rfl) waits)
  | ok signature =>
  cases purpose with
  | pull =>
    cases signed
    exact .put (.of (runExecute_ends _ _ _ _ _ rfl (waits_of_stage rfl elsewhere)) kept)
  | intent =>
    dsimp only at signed
    split at signed
    · cases signed
      exact .put (.of (runExecute_ends _ _ _ _ _ rfl (waits_of_stage rfl elsewhere)) kept)
    split at signed
    · cases signed
      exact .put (.fields rfl waits rfl rfl rfl)
    · cases completed : completePull { m with
          pendingIntentSig := some signature, sign := some flow }
        { flow with intentSignature := some signature } with
      | error e =>
        rw [completed] at signed
        cases signed
      | ok x₁ =>
        rw [completed] at signed
        cases signed
        have still : awaitingResend { m with sign := some flow } = false :=
          waits_of_stage rfl elsewhere
        refine .put (.of (completePull_ends completed still elsewhere fun updates => ?_) kept)
        exact .of (transition_returns _ _ signing rfl) (promptBook_sign false still elsewhere)

omit [Host] in
theorem awaitingResend_prompting (h : awaitingResend m = true) : prompting m = false := by
  obtain ⟨flow, _, _, live, stage, -⟩ := awaitingResend_iff.mp h
  exact idle_of_stage live (.inr stage)

/-- Its timer spent or cleared, an awaited resend is sent or given up. -/
theorem resendExecute_books (now : Int) (resends : ResendsExecuting m) :
    Books ((book m).put .execute false) (resendExecute m now) := by
  unfold resendExecute
  cases waits : awaitingResend m with
  | false =>
    have rests : Books ((book m).put .execute false) (pure m) :=
      .fields rfl waits.symm rfl rfl rfl
    split
    · exact rests
    · split
      · exact rests
      · exact .ite (fun _ => rests) fun sends => absurd (.inl rfl) sends
  | true =>
    have idle := awaitingResend_prompting waits
    obtain ⟨flow, attempt, resendAt, live, stage, held, -⟩ := awaitingResend_iff.mp waits
    rw [live]
    dsimp only
    rw [held]
    dsimp only
    refine .ite (fun stops => ?_) fun _ => .ite (fun _ => ?_) fun _ => ?_
    · rcases stops with h | h
      · cases h
      · exact absurd (resends waits) h
    · exact .after (report_off _ _ _) (.fields idle rfl rfl rfl rfl)
    · refine .after (off_single fun _ => rfl) (.fields ?_ ?_ rfl rfl rfl)
      · refine idle.trans ?_
        unfold prompting
        dsimp only
        rw [stage]
        rfl
      · unfold awaitingResend
        dsimp only
        rw [stage]
        rfl

theorem resendBackstop_books (now : Int) (resends : ResendsExecuting m) :
    Books (book m) (resendBackstop m now) := by
  unfold resendBackstop
  split
  · exact .pure rfl
  refine .ite (fun _ => .pure rfl) fun _ => ?_
  exact .after (report_off _ _ _) (.put (resendExecute_books now resends))

/-- A refused execute is given up, or its resend is timed. -/
theorem onNotAccepted_books {flow : SignFlow} (stage : flow.stage = .execute)
    (failure : ErrorReport) (now : Int) (idle : prompting m = false)
    (waits : awaitingResend m = false) :
    (onNotAccepted m flow failure now).log.foldl TimerBook.after (book m) =
      book ((onNotAccepted m flow failure now).value.getD m) := by
  unfold onNotAccepted
  dsimp only
  split
  · rfl
  split
  · rfl
  split
  · exact (.fields idle waits rfl rfl rfl : Books (book m) (pure (stopResending
      { m with pendingIntentSig := none } flow (failure.value.getD solverBusy))))
  · next delayMs _ =>
    refine (.fields ?_ ?_ rfl rfl rfl : Books ((book m).put .execute true) (pure { m with
      pendingIntentSig := none
      sign := some { flow with
        execute := some { ‹ExecuteAttempt› with
          resendAt := some (now + delayMs), error := some (failure.value.getD solverBusy) } } }))
    · refine idle.trans ?_
      unfold prompting
      dsimp only
      rw [stage]
      rfl
    · unfold awaitingResend
      dsimp only
      rw [stage]
      rfl

theorem onExecuted_books (m : Model) (flowId : String) (result : ExecuteResult) (now : Int) :
    Books (book m) (onExecuted m flowId result now) := by
  unfold onExecuted
  cases live : m.sign with
  | none => exact .pure rfl
  | some flow =>
  refine .ite (fun _ => .pure rfl) fun here => ?_
  obtain ⟨-, there⟩ := not_or.mp here
  have stage : flow.stage = .execute := not_not.mp (not_or.mp there).1
  have waits : awaitingResend m = false := Bool.eq_false_iff.mpr (not_or.mp there).2
  have idle : prompting m = false := idle_of_stage live (.inr stage)
  have ended : book m = book (endSignFlow { m with pendingIntentSig := none } flow) := by
    rw [book, idle, waits]
    rfl
  -- a reply that is no refusal is read as a response, with the flow over
  have reads : Books (book m) (readExecute
      (endSignFlow { m with pendingIntentSig := none } flow) result now) := by
    unfold readExecute
    refine .after (executeResponse_off _ _) ?_
    split
    · exact .pure ended
    · refine .ite (fun _ => .after (report_off _ _ _) (.pure ended)) fun _ => ?_
      exact .of (applyExecuteDecision_books _ _ _ _) ended
  cases refused : notAcceptedReport result with
  | none => exact reads
  | some failure =>
    have timed := onNotAccepted_books stage failure now idle waits
    refine .through timed ?_
    cases handled : (onNotAccepted m flow failure now).value with
    | some next => exact .pure rfl
    | none => exact reads

theorem tickExpiry_books (m : Model) (now : Int) : Books (book m) (tickExpiry m now) := by
  unfold tickExpiry
  split
  · exact .pure rfl
  · split
    · exact .pure rfl
    · refine .ite (fun _ => ?_) fun _ => .pure rfl
      exact .of (transition_books _ _ _) rfl

theorem requestQuote_books (m : Model) (now : Int) : Books (book m) (requestQuote m now) := by
  unfold requestQuote
  refine .ite (fun _ => .after (report_off _ _ _) (.pure rfl)) fun _ => ?_
  exact .ite (fun _ => startQuote_books _ _ _) fun _ => .pure rfl

theorem onContextChanged_books (m : Model) (ctx : Context) :
    Books (book m) (onContextChanged m ctx) := by
  have drops : Books (book m) (supersedeFlights { m with ctx := ctx }) :=
    .of (supersedeFlights_books _) rfl
  unfold onContextChanged
  refine .ite (fun _ => .pure rfl) fun _ => ?_
  dsimp only
  split
  · exact .after (off_single fun _ => rfl) drops
  · exact drops

theorem onAllocateRequested_books (m : Model) (key ref : String) (now : Int) :
    Books (book m) (onAllocateRequested m key ref now) := by
  unfold onAllocateRequested
  refine .ite (fun _ => .after (off_single fun _ => rfl) (.pure rfl)) fun _ => ?_
  exact .of (startQuote_books _ _ _) rfl

/-! ## The poll -/

omit [Host] in
theorem pollTick_books (m : Model) (elapsed : Bool) : Books (book m) (pollTick m elapsed) := by
  unfold pollTick
  split
  · exact .pure rfl
  · next poll live =>
    have same : polls m = !poll.stopped := by rw [polls, live]
    exact .after (off_single fun _ => rfl) (.fields rfl rfl rfl same rfl)

omit [Host] in
theorem markRead_books (m : Model) (id : String) (attempt : Nat) (unsentRead : Bool) :
    Books (book m) (markRead m id attempt unsentRead) := by
  have escalates (next : Model) : Books (book next)
      (pure (if escalatesToReconcile next.intent id attempt then
        patch next fun intent => { intent with reconciling := true } else next)) :=
    .pure (patch_if_book _ _ _).symm
  unfold markRead
  dsimp only
  split
  · exact .after (report_off _ _ _) (.bind (.pure rfl) (escalates _))
  · exact .bind (.pure rfl) (escalates _)

/-- What a status reply says leaves the timers as the model has them. -/
theorem readStatus_books (m : Model) (id : String) (result : Outcome IntentStatusResult)
    (unsentRead : Bool) (now : Int) :
    (readStatus m id result unsentRead now).log.foldl TimerBook.after (book m) =
      book (readStatus m id result unsentRead now).value.1 := by
  unfold readStatus
  split
  · rfl
  · rfl
  · unfold onNotFound
    split
    · have moves := transition_books m .failed fun intent =>
        { intent with
          error := some (.text notSentSweptError)
          reconciling := false
          mayHaveMoved := false }
      rw [log_bind, List.foldl_append, foldl_off (report_off _ _ _), log_bind,
        List.foldl_append]
      exact moves
    · split <;> rfl
  · rename_i row
    have applied := applyStatusUpdate_books m (rowMessage id row) row.unmapped
    unfold onStatusRow
    simp only [log_bind, value_bind, log_pure, value_pure, List.append_nil]
    exact applied.trans (patch_if_book _ _ _).symm

theorem readStatus_polls (m : Model) (id : String) (result : Outcome IntentStatusResult)
    (unsentRead : Bool) (now : Int) :
    (readStatus m id result unsentRead now).value.1.poll = m.poll := by
  unfold readStatus
  split
  · rfl
  · rfl
  · unfold onNotFound
    split
    · exact transition_poll _ _ _
    · split <;> rfl
  · unfold onStatusRow
    simp only [value_bind, value_pure]
    split
    · exact applyStatusUpdate_poll _ _ _
    · exact applyStatusUpdate_poll _ _ _

omit [Host] in
/-- A poll that runs stops with its timer, or runs on. -/
theorem settlePoll_books (m : Model) (poll answered : PollState) (id : String)
    (verdict : Option PollVerdict) (runs : polls m = true) (open_ : answered.stopped = false) :
    Books (book m) (settlePoll m poll answered id verdict) := by
  have on : polls m = !answered.stopped := by rw [runs, open_]; rfl
  unfold settlePoll
  split
  · exact .put (.pure rfl)
  · exact .fields rfl rfl rfl on rfl
  · refine .ite (fun _ => .fields rfl rfl rfl on rfl) fun _ => ?_
    refine .put (.after (report_off _ _ _) (.pure ?_))
    dsimp only
    split <;> rfl

theorem onStatus_books (m : Model) (gen attempt : Nat) (result : Outcome IntentStatusResult)
    (now : Int) : Books (book m) (onStatus m gen attempt result now) := by
  unfold onStatus
  cases live : m.poll with
  | none => exact .pure rfl
  | some poll =>
  dsimp only
  refine .ite (fun _ => .pure rfl) fun here => .ite (fun _ => .pure rfl) fun _ => ?_
  have open_ : poll.stopped = false := Bool.eq_false_iff.mpr (not_or.mp here).2
  split
  · exact .after (report_off _ _ _) (.pure rfl)
  · refine .bind (markRead_books _ _ _ _) (.through (readStatus_books _ _ _ _ _) ?_)
    refine settlePoll_books _ _ _ _ _ ?_ ?_
    · unfold polls
      rw [readStatus_polls, markRead_poll, live]
      dsimp only
      rw [open_]
      rfl
    · split
      · exact open_
      · exact open_

omit [Host] in
theorem Coherent.resends (coherent : Coherent m) : ResendsExecuting m := by
  intro waits
  obtain ⟨flow, _, _, live, stage, -⟩ := awaitingResend_iff.mp waits
  exact coherent.executes flow live stage

theorem onVisible_books (wall : WallClock) {msg : Msg} (coherent : Coherent m)
    (body : msg.body = .visibilityChanged) : Books (book m) (onVisible m msg.now) := by
  have ticks (next : Model) (resends : ResendsExecuting next) : Books (book next)
      (if awaitingResend next then resendBackstop next msg.now else wakePoll next) := by
    refine .ite (fun _ => resendBackstop_books _ resends) fun _ => ?_
    unfold wakePoll
    cases live : next.poll with
    | none => exact .pure rfl
    | some poll =>
      refine .ite (fun stopped => ?_) fun _ => pollTick_books _ _
      have halted : polls next = false := by
        rw [polls, live]
        dsimp only
        rw [stopped]
        rfl
      exact .fields rfl rfl rfl halted rfl
  unfold onVisible
  dsimp only
  split
  · next due =>
    have shown : m.intent.status = .quoted ∨ m.intent.status = .expired := by
      have := due.2
      unfold shouldRefreshOnReturn at this
      split at this
      · cases this
      · simpa using this
    have unsigned : m.sign = none := by
      by_contra live
      have := coherent.confined (.inl (Option.isSome_iff_ne_none.mpr live))
      rcases shown with h | h <;> rw [h] at this <;> simp at this
    have idle : busy m = false := by
      unfold busy
      rcases shown with h | h <;> rw [h] <;> rfl
    have started : Does wall msg.cause m
        (startQuote m msg.now { quoteOpts m.amount with forceRefresh := true }) :=
      startQuote_does (fun _ => .of_body body rfl) idle rfl fun h => by cases h
    refine .bind (startQuote_books _ _ _) (ticks _ fun waits => ?_)
    rw [(unsigned_idle (Chain.sign started unsigned)).2] at waits
    cases waits
  · exact .bind (.pure rfl) (ticks _ coherent.resends)

omit [Host] in
theorem refresh_none (h : m.refresh = none) : (book m).put .refresh false = book m := by
  rw [book, h]
  rfl

theorem onRefresh_books (m : Model) (now : Int) :
    Books ((book m).put .refresh false) (onTimer m .refresh now) := by
  unfold onTimer
  cases planned : m.refresh with
  | none =>
    rw [refresh_none planned]
    exact .pure rfl
  | some plan =>
    refine .ite (fun _ => .pure rfl) fun _ => ?_
    exact .of (startQuote_books _ _ _) rfl

theorem onPollTimer_books (m : Model) (now : Int) (resends : ResendsExecuting m) :
    Books (book m) (onTimer m .poll now) := by
  unfold onTimer
  refine .ite (fun _ => resendBackstop_books _ resends) fun _ => ?_
  cases m.poll with
  | none => exact .pure rfl
  | some poll => exact .ite (fun _ => .pure rfl) fun _ => pollTick_books _ _

omit [Host] in
theorem prompting_iff : prompting m = true ↔
    ∃ flow, m.sign = some flow ∧ (flow.stage = .intent ∨ flow.stage = .pull) := by
  unfold prompting
  cases m.sign with
  | none => simp
  | some flow => simp

/-- The fired timer's handler: the one-shot is spent. -/
theorem onPrompt_books (now : Int) (out : prompting m = true) :
    Books (promptBook m false) (onTimer m .signPrompt now) := by
  obtain ⟨flow, live, stage⟩ := prompting_iff.mp out
  have waits : awaitingResend m = false :=
    waits_of_stage live (by rcases stage with h | h <;> rw [h] <;> decide)
  exact signFlowFailed_ends false _ (by rw [live]; rfl) waits

/-! ## A step -/

/-- The timers that fire once. -/
def oneShot : TimerName → Bool
  | .debounce => true
  | .refresh => true
  | .signPrompt => true
  | .execute => true
  | .poll => false
  | .expiry => false

/-- The book once a message has arrived: a one-shot timer that fired is spent. -/
def TimerBook.receive (b : TimerBook) : MsgBody → TimerBook
  | .timerFired timer => if oneShot timer then b.put timer false else b
  | _ => b

/-- A step leaves armed the timers that the model it leaves runs. -/
theorem step_books {wall : WallClock} {msg : Msg} {x : Machine Model} (coherent : Coherent m)
    (prompts : msg.body = .timerFired .signPrompt → prompting m = true)
    (stepped : step wall m msg = .ok x) : Books ((book m).receive msg.body) x := by
  have resends := coherent.resends
  unfold step at stepped
  cases body : msg.body <;> rw [body] at stepped <;> dsimp only at stepped
  case signReplied => exact onSigned_books stepped
  case pullSignRequested => exact beginPullSign_books stepped
  all_goals cases stepped
  case timerFired timer =>
    cases timer with
    | debounce => exact requestQuote_books _ _
    | expiry => exact tickExpiry_books _ _
    | execute => exact resendExecute_books _ resends
    | refresh => exact onRefresh_books _ _
    | poll => exact onPollTimer_books _ _ resends
    | signPrompt => exact onPrompt_books _ (prompts body)
  case contextChanged => exact onContextChanged_books _ _
  case quoteRequested => exact onQuoteRequested_books _ _
  case allocateRequested => exact onAllocateRequested_books _ _ _ _
  case refreshRequested => exact requestQuote_books _ _
  case signRequested => exact beginSign_books _ resends
  case cancelSignRequested => exact onCancelSign_books _
  case resetRequested => exact onReset_books _
  case resumeRequested => exact onResume_books _ _ _ _ _ _
  case visibilityChanged =>
    exact .ite (fun _ => .pure rfl) fun _ => onVisible_books wall coherent body
  case streamStatus => exact onStream_books _ _
  case sessionReplied => exact onSession_books _ _ _ _
  case quoteReplied => exact onQuote_books _ _ _ _ _
  case approvalReplied => exact onApproval_books _ _ _
  case executeReplied => exact onExecuted_books _ _ _ _
  case statusReplied => exact onStatus_books _ _ _ _ _

/-! ## The rules -/

/-- From this book, a rule leaves armed the timers that the model it leaves runs. -/
def RuleBooks (b : TimerBook) (m : Model) (x : Machine (Option Model)) : Prop :=
  x.log.foldl TimerBook.after b = book (x.value.getD m)

namespace RuleBooks

omit [Host]

variable {b : TimerBook}

theorem nothing : RuleBooks (book m) m (pure none) := rfl

theorem noted {next : Model} (same : b = book next) : RuleBooks b m (pure (some next)) := same

theorem put {e : Effect} {f : Unit → Machine (Option Model)}
    (rest : RuleBooks (b.after e) m (f ())) :
    RuleBooks b m (emit e >>= f) := rest

theorem done {x : Machine Model} (books : Books b x) :
    RuleBooks b m (x >>= fun next => pure (some next)) := by
  unfold RuleBooks
  rw [log_bind, List.foldl_append, books]
  rfl

theorem of {c : TimerBook} {x : Machine (Option Model)} (h : RuleBooks c m x) (same : b = c) :
    RuleBooks b m x := same ▸ h

end RuleBooks

theorem watchWallet_books (resends : ResendsExecuting m) :
    RuleBooks (book m) m (watchWallet m) := by
  unfold watchWallet
  dsimp only
  split
  · exact .nothing
  · split
    · exact .noted rfl
    · next interrupts =>
      have waits : awaitingResend m = false := by
        refine resends.waits fun executing => interrupts ?_
        rw [executing]
        simp [walletInterruptibleStates]
      have ended {next : Model} (unsigned : next.sign = none) (refresh : next.refresh = none)
          (poll : next.poll = m.poll) (expiry : next.watched.expiry = m.watched.expiry) :
          ((book m).put .refresh false).put .signPrompt false = book next := by
        obtain ⟨idle, still⟩ := unsigned_idle unsigned
        rw [book, book, idle, still, waits, refresh, polls, polls, poll, expiry]
        rfl
      exact ended rfl rfl rfl rfl

theorem upgradePreview_books (now : Int) : RuleBooks (book m) m (upgradePreview now m) := by
  unfold upgradePreview
  dsimp only
  split
  · exact .nothing
  · split
    · exact .noted rfl
    · exact .done (.of (startQuote_books _ _ _) rfl)

theorem armExpiry_books (now : Int) : RuleBooks (book m) m (armExpiry now m) := by
  have counts : RuleBooks ((book m).put .expiry false) m (startExpiry m
      { m with watched := { m.watched with expiry := expiryKey m } } now) := by
    unfold startExpiry
    cases expiryKey m with
    | none => exact .noted rfl
    | some key => exact .put (.done (.of (tickExpiry_books _ _) rfl))
  unfold armExpiry
  dsimp only
  split
  · exact .nothing
  · split
    · exact .put counts
    · next idle =>
      have off : m.watched.expiry.isSome = false := Bool.eq_false_iff.mpr idle
      refine .of counts ?_
      rw [book, off]
      rfl

theorem armPoll_books (now : Int) : RuleBooks (book m) m (armPoll now m) := by
  have rest : RuleBooks ((book m).put .poll false) m (startPoll m now) := by
    unfold startPoll
    cases pollKey m with
    | none => exact .noted rfl
    | some key =>
      refine .put ?_
      dsimp only
      split
      · exact .noted rfl
      · exact .done (.of (pollTick_books _ _) rfl)
  have off (idle : polls m = false) : book m = (book m).put .poll false := by
    rw [book, idle]
    rfl
  unfold armPoll
  dsimp only
  split
  · exact .nothing
  · cases live : m.poll with
    | none => exact .of rest (off (by rw [polls, live]))
    | some poll =>
      dsimp only
      split
      · exact .put rest
      · next stopped =>
        refine .of rest (off ?_)
        rw [polls, live]
        simpa using stopped

/-! ## Settling -/

/-- The rules leave armed the timers of the model they settle on. -/
theorem settle_books (wall : WallClock) (inv : Inv m) (now : Int) :
    Books (book m) (settle m now) := by
  have chain : Chain (fun m fx m' => Inv m → fx.foldl TimerBook.after (book m) = book m' ∧ Inv m')
      m (settle m now).log (settle m now).value := by
    refine settle_chain (fun rule mem m => .single fun inv => ?_) m
    have settles := rules_settle wall (rfl : (rulesCause now).body = none) rule mem m
    refine ⟨?_, Chain.invariant (fun _ _ _ inv act => act.inv inv) settles inv⟩
    simp only [settleRules, List.mem_cons, List.not_mem_nil, or_false] at mem
    rcases mem with rfl | rfl | rfl | rfl
    · exact watchWallet_books inv.coherent.resends
    · exact upgradePreview_books now
    · exact armExpiry_books now
    · exact armPoll_books now
  unfold Books
  generalize (settle m now).log = fx at chain ⊢
  generalize (settle m now).value = m' at chain ⊢
  have along : fx.foldl TimerBook.after (book m) = book m' ∧ Inv m' := by
    induction chain with
    | refl => exact ⟨rfl, inv⟩
    | tail _ step ih =>
      obtain ⟨books, held⟩ := step ih.2
      exact ⟨by rw [List.foldl_append, ih.1, books], held⟩
  exact along.1

/-! ## The prompt's timer alone -/

omit [Host] in
theorem armedAfter_book (b : TimerBook) (e : Effect) :
    armedAfter b.prompt e = (b.after e).prompt := by
  unfold armedAfter TimerBook.after TimerBook.put
  split
  · rfl
  · rfl
  · next others clears =>
    split
    · next timer _ _ =>
      cases timer <;> first
        | rfl
        | exact absurd rfl (others _ _)
    · next timer =>
      cases timer <;> first
        | rfl
        | exact absurd rfl clears
    · rfl

omit [Host] in
theorem foldl_armedAfter (fx : List Effect) (b : TimerBook) :
    fx.foldl armedAfter b.prompt = (fx.foldl TimerBook.after b).prompt := by
  induction fx generalizing b with
  | nil => rfl
  | cons e fx ih =>
    rw [List.foldl_cons, List.foldl_cons, armedAfter_book]
    exact ih (b.after e)

omit [Host] in
theorem Books.arms {b : TimerBook} {x : Machine Model} (books : Books b x) :
    x.log.foldl armedAfter b.prompt = prompting x.value := by
  rw [foldl_armedAfter, books]
  rfl

end

end XochiSdk.Client
