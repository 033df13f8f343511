import XochiSdk.Client.Machine.Ledger

/-!
# The ledger past the quote

Signing, executing, the status and the rules take flights out of the air only by a move past
quoting, which reports each of them refused.
-/

namespace XochiSdk.Client

open XochiSdk.Js XochiSdk.Shared XochiSdk.Signer XochiSdk.Library Emits

section

variable {m : Model}

theorem patch_if_flights (c : Bool) (m : Model) (updates : IntentState → IntentState) :
    (if c then patch m updates else m).flights = m.flights := by
  cases c <;> rfl

theorem signFlowFailed_tallied (m : Model) (failure : ErrorReport) :
    Tallied m (signFlowFailed m failure) := by
  unfold signFlowFailed
  split
  · exact .pure rfl
  rename_i flow _
  refine .after (timer_mute _) ?_
  dsimp only
  split
  · refine .ite (fun _ => Tallied.of (transition_tallied _ _ _) rfl) fun _ =>
      .ite (fun _ => Tallied.of (transition_tallied _ _ _) rfl) fun _ => ?_
    exact .after (report_mute _ _ _) (Tallied.of (transition_tallied _ _ _) rfl)
  · refine .ite (fun _ => Tallied.of (transition_tallied _ _ _) rfl) fun _ => ?_
    exact .after (report_mute _ _ _) (.pure rfl)

theorem promptSignature_tallied (m : Model) (flow : SignFlow) (purpose : Purpose)
    (typed : Eip712TypedData) : Tallied m (promptSignature m flow purpose typed) :=
  .after (wallet_mute _) (.after (timer_mute _) (.pure rfl))

theorem revealDeposit_tallied (m : Model) (now : Int) : Tallied m (revealDeposit m now) := by
  unfold revealDeposit
  refine .ite (fun _ => ?_) fun _ => transition_tallied _ _ _
  exact .after (report_mute _ _ _) (transition_tallied _ _ _)

theorem onApproval_tallied (m : Model) (flowId : String) (result : Outcome Bool) :
    Tallied m (onApproval m flowId result) := by
  unfold onApproval
  split
  · exact .pure rfl
  refine .ite (fun _ => .pure rfl) fun _ => ?_
  split
  · exact signFlowFailed_tallied _ _
  · exact transition_tallied _ _ _
  · split
    · exact .pure rfl
    · exact promptSignature_tallied _ _ _ _

theorem runExecute_tallied (m : Model) (flow : SignFlow) (signature : String)
    (pullSignature : Option String) (now : Int) :
    Tallied m (runExecute m flow signature pullSignature now) := by
  unfold runExecute
  refine .ite (fun _ => .after (report_mute _ _ _) (abandonSign_tallied m)) fun signing => ?_
  have signing : m.intent.status = .signing := not_not.mp signing
  dsimp only
  set staged : Model := { m with
    sign := some { flow with
      stage := .execute
      execute := some
        { request :=
            { intentId := m.intent.intentId.getD "", quoteId := m.intent.quoteId.getD ""
              signature := signature, nonce := now, pullSignature := pullSignature }
          resends := 0, resendAt := none, error := none } } } with staged_eq
  have edge : canTransitionTo staged.intent.status .executing = true := by
    rw [staged_eq]
    change canTransitionTo m.intent.status _ = true
    rw [signing]
    rfl
  have lands : (transition staged .executing id).value.intent.status = .executing := by
    rw [(transition_of_edge edge).1]
    rfl
  refine Tallied.of (?_ : Tallied staged _) rfl
  refine .bind (transition_tallied _ _ _) ?_
  rw [if_neg (not_not.mpr lands)]
  exact .after (api_mute _) (.pure rfl)

theorem transitionTo_tallied (m : Model) (target : WireStatus)
    (updates : IntentState → IntentState) : Tallied m (transitionTo m target updates) := by
  unfold transitionTo
  split
  · exact transition_tallied _ _ _
  · exact .after (report_mute _ _ _) (.pure rfl)

theorem applyExecuteDecision_tallied (m : Model) (response : ExecuteResponse) (unmapped : Bool)
    (now : Int) : Tallied m (applyExecuteDecision m response unmapped now) := by
  unfold applyExecuteDecision
  split
  · exact transition_tallied _ _ _
  · rename_i status updates _
    have timed : (timeFill m status now).flights = m.flights := by
      unfold timeFill
      split
      · split <;> rfl
      · rfl
    refine (Tallied.bind (transitionTo_tallied (timeFill m status now) _ _) ?_).of timed
    exact .pure (patch_if_flights _ _ _)

/-- Which reply an execute got is told by the log alone. -/
theorem executeResponse_mute (result : ExecuteResult) (intentId : Option String) :
    Mute (executeResponseUnlessInDoubt result intentId).log := by
  unfold executeResponseUnlessInDoubt
  split
  · rfl
  · rfl
  · split
    · rfl
    · split
      · rfl
      · split <;> rfl

theorem applyStatusUpdate_tallied (m : Model) (message : StatusMessage) (unmapped : Bool) :
    Tallied m (applyStatusUpdate m message unmapped) := by
  have marks (next : Model) (status : IntentStatus) :
      (endNotSent (markUnmapped next unmapped) status).flights = next.flights := by
    unfold endNotSent markUnmapped
    split <;> split <;> rfl
  unfold applyStatusUpdate
  refine .after (report_mute _ _ _) ?_
  dsimp only
  split
  · split
    · exact .bind (.pure rfl) (.pure (marks _ _))
    · exact .bind (.pure rfl) (.pure (marks _ _))
  · exact .bind (transition_tallied _ _ _) (.pure (marks _ _))

theorem pollTick_tallied (m : Model) (elapsed : Bool) : Tallied m (pollTick m elapsed) := by
  unfold pollTick
  split
  · exact .pure rfl
  · exact .after (api_mute _) (.pure rfl)

/-- A read of the poll reports the flights it takes out of the air. -/
def Read (m : Model) (x : Machine (Model × Option PollVerdict)) : Prop :=
  Refuses m.flights x.log x.value.1.flights

theorem Read.bind {x : Machine Model} {f : Model → Machine (Model × Option PollVerdict)}
    (first : Tallied m x) (rest : Read x.value (f x.value)) : Read m (x >>= f) :=
  Refuses.trans first rest

theorem Read.after {α : Type} {y : Machine α} {f : α → Machine (Model × Option PollVerdict)}
    (mute : Mute y.log) (rest : Read m (f y.value)) : Read m (y >>= f) :=
  Refuses.after mute rest

theorem Read.pure {next : Model} {verdict : Option PollVerdict} (same : next.flights = m.flights) :
    Read m (Pure.pure (next, verdict)) := by
  unfold Read
  rw [value_pure, same]
  exact .done

theorem settlePoll_tallied (m : Model) (poll answered : PollState) (id : String)
    (verdict : Option PollVerdict) : Tallied m (settlePoll m poll answered id verdict) := by
  unfold settlePoll
  split
  · exact .after (timer_mute _) (.pure rfl)
  · exact .pure rfl
  · refine .ite (fun _ => .pure rfl) fun _ => ?_
    unfold exhaustPoll
    refine .after (timer_mute _) (.after (report_mute _ _ _) (.pure ?_))
    dsimp only
    split <;> rfl

theorem onStream_tallied (m : Model) (message : StatusMessage) :
    Tallied m (onStream m message) := by
  unfold onStream
  refine .ite (fun _ => ?_) fun _ => applyStatusUpdate_tallied _ _ _
  exact .after (report_mute _ _ _) (.pure rfl)

theorem markRead_tallied (m : Model) (id : String) (attempt : Nat) (unsentRead : Bool) :
    Tallied m (markRead m id attempt unsentRead) := by
  unfold markRead
  dsimp only
  split
  · exact .after (report_mute _ _ _) (.pure (patch_if_flights _ _ _))
  · exact .pure (patch_if_flights _ _ _)

theorem onStatusRow_read (m : Model) (id : String) (row : IntentStatusData) (unsentRead : Bool) :
    Read m (onStatusRow m id row unsentRead) := by
  unfold onStatusRow
  refine .bind (applyStatusUpdate_tallied _ _ _) (.pure ?_)
  split <;> rfl

/-- A rule reports the flights it takes out of the air. -/
def Ruled (m : Model) (x : Machine (Option Model)) : Prop :=
  Refuses m.flights x.log (x.value.getD m).flights

namespace Ruled

variable {m₁ : Model}

theorem nothing : Ruled m (pure none) := .done

theorem pure (same : m₁.flights = m.flights) : Ruled m (Pure.pure (some m₁)) := by
  unfold Ruled
  rw [value_pure, Option.getD_some, same]
  exact .done

theorem after {α : Type} {y : Machine α} {f : α → Machine (Option Model)} (mute : Mute y.log)
    (rest : Ruled m (f y.value)) : Ruled m (y >>= f) :=
  Refuses.after mute rest

theorem of {x : Machine Model} (h : Tallied m x) : Ruled m (x >>= fun next => Pure.pure (some next)) :=
  Refuses.trans h .done

end Ruled

theorem onQuoteRequested_tallied (m : Model) (amount : String) :
    Tallied m (onQuoteRequested m amount) := by
  have rest (kept : Model) : Tallied kept (do
      let next := { kept with allocationKey := none, amount := amount, refresh := none }
      if amount = "" ∨ amount = "0" then
        if survivesClearedAmount m.intent then pure next
        else abandonSign { next with intent := initialIntentState }
      else do
        setTimer .debounce quoteDebounceMs false
        pure next) := by
    refine .ite (fun _ => .ite (fun _ => .pure rfl) fun _ => Tallied.of (abandonSign_tallied _) rfl) fun _ => ?_
    exact .after (timer_mute _) (.pure rfl)
  unfold onQuoteRequested
  refine .after (timer_mute _) (.after (timer_mute _) ?_)
  dsimp only
  split
  · exact .bind (.pure rfl) (rest _)
  · exact .bind (supersedeFlights_tallied m) (rest _)

theorem onCancelSign_tallied (m : Model) : Tallied m (onCancelSign m) := by
  unfold onCancelSign
  refine .ite (fun _ => .pure rfl) fun _ => ?_
  exact .bind (abandonSign_tallied m) (transition_tallied _ _ _)

theorem onReset_tallied (m : Model) : Tallied m (onReset m) := by
  unfold onReset
  refine .after (timer_mute _) (.after (timer_mute _) (.after (timer_mute _) ?_))
  dsimp only
  split
  · exact .after (timer_mute _) (.after (wallet_mute _)
      (.bind (supersedeFlights_tallied m) (.pure rfl)))
  · exact .after (wallet_mute _) (.bind (supersedeFlights_tallied m) (.pure rfl))

theorem onResume_tallied (m : Model) (intentId : String) (status : IntentStatus) (owner : String)
    (depositDeadline : Option Int) (substatus : Option String) :
    Tallied m (onResume m intentId status owner depositDeadline substatus) := by
  unfold onResume
  split
  · exact .pure rfl
  · exact .after (timer_mute _) (.bind (supersedeFlights_tallied m) (.pure rfl))

variable [Host]

theorem beginIntentSign_tallied (m : Model) (quote : QuoteResponse) (eip712 : Eip712TypedData)
    (now : Int) : Tallied m (beginIntentSign m quote eip712 now) := by
  have prompts : Tallied m (promptIntent m quote eip712) := by
    unfold promptIntent
    split
    · exact .after (report_mute _ _ _) (.pure rfl)
    · refine .bind (transition_tallied _ _ _) (.ite (fun _ => .pure rfl) fun _ => ?_)
      exact promptSignature_tallied _ _ _ _
  unfold beginIntentSign
  split
  · exact .pure rfl
  · exact transition_tallied _ _ _
  all_goals exact prompts

theorem beginSign_tallied (m : Model) (now : Int) : Tallied m (beginSign m now) := by
  unfold beginSign
  refine .ite (fun _ => .pure rfl) fun _ => ?_
  dsimp only
  split
  · exact .pure rfl
  refine .ite (fun _ => .pure rfl) fun _ => .ite (fun _ => ?_) fun _ => ?_
  · exact .after (report_mute _ _ _) (.pure rfl)
  refine .ite (fun _ => revealDeposit_tallied m now) fun _ => ?_
  split
  · exact .pure rfl
  · exact beginIntentSign_tallied _ _ _ _

theorem completePull_tallied {flow : SignFlow} {x : Machine Model}
    (completed : completePull m flow = .ok x) : Tallied m x := by
  rcases completePull_cases completed with ⟨rfl, -⟩ | ⟨-, rfl⟩ | ⟨-, rfl⟩ | ⟨-, value, log⟩
  · exact .pure rfl
  · exact Tallied.of (signFlowFailed_tallied _ _) rfl
  · exact .after (report_mute _ _ _) (Tallied.of (transition_tallied _ _ _) rfl)
  · unfold Tallied
    rw [value, log]
    exact .mute rfl

theorem beginPullSign_tallied {now : Int} {x : Machine Model}
    (begun : beginPullSign m now = .ok x) : Tallied m x := by
  have refused (error : String) : Tallied m (transition { m with awaitingPull := false } .quoted
      fun intent => { intent with error := some (.text error) }) :=
    Tallied.of (transition_tallied _ _ _) rfl
  unfold beginPullSign at begun
  dsimp only at begun
  split at begun
  · cases begun
    exact .pure rfl
  rcases signPreflight_cases m now with ⟨refusal, error, pre⟩ | ⟨error, pre⟩ | pre
  · rw [pre] at begun
    cases begun
    exact refused _
  · rw [pre] at begun
    cases begun
    exact refused _
  · rw [pre] at begun
    exact Tallied.of (completePull_tallied begun) rfl

theorem onSigned_tallied {flowId : String} {purpose : Purpose} {result : Outcome String}
    {now : Int} {x : Machine Model} (signed : onSigned m flowId purpose result now = .ok x) :
    Tallied m x := by
  unfold onSigned at signed
  cases live : m.sign with
  | none =>
    rw [live] at signed
    cases signed
    exact .pure rfl
  | some flow =>
  rw [live] at signed
  dsimp only at signed
  split at signed
  · cases signed
    exact .pure rfl
  split at signed
  · cases signed
    exact abandonSign_tallied m
  cases result with
  | error failure =>
    cases signed
    exact .after (timer_mute _) (signFlowFailed_tallied _ _)
  | ok signature =>
  cases purpose with
  | pull =>
    cases signed
    exact .after (timer_mute _) (Tallied.of (runExecute_tallied _ _ _ _ _) rfl)
  | intent =>
    dsimp only at signed
    split at signed
    · cases signed
      exact .after (timer_mute _) (Tallied.of (runExecute_tallied _ _ _ _ _) rfl)
    split at signed
    · cases signed
      exact .after (timer_mute _) (.pure rfl)
    · cases completed : completePull { m with
          pendingIntentSig := some signature, sign := some flow }
        { flow with intentSignature := some signature } with
      | error e =>
        rw [completed] at signed
        cases signed
      | ok x₁ =>
        rw [completed] at signed
        cases signed
        exact .after (timer_mute _) (Tallied.of (completePull_tallied completed) rfl)

theorem resendExecute_tallied (m : Model) (now : Int) : Tallied m (resendExecute m now) := by
  unfold resendExecute
  split
  · exact .pure rfl
  split
  · exact .pure rfl
  refine .ite (fun _ => .pure rfl) fun _ => ?_
  dsimp only
  refine .ite (fun _ => .after (report_mute _ _ _) (.pure rfl)) fun _ => ?_
  exact .after (api_mute _) (.pure rfl)

theorem resendBackstop_tallied (m : Model) (now : Int) : Tallied m (resendBackstop m now) := by
  unfold resendBackstop
  split
  · exact .pure rfl
  refine .ite (fun _ => .pure rfl) fun _ => ?_
  exact .after (report_mute _ _ _) (.after (timer_mute _) (resendExecute_tallied m now))

theorem onNotAccepted_refuses (m : Model) (flow : SignFlow) (failure : ErrorReport) (now : Int) :
    Mute (onNotAccepted m flow failure now).log ∧
      ∀ next, (onNotAccepted m flow failure now).value = some next → next.flights = m.flights := by
  unfold onNotAccepted
  dsimp only
  split
  · exact ⟨rfl, fun _ h => by cases h⟩
  split
  · exact ⟨rfl, fun _ h => by cases h⟩
  split
  · exact ⟨rfl, fun _ h => by cases h; rfl⟩
  · exact ⟨rfl, fun _ h => by cases h; rfl⟩

theorem onExecuted_tallied (m : Model) (flowId : String) (result : ExecuteResult) (now : Int) :
    Tallied m (onExecuted m flowId result now) := by
  unfold onExecuted
  split
  · exact .pure rfl
  rename_i flow _
  refine .ite (fun _ => .pure rfl) fun _ => ?_
  -- a reply that is no refusal is read as a response
  have reads : Tallied m (readExecute
      (endSignFlow { m with pendingIntentSig := none } flow) result now) := by
    unfold readExecute
    refine .after (executeResponse_mute _ _) ?_
    split
    · exact .pure rfl
    · refine .ite (fun _ => .after (report_mute _ _ _) (.pure rfl)) fun _ => ?_
      exact Tallied.of (applyExecuteDecision_tallied _ _ _ _) rfl
  cases refused : notAcceptedReport result with
  | none => exact reads
  | some failure =>
    obtain ⟨mute, kept⟩ := onNotAccepted_refuses m flow failure now
    refine .after mute ?_
    cases handled : (onNotAccepted m flow failure now).value with
    | some next => exact .pure (kept next handled)
    | none => exact reads

/-! ## Status -/

theorem onNotFound_read (m : Model) (id : String) (now : Int) : Read m (onNotFound m id now) := by
  unfold onNotFound
  split
  · exact .after (report_mute _ _ _) (.bind (transition_tallied _ _ _) (.pure rfl))
  · split
    · exact .pure rfl
    · exact .after rfl (.pure rfl)

theorem readStatus_read (m : Model) (id : String) (result : Outcome IntentStatusResult)
    (unsentRead : Bool) (now : Int) : Read m (readStatus m id result unsentRead now) := by
  unfold readStatus
  split
  · exact .after (report_mute _ _ _) (.pure rfl)
  · exact .pure rfl
  · exact onNotFound_read m id now
  · exact onStatusRow_read m id _ unsentRead

theorem onStatus_tallied (m : Model) (gen attempt : Nat) (result : Outcome IntentStatusResult)
    (now : Int) : Tallied m (onStatus m gen attempt result now) := by
  unfold onStatus
  split
  · exact .pure rfl
  dsimp only
  refine .ite (fun _ => .pure rfl) fun _ => .ite (fun _ => .pure rfl) fun _ => ?_
  split
  · exact .after (report_mute _ _ _) (.pure rfl)
  · refine .bind (markRead_tallied _ _ _ _) ?_
    exact Refuses.trans (readStatus_read _ _ _ _ _) (settlePoll_tallied _ _ _ _ _)

/-! ## Messages -/

theorem tickExpiry_tallied (m : Model) (now : Int) : Tallied m (tickExpiry m now) := by
  unfold tickExpiry
  split
  · exact .pure rfl
  · split
    · exact .pure rfl
    · exact .ite (fun _ => Tallied.of (transition_tallied _ _ _) rfl) fun _ => .pure rfl

/-- An ask without an allocation. -/
theorem startQuote_tallied (numbered : Numbered m) (now : Int) {opts : QuoteOpts}
    (plain : opts.allocate = none) : Tallied m (startQuote m now opts) := by
  have opens : Opens m opts.allocate (startQuote m now opts) :=
    startQuote_opens numbered now (by simp [plain])
  rw [plain] at opens
  exact opens.tallied

theorem requestQuote_tallied (numbered : Numbered m) (now : Int) :
    Tallied m (requestQuote m now) := by
  unfold requestQuote
  refine .ite (fun _ => .after (report_mute _ _ _) (.pure rfl)) fun _ => ?_
  exact .ite (fun _ => startQuote_tallied numbered now rfl) fun _ => .pure rfl

theorem onTimer_tallied (numbered : Numbered m) (timer : TimerName) (now : Int) :
    Tallied m (onTimer m timer now) := by
  cases timer with
  | debounce => exact requestQuote_tallied numbered now
  | refresh =>
    unfold onTimer
    dsimp only
    split
    · exact .pure rfl
    · refine .ite (fun _ => .pure rfl) fun _ => ?_
      have kept : Numbered { m with refresh := none } := ⟨numbered.distinct, numbered.bound⟩
      exact Tallied.of (startQuote_tallied kept now rfl) rfl
  | expiry => exact tickExpiry_tallied m now
  | poll =>
    unfold onTimer
    refine .ite (fun _ => resendBackstop_tallied m now) fun _ => ?_
    cases m.poll with
    | none => exact .pure rfl
    | some poll => exact .ite (fun _ => .pure rfl) fun _ => pollTick_tallied m true
  | signPrompt => exact signFlowFailed_tallied m promptTimeout
  | execute => exact resendExecute_tallied m now

theorem onContextChanged_tallied (m : Model) (ctx : Context) :
    Tallied m (onContextChanged m ctx) := by
  unfold onContextChanged
  refine .ite (fun _ => .pure rfl) fun _ => ?_
  dsimp only
  split
  · exact .after (timer_mute _) (Tallied.of (supersedeFlights_tallied _) rfl)
  · exact Tallied.of (supersedeFlights_tallied _) rfl

theorem onAllocateRequested_opens (numbered : Numbered m) (key ref : String) (now : Int) :
    Opens m (some ⟨key, ref⟩) (onAllocateRequested m key ref now) := by
  unfold onAllocateRequested
  split
  · have refused : Opens m (some ⟨key, ref⟩)
        (endAllocation (some ⟨key, ref⟩) false >>= fun _ => pure m) := .refuse rfl
    exact refused
  · have kept : Numbered { m with allocationKey := some (m.allocationKey.getD key) } :=
      ⟨numbered.distinct, numbered.bound⟩
    let opts : QuoteOpts :=
      { amount := m.amount, silent := false, forceRefresh := true
        allocate := some ⟨m.allocationKey.getD key, ref⟩ }
    have opens : Opens _ opts.allocate (startQuote _ now opts) :=
      startQuote_opens kept now fun _ => rfl
    exact ⟨opens.tally, opens.refused, opens.told⟩

theorem onVisible_tallied (numbered : Numbered m) (now : Int) : Tallied m (onVisible m now) := by
  have rest (next : Model) : Tallied next (
      if awaitingResend next then resendBackstop next now else wakePoll next) := by
    refine .ite (fun _ => resendBackstop_tallied next now) fun _ => ?_
    unfold wakePoll
    cases next.poll with
    | none => exact .pure rfl
    | some poll => exact .ite (fun _ => .pure rfl) fun _ => pollTick_tallied next false
  unfold onVisible
  dsimp only
  split
  · exact .bind (startQuote_tallied numbered now rfl) (rest _)
  · exact .bind (.pure rfl) (rest _)

/-! ## Rules -/

theorem watchWallet_ruled (m : Model) : Ruled m (watchWallet m) := by
  unfold watchWallet
  dsimp only
  split
  · exact .nothing
  · split
    · exact .pure rfl
    · exact .after (timer_mute _) (.after (timer_mute _) (.after (timer_mute _) (.pure rfl)))

theorem upgradePreview_ruled (numbered : Numbered m) (now : Int) :
    Ruled m (upgradePreview now m) := by
  unfold upgradePreview
  dsimp only
  split
  · exact .nothing
  · split
    · exact .pure rfl
    · refine .of (Tallied.of (startQuote_tallied ?_ now rfl) rfl)
      exact ⟨numbered.distinct, numbered.bound⟩

theorem armExpiry_ruled (m : Model) (now : Int) : Ruled m (armExpiry now m) := by
  let next : Model := { m with watched := { m.watched with expiry := expiryKey m } }
  have rest : Ruled m (startExpiry m next now) := by
    unfold startExpiry
    split
    · exact .pure rfl
    · exact .after (timer_mute _) (.of (Tallied.of (tickExpiry_tallied next now) rfl))
  unfold armExpiry
  dsimp only
  split
  · exact .nothing
  · split
    · exact .after (timer_mute _) rest
    · exact rest

theorem armPoll_ruled (m : Model) (now : Int) : Ruled m (armPoll now m) := by
  have rest : Ruled m (startPoll m now) := by
    unfold startPoll
    split
    · exact .pure rfl
    · refine .after (timer_mute _) ?_
      dsimp only
      split
      · exact .pure rfl
      · exact .of (Tallied.of (pollTick_tallied _ _) rfl)
  unfold armPoll
  dsimp only
  split
  · exact .nothing
  · split
    · split
      · exact .after (timer_mute _) rest
      · exact rest
    · exact rest

end

end XochiSdk.Client
