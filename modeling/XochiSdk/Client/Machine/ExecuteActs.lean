import XochiSdk.Client.Machine.SignActs

/-!
# Execute and its resends as acts

The dispatch of `/execute`, the verdict on its reply, and the resends.
-/

namespace XochiSdk.Client

open XochiSdk.Js XochiSdk.Shared XochiSdk.Signer XochiSdk.Library Emits

theorem runExecute_spec {m : Model} (flow : SignFlow) (signature : String)
    (pullSignature : Option String) (now : Int) (signing : m.intent.status = .signing) :
    ∃ fx, Quiet fx ∧
      (runExecute m flow signature pullSignature now).log =
        fx ++ [.api (.execute flow.id (executeRequest m signature pullSignature now))] ∧
      (runExecute m flow signature pullSignature now).value = { m with
        intent := { m.intent with status := .executing, notSent := false }
        submittedAt := some now, clientFillMs := none
        sign := some { flow with
          stage := .execute
          execute := some
            { request := executeRequest m signature pullSignature now
              resends := 0, resendAt := none, error := none } } } := by
  let staged : Model := { m with
    sign := some { flow with
      stage := .execute
      execute := some
        { request := executeRequest m signature pullSignature now
          resends := 0, resendAt := none, error := none } } }
  obtain ⟨value, effects⟩ := signing_to_executing (m := staged) signing rfl rfl
  have ran : runExecute m flow signature pullSignature now = (do
      let executing ← transition staged .executing id
      if executing.intent.status ≠ .executing then abandonSign m
      else do
        emit (.api (.execute flow.id (executeRequest m signature pullSignature now)))
        pure { executing with submittedAt := some now, clientFillMs := none }) := by
    unfold runExecute
    rw [if_neg (by simp [signing])]
    rfl
  rw [ran, value_bind, log_bind, value, if_neg (by simp)]
  exact ⟨_, effects, rfl, rfl⟩

theorem executeResponse_cases (result : ExecuteResult) (intentId : Option String) :
    Quiet (executeResponseUnlessInDoubt result intentId).log ∧
      ((executeResponseUnlessInDoubt result intentId).value = none ∨
        ∃ response reply unmapped, result = .reply response ∧
          readRelayedExecuteReply response = some reply ∧ intentId = some reply.intentId ∧
          (executeResponseUnlessInDoubt result intentId).value =
            some (decodeReply reply, unmapped)) := by
  unfold executeResponseUnlessInDoubt
  split
  · exact ⟨by simp, .inl rfl⟩
  · exact ⟨by simp, .inl rfl⟩
  · split
    · exact ⟨by simp, .inl rfl⟩
    · rename_i response _ reply reads
      split
      · exact ⟨by simp, .inl rfl⟩
      · rename_i own
        have own : intentId = some reply.intentId := (not_not.mp own).symm
        split
        · exact ⟨by simp, .inr ⟨response, reply, _, rfl, reads, own, rfl⟩⟩
        · exact ⟨by simp, .inr ⟨response, reply, _, rfl, reads, own, rfl⟩⟩

theorem timeFill_answered (m : Model) (flow : SignFlow) (status : WireStatus) (now : Int) :
    ∃ clientFillMs, timeFill (answeredExecute m flow) status now =
      answeredExecute { m with clientFillMs := clientFillMs } flow := by
  unfold timeFill
  split
  · rename_i submittedAt _
    split
    · exact ⟨some (now - submittedAt), rfl⟩
    · exact ⟨m.clientFillMs, rfl⟩
  · exact ⟨m.clientFillMs, rfl⟩

theorem notAcceptedReport_some {result : ExecuteResult} {failure : ErrorReport}
    (h : notAcceptedReport result = some failure) :
    result = .error failure ∧ failure.notAccepted = some true := by
  unfold notAcceptedReport at h
  split at h
  · split at h
    · rename_i refused
      cases h
      exact ⟨rfl, refused⟩
    · cases h
  · cases h

theorem Stops.of_reply {msg : Msg} {m : Model} {flow : SignFlow} {result : ExecuteResult}
    (body : msg.body = .executeReplied flow.id result) (live : m.sign = some flow) :
    Stops msg.cause m := by
  intro other live' _
  rw [live] at live'
  cases live'
  exact .inr (.inr ⟨result, Msg.cause_body body⟩)

section

variable [Host] {wall : WallClock} {msg : Msg} {m : Model}

/-- The signature that completes a ceremony dispatches its execute. -/
theorem runExecute_steps {flow : SignFlow} {m₁ : Model} {x : Machine Unit} {signature : String}
    {pullSignature pendingIntentSig intentSignature : Option String} {awaitingPull : Bool}
    (before : Quiet x.log) (live : m.sign = some flow) (signing : m.intent.status = .signing)
    (completes : Completes msg m flow signature pullSignature)
    (awaits : awaitingPull = true → flow.stage = .intent ∧ m.awaitingPull = true)
    (same : m₁ = { m with pendingIntentSig := pendingIntentSig, awaitingPull := awaitingPull }) :
    Steps wall msg m (x >>= fun _ => runExecute m₁ { flow with intentSignature := intentSignature }
      signature pullSignature msg.now) := by
  subst same
  obtain ⟨fx, quiet, log, value⟩ := runExecute_spec
    (m := { m with pendingIntentSig := pendingIntentSig, awaitingPull := awaitingPull })
    { flow with intentSignature := intentSignature } signature pullSignature msg.now signing
  refine .ceremony ?_
  rw [value_bind, log_bind, log, value, ← List.append_assoc]
  have sends : Ceremony msg m
      (x.log ++ fx ++ [.api (.execute flow.id (executeRequest m signature pullSignature msg.now))])
      { m with
        intent := { m.intent with status := .executing, notSent := false }
        pendingIntentSig := pendingIntentSig, awaitingPull := awaitingPull
        submittedAt := some msg.now, clientFillMs := none
        sign := some { flow with
          stage := .execute
          intentSignature := intentSignature
          execute := some
            { request := executeRequest m signature pullSignature msg.now
              resends := 0, resendAt := none, error := none } } } :=
    .executed live signing completes awaits (quiet_append.mpr ⟨before, quiet⟩)
  exact sends

/-- A signature the wallet answered with, handed on or kept. -/
theorem onSigned_steps {flowId : String} {purpose : Purpose} {result : Outcome String}
    {x : Machine Model} (coherent : Coherent m)
    (body : msg.body = .signReplied flowId purpose result)
    (signed : onSigned m flowId purpose result msg.now = .ok x) : Steps wall msg m x := by
  unfold onSigned at signed
  split at signed
  · cases signed
    exact .acts .done
  rename_i flow live
  split at signed
  · cases signed
    exact .acts .done
  rename_i here
  obtain ⟨rfl, stage⟩ : flow.id = flowId ∧ flow.stage = purpose.stage := by simpa using here
  split at signed
  · cases signed
    have free : Stops msg.cause m := .of_stage fun other live' => by
      rw [live] at live'
      cases live'
      rw [stage]
      cases purpose <;> decide
    exact .acts (.of_parts (abandonSign_value m) (abandonSign_quiet m)
      (.single (.stopped free (.inr rfl) (by simp) (by simp))))
  rename_i signing
  have signing : m.intent.status = .signing := not_not.mp signing
  cases result with
  | error failure =>
    cases signed
    refine .acts (.after (by simp) (signFlowFailed_does coherent (.of_body body rfl) live fun out => ?_))
    rw [stage] at out
    cases purpose <;> cases out
  | ok signature =>
    cases purpose with
    | pull =>
      cases signed
      exact runExecute_steps (by simp) live signing (.pull body stage) (by simp) rfl
    | intent =>
      dsimp only at signed
      split at signed
      · rename_i pull
        cases signed
        exact runExecute_steps (by simp) live signing (.intent body stage (by simpa using pull))
          (fun awaits => ⟨stage, awaits⟩) rfl
      · split at signed
        · cases signed
          exact .ceremony (.kept body live stage signing id (by simp))
        · cases completed : completePull { m with pendingIntentSig := some signature }
            { flow with intentSignature := some signature } with
          | error e =>
            rw [completed] at signed
            cases signed
          | ok x₁ =>
            rw [completed] at signed
            cases signed
            exact completePull_signed body live stage (coherent.origin flow live stage) signing
              completed

/-! ## The reply to an execute -/

theorem unsent_does (reads : ReadsUnsent msg.cause) (free : Stops msg.cause m) (flow : SignFlow) {error : ErrorValue}
    (executing : m.intent.status = .executing) :
    Chain (Act wall msg.cause) m [] (stopResending m flow error) :=
  .snoc (.single (endSignFlow_act free flow)) (.unsent reads rfl executing)

variable (wall) in
/-- A resend goes out, whatever quiet effects came before it, or the wait is over without one. -/
theorem resendExecute_cases (reads : ReadsUnsent msg.cause) :
    Does wall msg.cause m (resendExecute m msg.now) ∨
    ∀ fx, Quiet fx →
      Ceremony msg m (fx ++ (resendExecute m msg.now).log) (resendExecute m msg.now).value := by
  unfold resendExecute
  split
  · exact .inl .done
  rename_i flow live
  split
  · exact .inl .done
  rename_i attempt sent
  split
  · exact .inl .done
  rename_i here
  obtain ⟨waits, executing⟩ : awaitingResend m = true ∧ m.intent.status = .executing := by
    simpa using here
  have gives (x : Machine Unit) (h : Quiet x.log) (error : ErrorValue) : Does wall msg.cause m
      (x >>= fun _ => pure (stopResending m flow error)) :=
    .after h (.chain (unsent_does reads (fun _ _ _ => .inl waits) flow executing))
  dsimp only
  cases bound : executeDeadline m.intent.quote with
  | none => exact .inl (gives _ (report_quiet _ _ _) _)
  | some deadline =>
    dsimp only
    split
    · exact .inl (gives _ (report_quiet _ _ _) _)
    · rename_i inTime
      exact .inr fun fx h => .resent live sent waits executing bound (by simpa using inTime) h

theorem resendExecute_steps (reads : ReadsUnsent msg.cause) :
    Steps wall msg m (resendExecute m msg.now) :=
  (resendExecute_cases wall reads).elim .acts fun resent => .ceremony (resent [] quiet_nil)

theorem resendBackstop_steps (reads : ReadsUnsent msg.cause) :
    Steps wall msg m (resendBackstop m msg.now) := by
  unfold resendBackstop
  split
  · exact .acts .done
  · refine .ite (fun _ => .acts .done) fun _ => ?_
    rcases resendExecute_cases wall (m := m) reads with acts | resent
    · exact .acts (.after (report_quiet _ _ _) (.after (by simp) acts))
    · refine .ceremony ?_
      rw [value_bind, value_bind, log_bind, log_bind, ← List.append_assoc]
      exact resent _ (quiet_append.mpr ⟨report_quiet _ _ _, by simp⟩)

variable (wall) in
/-- What the not-accepted handler leaves: in doubt, given up, or held for a resend. -/
theorem onNotAccepted_cases {flow : SignFlow} {failure : ErrorReport}
    (body : msg.body = .executeReplied flow.id (.error failure))
    (refused : failure.notAccepted = some true) (live : m.sign = some flow)
    (stage : flow.stage = .execute) (out : awaitingResend m = false) :
    Quiet (onNotAccepted m flow failure msg.now).log ∧
      ((onNotAccepted m flow failure msg.now).value = none ∨
        ∃ next, (onNotAccepted m flow failure msg.now).value = some next ∧
          (Chain (Act wall msg.cause) m [] next ∨
            ∀ fx, Quiet fx → Ceremony msg m fx next)) := by
  unfold onNotAccepted
  dsimp only
  split
  · exact ⟨by simp, .inl rfl⟩
  rename_i attempt sent
  split
  · exact ⟨by simp, .inl rfl⟩
  rename_i here
  obtain ⟨own, executing, certain⟩ : m.intent.intentId = some attempt.request.intentId ∧
      m.intent.status = .executing ∧ m.intent.reconciling = false := by simpa using here
  split
  · rename_i reason decision
    refine ⟨by simp, .inr ⟨_, rfl, .inl ?_⟩⟩
    have ends : Act wall msg.cause m [] (endSignFlow { m with pendingIntentSig := none } flow) :=
      .stopped (.of_reply body live) (.inr rfl) id (by split <;> simp)
    exact .snoc (.single ends) (.unsent (.of_body body rfl) rfl executing)
  · rename_i delayMs decision
    refine ⟨by simp, .inr ⟨_, rfl, .inr fun fx h => ?_⟩⟩
    exact .held body refused live stage out sent own executing certain decision h

theorem answeredExecute_act (free : Stops msg.cause m) (flow : SignFlow) :
    Act wall msg.cause m [] (answeredExecute m flow) :=
  .stopped free (.inr rfl) id (by split <;> simp)

theorem applyExecuteDecision_does {flow : SignFlow} {reply : RelayedExecuteReply}
    (answered : ExecuteAnswered msg.cause m flow reply) (unmapped : Bool) :
    Does wall msg.cause m
      (applyExecuteDecision (answeredExecute m flow) (decodeReply reply) unmapped msg.now) := by
  obtain ⟨_, replied, -⟩ := answered.body
  have free : Stops msg.cause m := .of_reply (Option.some.inj replied) answered.sign
  unfold applyExecuteDecision
  split
  · rename_i error mayHaveMoved decided
    cases edge : canTransitionTo (answeredExecute m flow).intent.status .failed with
    | false =>
      exact .of_parts (transition_of_no_edge edge).1 (transition_of_no_edge edge).2
        (.single (answeredExecute_act free flow))
    | true =>
      exact .of_parts (transition_of_edge edge).1 (transition_of_edge edge).2
        (.single (.executeFailed answered decided edge))
  · rename_i status decided decision
    have marks {m₁ : Model} (b : Bool) : Does wall msg.cause m₁ (pure (if b then
        patch m₁ fun intent => { intent with reconciling := true } else m₁)) := by
      split
      · exact .act (.annotated (.inl rfl))
      · exact .done
    have rest (clientFillMs : Option Int) (updates : ExecuteUpdates)
        (kept : updates = decided ∨ updates = { decided with reconciling := true }) (b : Bool) :
        Does wall msg.cause m (do
          let moved ← transitionTo (answeredExecute { m with clientFillMs := clientFillMs } flow)
            status updates.apply
          pure (if b then patch moved fun intent => { intent with reconciling := true }
            else moved)) := by
      have counted : Act wall msg.cause m [] { m with clientFillMs := clientFillMs } :=
        .noted (Nat.le_refl _)
      have answered' : ExecuteAnswered msg.cause { m with clientFillMs := clientFillMs } flow reply :=
        ⟨answered.body, answered.sign, answered.stage, answered.sent, answered.own⟩
      have free' : Stops msg.cause { m with clientFillMs := clientFillMs } := free
      refine .step counted (.bind ?_ (marks _))
      cases status with
      | inherited printed =>
        exact .of_parts rfl (by simp [transitionTo]) (.single (answeredExecute_act free' flow))
      | known target =>
        unfold transitionTo
        dsimp only
        cases edge : canTransitionTo
          (answeredExecute { m with clientFillMs := clientFillMs } flow).intent.status target with
        | false =>
          exact .of_parts (transition_of_no_edge edge).1 (transition_of_no_edge edge).2
            (.single (answeredExecute_act free' flow))
        | true =>
          exact .of_parts (transition_of_edge edge).1 (transition_of_edge edge).2
            (.single (.executeMoved answered' decision kept edge))
    dsimp only
    have kept : (if unmapped then { decided with reconciling := true } else decided) = decided ∨
        (if unmapped then { decided with reconciling := true } else decided) =
          { decided with reconciling := true } := by
      cases unmapped
      · exact .inl rfl
      · exact .inr rfl
    obtain ⟨clientFillMs, timed⟩ := timeFill_answered m flow status msg.now
    rw [timed]
    exact rest clientFillMs _ kept _

theorem onExecuted_steps {flowId : String} {result : ExecuteResult}
    (body : msg.body = .executeReplied flowId result) :
    Steps wall msg m (onExecuted m flowId result msg.now) := by
  unfold onExecuted
  split
  · exact .acts .done
  rename_i flow live
  refine .ite (fun _ => .acts .done) fun here => ?_
  obtain ⟨rfl, stage, out⟩ : flow.id = flowId ∧ flow.stage = .execute ∧ awaitingResend m = false := by
    simpa using here
  have free : Stops msg.cause m := .of_reply body live
  have verdict : Does wall msg.cause m (readExecute (answeredExecute m flow) result msg.now) := by
    unfold readExecute
    obtain ⟨quiet, value⟩ :=
      executeResponse_cases result (answeredExecute m flow).intent.intentId
    refine .after quiet ?_
    rcases value with value | ⟨response, reply, unmapped, rfl, reads, own, value⟩
    · rw [value]
      exact .step (answeredExecute_act free flow) (.act (.annotated (.inl rfl)))
    · rw [value]
      refine .ite (fun unclaimed => ?_) fun _ => ?_
      · exact .after (report_quiet _ _ _)
          (.step (answeredExecute_act free flow)
            (.act (.unsent (.of_body body rfl) rfl unclaimed.2.2.1)))
      · exact applyExecuteDecision_does
          ⟨⟨response, Msg.cause_body body, reads⟩, live, stage, out, own⟩ unmapped
  cases refused : notAcceptedReport result with
  | none => exact .acts verdict
  | some failure =>
    obtain ⟨rfl, notAccepted⟩ := notAcceptedReport_some refused
    obtain ⟨quiet, value⟩ := onNotAccepted_cases wall body notAccepted live stage out
    rcases value with value | ⟨next, value, chain | keeps⟩
    · refine .acts (.after quiet ?_)
      rw [value]
      exact verdict
    · refine .acts (.after quiet ?_)
      rw [value]
      exact .chain chain
    · refine .ceremony ?_
      rw [value_bind, log_bind, value]
      exact keeps _ (quiet_append.mpr ⟨quiet, quiet_nil⟩)

end

end XochiSdk.Client
