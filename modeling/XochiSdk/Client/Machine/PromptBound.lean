import XochiSdk.Client.Machine.TimerBook
import XochiSdk.Client.Machine.Progress

/-!
# Bounded wallet prompts

In every run the prompt timer is armed exactly while a signature prompt is out, and its firing
ends the ceremony. The token approval is the wallet call that waits with no timer.
-/

namespace XochiSdk.Client

open XochiSdk.Js XochiSdk.Shared XochiSdk.Signer XochiSdk.Library Emits

/-- A message that is the one-shot prompt timer firing. -/
def MsgBody.firesPrompt : MsgBody → Bool
  | .timerFired .signPrompt => true
  | _ => false

/-- The prompt timer after one more entry of a log: its effects set and clear it, and its firing
spends it. -/
def armedOn (armed : Bool) : Happening Model Input Effect → Bool
  | .handled _ i => if i.2.body.firesPrompt then false else armed
  | .emitted e => armedAfter armed e

def promptArmed (log : Log) : Bool := log.foldl armedOn false

theorem foldl_emitted (fx : List Effect) (armed : Bool) :
    (fx.map (.emitted (σ := Model) (ι := Input))).foldl armedOn armed = fx.foldl armedAfter armed := by
  rw [List.foldl_map]
  rfl

section

variable [Host] {m m' : Model} {fx : List Effect} {log : Log}

/-- A one-shot that fires, even late, ends with the flow. -/
theorem onPrompt_arms (m : Model) (now : Int) :
    (onTimer m .signPrompt now).log.foldl armedAfter false =
      prompting (onTimer m .signPrompt now).value := by
  unfold onTimer
  cases live : m.sign with
  | none =>
    unfold signFlowFailed
    rw [live]
    exact (unsigned_idle live).1.symm
  | some flow =>
    have ends : Books (promptBook (endSignFlow m flow) false) (signFlowFailed m promptTimeout) :=
      signFlowFailed_from live _ rfl
    exact ends.arms

theorem step_arms {wall : WallClock} {msg : Msg} {x : Machine Model} (coherent : Coherent m)
    (stepped : step wall m msg = .ok x) :
    x.log.foldl armedAfter (if msg.body.firesPrompt then false else prompting m) =
      prompting x.value := by
  by_cases fires : msg.body = .timerFired .signPrompt
  · unfold step at stepped
    rw [fires] at stepped ⊢
    cases stepped
    exact onPrompt_arms m msg.now
  · have books := step_books coherent (fun body => absurd body fires) stepped
    have spent : ((book m).receive msg.body).prompt =
        if msg.body.firesPrompt then false else prompting m := by
      unfold TimerBook.receive MsgBody.firesPrompt
      cases body : msg.body with
      | timerFired timer =>
        cases timer with
        | signPrompt => exact absurd body fires
        | _ => rfl
      | _ => rfl
    rw [← spent]
    exact books.arms

theorem Next.arms {i : Input} (inv : Inv m) (next : Next m i fx m') :
    fx.foldl armedAfter (if i.2.body.firesPrompt then false else prompting m) = prompting m' := by
  have received := inv.receive i.1 i.2
  cases stepped : step i.1 (receive m i.2) i.2 with
  | error e =>
    have silent : i.2.body.firesPrompt = false := by
      cases fires : i.2.body.firesPrompt with
      | false => rfl
      | true =>
        unfold MsgBody.firesPrompt at fires
        split at fires
        · rename_i body
          unfold step at stepped
          rw [body] at stepped
          cases stepped
        · cases fires
    unfold Next update at next
    rw [show { m with hidden := i.2.hidden } = receive m i.2 from rfl, stepped] at next
    obtain ⟨rfl, rfl⟩ := next
    rw [silent]
    rfl
  | ok x =>
    obtain ⟨rfl, rfl⟩ := next.of_step stepped
    have held : Inv x.value :=
      Stepped.inv (step_steps received.coherent stepped).symm received
    have steps : x.log.foldl armedAfter (if i.2.body.firesPrompt then false else prompting m) =
        prompting x.value := step_arms (m := receive m i.2) received.coherent stepped
    rw [List.foldl_append, steps]
    exact (settle_books i.1 held i.2.now).arms

/-- The prompt timer is armed exactly while a signature prompt is out. -/
theorem promptArmed_eq (run : MachineRun log m) : promptArmed log = prompting m := by
  refine Run.invariant (P := fun log m => promptArmed log = prompting m) ?_ ?_ run
  · rintro _ ⟨config, ctx, hidden, rfl⟩
    rfl
  · intro log m i fx m' run armed next
    unfold promptArmed at armed ⊢
    rw [List.foldl_append, armed, List.foldl_cons, foldl_emitted]
    exact next.arms (MachineRun.inv run)

/-! ## The end of an unanswered prompt -/

omit [Host] in
theorem transition_unsigned (target : IntentStatus) (updates : IntentState → IntentState)
    (unsigned : m.sign = none) : (transition m target updates).value.sign = none := by
  cases edge : canTransitionTo m.intent.status target with
  | true =>
    rw [(transition_of_edge edge).1]
    exact (moved_sign _ _ _).elim (fun same => same.trans unsigned) id
  | false =>
    rw [(transition_of_no_edge edge).1]
    exact unsigned

omit [Host] in
theorem signFlowFailed_unsigned (m : Model) (failure : ErrorReport) :
    (signFlowFailed m failure).value.sign = none := by
  unfold signFlowFailed
  cases live : m.sign with
  | none => exact live
  | some flow =>
    have ended : (endSignFlow m flow).sign = none := rfl
    rw [value_bind]
    dsimp only
    split
    · split
      · exact transition_unsigned _ _ ended
      · cases failure.value with
        | none => exact transition_unsigned _ _ ended
        | some value =>
          dsimp only
          split
          · exact transition_unsigned _ _ ended
          · exact transition_unsigned _ _ ended
    · split
      · exact transition_unsigned (m := { endSignFlow m flow with awaitingPull := false }) _ _ rfl
      · rfl

/-- The timer's firing ends the ceremony. -/
theorem Next.prompt_ends {i : Input} (fires : i.2.body = .timerFired .signPrompt)
    (next : Next m i fx m') : m'.sign = none := by
  have stepped : step i.1 (receive m i.2) i.2 =
      .ok (signFlowFailed (receive m i.2) promptTimeout) := by
    unfold step
    rw [fires]
    rfl
  obtain ⟨-, rfl⟩ := next.of_step stepped
  have settled : Does i.1 (rulesCause i.2.now) _ _ :=
    settle_does (m := (signFlowFailed (receive m i.2) promptTimeout).value) rfl
  exact Chain.sign settled (signFlowFailed_unsigned _ _)

/-! ## The approval -/

/-- The ceremony waits for the token approval. -/
def ApprovalOut (m : Model) : Prop :=
  m.intent.status = .signing ∧ ∃ flow, m.sign = some flow ∧ flow.stage = .approval

/-- The message has the approval asked for: it signs a pinned pull's intent with a wallet that
prompts in place, or it is the tap for that pull's signature. -/
inductive AsksApproval (m : Model) (msg : Msg) : Prop where
  | signed {flow : SignFlow} {signature : String} {pull : Eip712TypedData} {expected : Int}
      (body : msg.body = .signReplied flow.id .intent (.ok signature))
      (live : m.sign = some flow) (stage : flow.stage = .intent)
      (signing : m.intent.status = .signing) (inPlace : m.ctx.wallet.stepwise = false)
      (pinned : Pinned m pull expected)
  | tapped {pull : Eip712TypedData} {expected : Int} (signing : m.intent.status = .signing)
      (taps : Taps msg m) (pinned : Pinned m pull expected)

/-- An act that leaves a flow to a signing intent found them so. -/
theorem Act.signing {wall : WallClock} {cause : Cause} (inv : CeremonyInv m)
    (act : Act wall cause m fx m') (live : m'.sign ≠ none) (signing : m'.intent.status = .signing) :
    m.sign = m'.sign ∧ m.intent.status = .signing := by
  cases act
  case resumed adopts =>
    have idle := (buildResumedState_some adopts).1
    have unsigned : m.sign = none :=
      (inv.unsigned (by rw [idle]; decide) (by rw [idle]; decide)).sign
    exact absurd unsigned live
  case executeFailed | executeMoved =>
    exact absurd (moved_unsigned (answeredExecute_ceremonyInv inv _) _ _).sign live
  all_goals first
    | exact ⟨rfl, signing⟩
    | exact absurd rfl live
    | exact absurd (moved_unsigned inv _ _).sign live
    | cases signing

theorem ApprovalOut.of_chain {wall : WallClock} {cause : Cause} (inv : Inv m)
    (chain : Chain (Act wall cause) m fx m') (out : ApprovalOut m') : ApprovalOut m := by
  have kept := chain.invariant (P := fun x => Inv x ∧ (ApprovalOut x → ApprovalOut m))
    (fun x _ y held act => ⟨act.inv held.1, fun ⟨signing, flow, live, stage⟩ => by
      obtain ⟨same, status⟩ := act.signing held.1.ceremony (by rw [live]; simp) signing
      exact held.2 ⟨status, flow, same.trans live, stage⟩⟩) ⟨inv, id⟩
  exact kept.2 out

/-- A stepwise wallet's intent signature leaves no flow. -/
theorem onSigned_stepwise {flow : SignFlow} {signature : String} {now : Int} {x : Machine Model}
    (live : m.sign = some flow) (stage : flow.stage = .intent) (signing : m.intent.status = .signing)
    (stepwise : m.ctx.wallet.stepwise = true)
    (held : (m.intent.quote.bind (·.pullAuthorization)).isSome = true)
    (signed : onSigned m flow.id .intent (.ok signature) now = .ok x) : x.value.sign = none := by
  unfold onSigned at signed
  rw [live] at signed
  dsimp only at signed
  rw [if_neg (by simp [stage, Purpose.stage]), signing, if_neg (by simp), stepwise, if_neg (by
    rw [Option.isNone_iff_eq_none, ← Option.not_isSome_iff_eq_none, not_not]; exact held),
    if_pos rfl] at signed
  cases signed
  rfl

/-- A step that leaves no flow waits for no approval. -/
theorem Next.unasked {i : Input} {x : Machine Model} (next : Next m i fx m')
    (stepped : step i.1 (receive m i.2) i.2 = .ok x) (ended : x.value.sign = none) :
    ¬ApprovalOut m' := by
  obtain ⟨-, rfl⟩ := next.of_step stepped
  have settled : Does i.1 (rulesCause i.2.now) x.value (settle x.value i.2.now) := settle_does rfl
  rintro ⟨-, flow, live, -⟩
  rw [Chain.sign settled ended] at live
  cases live

/-- A signing intent waits for the approval only if it did, or was asked for it. -/
theorem Next.approval {i : Input} (inv : Inv m) (next : Next m i fx m') (out : ApprovalOut m') :
    ApprovalOut m ∨ AsksApproval (receive m i.2) i.2 := by
  rcases next.cases inv with ⟨-, rfl⟩ | ⟨fy, m₁, fz, stepped, settled, -⟩
  · exact .inl out
  have received := inv.receive i.1 i.2
  have out₁ := out.of_chain (stepped.inv received) settled
  rcases stepped with chain | ceremony
  · have before : ApprovalOut (receive m i.2) := out₁.of_chain received chain
    exact .inl before
  obtain ⟨signing, flow, live, stage⟩ := out₁
  cases ceremony
  case approvalAsked f signature pull expected fx body here intent status pinned before =>
    cases stepwise : (receive m i.2).ctx.wallet.stepwise with
    | false => exact .inr (.signed body here intent status stepwise pinned)
    | true =>
      have steps : step i.1 (receive m i.2) i.2 =
          onSigned (receive m i.2) f.id .intent (.ok signature) i.2.now := by
        unfold step
        rw [body]
      cases signed : onSigned (receive m i.2) f.id .intent (.ok signature) i.2.now with
      | error e =>
        unfold Next update at next
        rw [show { m with hidden := i.2.hidden } = receive m i.2 from rfl, steps, signed] at next
        exact .inl (next.2 ▸ out)
      | ok x =>
        have ended := onSigned_stepwise here intent status stepwise
          (by rw [pinned.held]; rfl) signed
        exact absurd out (next.unasked (steps.trans signed) ended)
  case tapped pull expected taps pinned => exact .inr (.tapped signing taps pinned)
  case tapRefused edge _ =>
    rw [show (receive m i.2).intent.status = .signing from signing] at edge
    cases edge
  case pullPrompted => cases live; cases stage
  case prompted => cases live; cases stage
  case executed => cases live; cases stage
  case kept => cases live
  case held executes _ _ _ _ _ _ _ =>
    cases live
    rw [executes] at stage
    cases stage
  case resent here _ waits _ _ _ _ =>
    obtain ⟨sent, _, _, here', executes, -⟩ := awaitingResend_iff.mp waits
    rw [here] at here'
    cases here'
    cases live
    rw [executes] at stage
    cases stage

/-- In every run that never has the approval asked for, no signing intent waits for it. -/
theorem unasked_run (run : MachineRun log m)
    (unasked : ∀ source i, .handled source i ∈ log → ¬AsksApproval (receive source i.2) i.2) :
    ¬ApprovalOut m := by
  refine Run.invariant (P := fun log m =>
    (∀ source i, .handled source i ∈ log → ¬AsksApproval (receive source i.2) i.2) →
      ¬ApprovalOut m) ?_ ?_ run unasked
  · rintro _ ⟨config, ctx, hidden, rfl⟩ - ⟨signing, -⟩
    cases signing
  · intro log m i fx m' run before next unasked out
    have unasked' : ∀ source i, .handled source i ∈ log → ¬AsksApproval (receive source i.2) i.2 :=
      fun source i mem => unasked source i (by simp [mem])
    rcases next.approval (MachineRun.inv run) out with waited | asked
    · exact before unasked' waited
    · exact unasked m i (by simp) asked

/-! ## The bound -/

/-- A wallet call outstanding in a signing ceremony has its timer armed, and the timer's firing
ends the ceremony. -/
def PromptBounded (log : Log) (m : Model) : Prop :=
  ∀ flow, m.sign = some flow → m.intent.status = .signing → flow.stage ≠ .execute →
    promptArmed log = true ∧
      ∀ i fx m', i.2.body = .timerFired .signPrompt → Next m i fx m' → m'.sign = none

omit [Host] in
theorem prompting_of_stage {flow : SignFlow} (live : m.sign = some flow)
    (out : flow.stage ≠ .execute) : prompting m = true ↔ flow.stage ≠ .approval := by
  unfold prompting
  rw [live]
  dsimp only
  cases stage : flow.stage <;> simp_all

/-- Along every run a wallet call is bounded exactly while it is not the token approval, so runs
that never have the approval asked for are bounded in every state. -/
theorem promptBounded_iff (run : MachineRun log m) :
    (PromptBounded log m ↔ ¬ApprovalOut m) ∧
      ((∀ source i, .handled source i ∈ log → ¬AsksApproval (receive source i.2) i.2) →
        PromptBounded log m) := by
  have bounded (free : ¬ApprovalOut m) : PromptBounded log m := by
    intro flow live signing out
    refine ⟨?_, fun i fx m' fires next => next.prompt_ends fires⟩
    rw [promptArmed_eq run]
    exact (prompting_of_stage live out).mpr fun stage => free ⟨signing, flow, live, stage⟩
  refine ⟨⟨?_, bounded⟩, fun unasked => bounded (unasked_run run unasked)⟩
  rintro holds ⟨signing, flow, live, stage⟩
  have out : flow.stage ≠ .execute := by rw [stage]; decide
  have armed := (holds flow live signing out).1
  rw [promptArmed_eq run] at armed
  exact (prompting_of_stage live out).mp armed stage

end

/-- The sample's intent signed with a wallet that prompts in place: the approval waits unarmed. -/
theorem approval_unbounded :
    letI := plainHost
    ∃ log m, MachineRun log m ∧ ¬PromptBounded log m := by
  let _ := plainHost
  obtain ⟨flight, m, own, quoted⟩ := sample_quoted
  obtain ⟨flow, m₁, stage, origin, signs⟩ := confirmed sampleWall quoted own sample_confirmable
  obtain ⟨m₂, signs₂, -⟩ := approvalAsked sampleWall sampleNow signs stage sample_pullable rfl "0x99"
  obtain ⟨log, run⟩ := signs₂.trades.on.reachable
  refine ⟨log, m₂, run, fun bounded => ?_⟩
  have armed := (bounded _ signs₂.sign signs₂.status (by simp)).1
  rw [promptArmed_eq run] at armed
  unfold prompting at armed
  rw [signs₂.sign] at armed
  cases armed

/-- The sample's intent prompt is bounded. -/
theorem promptBounded_sample :
    letI := plainHost
    ∃ log m, MachineRun log m ∧ m.intent.status = .signing ∧ PromptBounded log m := by
  let _ := plainHost
  obtain ⟨flight, m, own, quoted⟩ := sample_quoted
  obtain ⟨flow, m₁, stage, origin, signs⟩ := confirmed sampleWall quoted own sample_confirmable
  obtain ⟨log, run⟩ := signs.trades.on.reachable
  refine ⟨log, m₁, run, signs.status, (promptBounded_iff run).1.mpr ?_⟩
  rintro ⟨-, other, live, approves⟩
  rw [signs.sign] at live
  cases live
  rw [stage] at approves
  cases approves

end XochiSdk.Client
