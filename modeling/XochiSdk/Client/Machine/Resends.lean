import XochiSdk.Library.Traces
import XochiSdk.Client.Machine.Unanswered

/-!
# Executes and their resends

Every execute of a run is its flow's first, or sends a refused one again: the same request, at
most so many times, while the intent still reads `executing`, and never past the order's deadline.
No execute stands between a resend and the attempt it repeats.
-/

namespace XochiSdk.Client

open XochiSdk.Js XochiSdk.Shared XochiSdk.Signer XochiSdk.Library Emits

/-- The effect sends the request under the flow. -/
abbrev sends (flow : String) (request : ExecuteRequest) : Happening Model Input Effect :=
  .emitted (.api (.execute flow request))

/-- No execute is sent. -/
def Unsent (log : Log) : Prop := ∀ flow request, sends flow request ∉ log

/-- The server answered the attempt that it accepted nothing, and the intent was executing still. -/
def Refused (log : Log) (flow : String) (request : ExecuteRequest) : Prop :=
  ∃ source wall msg failure, Happening.handled source (wall, msg) ∈ log ∧
    msg.body = .executeReplied flow (.error failure) ∧ failure.notAccepted = some true ∧
    source.intent.status = .executing ∧ source.intent.reconciling = false ∧
    source.intent.intentId = some request.intentId

section

variable [Host]

/-- What comes before an execute, the last of so many resends of its request. -/
inductive Attempted : Log → String → ExecuteRequest → Nat → Prop where
  | first {log : Log} {m : Model} {wall : WallClock} {msg : Msg} {flow : SignFlow}
      {signature : String} {pullSignature : Option String} {fx : List Effect}
      (live : m.sign = some flow) (signing : m.intent.status = .signing)
      (completes : Completes msg (receive m msg) flow signature pullSignature)
      (untried : ∀ request, sends flow.id request ∉ log) (before : Quiet fx) :
      Attempted (log ++ .handled m (wall, msg) :: fx.map .emitted) flow.id
        (executeRequest (receive m msg) signature pullSignature msg.now) 0
  | again {log between : Log} {m : Model} {wall : WallClock} {msg : Msg} {flow : String}
      {request : ExecuteRequest} {n : Nat} {deadline : ℚ} {fx : List Effect}
      (earlier : Attempted log flow request n) (alone : Unsent between)
      (refused : Refused between flow request) (left : n < maxExecuteResends)
      (executing : m.intent.status = .executing)
      (bound : executeDeadline m.intent.quote = some deadline)
      (inTime : (msg.now : ℚ) ≤ resendLimit deadline) (before : Quiet fx) :
      Attempted
        (log ++ sends flow request :: (between ++ .handled m (wall, msg) :: fx.map .emitted))
        ("s" ++ toString (m.seq + 1)) request (n + 1)

theorem Attempted.le {log : Log} {flow : String} {request : ExecuteRequest} {n : Nat}
    (attempted : Attempted log flow request n) : n ≤ maxExecuteResends := by
  cases attempted with
  | first => exact Nat.zero_le _
  | again _ _ _ left => exact left

/-- Executes go out under flows numbered as they start, and a flow short of its execute has sent
none. -/
structure Untried (log : Log) (m : Model) : Prop where
  numbered : ∀ flow request, sends flow request ∈ log → ∃ n ≤ m.seq, flow = "s" ++ toString n
  live : ∀ flow, m.sign = some flow → ∃ n ≤ m.seq, flow.id = "s" ++ toString n
  unsent : ∀ flow, m.sign = some flow → flow.stage ≠ .execute →
    ∀ request, sends flow.id request ∉ log

/-- Each execute of the log is an attempt, and the one a flow sent last is its last. -/
structure Traced (log : Log) (m : Model) : Prop where
  lawful : ∀ flow request, Preceded (· = sends flow request)
    (fun pre => ∃ n, Attempted pre flow request n) log
  out : ∀ flow attempt, m.sign = some flow → flow.stage = .execute → flow.execute = some attempt →
    ∃ pre since, log = pre ++ sends flow.id attempt.request :: since ∧
      Attempted pre flow.id attempt.request attempt.resends ∧ Unsent since ∧
      (attempt.resendAt.isSome = true →
        Refused since flow.id attempt.request ∧ attempt.resends < maxExecuteResends)

variable {wall : WallClock} {cause : Cause} {msg : Msg} {m m' : Model} {fx : List Effect}
  {log : Log}

omit [Host] in
theorem Unsent.append {later : Log} (unsent : Unsent log) (more : Unsent later) :
    Unsent (log ++ later) := by
  intro flow request mem
  rcases List.mem_append.mp mem with mem | mem
  · exact unsent flow request mem
  · exact more flow request mem

omit [Host] in
theorem Unsent.handled {i : Input} : Unsent [.handled m i] := by
  intro flow request mem
  cases List.mem_singleton.mp mem

omit [Host] in
theorem Unsent.after {i : Input} (unsent : Unsent log) : Unsent (.handled m i :: log) :=
  Unsent.handled.append unsent

omit [Host] in
theorem unsent_of_silent (silent : ∀ e ∈ fx, e.executes = false) : Unsent (fx.map .emitted) := by
  intro flow request mem
  obtain ⟨e, mem, same⟩ := List.mem_map.mp mem
  cases same
  exact absurd (silent _ mem) (by simp [Effect.executes])

omit [Host] in
theorem quiet_silent (quiet : Quiet fx) : ∀ e ∈ fx, e.executes = false := by
  intro e mem
  have here := quiet e mem
  cases e with
  | timer | emit => rfl
  | api | wallet => cases here

omit [Host] in
theorem Refused.more {later : Log} {flow : String} {request : ExecuteRequest}
    (refused : Refused log flow request) : Refused (log ++ later) flow request := by
  obtain ⟨source, wall, msg, failure, mem, rest⟩ := refused
  exact ⟨source, wall, msg, failure, List.mem_append_left _ mem, rest⟩

omit [Host] in
theorem Untried.fresh (untried : Untried log m) (request : ExecuteRequest) :
    sends ("s" ++ toString (m.seq + 1)) request ∉ log := by
  intro mem
  obtain ⟨n, le, same⟩ := untried.numbered _ request mem
  have := natRepr_injective (String.append_right_inj "s" |>.mp same)
  omega

omit [Host] in
/-- More of a log in which nothing is sent, and a flow that went no further back, or is new. -/
theorem Untried.more (untried : Untried log m) {later : Log} (unsent : Unsent later)
    (seq : m.seq ≤ m'.seq)
    (sign : ∀ flow, m'.sign = some flow →
      (∃ old, m.sign = some old ∧ old.id = flow.id ∧
        (flow.stage ≠ .execute → old.stage ≠ .execute)) ∨
      flow.id = "s" ++ toString (m.seq + 1) ∧ m.seq < m'.seq) :
    Untried (log ++ later) m' where
  numbered flow request mem := by
    rcases List.mem_append.mp mem with mem | mem
    · obtain ⟨n, le, same⟩ := untried.numbered flow request mem
      exact ⟨n, le.trans seq, same⟩
    · exact absurd mem (unsent flow request)
  live flow here := by
    rcases sign flow here with ⟨old, was, same, -⟩ | ⟨same, less⟩
    · obtain ⟨n, le, id⟩ := untried.live old was
      exact ⟨n, le.trans seq, same ▸ id⟩
    · exact ⟨m.seq + 1, less, same⟩
  unsent flow here stage request mem := by
    rcases List.mem_append.mp mem with mem | mem
    · rcases sign flow here with ⟨old, was, same, back⟩ | ⟨same, -⟩
      · exact untried.unsent old was (back stage) request (same ▸ mem)
      · exact untried.fresh request (same ▸ mem)
    · exact unsent flow.id request mem

omit [Host] in
/-- The live flow has sent its execute. -/
theorem Untried.sent (untried : Untried log m) {later : Log} {id : String}
    {request : ExecuteRequest} (unsent : Unsent later) (seq : m.seq ≤ m'.seq)
    (id_numbered : ∃ n ≤ m'.seq, id = "s" ++ toString n)
    (holds : ∀ flow, m'.sign = some flow → flow.id = id ∧ flow.stage = .execute) :
    Untried (log ++ later ++ [sends id request]) m' where
  numbered other request' mem := by
    rcases List.mem_append.mp mem with mem | mem
    · rcases List.mem_append.mp mem with mem | mem
      · obtain ⟨n, le, same⟩ := untried.numbered other request' mem
        exact ⟨n, le.trans seq, same⟩
      · exact absurd mem (unsent other request')
    · cases List.mem_singleton.mp mem
      exact id_numbered
  live flow here := by
    rw [(holds flow here).1]
    exact id_numbered
  unsent flow here stage := absurd (holds flow here).2 stage

/-- More of a log in which nothing is sent, and a flow kept or let go. -/
theorem Traced.more (traced : Traced log m) {later : Log} (unsent : Unsent later)
    (sign : m'.sign = m.sign ∨ m'.sign = none ∨
      ∀ flow, m'.sign = some flow → flow.stage ≠ .execute) :
    Traced (log ++ later) m' where
  lawful flow request := by
    refine (traced.lawful flow request).skips ?_
    rintro e mem rfl
    exact unsent flow request mem
  out flow attempt live stage sent := by
    rcases sign with same | none | other
    · obtain ⟨pre, since, here, attempted, alone, refused⟩ :=
        traced.out flow attempt (same ▸ live) stage sent
      refine ⟨pre, since ++ later, by rw [here]; simp, attempted, alone.append unsent, ?_⟩
      exact fun waits => ⟨(refused waits).1.more, (refused waits).2⟩
    · rw [none] at live
      cases live
    · exact absurd stage (other flow live)

/-- An execute is sent, and the flow holds it. -/
theorem Traced.sent (traced : Traced log m) {later : Log} {id : String} {request : ExecuteRequest}
    {n : Nat} (unsent : Unsent later) (attempted : Attempted (log ++ later) id request n)
    (holds : ∀ flow attempt, m'.sign = some flow → flow.execute = some attempt →
      flow.id = id ∧ attempt.request = request ∧ attempt.resends = n ∧ attempt.resendAt = none) :
    Traced (log ++ later ++ [sends id request]) m' where
  lawful other request' := by
    have held := (traced.lawful other request').skips fun e mem same =>
      unsent other request' (same ▸ mem)
    refine held.snoc fun same => ?_
    cases same
    exact ⟨n, attempted⟩
  out flow attempt live _ sent := by
    obtain ⟨rfl, rfl, rfl, out⟩ := holds flow attempt live sent
    refine ⟨log ++ later, [], rfl, attempted, ?_, ?_⟩
    · intro _ _ mem
      cases mem
    · intro waits
      rw [out] at waits
      cases waits

theorem Act.seq (act : Act wall cause m fx m') : m.seq ≤ m'.seq := by
  cases act
  case noted le | polled le _ _ => exact le
  all_goals exact Nat.le_refl _

theorem Untried.act (untried : Untried log m) (act : Act wall cause m fx m') :
    Untried (log ++ fx.map .emitted) m' := by
  refine untried.more (unsent_of_silent fun e mem => (act.effects e mem).2.1) act.seq ?_
  intro flow here
  rcases act.sign with same | none
  · exact .inl ⟨flow, same ▸ here, rfl, id⟩
  · rw [none] at here
    cases here

theorem Traced.act (traced : Traced log m) (act : Act wall cause m fx m') :
    Traced (log ++ fx.map .emitted) m' := by
  refine traced.more (unsent_of_silent fun e mem => (act.effects e mem).2.1) ?_
  rcases act.sign with same | none
  · exact .inl same
  · exact .inr (.inl none)

/-- An outcome that sends no execute, and leaves no flow that has sent one. -/
theorem Traced.outcome (traced : Traced log m) (silent : ∀ e ∈ fx, e.executes = false)
    (other : ∀ flow, m'.sign = some flow → flow.stage ≠ .execute) :
    Traced (log ++ .handled m (wall, msg) :: fx.map .emitted) m' := by
  have unsent : Unsent (.handled m (wall, msg) :: fx.map .emitted) :=
    (unsent_of_silent silent).after
  exact traced.more unsent (.inr (.inr other))

/-- The attempt a flow waits to send again. -/
theorem Traced.waiting (traced : Traced log m) {flow : SignFlow} {attempt : ExecuteAttempt}
    (live : m.sign = some flow) (sent : flow.execute = some attempt)
    (waits : awaitingResend m = true) :
    ∃ pre since, log = pre ++ sends flow.id attempt.request :: since ∧
      Attempted pre flow.id attempt.request attempt.resends ∧ Unsent since ∧
      Refused since flow.id attempt.request ∧ attempt.resends < maxExecuteResends := by
  obtain ⟨flow', attempt', resendAt, live', stage, sent', held⟩ := awaitingResend_iff.mp waits
  rw [live] at live'
  cases live'
  rw [sent] at sent'
  cases sent'
  obtain ⟨pre, since, here, attempted, alone, refused⟩ := traced.out flow attempt live stage sent
  obtain ⟨refused, left⟩ := refused (by rw [held]; rfl)
  exact ⟨pre, since, here, attempted, alone, refused, left⟩

omit [Host] in
theorem decideExecuteResend_left {resends : Nat} {retryAfter : Option JsNumber}
    {deadline : Option ℚ} {now : Int} {delayMs : ℚ}
    (decision : decideExecuteResend resends retryAfter deadline now = .resend delayMs) :
    resends < maxExecuteResends := by
  unfold decideExecuteResend at decision
  split at decision
  · cases decision
  · omega

omit [Host] in
theorem prompt_silent {fy : List Effect} {call : WalletCall} (before : Quiet fx)
    (after : Quiet fy) : ∀ e ∈ fx ++ .wallet call :: fy, e.executes = false := by
  intro e mem
  rcases List.mem_append.mp mem with mem | mem
  · exact quiet_silent before e mem
  rcases List.mem_cons.mp mem with rfl | mem
  · rfl
  · exact quiet_silent after e mem

omit [Host] in
theorem emitted_last (i : Input) (e : Effect) :
    log ++ .handled m i :: (fx ++ [e]).map .emitted =
      log ++ .handled m i :: fx.map .emitted ++ [.emitted e] := by
  simp

theorem Untried.ceremony (untried : Untried log m)
    (outcome : Ceremony msg (receive m msg) fx m') :
    Untried (log ++ .handled m (wall, msg) :: fx.map .emitted) m' := by
  cases outcome
  case prompted before after =>
    refine untried.more (unsent_of_silent (prompt_silent before after)).after (Nat.le_succ _) ?_
    rintro _ ⟨⟩
    exact .inr ⟨rfl, Nat.lt_succ_self _⟩
  case executed flow signature pullSignature _ _ _ fy live signing completes _ before =>
    have unsent : Unsent (.handled m (wall, msg) :: fy.map .emitted) :=
      (unsent_of_silent (quiet_silent before)).after
    rw [emitted_last]
    refine untried.sent unsent (Nat.le_refl _) (untried.live flow live) ?_
    rintro _ ⟨⟩
    exact ⟨rfl, rfl⟩
  case kept h =>
    refine untried.more (unsent_of_silent (quiet_silent h)).after (Nat.le_refl _) ?_
    rintro _ ⟨⟩
  case approvalAsked flow _ _ _ _ _ live stage _ _ before =>
    refine untried.more (unsent_of_silent (prompt_silent before quiet_nil)).after
      (Nat.le_refl _) ?_
    rintro _ ⟨⟩
    exact .inl ⟨flow, live, rfl, fun _ => by simp [stage]⟩
  case tapped =>
    refine untried.more
      (unsent_of_silent (prompt_silent (show Quiet [] from quiet_nil) quiet_nil)).after
      (Nat.le_succ _) ?_
    rintro _ ⟨⟩
    exact .inr ⟨rfl, Nat.lt_succ_self _⟩
  case tapRefused h =>
    refine untried.more (unsent_of_silent (quiet_silent h)).after (Nat.le_succ _) ?_
    rintro _ ⟨⟩
    exact .inr ⟨rfl, Nat.lt_succ_self _⟩
  case pullPrompted flow _ _ _ live stage _ after =>
    refine untried.more
      (unsent_of_silent (prompt_silent (show Quiet [] from quiet_nil) after)).after
      (Nat.le_refl _) ?_
    rintro _ ⟨⟩
    exact .inl ⟨flow, live, rfl, fun _ => by simp [stage]⟩
  case held flow _ _ _ _ _ _ live _ _ _ _ _ _ _ h =>
    refine untried.more (unsent_of_silent (quiet_silent h)).after (Nat.le_refl _) ?_
    rintro _ ⟨⟩
    exact .inl ⟨flow, live, rfl, id⟩
  case resent flow attempt deadline fy live _ waits _ _ _ before =>
    have unsent : Unsent (.handled m (wall, msg) :: fy.map .emitted) :=
      (unsent_of_silent (quiet_silent before)).after
    obtain ⟨flow', _, _, live', stage, -⟩ := awaitingResend_iff.mp waits
    rw [live] at live'
    cases live'
    rw [emitted_last]
    refine untried.sent unsent (Nat.le_succ _) ⟨m.seq + 1, Nat.le_refl _, rfl⟩ ?_
    rintro _ ⟨⟩
    exact ⟨rfl, stage⟩

omit [Host] in
theorem Completes.unsent {flow : SignFlow} {signature : String} {pullSignature : Option String}
    (completes : Completes msg m flow signature pullSignature) : flow.stage ≠ .execute := by
  cases completes with
  | intent _ stage => simp [stage]
  | pull _ stage => simp [stage]

theorem Traced.ceremony (traced : Traced log m) (untried : Untried log m)
    (outcome : Ceremony msg (receive m msg) fx m') :
    Traced (log ++ .handled m (wall, msg) :: fx.map .emitted) m' := by
  cases outcome
  case prompted before after =>
    refine traced.outcome (prompt_silent before after) ?_
    rintro _ ⟨⟩ stage
    cases stage
  case executed flow signature pullSignature _ _ _ fy live signing completes _ before =>
    have unsent : Unsent (.handled m (wall, msg) :: fy.map .emitted) :=
      (unsent_of_silent (quiet_silent before)).after
    have first : Attempted (log ++ .handled m (wall, msg) :: fy.map .emitted) flow.id
        (executeRequest (receive m msg) signature pullSignature msg.now) 0 :=
      .first (m := m) live signing completes (untried.unsent flow live completes.unsent) before
    rw [emitted_last]
    refine traced.sent unsent first ?_
    rintro _ _ ⟨⟩ ⟨⟩
    exact ⟨rfl, rfl, rfl, rfl⟩
  case kept h =>
    refine traced.outcome (quiet_silent h) ?_
    rintro _ ⟨⟩
  case approvalAsked before =>
    refine traced.outcome (prompt_silent before quiet_nil) ?_
    rintro _ ⟨⟩ stage
    cases stage
  case tapped =>
    refine traced.outcome (prompt_silent (show Quiet [] from quiet_nil) quiet_nil) ?_
    rintro _ ⟨⟩ stage
    cases stage
  case tapRefused h =>
    refine traced.outcome (quiet_silent h) ?_
    rintro _ ⟨⟩ stage
    cases stage
  case pullPrompted after =>
    refine traced.outcome (prompt_silent (show Quiet [] from quiet_nil) after) ?_
    rintro _ ⟨⟩ stage
    cases stage
  case held flow attempt failure delayMs error body refused live stage out sent own executing
      certain decision h =>
    obtain ⟨pre, since, here, attempted, alone, -⟩ := traced.out flow attempt live stage sent
    have unsent : Unsent (.handled m (wall, msg) :: fx.map .emitted) :=
      (unsent_of_silent (quiet_silent h)).after
    refine ⟨(traced.more unsent (.inl rfl)).lawful, ?_⟩
    rintro _ _ ⟨⟩ - ⟨⟩
    refine ⟨pre, since ++ .handled m (wall, msg) :: fx.map .emitted, by rw [here]; simp, attempted,
      alone.append unsent, fun _ => ⟨?_, decideExecuteResend_left decision⟩⟩
    exact ⟨m, wall, msg, failure, by simp, body, refused, executing, certain, own⟩
  case resent flow attempt deadline fy live sent waits executing bound inTime before =>
    obtain ⟨pre, since, here, attempted, alone, refused, left⟩ :=
      traced.waiting (m := m) live sent waits
    have unsent : Unsent (.handled m (wall, msg) :: fy.map .emitted) :=
      (unsent_of_silent (quiet_silent before)).after
    have again : Attempted (log ++ .handled m (wall, msg) :: fy.map .emitted)
        ("s" ++ toString (m.seq + 1)) attempt.request (attempt.resends + 1) := by
      rw [here, List.append_assoc, List.cons_append]
      exact .again attempted alone refused left executing bound inTime before
    rw [emitted_last]
    refine traced.sent unsent again ?_
    rintro _ _ ⟨⟩ ⟨⟩
    exact ⟨rfl, rfl, rfl, rfl⟩

theorem traced_law : Law fun log m => Untried log m ∧ Traced log m where
  init := by
    rintro _ ⟨config, ctx, hidden, rfl⟩
    refine ⟨⟨?_, ?_, ?_⟩, fun _ _ => .nil, ?_⟩
    · rintro _ _ ⟨⟩
    · rintro _ ⟨⟩
    · rintro _ ⟨⟩
    · rintro _ _ ⟨⟩
  handled log m i _ held := by
    refine ⟨held.1.more Unsent.handled (Nat.le_refl _) ?_, held.2.more Unsent.handled (.inl rfl)⟩
    exact fun flow here => .inl ⟨flow, here, rfl, id⟩
  act _ _ _ _ _ _ _ held act := ⟨held.1.act act, held.2.act act⟩
  ceremony _ _ _ _ _ _ _ held outcome :=
    ⟨held.1.ceremony outcome, held.2.ceremony held.1 outcome⟩

/-- Every execute of a run is the first of its flow, or sends again a request whose last
attempt was refused, within the bound on resends and the order's deadline. -/
theorem execute_attempted (run : MachineRun log m) {pre post : Log} {flow : String}
    {request : ExecuteRequest} (here : log = pre ++ sends flow request :: post) :
    ∃ n ≤ maxExecuteResends, Attempted pre flow request n := by
  obtain ⟨n, attempted⟩ := (traced_law.run run).2.lawful flow request pre _ post here rfl
  exact ⟨n, attempted.le, attempted⟩

end

theorem Since.split {log : Log} {flow : String} {since : List Effect} (h : Since flow log since) :
    ∃ pre request post, log = pre ++ sends flow request :: post := by
  induction h with
  | @sent log request => exact ⟨log, request, [], rfl⟩
  | @emitted _ _ e _ ih =>
    obtain ⟨pre, request, post, rfl⟩ := ih
    exact ⟨pre, request, post ++ [.emitted e], by simp⟩
  | @handled _ _ m i _ _ _ ih =>
    obtain ⟨pre, request, post, rfl⟩ := ih
    exact ⟨pre, request, post ++ [.handled m i], by simp⟩

theorem sample_sends :
    letI := plainHost
    ∃ log m pre flow request post, MachineRun log m ∧ log = pre ++ sends flow request :: post := by
  let _ := plainHost
  obtain ⟨flow, m, executes, -⟩ := sample_executes
  obtain ⟨log, run⟩ := executes.trades.on.reachable
  have awaits : Awaits m flow.id := ⟨flow, executes.sign, rfl, executes.stage, executes.out⟩
  obtain ⟨since, awaited⟩ := run_since run flow.id awaits
  obtain ⟨pre, request, post, here⟩ := awaited.split
  exact ⟨log, m, pre, flow.id, request, post, run, here⟩

/-- The sample's execute is an attempt. -/
theorem sample_attempted :
    letI := plainHost
    ∃ log m pre flow request post, MachineRun log m ∧ log = pre ++ sends flow request :: post ∧
      ∃ n ≤ maxExecuteResends, Attempted pre flow request n := by
  let _ := plainHost
  obtain ⟨log, m, pre, flow, request, post, run, here⟩ := sample_sends
  exact ⟨log, m, pre, flow, request, post, run, here, execute_attempted run here⟩

end XochiSdk.Client
