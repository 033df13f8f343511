import XochiSdk.Client.Machine.Progress
import XochiSdk.Client.Machine.InFlight
import XochiSdk.Client.Machine.Polling

/-!
# No verdict while an execute is unanswered

From the effect that sends an execute until its reply, while the intent stays `executing`,
nothing should read its status or call it unsent, and the reply should find its flow. That
holds along every run in which no prompt timer fires late, over an execute that is out.
-/

namespace XochiSdk.Client

open XochiSdk.Js XochiSdk.Shared XochiSdk.Signer XochiSdk.Library Emits

/-- The model waits for the reply to the execute sent under this flow, and takes it. -/
def Awaits (m : Model) (flow : String) : Prop :=
  ∃ f, m.sign = some f ∧ f.id = flow ∧ f.stage = .execute ∧ awaitingResend m = false

/-- The message is the reply to an execute sent under this flow. -/
def Answers (msg : Msg) (flow : String) : Prop := ∃ result, msg.body = .executeReplied flow result

theorem quiet_readsStatus {fx : List Effect} (quiet : Quiet fx) :
    ∀ e ∈ fx, e.readsStatus = false := by
  intro e he
  have := quiet e he
  cases e with
  | timer | emit => rfl
  | api | wallet => cases this

theorem Awaits.congr {m m' : Model} {flow : String} (sign : m'.sign = m.sign)
    (awaits : Awaits m flow) : Awaits m' flow := by
  unfold Awaits awaitingResend at awaits ⊢
  rwa [sign]

theorem Awaits.of_sign {m m' : Model} {flow : String} (awaits : Awaits m' flow)
    (sign : m'.sign = m.sign ∨ m'.sign = none) :
    Awaits m flow := by
  rcases sign with same | free
  · exact awaits.congr same.symm
  · obtain ⟨f, live, -⟩ := awaits
    rw [free] at live
    cases live

theorem Awaits.pollKey {m : Model} {flow : String} (awaits : Awaits m flow) :
    pollKey m = none := by
  obtain ⟨f, live, -, stage, out⟩ := awaits
  simp [XochiSdk.Client.pollKey, live, stage, out]

theorem Awaits.executing {m : Model} {flow : String} (awaits : Awaits m flow)
    (inv : CeremonyInv m) : m.intent.status = .executing := by
  obtain ⟨f, live, -, stage, -⟩ := awaits
  exact inv.executes f live stage

/-- Nothing but its reply and a late prompt timer ends a flow that is awaited. -/
theorem Awaits.unstopped {m : Model} {flow : String} {cause : Cause} (awaits : Awaits m flow)
    (stops : Stops cause m) : cause.body = some (.timerFired .signPrompt) ∨
      ∃ result, cause.body = some (.executeReplied flow result) := by
  obtain ⟨f, live, rfl, stage, out⟩ := awaits
  rcases stops f live stage with waits | late | answered
  · rw [out] at waits; cases waits
  · exact .inl late
  · exact .inr answered

/-! ## The log since an execute -/

/-- The effects since an execute was sent under this flow, while it stays unanswered and the
intent executing. -/
inductive Since (flow : String) : Log → List Effect → Prop where
  | sent {log : Log} {request : ExecuteRequest} :
      Since flow (log ++ [.emitted (.api (.execute flow request))]) []
  | emitted {log : Log} {since : List Effect} {e : Effect} (before : Since flow log since) :
      Since flow (log ++ [.emitted e]) (since ++ [e])
  | handled {log : Log} {since : List Effect} {m : Model} {i : Input} (before : Since flow log since)
      (executing : m.intent.status = .executing) (open_ : ¬Answers i.2 flow) :
      Since flow (log ++ [.handled m i]) since

/-- The execute went out in this list of effects, and these are the ones after it. -/
def SentIn (flow : String) (fx since : List Effect) : Prop :=
  ∃ fy request, fx = fy ++ .api (.execute flow request) :: since

theorem Since.emittedAll {flow : String} {log : Log} {since : List Effect}
    (before : Since flow log since) (fx : List Effect) :
    Since flow (log ++ fx.map .emitted) (since ++ fx) := by
  induction fx generalizing log since with
  | nil => simpa using before
  | cons e fx ih =>
    have := ih (before.emitted (e := e))
    simpa [List.append_assoc] using this

theorem Since.answer {flow : String} {log : Log} {since : List Effect} {m : Model} {i : Input}
    (before : Since flow log since) (executing : m.intent.status = .executing)
    (open_ : ¬Answers i.2 flow) (fx : List Effect) :
    Since flow (log ++ .handled m i :: fx.map .emitted) (since ++ fx) := by
  have := (before.handled executing open_).emittedAll fx
  simpa [List.append_assoc] using this

theorem SentIn.since {flow : String} {fx since : List Effect} (sent : SentIn flow fx since)
    (log : Log) (m : Model) (i : Input) :
    Since flow (log ++ .handled m i :: fx.map .emitted) since := by
  obtain ⟨fy, request, rfl⟩ := sent
  have begun : Since flow ((log ++ .handled m i :: fy.map .emitted) ++
      [.emitted (.api (.execute flow request))]) [] := .sent
  have := begun.emittedAll since
  simpa [List.append_assoc] using this

theorem Since.cases_emitted {flow : String} {log : Log} {e : Effect} {since : List Effect}
    (h : Since flow (log ++ [.emitted e]) since) :
    (∃ request, e = .api (.execute flow request) ∧ since = []) ∨
      ∃ earlier, Since flow log earlier ∧ since = earlier ++ [e] := by
  generalize whole : log ++ [Happening.emitted e] = log' at h
  cases h with
  | sent =>
    obtain ⟨rfl, same⟩ := List.append_inj' whole rfl
    simp only [List.cons.injEq, Happening.emitted.injEq, and_true] at same
    exact .inl ⟨_, same, rfl⟩
  | emitted before =>
    obtain ⟨rfl, same⟩ := List.append_inj' whole rfl
    simp only [List.cons.injEq, Happening.emitted.injEq, and_true] at same
    subst same
    exact .inr ⟨_, before, rfl⟩
  | handled =>
    have := List.append_inj_right' whole rfl
    simp at this

theorem Since.cases_handled {flow : String} {log : Log} {m : Model} {i : Input}
    {since : List Effect} (h : Since flow (log ++ [.handled m i]) since) :
    Since flow log since ∧ m.intent.status = .executing ∧ ¬Answers i.2 flow := by
  generalize whole : log ++ [Happening.handled m i] = log' at h
  cases h with
  | sent =>
    have := List.append_inj_right' whole rfl
    simp at this
  | emitted =>
    have := List.append_inj_right' whole rfl
    simp at this
  | handled before executing open_ =>
    obtain ⟨rfl, same⟩ := List.append_inj' whole rfl
    simp only [List.cons.injEq, Happening.handled.injEq, and_true] at same
    obtain ⟨rfl, rfl⟩ := same
    exact ⟨before, executing, open_⟩

/-- An update's log: the execute went out in it, or before it. -/
theorem Since.cases_answer {flow : String} {log : Log} {m : Model} {i : Input} {fx since : List Effect}
    (h : Since flow (log ++ .handled m i :: fx.map .emitted) since) :
    SentIn flow fx since ∨ ∃ earlier, Since flow log earlier ∧ m.intent.status = .executing ∧
      ¬Answers i.2 flow ∧ since = earlier ++ fx := by
  induction fx using List.reverseRecOn generalizing since with
  | nil =>
    obtain ⟨before, executing, open_⟩ := h.cases_handled
    exact .inr ⟨since, before, executing, open_, by simp⟩
  | append_singleton fx e ih =>
    have split : log ++ Happening.handled m i :: (fx ++ [e]).map Happening.emitted =
        (log ++ Happening.handled m i :: fx.map Happening.emitted) ++ [Happening.emitted e] := by
      simp
    rw [split] at h
    rcases h.cases_emitted with ⟨request, rfl, rfl⟩ | ⟨earlier, before, rfl⟩
    · exact .inl ⟨fx, request, rfl⟩
    · rcases ih before with ⟨fy, request, rfl⟩ | ⟨first, met, executing, open_, rfl⟩
      · exact .inl ⟨fy, request, by simp⟩
      · exact .inr ⟨first, met, executing, open_, by simp⟩

/-- No status was read and nothing called unsent since an execute that is still unanswered, and
its reply will be taken. -/
def NoVerdict (log : Log) (m : Model) : Prop :=
  ∀ flow since, Since flow log since → m.intent.status = .executing →
    (∀ e ∈ since, e.readsStatus = false) ∧ m.intent.notSent = false ∧ Awaits m flow

theorem transition_free {m : Model} {target : IntentStatus} {updates : IntentState → IntentState}
    (free : m.sign = none) : (transition m target updates).value.sign = none := by
  cases edge : canTransitionTo m.intent.status target with
  | false =>
    rw [(transition_of_no_edge edge).1]
    exact free
  | true =>
    rw [(transition_of_edge edge).1]
    exact (moved_sign m target _).elim (·.trans free) id

theorem applyExecuteDecision_free {m : Model} {response : ExecuteResponse} {unmapped : Bool} {now : Int}
    (free : m.sign = none) : (applyExecuteDecision m response unmapped now).value.sign = none := by
  have timed (status : WireStatus) : (timeFill m status now).sign = none := by
    unfold timeFill
    split
    · split <;> exact free
    · exact free
  unfold applyExecuteDecision
  split
  · exact transition_free free
  · rename_i status updates _
    dsimp only
    rw [value_bind, value_pure]
    have moved (u : IntentState → IntentState) :
        (transitionTo (timeFill m status now) status u).value.sign = none := by
      unfold transitionTo
      split
      · exact transition_free (timed _)
      · exact timed _
    have marked (b : Bool) (m₁ : Model) (free : m₁.sign = none) :
        (if b then patch m₁ fun intent => { intent with reconciling := true } else m₁).sign = none := by
      split <;> exact free
    exact marked _ _ (moved _)

section

variable [Host] {wall : WallClock} {cause : Cause} {msg : Msg} {now : Int} {m m' x y : Model}
  {fx : List Effect} {flow : String}

/-! ## The rules -/

/-- While an execute is awaited, the rules neither end its flow nor read a status. -/
theorem Act.awaits_rules (rule : cause.body = none) (awaits : Awaits x flow)
    (executing : x.intent.status = .executing) (sent : x.intent.notSent = false)
    (act : Act wall cause x fx y) :
    (Awaits y flow ∧ y.intent.status = .executing ∧ y.intent.notSent = false) ∧
      ∀ e ∈ fx, e.readsStatus = false := by
  have same {z : Model} (sign : z.sign = x.sign) (status : z.intent.status = x.intent.status)
      (notSent : z.intent.notSent = x.intent.notSent) :
      (Awaits z flow ∧ z.intent.status = .executing ∧ z.intent.notSent = false) ∧
        ∀ e ∈ ([] : List Effect), e.readsStatus = false :=
    ⟨⟨awaits.congr sign, status.trans executing, notSent.trans sent⟩, by simp⟩
  have idle {P : Prop} (idle : busy x = false) : P := by
    rw [busy, executing] at idle
    cases idle
  have locked {P : Prop} (edge : canTransitionTo x.intent.status .expired = true) : P := by
    rw [executing] at edge
    cases edge
  have silent {P : Prop} {body : MsgBody} (body : cause.body = some body) : P := by
    rw [rule] at body
    cases body
  cases act
  case quiet quiet => exact ⟨(same rfl rfl rfl).1, quiet_readsStatus quiet⟩
  case annotated kept =>
    refine ⟨⟨awaits.congr rfl, executing, ?_⟩, by simp⟩
    exact kept.elim (·.trans sent) And.left
  case unsent reads _ _ => exact reads.elim fun _ h => silent h.1
  case contextChanged body | amountChanged body | cleared body _ _ | reset body _ |
      resumed body _ | revealed body _ _ _ _ _ _ | swept body _ _ _ _ _ => exact silent body
  case asked quotable _ _ | sent quotable _ _ => exact idle quotable.1
  case requoted quotable _ _ | unquoted quotable _ _ => exact idle quotable.1
  case allocationFailed allocatable => exact idle (idle_of_allocatable allocatable)
  case accepted answered _ _ _ _ _ | late answered _ _ => exact idle answered.idle
  case lapsed edge _ => exact locked edge
  case returned ends _ | signFailed ends _ _ _ _ => exact ends.elim fun _ h => silent h.1
  case delivered from_ _ => exact from_.reports.elim fun _ h => silent h.1
  case executeFailed answered _ _ | executeMoved answered _ _ _ =>
    exact answered.body.elim fun _ h => silent h.1
  case stopped stops _ _ _ =>
    rcases awaits.unstopped stops with late | ⟨_, answered⟩
    · exact silent late
    · exact silent answered
  case walletReset interruptible _ =>
    rw [executing] at interruptible
    cases interruptible
  case polled reads =>
    refine ⟨⟨awaits.congr rfl, executing, sent⟩, fun e he => ?_⟩
    rcases reads e he with quiet | ⟨p, _, -, -, armed⟩
    · exact quiet_readsStatus (quiet_cons.mpr ⟨quiet, quiet_nil⟩) e (by simp)
    · have := awaits.pollKey.symm.trans (armed rule)
      cases this
  all_goals exact same rfl rfl rfl

theorem Settled.awaits (settled : Settled wall now m fx m') (awaits : Awaits m flow)
    (executing : m.intent.status = .executing) (sent : m.intent.notSent = false) :
    Awaits m' flow ∧ m'.intent.notSent = false ∧ ∀ e ∈ fx, e.readsStatus = false := by
  let P (x : Model) := Awaits x flow ∧ x.intent.status = .executing ∧ x.intent.notSent = false
  have preserved (x : Model) (fx : List Effect) (y : Model) (held : P x)
      (act : Act wall (rulesCause now) x fx y) : P y ∧ ∀ e ∈ fx, e.readsStatus = false :=
    act.awaits_rules rfl held.1 held.2.1 held.2.2
  have last := settled.invariant (P := P) (fun x fx y held act => (preserved x fx y held act).1)
    ⟨awaits, executing, sent⟩
  exact ⟨last.1, last.2.2, settled.effects preserved ⟨awaits, executing, sent⟩⟩

/-- The rules start no execute. -/
theorem Settled.unexecuted (settled : Settled wall now m fx m') (away : m.intent.status ≠ .executing) :
    m'.intent.status ≠ .executing := by
  refine settled.invariant (P := fun x => x.intent.status ≠ .executing) ?_ away
  intro x _ x' away act
  have change := (act.of_rules rfl).1
  generalize x'.intent = intent at change ⊢
  cases change with
  | kept same => rwa [same.status]
  | lapsed quoted same =>
    rw [same.status]
    simp
  | reset => simp [initialIntentState]

/-- A move out of `executing` goes somewhere else. -/
theorem Leaves.moved {status : IntentStatus} {marked : Bool}
    (leaves : Leaves wall cause m status marked) (here : m.intent.status = .executing) :
    status ≠ .executing := by
  have edges (edge : canTransitionTo m.intent.status status = true) : status ≠ .executing := by
    rintro rfl
    rw [here] at edge
    cases edge
  cases leaves with
  | lapsed => decide
  | delivered _ edge | executeMoved _ _ edge => exact edges edge
  | swept | executeFailed => decide

/-! ## A message -/

/-- With no poll armed, a message's acts read no status and arm none. -/
theorem Act.unpolled (said : cause.body ≠ none) (free : x.poll = none) (act : Act wall cause x fx y) :
    y.poll = none ∧ ∀ e ∈ fx, e.readsStatus = false := by
  cases act
  case quiet quiet => exact ⟨free, quiet_readsStatus quiet⟩
  case asked | sent =>
    refine ⟨free, fun e he => ?_⟩
    rw [List.mem_singleton.mp he]
    rfl
  case reset only =>
    refine ⟨free, fun e he => ?_⟩
    rcases only e he with quiet | rfl
    · exact quiet_readsStatus (quiet_cons.mpr ⟨quiet, quiet_nil⟩) e (by simp)
    · rfl
  case polled poll _ _ key reads =>
    have unarmed : poll = none := by
      cases poll with
      | none => rfl
      | some p =>
        rcases key p rfl with ⟨old, polls, -⟩ | ⟨rule, -, -⟩
        · rw [free] at polls
          cases polls
        · exact absurd rule said
    refine ⟨unarmed, fun e he => ?_⟩
    rcases reads e he with quiet | ⟨p, _, polls, -, -⟩
    · exact quiet_readsStatus (quiet_cons.mpr ⟨quiet, quiet_nil⟩) e (by simp)
    · rw [unarmed] at polls
      cases polls
  all_goals exact ⟨free, by simp⟩

/-- No outcome of the ceremony starts from an awaited execute but its own reply. -/
theorem Ceremony.answers (inv : CeremonyInv m) (awaits : Awaits m flow)
    (h : Ceremony msg m fx m') : Answers msg flow := by
  have executing := awaits.executing inv
  obtain ⟨f, live', rfl, stage', out⟩ := awaits
  have own {flow : SignFlow} (live : m.sign = some flow) : flow = f := by
    rw [live'] at live
    exact (Option.some.inj live).symm
  cases h with
  | prompted body held signable =>
    rw [executing] at signable
    exact absurd (canSignQuote_some signable).1 (by decide)
  | executed live signing | kept _ live _ signing | approvalAsked _ live _ signing =>
    rw [executing] at signing
    cases signing
  | tapped taps | tapRefused taps =>
    have := taps.unsigned
    rw [live'] at this
    cases this
  | pullPrompted body live stage =>
    rw [own live, stage'] at stage
    cases stage
  | held body refused live =>
    rw [own live] at body
    exact ⟨_, body⟩
  | resent live sent waits =>
    rw [out] at waits
    cases waits

/-- While the intent stays executing, a message that is neither the reply nor a late prompt
timer leaves an awaited execute awaited. -/
theorem Next.awaits {i : Input} (sound : Sound m) (awaits : Awaits m flow)
    (sent : m.intent.notSent = false) (late : i.2.body ≠ .timerFired .signPrompt)
    (open_ : ¬Answers i.2 flow) (next : Next m i fx m') (executing : m'.intent.status = .executing) :
    Awaits m' flow ∧ m'.intent.notSent = false ∧ ∀ e ∈ fx, e.readsStatus = false := by
  have here := awaits.executing sound.inv.ceremony
  have flies : inFlight m = true := by rw [inFlight, here]; rfl
  have kept : i.2.body ≠ .resetRequested := by
    intro reset
    rw [(next.of_reset reset).status] at executing
    cases executing
  have unpolled : m.poll = none := by
    have polls := sound.rest.polls
    rw [Polls, awaits.pollKey] at polls
    simpa using polls
  rcases next.cases sound.inv with ⟨rfl, rfl⟩ | ⟨fy, m₁, fz, stepped, settled, rfl⟩
  · exact ⟨awaits, sent, by simp⟩
  have received : Inv (receive m i.2) := sound.inv.receive i.1 i.2
  have awaits' : Awaits (receive m i.2) flow := awaits.congr rfl
  rcases stepped with chain | ceremony
  swap
  · exact absurd (ceremony.answers (m := receive m i.2) received.ceremony awaits') open_
  have said : i.2.cause.body ≠ none := by simp [Msg.cause]
  have unread : ∀ e ∈ fy, e.readsStatus = false :=
    chain.effects (P := fun x => x.poll = none) (fun _ _ _ free act => act.unpolled said free) unpolled
  have still : m₁.intent.status = .executing := by
    by_contra away
    exact settled.unexecuted away executing
  cases Flown.chain (m := receive m i.2) received rfl kept flies chain with
  | stays flying =>
    have same : m₁.sign = m.sign := by
      refine flying.sign.resolve_right fun stopped => ?_
      obtain ⟨-, stops⟩ := stopped
      rcases awaits'.unstopped stops with body | ⟨result, body⟩
      · exact late (Option.some.inj body)
      · exact open_ ⟨result, Option.some.inj body⟩
    have sent' : m₁.intent.notSent = false := by
      refine Bool.eq_false_iff.mpr fun unsent => ?_
      rcases flying.unsent unsent with before | ⟨-, free⟩
      · rw [show (receive m i.2).intent = m.intent from rfl, sent] at before
        cases before
      · obtain ⟨f, live, -⟩ := awaits
        rw [same, live] at free
        cases free
    obtain ⟨awaited, unsent, rest⟩ := settled.awaits (awaits.congr same) still sent'
    refine ⟨awaited, unsent, fun e he => ?_⟩
    exact (List.mem_append.mp he).elim (unread e) (rest e)
  | cleared cleared =>
    rw [cleared.intent.status] at still
    cases still
  | leaves flying leaves left =>
    have moved := left.same.status.symm.trans still
    dsimp only at moved
    subst moved
    exact absurd rfl (leaves.moved (flying.same.status.trans here))

/-! ## An execute sent -/

/-- An outcome of the ceremony that sends an execute awaits its reply. -/
theorem Ceremony.sends (inv : CeremonyInv m) (h : Ceremony msg m fx m') {request : ExecuteRequest}
    (sent : .api (.execute flow request) ∈ fx) :
    Awaits m' flow ∧ m'.intent.status = .executing ∧ m'.intent.notSent = false ∧
      ∀ e ∈ fx, e.readsStatus = false := by
  have quietly {P : Prop} {fy : List Effect} (quiet : Quiet fy)
      (mem : .api (.execute flow request) ∈ fy) : P := by
    have := quiet _ mem
    cases this
  cases h with
  | prompted _ _ _ _ _ _ _ _ before after =>
    rcases List.mem_append.mp sent with mem | mem
    · exact quietly before mem
    · rcases List.mem_cons.mp mem with same | mem
      · cases same
      · exact quietly after mem
  | executed live signing completes awaits before =>
    rcases List.mem_append.mp sent with mem | mem
    · exact quietly before mem
    cases List.mem_singleton.mp mem
    refine ⟨⟨_, rfl, rfl, rfl, by simp [awaitingResend]⟩, rfl, rfl, fun e he => ?_⟩
    rcases List.mem_append.mp he with he | he
    · exact quiet_readsStatus before e he
    · rw [List.mem_singleton.mp he]
      rfl
  | kept _ _ _ _ _ quiet | tapRefused _ _ _ quiet => exact quietly quiet sent
  | held _ _ _ _ _ _ _ _ _ _ quiet => exact quietly quiet sent
  | approvalAsked _ _ _ _ _ before =>
    rcases List.mem_append.mp sent with mem | mem
    · exact quietly before mem
    · cases List.mem_singleton.mp mem
  | tapped => cases List.mem_singleton.mp sent
  | pullPrompted _ _ _ _ after =>
    rcases List.mem_cons.mp sent with same | mem
    · cases same
    · exact quietly after mem
  | resent live held waits executing bound inTime before =>
    rcases List.mem_append.mp sent with mem | mem
    · exact quietly before mem
    cases List.mem_singleton.mp mem
    obtain ⟨f, _, _, live', stage, -, -⟩ := awaitingResend_iff.mp waits
    rw [live] at live'
    cases live'
    refine ⟨⟨_, rfl, rfl, stage, by simp [awaitingResend]⟩, executing, inv.sent _ live stage,
      fun e he => ?_⟩
    rcases List.mem_append.mp he with he | he
    · exact quiet_readsStatus before e he
    · rw [List.mem_singleton.mp he]
      rfl

theorem Next.sends {i : Input} (inv : Inv m) (next : Next m i fx m') {request : ExecuteRequest}
    (sent : .api (.execute flow request) ∈ fx) :
    Awaits m' flow ∧ m'.intent.notSent = false ∧ ∀ e ∈ fx, e.readsStatus = false := by
  rcases next.cases inv with ⟨rfl, -⟩ | ⟨fy, m₁, fz, stepped, settled, rfl⟩
  · cases sent
  have acts {cause : Cause} {m m' : Model} {fx : List Effect}
      (chain : Chain (Act i.1 cause) m fx m') : .api (.execute flow request) ∉ fx := by
    have silent : ∀ e ∈ fx, e.executes = false := chain.effects (P := fun _ => True)
      (fun _ _ _ _ act => ⟨trivial, fun e he => (act.effects e he).2.1⟩) trivial
    intro mem
    cases silent _ mem
  have received : Inv (receive m i.2) := inv.receive i.1 i.2
  have stepped := stepped.resolve_left fun chain =>
    (List.mem_append.mp sent).elim (acts chain) (acts settled)
  obtain ⟨awaits, executing, unsent, unread⟩ := stepped.sends (m := receive m i.2) received.ceremony
    ((List.mem_append.mp sent).resolve_right (acts settled))
  obtain ⟨awaits', unsent', rest⟩ := settled.awaits awaits executing unsent
  exact ⟨awaits', unsent', fun e he => (List.mem_append.mp he).elim (unread e) (rest e)⟩

/-! ## A late prompt timer -/

variable (now) in
/-- A prompt timer over an execute that is out leaves it executing, without its flow. -/
theorem onTimer_late {f : SignFlow} (live : m.sign = some f) (executing : m.intent.status = .executing) :
    (onTimer m .signPrompt now).value.sign = none ∧
      (onTimer m .signPrompt now).value.intent.status = .executing := by
  have stays (m₁ : Model) (updates : IntentState → IntentState)
      (same : m₁.intent.status = .executing) :
      (transition m₁ .quoted updates).value = m₁ :=
    (transition_of_no_edge (by rw [same]; rfl)).1
  unfold onTimer signFlowFailed
  rw [live]
  dsimp only
  rw [value_bind]
  cases f.origin with
  | sign =>
    simp only [promptTimeout, ErrorValue.isText, beq_self_eq_true, Bool.false_eq_true, if_false,
      if_true]
    rw [stays (endSignFlow m f) _ executing]
    exact ⟨rfl, executing⟩
  | pull =>
    simp only [promptTimeout, Bool.false_eq_true, if_false]
    exact ⟨rfl, executing⟩

theorem Next.late {i : Input} (sound : Sound m) (awaits : Awaits m flow)
    (late : i.2.body = .timerFired .signPrompt) (next : Next m i fx m') :
    m'.intent.status = .executing ∧ ¬Awaits m' flow := by
  have executing := awaits.executing sound.inv.ceremony
  obtain ⟨f, live, -⟩ := awaits
  have stepped : step i.1 (receive m i.2) i.2 = .ok (onTimer (receive m i.2) .signPrompt i.2.now) := by
    rw [step, late]
  obtain ⟨-, rfl⟩ := next.of_step stepped
  obtain ⟨ended, status⟩ := onTimer_late i.2.now (m := receive m i.2) live executing
  have still := settle_still (.of_away (.inr (.inl (by rw [status]; rfl))) (by rw [status]; decide) :
    Calm i.2.now (onTimer (receive m i.2) .signPrompt i.2.now).value)
  refine ⟨by rw [still.intent, status], fun ⟨f, live, _⟩ => ?_⟩
  rw [still.sign, ended] at live
  cases live

/-! ## A reply taken -/

variable (now) in
/-- A reply ends the flow it answers, or has it wait for a resend. -/
theorem onExecuted_taken {f : SignFlow} {result : ExecuteResult} (live : m.sign = some f)
    (stage : f.stage = .execute) (out : awaitingResend m = false) :
    (onExecuted m f.id result now).value.sign = none ∨
      awaitingResend (onExecuted m f.id result now).value = true := by
  have verdict : (readExecute (answeredExecute m f) result now).value.sign = none := by
    unfold readExecute
    rw [value_bind]
    split
    · rfl
    · split
      · rfl
      · exact applyExecuteDecision_free rfl
  unfold onExecuted
  split
  · rename_i free
    rw [live] at free
    cases free
  rename_i flow live'
  rw [live] at live'
  cases live'
  rw [if_neg (by simp [stage, out])]
  cases refused : notAcceptedReport result with
  | none => exact .inl verdict
  | some failure =>
    rw [value_bind]
    cases handled : (onNotAccepted m f failure now).value with
    | none => exact .inl verdict
    | some next =>
      unfold onNotAccepted at handled
      dsimp only at handled
      split at handled
      · cases handled
      split at handled
      · cases handled
      split at handled
      · cases handled
        exact .inl rfl
      · cases handled
        exact .inr (by simp [awaitingResend, stage])

theorem Chain.kept_sign (chain : Chain (Act wall cause) m fx m') :
    m'.sign = m.sign ∨ m'.sign = none := by
  refine chain.invariant (P := fun x => x.sign = m.sign ∨ x.sign = none) ?_ (.inl rfl)
  rintro x _ x' (same | free) act
  · exact act.sign.imp_left (·.trans same)
  · exact .inr (act.sign.elim (·.trans free) id)

/-- Only an outcome that sends an execute has one awaited. -/
theorem Ceremony.awaited (h : Ceremony msg m fx m') (awaits : Awaits m' flow) :
    ∃ request, .api (.execute flow request) ∈ fx := by
  obtain ⟨f, live', rfl, stage, out⟩ := awaits
  cases h with
  | prompted | approvalAsked | tapped | tapRefused | pullPrompted =>
    cases live'
    cases stage
  | kept => cases live'
  | executed =>
    cases live'
    exact ⟨_, List.mem_append.mpr (.inr (List.mem_singleton.mpr rfl))⟩
  | held =>
    cases live'
    simp only [awaitingResend, Bool.and_eq_false_iff, beq_eq_false_iff_ne] at out
    rcases out with other | unset
    · exact absurd stage other
    · cases unset
  | resent =>
    cases live'
    exact ⟨_, List.mem_append.mpr (.inr (List.mem_singleton.mpr rfl))⟩

/-- An execute awaited after an update was sent in it, or awaited before and not answered. -/
theorem Next.awaited {i : Input} (inv : Inv m) (next : Next m i fx m') (awaits : Awaits m' flow) :
    (∃ request, .api (.execute flow request) ∈ fx) ∨ (Awaits m flow ∧ ¬Answers i.2 flow) := by
  have open_ (before : Awaits m flow) : ¬Answers i.2 flow := by
    rintro ⟨result, body⟩
    obtain ⟨f, live, rfl, stage, out⟩ := before
    have stepped : step i.1 (receive m i.2) i.2 =
        .ok (onExecuted (receive m i.2) f.id result i.2.now) := by
      rw [step, body]
    obtain ⟨-, rfl⟩ := next.of_step stepped
    have rule : (rulesCause i.2.now).body = none := rfl
    have settled : Settled i.1 i.2.now _ _ _ :=
      settle_does (m := (onExecuted (receive m i.2) f.id result i.2.now).value) rule
    have still : Awaits (onExecuted (receive m i.2) f.id result i.2.now).value f.id :=
      awaits.of_sign (Chain.kept_sign settled)
    obtain ⟨_, live', -, -, out'⟩ := still
    rcases onExecuted_taken i.2.now (m := receive m i.2) live stage out with free | waits
    · rw [live'] at free
      cases free
    · rw [out'] at waits
      cases waits
  rcases next.cases inv with ⟨rfl, rfl⟩ | ⟨fy, m₁, fz, stepped, settled, rfl⟩
  · exact .inr ⟨awaits, open_ awaits⟩
  have first := awaits.of_sign (Chain.kept_sign settled)
  rcases stepped with chain | ceremony
  · have before : Awaits m flow := (first.of_sign (Chain.kept_sign chain)).congr rfl
    exact .inr ⟨before, open_ before⟩
  · exact .inl ((ceremony.awaited first).imp fun _ mem => List.mem_append.mpr (.inl mem))

/-! ## Over a run -/

/-- Every execute that is awaited was sent, and stays unanswered. -/
theorem run_since {log : Log} (run : MachineRun log m) :
    ∀ flow, Awaits m flow → ∃ since, Since flow log since := by
  induction run with
  | init initial =>
    obtain ⟨config, ctx, hidden, rfl⟩ := initial
    rintro flow ⟨f, live, -⟩
    cases live
  | @step log m m' i fx before next ih =>
    intro flow awaits
    have inv := MachineRun.inv before
    rcases next.awaited inv awaits with ⟨request, sent⟩ | ⟨awaited, open_⟩
    · obtain ⟨fy, since, rfl⟩ := List.append_of_mem sent
      exact ⟨since, SentIn.since ⟨fy, request, rfl⟩ log m i⟩
    · obtain ⟨since, held⟩ := ih flow awaited
      exact ⟨_, held.answer (awaited.executing inv.ceremony) open_ fx⟩

/-- The step is no prompt timer over an execute that is out. -/
def NoLatePrompt (m : Model) (i : Input) (_ : List Effect) (_ : Model) : Prop :=
  i.2.body = .timerFired .signPrompt → ∀ flow, ¬Awaits m flow

theorem Next.no_verdict {log : Log} {i : Input} (sound : Sound m) (held : NoVerdict log m)
    (next : Next m i fx m') (timely : NoLatePrompt m i fx m') :
    NoVerdict (log ++ .handled m i :: fx.map .emitted) m' := by
  intro flow since here executing
  rcases here.cases_answer with ⟨fy, request, rfl⟩ | ⟨earlier, before, met, open_, rfl⟩
  · obtain ⟨awaits, unsent, unread⟩ := next.sends sound.inv
      (List.mem_append.mpr (.inr (List.mem_cons_self ..)))
    exact ⟨fun e he => unread e (List.mem_append.mpr (.inr (List.mem_cons_of_mem _ he))), unsent,
      awaits⟩
  · obtain ⟨unread, sent, awaits⟩ := held flow earlier before met
    obtain ⟨awaits', unsent, rest⟩ := next.awaits sound awaits sent
      (fun late => timely late flow awaits) open_ executing
    exact ⟨fun e he => (List.mem_append.mp he).elim (unread e) (rest e), unsent, awaits'⟩

/-- No verdict is drawn on an unanswered execute throughout a run exactly where none of its
prompt timers fires over one. -/
theorem run_no_verdict_iff {log : Log} :
    Throughout Initial Next NoVerdict log m ↔ Run Initial (Only Next NoLatePrompt) log m := by
  refine Throughout.iff_only ?_ ?_ ?_
  · intro m initial flow since here
    generalize empty : ([] : Log) = log at here
    cases here <;> simp at empty
  · intro log m i fx m' run held next timely
    exact next.no_verdict (Reachable.sound ⟨log, run⟩) held timely
  · intro log m i fx m' run held next drawn late flow awaits
    have sound := Reachable.sound ⟨log, run⟩
    obtain ⟨since, here⟩ := run_since run flow awaits
    have other : ¬Answers i.2 flow := by
      rintro ⟨result, body⟩
      rw [late] at body
      cases body
    obtain ⟨executing, dropped⟩ := next.late sound awaits late
    exact dropped (drawn flow _ (here.answer (awaits.executing sound.inv.ceremony) other fx)
      executing).2.2

end

/-- A prompt timer that fires late drops the flow of an execute that is out, and its reply with
it. -/
theorem late_prompt_drops :
    letI := plainHost
    ∃ log m, MachineRun log m ∧ ¬NoVerdict log m := by
  let _ := plainHost
  obtain ⟨flow, m, executes, -⟩ := sample_executes
  obtain ⟨log, run⟩ := executes.trades.on.reachable
  have awaits : Awaits m flow.id := ⟨flow, executes.sign, rfl, executes.stage, executes.out⟩
  let i := told sampleWall sampleNow (.timerFired .signPrompt)
  have next := next_answer m i
  obtain ⟨since, here⟩ := run_since run flow.id awaits
  obtain ⟨executing, dropped⟩ := next.late executes.trades.on.reachable.sound awaits rfl
  refine ⟨_, _, run.step next, fun drawn => dropped ?_⟩
  exact (drawn flow.id _ (here.answer executes.status (by rintro ⟨result, ⟨⟩⟩) _) executing).2.2

end XochiSdk.Client
