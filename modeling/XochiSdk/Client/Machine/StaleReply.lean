import XochiSdk.Client.Machine.PollSteps
import XochiSdk.Client.Machine.Progress

/-!
# Replies out of order

A status reply that a newer one has overtaken changes neither the intent nor the poll.
-/

namespace XochiSdk.Client

open XochiSdk.Js XochiSdk.Shared XochiSdk.Signer XochiSdk.Library Emits

/-- The poll's generation has been drawn. -/
def Drawn (m : Model) : Prop := ∀ poll, m.poll = some poll → poll.gen ≤ m.seq

theorem Drawn.same {m m' : Model} (drawn : Drawn m) (poll : m'.poll = m.poll)
    (seq : m.seq ≤ m'.seq) : Drawn m' := fun p h =>
  (drawn p (poll.symm.trans h)).trans seq

theorem PollChange.drawn {m m' : Model} {fx : List Effect} (change : PollChange m fx m')
    (drawn : Drawn m) : Drawn m' := by
  cases change with
  | kept poll seq _ => exact drawn.same poll seq
  | dropped gone _ _ => intro poll h; rw [gone] at h; cases h
  | armed polls seq fresh _ =>
    intro p h
    obtain rfl := Option.some.inj (polls.symm.trans h)
    rw [fresh.gen, seq]

theorem PollState.judged_gen (poll answered : PollState) (verdict : Option PollVerdict) :
    (poll.judged answered verdict).gen = answered.gen := by
  unfold PollState.judged
  split
  · rfl
  · rfl
  · split <;> rfl

theorem PollState.answeredBy_gen (poll : PollState) (attempt : Nat) (answers : Bool) :
    (poll.answeredBy attempt answers).gen = poll.gen := by
  unfold PollState.answeredBy
  split <;> rfl

/-- What drops a reply drops the older ones. -/
theorem PollState.drops_older {poll : PollState} {gen a b : Nat} (older : a < b)
    (drops : poll.drops gen b true = true) : poll.drops gen a true = true := by
  simp only [PollState.drops, Bool.or_eq_true, bne_iff_ne, Bool.true_and, decide_eq_true_eq]
    at drops ⊢
  exact drops.imp_right older.trans

/-- A reply that counts leaves a poll that drops the older ones. -/
theorem PollState.judged_drops (poll : PollState) {a b : Nat} (older : a < b)
    (verdict : Option PollVerdict) :
    (poll.judged (poll.answeredBy b true) verdict).drops poll.gen a true = true := by
  have overtaken : a < Max.max poll.answered b := older.trans_le (Nat.le_max_right _ _)
  simp only [PollState.drops, PollState.judged, PollState.answeredBy, if_true]
  split
  · simp
  · simp [overtaken]
  · split
    · simp [overtaken]
    · simp

section

variable [Host] {m m' : Model} {fx : List Effect}

theorem PollStep.drawn {msg : Msg} {x : Machine Model} (step : PollStep m msg x)
    (drawn : Drawn m) : Drawn x.value := by
  cases step with
  | unpolled h => exact drawn.same h.moves.poll h.moves.seq
  | elapsed _ polls _ same _ =>
    rw [same]
    have before := drawn _ polls
    intro p h
    cases h
    exact before
  | returned _ polls now seq _ _ =>
    intro p h
    obtain rfl := Option.some.inj (now.symm.trans h)
    exact (drawn _ polls).trans seq
  | revived _ gone _ _ => intro p h; rw [gone] at h; cases h
  | @replied gen attempt result _ same =>
    subst same
    cases polls : m.poll with
    | none =>
      simp only [onStatus, polls]
      exact drawn
    | some poll =>
      cases onStatus_taken polls gen attempt result msg.now with
      | dropped _ same => rw [same]; exact drawn
      | foreign _ _ same _ => rw [same]; exact drawn
      | counted _ _ judged seq _ =>
        intro p h
        obtain rfl := Option.some.inj (judged.symm.trans h)
        rw [PollState.judged_gen, PollState.answeredBy_gen]
        exact (drawn _ polls).trans seq

theorem init_quiescent (config : MachineConfig) (ctx : Context) (hidden : Bool) :
    Quiescent (init config ctx hidden) :=
  ⟨.inr rfl, .inr nofun, .inl rfl, rfl⟩

theorem Quiescent.receive (quiet : Quiescent m) (msg : Msg) : Quiescent (receive m msg) :=
  ⟨quiet.wallet, quiet.upgrade, quiet.expiry, quiet.polls⟩

/-- What holds of the poll between two updates. -/
structure PollSound (m : Model) : Prop where
  drawn : Drawn m
  quiet : Quiescent m

theorem Next.pollSound {i : Input} (sound : PollSound m) (next : Next m i fx m') :
    PollSound m' := by
  unfold Next update at next
  cases stepped : step i.1 { m with hidden := i.2.hidden } i.2 with
  | error e =>
    rw [stepped] at next
    rw [next.2]
    exact sound
  | ok x =>
    rw [stepped] at next
    rw [next.2]
    have drawn : Drawn x.value := (step_poll stepped).drawn (m := receive m i.2) sound.drawn
    refine ⟨?_, settle_quiescent i.1 x.value⟩
    exact (settle_changes x.value).invariant (fun _ _ _ drawn change => change.drawn drawn) drawn

theorem MachineRun.pollSound {log : Log} (run : MachineRun log m) : PollSound m := by
  refine Run.invariant (P := fun _ m => PollSound m) ?_ (fun _ _ _ _ _ _ => Next.pollSound) run
  rintro _ ⟨config, ctx, hidden, rfl⟩
  exact ⟨nofun, init_quiescent config ctx hidden⟩

/-- After the rules the poll is the one before, gone, or of a later generation. -/
theorem settle_poll {now : Int} (m : Model) : (settle m now).value.poll = m.poll ∨
    ∀ poll, (settle m now).value.poll = some poll → m.seq < poll.gen := by
  suffices h : m.seq ≤ (settle m now).value.seq ∧ ((settle m now).value.poll = m.poll ∨
      ∀ poll, (settle m now).value.poll = some poll → m.seq < poll.gen) from h.2
  refine (settle_changes m).invariant (P := fun x => m.seq ≤ x.seq ∧ (x.poll = m.poll ∨
    ∀ poll, x.poll = some poll → m.seq < poll.gen)) ?_ ⟨Nat.le_refl _, .inl rfl⟩
  rintro x _ x' ⟨drawn, before⟩ change
  cases change with
  | kept poll seq _ =>
    refine ⟨drawn.trans seq, ?_⟩
    rw [poll]
    exact before
  | dropped gone seq _ => exact ⟨drawn.trans seq, .inr fun p h => by rw [gone] at h; cases h⟩
  | armed polls seq fresh _ =>
    refine ⟨by omega, .inr fun p h => ?_⟩
    obtain rfl := Option.some.inj (polls.symm.trans h)
    rw [fresh.gen]
    omega

theorem Next.of_reply {i : Input} {gen attempt : Nat} {result : Outcome IntentStatusResult}
    (body : i.2.body = .statusReplied gen attempt result) (next : Next m i fx m') :
    m' = (settle (onStatus (receive m i.2) gen attempt result i.2.now).value i.2.now).value := by
  have stepped : step i.1 (receive m i.2) i.2 =
      .ok (onStatus (receive m i.2) gen attempt result i.2.now) := by
    unfold step
    rw [body]
  exact (next.of_step stepped).2

/-- No poll is left that takes this reply. -/
def Overtaken (m : Model) (gen attempt : Nat) : Prop :=
  ∀ poll, m.poll = some poll → poll.drops gen attempt true = true

/-- A newer answer overtakes the older ones, whatever the rules do after it. -/
theorem Next.overtakes {i : Input} {poll : PollState} {gen a b : Nat} {rb : IntentStatusResult}
    (sound : PollSound m) (polls : m.poll = some poll)
    (own : foreignStatus (.ok rb) poll.intentId = none) (older : a < b)
    (body : i.2.body = .statusReplied gen b (.ok rb)) (next : Next m i fx m') :
    Overtaken m' gen a := by
  have settled := next.of_reply body
  have received : (receive m i.2).poll = some poll := polls
  cases onStatus_taken received gen b (.ok rb) i.2.now with
  | dropped drops same =>
    rw [same, value_pure] at settled
    rw [settled]
    intro p h
    rw [(settle_unmoved (sound.quiet.receive i.2)).1.poll, received] at h
    obtain rfl := Option.some.inj h
    exact PollState.drops_older older drops
  | foreign _ other _ _ =>
    rw [own] at other
    cases other
  | counted kept _ judged seq _ =>
    have gen_eq : poll.gen = gen := by
      simp only [PollState.drops, Bool.or_eq_false_iff, bne_eq_false_iff_eq] at kept
      exact kept.1.1
    intro p h
    rw [settled] at h
    rcases @settle_poll _ i.2.now (onStatus (receive m i.2) gen b (.ok rb) i.2.now).value
      with same | later
    · rw [same, judged] at h
      obtain rfl := Option.some.inj h
      rw [← gen_eq]
      exact poll.judged_drops older _
    · -- a poll armed since is of a later generation than any read answered here
      have drawn : poll.gen ≤ m.seq := sound.drawn _ polls
      have before : m.seq ≤ _ := seq
      have after := later p h
      have : p.gen ≠ gen := by omega
      unfold PollState.drops
      simp [this]

/-- A reply no poll takes changes nothing. -/
theorem Next.unheeded {i : Input} {gen attempt : Nat} {result : IntentStatusResult}
    (sound : PollSound m) (overtaken : Overtaken m gen attempt)
    (body : i.2.body = .statusReplied gen attempt (.ok result)) (next : Next m i fx m') :
    m'.intent = m.intent ∧ m'.poll = m.poll := by
  have dropped : onStatus (receive m i.2) gen attempt (.ok result) i.2.now =
      pure (receive m i.2) := by
    cases polls : m.poll with
    | none =>
      have received : (receive m i.2).poll = none := polls
      simp only [onStatus, received]
    | some poll =>
      have drops : poll.drops gen attempt (Outcome.answers (.ok result)) = true :=
        overtaken poll polls
      have received : (receive m i.2).poll = some poll := polls
      exact onStatus_dropped received drops
  have settled := next.of_reply body
  rw [dropped, value_pure] at settled
  have unmoved : Unmoved _ (settle _ i.2.now).value :=
    (settle_unmoved (sound.quiet.receive i.2)).1
  rw [settled, unmoved.intent, unmoved.poll]
  exact ⟨rfl, rfl⟩

/-- Of two answers to reads of one generation, the older one, when it comes after the newer,
leaves the intent and the poll as the newer alone left them. -/
theorem late_reply_unheeded {poll : PollState} {gen a b : Nat} {ra rb : IntentStatusResult}
    {i j : Input} {fy : List Effect} {m₁ m₂ : Model} (reachable : Reachable m)
    (polls : m.poll = some poll) (own : foreignStatus (.ok rb) poll.intentId = none)
    (older : a < b) (newer : i.2.body = .statusReplied gen b (.ok rb))
    (late : j.2.body = .statusReplied gen a (.ok ra)) (first : Next m i fx m₁)
    (second : Next m₁ j fy m₂) : m₂.intent = m₁.intent ∧ m₂.poll = m₁.poll := by
  obtain ⟨log, run⟩ := reachable
  have sound := run.pollSound
  exact second.unheeded (first.pollSound sound) (first.overtakes sound polls own older newer) late

end

/-- A bare row of the order taken up again, or another's. -/
def row (intentId : Option String) (status : IntentStatus) : IntentStatusData where
  intentId := intentId
  status := status
  unmapped := false
  txHash := none
  receivingTxHash := none
  settlementTxHash := none
  settlementChainId := none
  error := none
  refundReason := none
  substatus := none
  terminal := false
  legsWithheld := false
  settlementConfirmed := false

/-- The reply to one read of the first poll. -/
def replied (attempt : Nat) (result : IntentStatusResult) : Input :=
  said (.statusReplied 1 attempt (.ok result))

theorem late_reply_unheeded_settling :
    letI := plainHost
    let read := played sampleConfig blankContext
      [resumed .executing none, said (.timerFired .poll)]
    let newer := (answer read (replied 2 (.data (row (some "i") .settling)))).2
    let late := (answer newer (replied 1 (.data (row (some "i") .executing)))).2
    late.intent = newer.intent ∧ late.poll = newer.poll := by
  let _ := plainHost
  intro read newer late
  have reachable : Reachable read := played_reachable _ _ _
  have asks : read.poll.map (·.intentId) = some "i" := by decide +kernel
  obtain ⟨poll, polls, id⟩ := Option.map_eq_some_iff.mp asks
  have own : foreignStatus (.ok (.data (row (some "i") .settling))) poll.intentId = none := by
    rw [id]
    rfl
  exact late_reply_unheeded reachable polls own (by decide) rfl rfl (next_answer _ _)
    (next_answer _ _)

end XochiSdk.Client
