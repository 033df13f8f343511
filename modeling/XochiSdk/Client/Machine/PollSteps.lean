import XochiSdk.Client.Machine.PollRules

/-!
# What a step does to the poll

A step leaves the poll alone, reads one more status, takes a reply, or lets a stopped poll go.
A reply is dropped, is another intent's, or is counted.
-/

namespace XochiSdk.Client

open XochiSdk.Js XochiSdk.Shared XochiSdk.Signer XochiSdk.Library Emits

/-- `result.ok`. -/
def Outcome.answers {α : Type} : Outcome α → Bool
  | .ok _ => true
  | .error _ => false

/-- A reply the poll does not take: it is another poll's, the poll stopped, or a newer read has
answered. -/
def PollState.drops (poll : PollState) (gen attempt : Nat) (answers : Bool) : Bool :=
  poll.gen != gen || poll.stopped || (answers && decide (attempt < poll.answered))

/-- The poll after a reply that counts, before its verdict. -/
def PollState.answeredBy (poll : PollState) (attempt : Nat) (answers : Bool) : PollState :=
  if answers then { poll with answered := Max.max poll.answered attempt } else poll

/-- The poll after its verdict. -/
def PollState.judged (poll answered : PollState) : Option PollVerdict → PollState
  | some .stop => { answered with stopped := true }
  | some .progress => { answered with spent := 0 }
  | none => if (poll.spent : Int) < poll.max then answered else { answered with stopped := true }

section

variable {m : Model}

theorem settlePoll_judged (m : Model) (poll answered : PollState) (id : String)
    (verdict : Option PollVerdict) :
    (settlePoll m poll answered id verdict).value.poll = some (poll.judged answered verdict) ∧
      (settlePoll m poll answered id verdict).value.seq = m.seq ∧
      ∀ e ∈ (settlePoll m poll answered id verdict).log, e.NoRead := by
  have quiet (level : LogLevel) (message : String) :
      ∀ e ∈ (clearTimer .poll).log ++ (report level message []).log, e.NoRead := by
    intro e mem
    exact (List.mem_append.mp mem).elim (timer_noRead _ e) (report_noRead _ _ _ e)
  unfold settlePoll PollState.judged
  rcases verdict with _ | verdict
  · dsimp only
    split
    · exact ⟨rfl, rfl, by simp⟩
    · unfold exhaustPoll
      simp only [value_bind, value_pure, log_bind, log_pure, List.append_nil]
      refine ⟨?_, ?_, quiet _ _⟩
      · split <;> rfl
      · split <;> rfl
  · cases verdict with
    | stop => exact ⟨rfl, rfl, by simpa using timer_noRead _⟩
    | progress => exact ⟨rfl, rfl, by simp⟩

theorem markRead_unpolled (m : Model) (id : String) (attempt : Nat) (unsentRead : Bool) :
    Unpolled m (markRead m id attempt unsentRead) := by
  have escalates (next : Model) : Unpolled next (pure (
      if escalatesToReconcile next.intent id attempt then
        patch next fun intent => { intent with reconciling := true } else next)) :=
    .pure (patch_if_same _ _ _)
  unfold markRead
  dsimp only
  split
  · refine .after (report_noRead _ _ _) (.bind (.same rfl rfl (Nat.le_refl _)) (escalates _))
  · exact .bind (.same rfl rfl (Nat.le_refl _)) (escalates _)

variable [Host]

/-- Reading a reply leaves the poll to its verdict. -/
theorem readStatus_unpolled (m : Model) (id : String) (result : Outcome IntentStatusResult)
    (unsentRead : Bool) (now : Int) :
    Footprint SamePoll Effect.NoRead m (readStatus m id result unsentRead now).log
      (readStatus m id result unsentRead now).value.1 := by
  unfold readStatus
  split
  · exact ⟨.refl m, report_noRead _ _ _⟩
  · exact ⟨.refl m, by simp⟩
  · unfold onNotFound
    split
    · exact Footprint.after (report_noRead _ _ _)
        (Footprint.trans (transition_unpolled _ _ _) (.still (.refl _)))
    · split
      · exact ⟨.refl m, by simp⟩
      · exact Footprint.after (noRead_single rfl) (.still ⟨rfl, rfl, Nat.le_refl _⟩)
  · unfold onStatusRow
    exact Footprint.trans (applyStatusUpdate_unpolled _ _ _) (.still (patch_if_same _ _ _))

/-- The verdict of a reply on the poll. -/
def statusVerdict (m : Model) (poll : PollState) (attempt : Nat)
    (result : Outcome IntentStatusResult) (now : Int) : Option PollVerdict :=
  let unsentRead := readsNotSent m poll poll.intentId attempt result
  (readStatus (markRead m poll.intentId attempt unsentRead).value poll.intentId result
    unsentRead now).value.2

/-- What a reply does to the poll it finds. -/
inductive Taken (m : Model) (poll : PollState) (gen attempt : Nat)
    (result : Outcome IntentStatusResult) (now : Int) (x : Machine Model) : Prop where
  | dropped (drops : poll.drops gen attempt result.answers = true) (same : x = pure m)
  | foreign (kept : poll.drops gen attempt result.answers = false)
      (other : (foreignStatus result poll.intentId).isSome = true) (same : x.value = m)
      (unread : ∀ e ∈ x.log, e.NoRead)
  | counted (kept : poll.drops gen attempt result.answers = false)
      (own : foreignStatus result poll.intentId = none)
      (judged : x.value.poll = some (poll.judged (poll.answeredBy attempt result.answers)
        (statusVerdict m poll attempt result now)))
      (seq : m.seq ≤ x.value.seq) (unread : ∀ e ∈ x.log, e.NoRead)

theorem onStatus_reads {poll : PollState} (polls : m.poll = some poll) (gen attempt : Nat)
    (result : Outcome IntentStatusResult) (now : Int) : onStatus m gen attempt result now =
      (if poll.drops gen attempt result.answers then pure m
      else match foreignStatus result poll.intentId with
        | some foreign => do
          report .warn "Ignoring a status response for another intent; keeping the poll active"
            [.obj [("response", (foreign.intentId.map Value.str).getD .null),
              ("current", .str poll.intentId)]]
          pure m
        | none => do
          let unsentRead := readsNotSent m poll poll.intentId attempt result
          let next ← markRead m poll.intentId attempt unsentRead
          let read ← readStatus next poll.intentId result unsentRead now
          settlePoll read.1 poll (poll.answeredBy attempt result.answers) poll.intentId read.2) := by
  have drops : poll.drops gen attempt result.answers =
      (decide (poll.gen ≠ gen ∨ poll.stopped = true) ||
        (result.answers && decide (attempt < poll.answered))) := by
    unfold PollState.drops
    by_cases same : poll.gen = gen
    · simp [same]
    · simp [same]
  have reads : onStatus m gen attempt result now =
      (if poll.gen ≠ gen ∨ poll.stopped = true then pure m
      else if (result.answers && decide (attempt < poll.answered)) = true then pure m
      else match foreignStatus result poll.intentId with
        | some foreign => do
          report .warn "Ignoring a status response for another intent; keeping the poll active"
            [.obj [("response", (foreign.intentId.map Value.str).getD .null),
              ("current", .str poll.intentId)]]
          pure m
        | none => do
          let unsentRead := readsNotSent m poll poll.intentId attempt result
          let next ← markRead m poll.intentId attempt unsentRead
          let read ← readStatus next poll.intentId result unsentRead now
          settlePoll read.1 poll (poll.answeredBy attempt result.answers) poll.intentId read.2) := by
    unfold onStatus
    rw [polls]
    cases result with
    | ok _ => rfl
    | error _ => rfl
  rw [reads, drops]
  by_cases other : poll.gen ≠ gen ∨ poll.stopped = true
  · rw [if_pos other, if_pos (by simp [other])]
  · rw [if_neg other]
    simp only [other, decide_false, Bool.false_or]

theorem onStatus_taken {poll : PollState} (polls : m.poll = some poll) (gen attempt : Nat)
    (result : Outcome IntentStatusResult) (now : Int) :
    Taken m poll gen attempt result now (onStatus m gen attempt result now) := by
  rw [onStatus_reads polls]
  cases kept : poll.drops gen attempt result.answers with
  | true => exact .dropped kept rfl
  | false =>
    rw [if_neg Bool.false_ne_true]
    split
    · rename_i foreign other
      exact .foreign kept (by rw [other]; rfl) rfl (report_noRead _ _ _)
    · rename_i own
      have marked := markRead_unpolled m poll.intentId attempt
        (readsNotSent m poll poll.intentId attempt result)
      have read := readStatus_unpolled
        (markRead m poll.intentId attempt (readsNotSent m poll poll.intentId attempt result)).value
        poll.intentId result (readsNotSent m poll poll.intentId attempt result) now
      obtain ⟨judged, seq, unread⟩ := settlePoll_judged
        (readStatus (markRead m poll.intentId attempt
            (readsNotSent m poll poll.intentId attempt result)).value
          poll.intentId result (readsNotSent m poll poll.intentId attempt result) now).value.1
        poll (poll.answeredBy attempt result.answers) poll.intentId
        (statusVerdict m poll attempt result now)
      refine .counted kept own judged ?_ ?_
      · exact (marked.moves.seq.trans read.moves.seq).trans seq.ge
      · intro e mem
        simp only [log_bind] at mem
        rcases List.mem_append.mp mem with mem | mem
        · exact marked.emits e mem
        rcases List.mem_append.mp mem with mem | mem
        · exact read.emits e mem
        · exact unread e mem

/-- A dropped reply changes nothing. -/
theorem onStatus_dropped {poll : PollState} (polls : m.poll = some poll) {gen attempt : Nat}
    {result : Outcome IntentStatusResult} {now : Int}
    (drops : poll.drops gen attempt result.answers = true) :
    onStatus m gen attempt result now = pure m := by
  cases onStatus_taken polls gen attempt result now with
  | dropped _ same => exact same
  | foreign kept => rw [drops] at kept; cases kept
  | counted kept => rw [drops] at kept; cases kept

/-- One more read of the poll. -/
def PollState.read (poll : PollState) (elapsed : Bool) : PollState :=
  { poll with polls := poll.polls + 1, spent := if elapsed then poll.spent + 1 else poll.spent }

omit [Host] in
theorem pollTick_reads {poll : PollState} (polls : m.poll = some poll) (elapsed : Bool) :
    pollTick m elapsed = ⟨{ m with poll := some (poll.read elapsed) },
      [.api (.status poll.intentId poll.gen (poll.polls + 1))]⟩ := by
  unfold pollTick
  rw [polls]
  rfl

/-- What a step does to the poll. -/
inductive PollStep (m : Model) (msg : Msg) (x : Machine Model) : Prop where
  | unpolled (h : Unpolled m x)
  /-- An interval has passed. -/
  | elapsed {poll : PollState} (body : msg.body = .timerFired .poll) (polls : m.poll = some poll)
      (live : poll.stopped = false) (same : x.value = { m with poll := some (poll.read true) })
      (log : x.log = [.api (.status poll.intentId poll.gen (poll.polls + 1))])
  /-- The tab is back: a read off the interval. -/
  | returned {poll : PollState} {fx : List Effect} (body : msg.body = .visibilityChanged)
      (polls : m.poll = some poll) (now : x.value.poll = some (poll.read false))
      (seq : m.seq ≤ x.value.seq) (unread : ∀ e ∈ fx, e.NoRead)
      (log : x.log = fx ++ [.api (.status poll.intentId poll.gen (poll.polls + 1))])
  /-- The tab is back to a poll that gave up. -/
  | revived (body : msg.body = .visibilityChanged) (gone : x.value.poll = none)
      (seq : m.seq ≤ x.value.seq) (unread : ∀ e ∈ x.log, e.NoRead)
  | replied {gen attempt : Nat} {result : Outcome IntentStatusResult}
      (body : msg.body = .statusReplied gen attempt result)
      (same : x = onStatus m gen attempt result msg.now)

theorem onTimer_poll {msg : Msg} (body : msg.body = .timerFired .poll) :
    PollStep m msg (onTimer m .poll msg.now) := by
  unfold onTimer
  dsimp only
  split
  · exact .unpolled (resendBackstop_unpolled m _)
  cases polls : m.poll with
  | none => exact .unpolled (.same rfl rfl (Nat.le_refl _))
  | some poll =>
    dsimp only
    split
    · exact .unpolled (.same rfl rfl (Nat.le_refl _))
    · rename_i live
      rw [pollTick_reads polls]
      exact .elapsed body polls (by simpa using live) rfl rfl

theorem onVisible_poll {msg : Msg} (body : msg.body = .visibilityChanged) :
    PollStep m msg (onVisible m msg.now) := by
  have asks : Unpolled m (if m.amount ≠ "" ∧
        shouldRefreshOnReturn m.intent.status m.ctx.paused
          ((m.intent.quote.map (·.hasDeposit)).getD false) = true then
      startQuote m msg.now { quoteOpts m.amount with forceRefresh := true }
    else pure m) :=
    .ite (fun _ => startQuote_unpolled _ _ _) fun _ => .same rfl rfl (Nat.le_refl _)
  have visible : onVisible m msg.now = (do
      let next ← (if m.amount ≠ "" ∧
          shouldRefreshOnReturn m.intent.status m.ctx.paused
            ((m.intent.quote.map (·.hasDeposit)).getD false) = true then
        startQuote m msg.now { quoteOpts m.amount with forceRefresh := true }
      else pure m)
      if awaitingResend next then resendBackstop next msg.now else wakePoll next) := by
    unfold onVisible
    dsimp only
    split
    · rfl
    · rfl
  rw [visible]
  revert asks
  generalize (if m.amount ≠ "" ∧
      shouldRefreshOnReturn m.intent.status m.ctx.paused
        ((m.intent.quote.map (·.hasDeposit)).getD false) = true then
    startQuote m msg.now { quoteOpts m.amount with forceRefresh := true }
  else pure m) = asked
  intro asks
  by_cases waits : awaitingResend asked.value = true
  · refine .unpolled (.bind asks ?_)
    rw [if_pos waits]
    exact resendBackstop_unpolled _ _
  cases polls : asked.value.poll with
  | none =>
    refine .unpolled (.bind asks ?_)
    rw [if_neg waits, wakePoll, polls]
    exact .same rfl rfl (Nat.le_refl _)
  | some poll =>
    have own : m.poll = some poll := asks.moves.poll.symm.trans polls
    cases stopped : poll.stopped with
    | true =>
      refine .revived body ?_ ?_ ?_
      all_goals simp only [value_bind, log_bind, if_neg waits, wakePoll, polls, stopped, if_true,
        value_pure, log_pure, List.append_nil]
      · exact asks.moves.seq
      · exact asks.emits
    | false =>
      have reads := pollTick_reads polls false
      refine .returned body own ?_ ?_ asks.emits ?_
      all_goals simp only [value_bind, log_bind, if_neg waits, wakePoll, polls, stopped, reads,
        Bool.false_eq_true, if_false]
      exact asks.moves.seq

/-- The step of a message, as its poll sees it. -/
theorem step_poll {wall : WallClock} {msg : Msg} {x : Machine Model}
    (stepped : step wall m msg = .ok x) : PollStep m msg x := by
  unfold step at stepped
  cases body : msg.body <;> rw [body] at stepped <;> dsimp only at stepped
  case pullSignRequested => exact .unpolled (beginPullSign_unpolled stepped)
  case signReplied => exact .unpolled (onSigned_unpolled stepped)
  all_goals cases stepped
  case contextChanged => exact .unpolled (onContextChanged_unpolled _ _)
  case quoteRequested => exact .unpolled (onQuoteRequested_unpolled _ _)
  case allocateRequested => exact .unpolled (onAllocateRequested_unpolled _ _ _ _)
  case refreshRequested => exact .unpolled (requestQuote_unpolled _ _)
  case signRequested => exact .unpolled (beginSign_unpolled _ _)
  case cancelSignRequested => exact .unpolled (onCancelSign_unpolled _)
  case resetRequested => exact .unpolled (onReset_unpolled _)
  case resumeRequested => exact .unpolled (onResume_unpolled _ _ _ _ _ _)
  case visibilityChanged =>
    split
    · exact .unpolled (.same rfl rfl (Nat.le_refl _))
    · exact onVisible_poll body
  case streamStatus => exact .unpolled (onStream_unpolled _ _)
  case timerFired timer =>
    cases timer with
    | poll => exact onTimer_poll body
    | debounce => exact .unpolled (requestQuote_unpolled _ _)
    | refresh =>
      refine .unpolled ?_
      unfold onTimer
      dsimp only
      split
      · exact .same rfl rfl (Nat.le_refl _)
      · refine .ite (fun _ => .same rfl rfl (Nat.le_refl _)) fun _ => ?_
        exact Unpolled.of (startQuote_unpolled _ _ _) rfl rfl (Nat.le_refl _)
    | expiry => exact .unpolled (tickExpiry_unpolled _ _)
    | signPrompt => exact .unpolled (signFlowFailed_unpolled _ _)
    | execute => exact .unpolled (resendExecute_unpolled _ _)
  case sessionReplied => exact .unpolled (onSession_unpolled _ _ _ _)
  case quoteReplied => exact .unpolled (onQuote_unpolled _ _ _ _ _)
  case approvalReplied => exact .unpolled (onApproval_unpolled _ _ _)
  case executeReplied => exact .unpolled (onExecuted_unpolled _ _ _ _)
  case statusReplied => exact .replied body rfl

end

end XochiSdk.Client
