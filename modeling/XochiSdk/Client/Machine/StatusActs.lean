import XochiSdk.Client.Machine.QuoteActs

/-!
# Status updates, timers and rules as acts

A status update from either source, a poll's reply, the timers outside the sign ceremony, and
the reactive rules.
-/

namespace XochiSdk.Client

open XochiSdk.Js XochiSdk.Shared XochiSdk.Signer XochiSdk.Library Emits

@[simp] theorem mapStatusUpdate_status (message : StatusMessage) :
    (mapStatusUpdate message).1 = message.status := by
  unfold mapStatusUpdate
  split <;> simp_all

theorem mergeSameStatusReceipt_spec {intent : IntentState} {message : StatusMessage}
    {updates : IntentState → IntentState}
    (merged : mergeSameStatusReceipt intent message = some updates) :
    ∃ substatus receivingTxHash settlementTxHash settlementChainId,
      updates intent = { intent with
        substatus := substatus, receivingTxHash := receivingTxHash
        settlementTxHash := settlementTxHash, settlementChainId := settlementChainId } := by
  unfold mergeSameStatusReceipt at merged
  dsimp only at merged
  split at merged
  · cases merged
    exact ⟨_, _, _, _, rfl⟩
  · cases merged

theorem transition_poll (m : Model) (target : IntentStatus) (updates : IntentState → IntentState) :
    (transition m target updates).value.poll = m.poll := by
  cases edge : canTransitionTo m.intent.status target with
  | false => rw [(transition_of_no_edge edge).1]
  | true =>
    rw [(transition_of_edge edge).1]
    rfl

theorem applyStatusUpdate_poll (m : Model) (message : StatusMessage) (unmapped : Bool) :
    (applyStatusUpdate m message unmapped).value.poll = m.poll := by
  have ends (m₁ : Model) : (endNotSent (markUnmapped m₁ unmapped)
      (mapStatusUpdate message).1).poll = m₁.poll := by
    unfold endNotSent markUnmapped
    split <;> split <;> rfl
  unfold applyStatusUpdate
  rw [value_bind]
  dsimp only
  split
  · split
    · exact ends _
    · exact ends _
  · exact (ends _).trans (transition_poll _ _ _)

theorem markRead_poll (m : Model) (intentId : String) (attempt : Nat) (unsentRead : Bool) :
    (markRead m intentId attempt unsentRead).value.poll = m.poll := by
  unfold markRead
  dsimp only
  split <;> simp only [value_bind, value_pure] <;> split <;> rfl

theorem readsNotSent_executing {m : Model} {poll : PollState} {id : String} {attempt : Nat}
    {result : Outcome IntentStatusResult} (h : readsNotSent m poll id attempt result = true) :
    (∃ row, result = .ok (.data row)) ∧ m.sign = none ∧ m.intent.status = .executing := by
  unfold readsNotSent at h
  split at h
  · simp only [Bool.and_eq_true, beq_iff_eq, Option.isNone_iff_eq_none] at h
    exact ⟨⟨_, rfl⟩, h.1.2, h.1.1.2⟩
  · cases h

section

variable [Host] {wall : WallClock} {cause : Cause} {m : Model}

theorem markUnmapped_act (unmapped : Bool) : Act wall cause m [] (markUnmapped m unmapped) := by
  unfold markUnmapped
  split
  · exact .annotated (.inl rfl)
  · exact .quiet quiet_nil

theorem endNotSent_act (reports : Reports cause) (status : IntentStatus) :
    Act wall cause m [] (endNotSent m status) := by
  unfold endNotSent
  split
  · exact .annotated (.inr ⟨rfl, reports⟩)
  · exact .quiet quiet_nil

theorem applyStatusUpdate_does {message : StatusMessage} (from_ : Delivered cause m message)
    (unmapped : Bool) : Does wall cause m (applyStatusUpdate m message unmapped) := by
  have ends {m₁ : Model} :
      Does wall cause m₁ (pure (endNotSent (markUnmapped m₁ unmapped) (mapStatusUpdate message).1)) :=
    .step (markUnmapped_act unmapped) (.act (endNotSent_act from_.reports _))
  unfold applyStatusUpdate
  refine .after (report_quiet _ _ _) ?_
  dsimp only
  split
  · split
    · rename_i updates merged
      obtain ⟨_, _, _, _, same⟩ := mergeSameStatusReceipt_spec merged
      have noted : Act wall cause m [] (patch m updates) := by
        unfold patch
        rw [same]
        exact .annotated (.inl rfl)
      exact .step noted ends
    · exact ends
  · refine .bind (.move fun edge => ?_) ends
    rw [mapStatusUpdate_status] at edge ⊢
    exact .delivered from_ edge

theorem onStream_does {message : StatusMessage} (body : cause.body = some (.streamStatus message)) :
    Does wall cause m (onStream m message) := by
  unfold onStream
  split
  · exact .after (report_quiet _ _ _) .done
  · rename_i own
    exact applyStatusUpdate_does (.stream body (not_not.mp own)) false

/-! ## Poll replies -/

/-- A poll that reads on under the key it was armed with. -/
theorem polled_on {poll poll' : PollState} (polls : m.poll = some poll)
    (on : poll'.ContinuesFrom poll) :
    Act wall cause m [] { m with poll := some poll' } :=
  .polled (Nat.le_refl _) (fun p h => by cases h; exact .inl ⟨poll, polls, on⟩) (by simp)

theorem pollTick_does (elapsed : Bool)
    (armed : ∀ poll, m.poll = some poll → cause.body = none → pollKey m = some poll.key) :
    Does wall cause m (pollTick m elapsed) := by
  unfold pollTick
  split
  · exact .done
  · rename_i poll polls
    refine .single (.polled (Nat.le_refl _) (fun p h => ?_) (fun e he => ?_))
    · cases h
      exact .inl ⟨poll, polls, rfl, rfl, rfl, Nat.le_refl _, id⟩
    · rw [List.mem_singleton.mp he]
      exact .inr ⟨_, _, rfl, rfl, armed poll polls⟩

theorem markRead_does (intentId : String) (attempt : Nat) {unsentRead : Bool}
    (h : unsentRead = true → ReadsUnsent cause ∧ m.sign = none ∧ m.intent.status = .executing) :
    Does wall cause m (markRead m intentId attempt unsentRead) := by
  have escalates {m₁ : Model} :
      Does wall cause m₁ (pure (if escalatesToReconcile m₁.intent intentId attempt then
        patch m₁ fun intent => { intent with reconciling := true } else m₁)) := by
    split
    · exact .act (.annotated (.inl rfl))
    · exact .done
  unfold markRead
  dsimp only
  split
  · rename_i marks
    refine .after (report_quiet _ _ _) (.step ?_ escalates)
    obtain ⟨reads, free, executing⟩ := h (by simp_all)
    exact .unsent reads free executing
  · exact escalates

/-- The live poll a status reply answers. -/
structure Polled (cause : Cause) (m : Model) (poll : PollState) (result : Outcome IntentStatusResult) :
    Prop where
  body : ∃ attempt, cause.body = some (.statusReplied poll.gen attempt result) ∧
    ∀ answer, result = .ok answer → poll.answered ≤ attempt
  polls : m.poll = some poll
  live : poll.stopped = false

theorem onNotFound_does {poll : PollState} (polled : Polled cause m poll (.ok .notFound)) :
    Chain (Act wall cause) m (onNotFound m poll.intentId cause.now).log
        (onNotFound m poll.intentId cause.now).value.1 ∧
      (onNotFound m poll.intentId cause.now).value.1.poll = m.poll := by
  obtain ⟨attempt, body, -⟩ := polled.body
  unfold onNotFound
  split
  · rename_i past
    refine ⟨?_, transition_poll _ _ _⟩
    simp only [log_bind, value_bind, log_pure, value_pure, List.append_nil]
    refine .trans (.single (.quiet (report_quiet _ _ _))) (Does.move fun edge => ?_)
    exact .swept body polled.polls rfl polled.live past edge
  · split
    · exact ⟨.refl m, rfl⟩
    · refine ⟨?_, rfl⟩
      exact .trans (.single (.quiet (by simp))) (.single (.noted (Nat.le_refl _)))

theorem onStatusRow_does {poll : PollState} {row : IntentStatusData}
    (polled : Polled cause m poll (.ok (.data row))) (own : row.intentId = some poll.intentId)
    (unsentRead : Bool) :
    Chain (Act wall cause) m (onStatusRow m poll.intentId row unsentRead).log
        (onStatusRow m poll.intentId row unsentRead).value.1 ∧
      (onStatusRow m poll.intentId row unsentRead).value.1.poll = m.poll := by
  obtain ⟨attempt, body, unread⟩ := polled.body
  have applied : Does wall cause m (applyStatusUpdate m (rowMessage poll.intentId row) row.unmapped) :=
    applyStatusUpdate_does (.row body polled.polls rfl polled.live (unread _ rfl) own rfl) _
  have polls := applyStatusUpdate_poll m (rowMessage poll.intentId row) row.unmapped
  unfold onStatusRow
  simp only [log_bind, value_bind, log_pure, value_pure, List.append_nil]
  split
  · exact ⟨applied.snoc (.annotated (.inl rfl)), polls⟩
  · exact ⟨applied, polls⟩

variable (wall) in
theorem readStatus_does {poll : PollState} {result : Outcome IntentStatusResult}
    (polled : Polled cause m poll result) (own : foreignStatus result poll.intentId = none)
    (unsentRead : Bool) :
    Chain (Act wall cause) m (readStatus m poll.intentId result unsentRead cause.now).log
        (readStatus m poll.intentId result unsentRead cause.now).value.1 ∧
      (readStatus m poll.intentId result unsentRead cause.now).value.1.poll = m.poll := by
  unfold readStatus
  split
  · exact ⟨.single (.quiet (by simp)), rfl⟩
  · exact ⟨.refl m, rfl⟩
  · exact onNotFound_does polled
  · rename_i row
    refine onStatusRow_does polled ?_ unsentRead
    unfold foreignStatus at own
    dsimp only at own
    split at own
    · assumption
    · cases own

theorem settlePoll_does {poll answered : PollState} (polls : m.poll = some poll)
    (on : answered.ContinuesFrom poll) (verdict : Option PollVerdict) :
    Does wall cause m (settlePoll m poll answered poll.intentId verdict) := by
  have stops : Act wall cause m [] { m with poll := some { answered with stopped := true } } :=
    polled_on polls ⟨on.key, on.intentId, on.gen, on.answered, fun _ => rfl⟩
  unfold settlePoll
  split
  · exact .after (by simp) (.act stops)
  · exact .act (polled_on polls ⟨on.key, on.intentId, on.gen, on.answered, on.stopped⟩)
  · split
    · exact .act (polled_on polls on)
    · unfold exhaustPoll
      refine .after (by simp) (.after (report_quiet _ _ _) ?_)
      refine .step stops ?_
      dsimp only
      split
      · exact .act (.annotated (.inl rfl))
      · exact .done

theorem onStatus_does {gen attempt : Nat} {result : Outcome IntentStatusResult}
    (body : cause.body = some (.statusReplied gen attempt result)) :
    Does wall cause m (onStatus m gen attempt result cause.now) := by
  unfold onStatus
  cases polls : m.poll with
  | none => exact .done
  | some poll =>
    refine .ite (fun _ => .done) fun here => .ite (fun _ => .done) fun unread => ?_
    have live : poll.gen = gen ∧ poll.stopped = false := by simpa using here
    obtain ⟨rfl, running⟩ := live
    have current : ∀ answer, result = .ok answer → poll.answered ≤ attempt := by
      rintro answer rfl
      simpa using unread
    dsimp only
    cases own : foreignStatus result poll.intentId with
    | some row => exact .after (report_quiet _ _ _) .done
    | none =>
      have marks : readsNotSent m poll poll.intentId attempt result = true →
          ReadsUnsent cause ∧ m.sign = none ∧ m.intent.status = .executing := fun reads => by
        obtain ⟨⟨row, rfl⟩, free, executing⟩ := readsNotSent_executing reads
        exact ⟨⟨_, body, rfl⟩, free, executing⟩
      generalize readsNotSent m poll poll.intentId attempt result = unsentRead at marks ⊢
      refine .bind (markRead_does _ _ marks) ?_
      set read := (markRead m poll.intentId attempt unsentRead).value with hmark
      have polls' : read.poll = some poll := by rw [hmark, markRead_poll, polls]
      obtain ⟨chain, kept⟩ := readStatus_does wall (m := read)
        ⟨⟨attempt, body, current⟩, polls', running⟩ own unsentRead
      refine Chain.trans chain (settlePoll_does (kept.trans polls') ?_ _)
      split
      · exact ⟨rfl, rfl, rfl, Nat.le_max_left _ _, id⟩
      · exact ⟨rfl, rfl, rfl, Nat.le_refl _, id⟩

end

end XochiSdk.Client
