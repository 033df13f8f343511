import XochiSdk.Client.Machine.InFlight
import XochiSdk.Client.Machine.Play

/-!
# When a plain Retry is offered

A `failed` without the "may have moved" mark lets the user pay again. From an in-flight state
only three answers lead to one, each of them the server's own word that nothing was executed.
-/

namespace XochiSdk.Client

open XochiSdk.Js XochiSdk.Shared XochiSdk.Signer XochiSdk.Library Emits

theorem failureMayHaveMoved_false {substatus : Option String}
    (h : failureMayHaveMoved substatus = false) : substatus = some notExecutedSubstatus := by
  simpa [failureMayHaveMoved] using h

/-- No raw status of a failure reads as the marker. -/
theorem decodeWireStatus_notExecuted :
    (decodeWireStatus (.str notExecutedSubstatus)).status ≠ .known .failed := by
  decide

/-- The verdict of an unmarked failure, read back to the reply. -/
theorem decideExecuteResult_unmarked {reply : RelayedExecuteReply} {error : String}
    (decided : decideExecuteResult (decodeReply reply) = .failed error false) :
    reply.success = false ∧ reply.reconciling = some false ∧ reply.status = "failed" ∧
      reply.substatus = some notExecutedSubstatus := by
  unfold decideExecuteResult at decided
  dsimp only at decided
  split at decided
  · rename_i final
    obtain ⟨failed, success, certain⟩ := final
    have unmarked : failureMayHaveMoved (decodeReply reply).substatus = false := by
      injection decided
    have marker := failureMayHaveMoved_false unmarked
    have success : reply.success = false := success
    have certain : reply.reconciling = some false := by
      simp only [decodeReply, success, Bool.not_false] at certain
      cases doubt : reply.reconciling with
      | none => rw [doubt] at certain; cases certain
      | some reconciling => rw [doubt] at certain; exact congrArg some certain
    have failed : (decodeWireStatus (.str reply.status)).status = .known .failed := failed
    by_cases plain : reply.status = "failed"
    · refine ⟨success, certain, plain, ?_⟩
      simpa only [decodeReply, failed, plain, ne_eq, not_true_eq_false, and_false, if_false] using marker
    · -- a granular failure keeps its own text, and that is never the marker
      have text : some reply.status = some notExecutedSubstatus := by
        simpa only [decodeReply, failed, plain, ne_eq, not_false_eq_true, and_self, if_true]
          using marker
      rw [Option.some.inj text] at failed
      exact absurd failed decodeWireStatus_notExecuted
  · split at decided
    · cases decided
    · split at decided <;> cases decided

/-- A reply's move is never to `failed`. -/
theorem decideExecuteResult_moves {response : ExecuteResponse} (updates : ExecuteUpdates) :
    decideExecuteResult response ≠ .transition (.known .failed) updates := by
  unfold decideExecuteResult
  dsimp only
  split
  · simp
  · split
    · simp
    · split
      · simp
      · rename_i other
        intro h
        injection h with status
        exact other status

theorem rowMessage_substatus {id : String} {row : IntentStatusData}
    (h : (rowMessage id row).substatus = some notExecutedSubstatus) :
    row.substatus = some notExecutedSubstatus := by
  unfold rowMessage at h
  dsimp only at h
  generalize withheldSettlementConfirmed _ _ _ = confirmed at h
  cases confirmed with
  | true => exact absurd (Option.some.inj h) (by decide)
  | false => exact h

section

variable [Host]

/-- The answers after which nothing can have moved. -/
inductive NothingMoved (m : Model) (msg : Msg) : Prop where
  | execute {flow : SignFlow} {response : Value} {reply : RelayedExecuteReply}
      (body : msg.body = .executeReplied flow.id (.reply response)) (live : m.sign = some flow)
      (stage : flow.stage = .execute) (reads : readRelayedExecuteReply response = some reply)
      (own : m.intent.intentId = some reply.intentId) (success : reply.success = false)
      (certain : reply.reconciling = some false) (status : reply.status = "failed")
      (substatus : reply.substatus = some notExecutedSubstatus)
  | stream {message : StatusMessage} (body : msg.body = .streamStatus message)
      (own : m.intent.intentId = some message.intentId) (status : message.status = .failed)
      (substatus : message.substatus = some notExecutedSubstatus)
  | poll {gen attempt : Nat} {row : IntentStatusData} {id : String}
      (body : msg.body = .statusReplied gen attempt (.ok (.data row)))
      (own : m.intent.intentId = some id) (named : row.intentId = some id)
      (status : row.status = .failed) (substatus : row.substatus = some notExecutedSubstatus)
  | notFound {gen attempt : Nat} {poll : PollState} {finish : ℚ}
      (body : msg.body = .statusReplied gen attempt (.ok .notFound))
      (polls : m.poll = some poll) (gen_eq : poll.gen = gen)
      (own : m.intent.intentId = some poll.intentId) (notSent : m.intent.notSent = true)
      (bound : unexecutedFinishAt m.intent.quote = some finish) (past : finish * 1000 < msg.now)

variable {m m' x : Model} {fx : List Effect} {wall : WallClock} {msg : Msg}

theorem sweptPastFinish_spec {intent : IntentState} {id : String} {now : Int}
    (past : sweptPastFinish intent id now = true) :
    ∃ finish, unexecutedFinishAt intent.quote = some finish ∧ intent.notSent = true ∧
      intent.intentId = some id ∧ finish * 1000 < now := by
  unfold sweptPastFinish at past
  split at past
  · cases past
  · rename_i finish bound
    simp only [Bool.and_eq_true, beq_iff_eq, decide_eq_true_eq] at past
    exact ⟨finish, bound, past.1.1, past.1.2, past.2⟩

/-- An unmarked move to `failed` is one of the three. -/
theorem Leaves.nothingMoved (sound : Sound m) (flies : inFlight m = true)
    (flying : Flying msg.cause (receive m msg) x)
    (leaves : Leaves wall msg.cause x .failed false) : NothingMoved m msg := by
  have own := flying.same.intentId
  have flies : inFlight x = true := flying.flies.trans flies
  generalize hstatus : IntentStatus.failed = status at leaves
  generalize hmarked : false = marked at leaves
  cases leaves with
  | lapsed => cases hstatus
  | @delivered message from_ edge =>
    have failed : message.status = .failed := hstatus.symm
    have substatus : message.substatus = some notExecutedSubstatus := by
      refine failureMayHaveMoved_false ?_
      rw [hmarked, markedBy, if_pos ⟨failed, flies⟩]
    cases from_ with
    | stream body named => exact .stream (Option.some.inj body) (own.symm.trans named) failed substatus
    | @row gen attempt row poll body polls gen_eq live unread named applied =>
      rw [applied] at failed substatus
      obtain ⟨met, met_polls, on⟩ := flying.poll poll polls
      rw [on.intentId] at named
      exact .poll (Option.some.inj body) (sound.poll met_polls).2 named failed
        (rowMessage_substatus substatus)
  | @swept gen attempt poll body polls gen_eq live past =>
    obtain ⟨finish, bound, notSent, -, past⟩ := sweptPastFinish_spec past
    obtain ⟨met, met_polls, on⟩ := flying.poll poll polls
    have unsent : m.intent.notSent = true := by
      refine (flying.unsent notSent).resolve_right ?_
      rintro ⟨⟨_, same, reads⟩, -⟩
      rw [body] at same
      cases same
      cases reads
    rw [flying.same.quote] at bound
    exact .notFound (Option.some.inj body) met_polls (on.gen.symm.trans gen_eq)
      (sound.poll met_polls).2 unsent bound past
  | executeFailed answered decided =>
    rw [← hmarked] at decided
    obtain ⟨success, certain, status, substatus⟩ := decideExecuteResult_unmarked decided
    obtain ⟨response, body, reads⟩ := answered.body
    exact .execute (Option.some.inj body) (flying.live answered.sign) answered.stage reads
      (own.symm.trans answered.own) success certain status substatus
  | executeMoved answered decision =>
    rw [← hstatus] at decision
    exact absurd decision (decideExecuteResult_moves _)

/-- A plain Retry from an in-flight state is offered after one of the three answers alone. -/
theorem failed_unmarked {i : Input} (reachable : Reachable m) (flies : inFlight m = true)
    (next : Next m i fx m') (failed : m'.intent.status = .failed)
    (unmarked : m'.intent.mayHaveMoved = false) : NothingMoved m i.2 := by
  have sound := reachable.sound
  have kept : i.2.body ≠ .resetRequested := by
    intro reset
    rw [(next.of_reset reset).status] at failed
    cases failed
  rcases sound.landing flies kept next with same | ⟨flying, leaves, same⟩ | ⟨-, -, -, same⟩
  · exact absurd (same.status.symm.trans failed) (inFlight_away flies).2.2.2.1
  · have status := same.status.symm.trans failed
    have mark := same.mayHaveMoved.symm.trans unmarked
    dsimp only at status mark
    subst status mark
    exact leaves.nothingMoved sound flies flying
  · rw [same.status] at failed
    cases failed

end

/-- A resumed order that the stream fails with the Worker's own marker. -/
theorem failed_unmarked_streamed :
    letI := plainHost
    NothingMoved (played sampleConfig blankContext [resumed .executing none])
      (said (.streamStatus (frame .failed (some notExecutedSubstatus)))).2 :=
  letI := plainHost
  failed_unmarked (played_reachable _ _ _) (by decide +kernel) (next_answer _ _)
    (by decide +kernel) (by decide +kernel)

end XochiSdk.Client
