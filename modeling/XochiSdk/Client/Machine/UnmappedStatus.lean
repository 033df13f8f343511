import XochiSdk.Client.Machine.PollRules
import XochiSdk.Client.Machine.Retry
import XochiSdk.Client.Machine.Play
import XochiSdk.Client.Transport.StatusRead

/-!
# Statuses the build does not know

A poll that carries an unmapped status leaves an in-flight trade in flight and shown in doubt,
and a trade is completed only by a message that says so.
-/

namespace XochiSdk.Client

open XochiSdk.Js XochiSdk.Shared XochiSdk.Signer XochiSdk.Library Emits

/-! ## The rules beside a trade in flight -/

section

variable [Host] {now : Int} {m m' : Model}

theorem watchWallet_inFlight (flies : inFlight m = true) :
    ((watchWallet m).value.getD m).intent = m.intent := by
  have locked : walletInterruptibleStates.contains m.intent.status = false :=
    (inFlight_away flies).2.2.2.2.1
  unfold watchWallet
  dsimp only
  split
  · rfl
  · rw [locked, Bool.not_false, Bool.or_true, Bool.true_or, if_pos rfl]
    rfl

theorem upgradePreview_inFlight (flies : inFlight m = true) :
    ((upgradePreview now m).value.getD m).intent = m.intent := by
  have away : m.intent.status ≠ .quoted := (inFlight_away flies).2.1
  have idle (connected hasAmount isPreview origin : Bool) :
      shouldUpgradePreviewQuote connected hasAmount m.intent.status isPreview origin = false := by
    simp [shouldUpgradePreviewQuote, away]
  unfold upgradePreview
  dsimp only
  split
  · rfl
  · rw [idle, Bool.not_false, if_pos rfl]
    rfl

theorem armExpiry_inFlight (flies : inFlight m = true) :
    ((armExpiry now m).value.getD m).intent = m.intent := by
  have none_ : expiryKey m = none := by
    unfold expiryKey
    split
    · exact if_neg fun h => (inFlight_away flies).2.1 h.1
    · rfl
  unfold armExpiry startExpiry
  rw [none_]
  dsimp only
  split
  · rfl
  · split <;> rfl

theorem armPoll_intent : ((armPoll now m).value.getD m).intent = m.intent := by
  obtain ⟨seq, poll, same⟩ := @armPoll_unmoved _ now m
  unfold ruled at same
  rw [same]

/-- The rules leave the intent of a trade in flight alone. -/
theorem settle_inFlight (flies : inFlight m = true) : (settle m now).value.intent = m.intent := by
  let Keeps : Model → List Effect → Model → Prop := fun m _ m' =>
    inFlight m = true → m'.intent = m.intent
  have chain : Chain Keeps m (settle m now).log (settle m now).value := by
    refine settle_chain (fun rule mem m => .single fun flies => ?_) m
    simp only [settleRules, List.mem_cons, List.not_mem_nil, or_false] at mem
    rcases mem with rfl | rfl | rfl | rfl
    · exact watchWallet_inFlight flies
    · exact upgradePreview_inFlight flies
    · exact armExpiry_inFlight flies
    · exact armPoll_intent
  refine chain.invariant (P := fun x => x.intent = m.intent) (fun x _ y same keeps => ?_) rfl
  have here : inFlight x = true := by
    unfold inFlight at flies ⊢
    rw [same]
    exact flies
  exact (keeps here).trans same

end

/-! ## A poll that carries one -/

/-- In flight, and shown in doubt. -/
structure Doubted (intent : IntentState) : Prop where
  flies : pollInflightStates.contains intent.status = true
  doubt : intent.reconciling = true

theorem markUnmapped_doubted {m : Model} (flies : inFlight m = true) :
    Doubted (markUnmapped m true).intent := by
  have flies' : pollInflightStates.contains m.intent.status = true := flies
  unfold markUnmapped
  rw [flies']
  cases doubt : m.intent.reconciling with
  | true => exact ⟨flies, doubt⟩
  | false => exact ⟨flies, rfl⟩

theorem endNotSent_doubted {m : Model} (status : IntentStatus) (doubted : Doubted m.intent) :
    Doubted (endNotSent m status).intent := by
  unfold endNotSent
  split
  · exact ⟨doubted.flies, rfl⟩
  · exact doubted

/-- An unmapped update: the trade stays in flight, whatever it held, and in doubt. -/
theorem applyStatusUpdate_unmapped {m : Model} {message : StatusMessage}
    (executing : message.status = .executing) (flies : inFlight m = true) :
    Doubted (applyStatusUpdate m message true).value.intent := by
  have ends (next : Model) (flies : inFlight next = true) :
      Doubted (endNotSent (markUnmapped next true) (mapStatusUpdate message).1).intent :=
    endNotSent_doubted _ (markUnmapped_doubted flies)
  unfold applyStatusUpdate
  rw [value_bind]
  dsimp only
  split
  · split
    · rename_i updates merged
      obtain ⟨_, _, _, _, same⟩ := mergeSameStatusReceipt_spec merged
      refine ends (patch m updates) ?_
      unfold inFlight patch
      rw [same]
      exact flies
    · exact ends _ flies
  · rw [value_bind]
    refine ends _ ?_
    rw [mapStatusUpdate_status, executing]
    cases edge : canTransitionTo m.intent.status .executing with
    | true =>
      have status : (statusUpdates m message { m.intent with status := .executing }).status =
          .executing := statusUpdates_status m message _
      rw [(transition_of_edge edge).1]
      change pollInflightStates.contains
        (statusUpdates m message { m.intent with status := .executing }).status = true
      rw [status]
      rfl
    | false =>
      rw [(transition_of_no_edge edge).1]
      exact flies

theorem markRead_doubt {m : Model} (id : String) (attempt : Nat) :
    inFlight (markRead m id attempt false).value = inFlight m := by
  unfold markRead
  rw [Bool.false_and, if_neg Bool.false_ne_true, value_bind]
  dsimp only [value_pure]
  split <;> rfl

theorem onStatusRow_unmapped {m : Model} {row : IntentStatusData} (id : String) (unsentRead : Bool)
    (executing : row.status = .executing) (unmapped : row.unmapped = true)
    (flies : inFlight m = true) : Doubted (onStatusRow m id row unsentRead).value.1.intent := by
  have applied : Doubted (applyStatusUpdate m (rowMessage id row) row.unmapped).value.intent := by
    rw [unmapped]
    exact applyStatusUpdate_unmapped executing flies
  unfold onStatusRow
  simp only [value_bind, value_pure]
  split
  · exact ⟨applied.flies, applied.doubt⟩
  · exact applied

theorem settlePoll_doubted {m : Model} (poll answered : PollState) (id : String)
    (verdict : Option PollVerdict) (doubted : Doubted m.intent) :
    Doubted (settlePoll m poll answered id verdict).value.intent := by
  unfold settlePoll
  split
  · exact doubted
  · exact doubted
  · split
    · exact doubted
    · unfold exhaustPoll
      simp only [value_bind, value_pure]
      split
      · exact ⟨doubted.flies, doubted.doubt⟩
      · exact doubted

/-- A poll's answer the machine reads: of the live poll, not overtaken, and for its own intent. -/
structure HeardBy (m : Model) (gen attempt : Nat) (row : IntentStatusData) : Prop where
  live : ∃ poll, m.poll = some poll ∧ poll.gen = gen ∧ poll.stopped = false ∧
    poll.answered ≤ attempt ∧ row.intentId = some poll.intentId

section

variable [Host]

/-- A poll that carries an unmapped status: read, it leaves the trade in flight and in doubt;
unread, it leaves it as it was. -/
theorem onStatus_unmapped {m : Model} (gen attempt : Nat) {row : IntentStatusData} (now : Int)
    (executing : row.status = .executing) (unmapped : row.unmapped = true)
    (flies : inFlight m = true) :
    (HeardBy m gen attempt row ∧
        Doubted (onStatus m gen attempt (.ok (.data row)) now).value.intent) ∨
      (¬HeardBy m gen attempt row ∧
        (onStatus m gen attempt (.ok (.data row)) now).value.intent = m.intent) := by
  unfold onStatus
  cases polls : m.poll with
  | none => exact .inr ⟨fun read => by obtain ⟨poll, h, -⟩ := read.live; simp [polls] at h, rfl⟩
  | some poll =>
    have met {p : PollState} (h : m.poll = some p) : p = poll := by
      rw [polls] at h
      exact (Option.some.inj h).symm
    dsimp only
    split
    · rename_i dead
      refine .inr ⟨fun read => ?_, rfl⟩
      obtain ⟨p, h, gen_eq, live, -⟩ := read.live
      cases met h
      rcases dead with other | stopped
      · exact other gen_eq
      · rw [live] at stopped
        cases stopped
    · rename_i alive
      obtain ⟨gen_eq, live⟩ := not_or.mp alive
      split
      · rename_i overtaken
        refine .inr ⟨fun read => ?_, rfl⟩
        obtain ⟨p, h, -, -, current, -⟩ := read.live
        cases met h
        simp at overtaken
        omega
      · rename_i current
        unfold foreignStatus
        dsimp only
        by_cases own : row.intentId = some poll.intentId
        · rw [if_pos own]
          refine .inl ⟨⟨poll, polls, not_not.mp gen_eq, by simpa using live, by simpa using current,
            own⟩, ?_⟩
          have sent : readsNotSent m poll poll.intentId attempt (.ok (.data row)) = false := by
            simp [readsNotSent, executing]
          simp only [sent, value_bind]
          refine settlePoll_doubted _ _ _ _ ?_
          refine onStatusRow_unmapped _ _ executing unmapped ?_
          rw [markRead_doubt]
          exact flies
        · rw [if_neg own]
          refine .inr ⟨fun read => ?_, rfl⟩
          obtain ⟨p, h, -, -, -, named⟩ := read.live
          cases met h
          exact own named

/-- One update by such a poll. -/
theorem Next.unmapped {m m' : Model} {i : Input} {fx : List Effect} {gen attempt : Nat}
    {row : IntentStatusData} (next : Next m i fx m')
    (body : i.2.body = .statusReplied gen attempt (.ok (.data row)))
    (executing : row.status = .executing) (unmapped : row.unmapped = true)
    (flies : inFlight m = true) :
    inFlight m' = true ∧ (HeardBy m gen attempt row → m'.intent.reconciling = true) := by
  have stepped : step i.1 (receive m i.2) i.2 =
      .ok (onStatus (receive m i.2) gen attempt (.ok (.data row)) i.2.now) := by
    unfold step
    rw [body]
  obtain ⟨-, same⟩ := next.of_step stepped
  have settled {x : Model} (flies : inFlight x = true) :
      (settle x i.2.now).value.intent = x.intent := settle_inFlight flies
  rcases onStatus_unmapped (m := receive m i.2) gen attempt i.2.now executing
    unmapped flies with ⟨-, doubted⟩ | ⟨unread, kept⟩
  · have intent := settled (show inFlight _ = true from doubted.flies)
    rw [← same] at intent
    exact ⟨by rw [inFlight, intent]; exact doubted.flies, fun _ => by rw [intent]; exact doubted.doubt⟩
  · have flies' : inFlight (onStatus (receive m i.2) gen attempt (.ok (.data row)) i.2.now).value =
        true := by
      unfold inFlight
      rw [kept]
      exact flies
    have intent := settled flies'
    rw [← same, kept] at intent
    exact ⟨by rw [inFlight, intent]; exact flies, fun read => absurd ⟨read.live⟩ unread⟩

end

/-! ## What completes a trade -/

/-- The message says a fill was delivered. -/
def MsgBody.saysCompleted : MsgBody → Prop
  | .streamStatus message => message.status = .completed
  | .statusReplied _ _ (.ok (.data row)) => row.status = .completed
  | .executeReplied _ (.reply response) =>
    ∃ reply, readRelayedExecuteReply response = some reply ∧ reply.status ∈ completedWords
  | .resumeRequested _ status _ _ _ => status = .completed
  | _ => False

section

variable [Host] {wall : WallClock} {cause : Cause} {m m' : Model} {fx : List Effect}

omit [Host] in
theorem decideExecuteResult_completed {response : ExecuteResponse} {updates : ExecuteUpdates}
    (decided : decideExecuteResult response = .transition (.known .completed) updates) :
    response.status = .known .completed := by
  unfold decideExecuteResult at decided
  dsimp only at decided
  split at decided
  · cases decided
  · split at decided
    · assumption
    · split at decided
      · cases decided
      · injection decided

/-- An act completes a trade only for a message that says so. -/
theorem Act.completes (act : Act wall cause m fx m') (away : m.intent.status ≠ .completed)
    (completed : m'.intent.status = .completed) :
    ∃ body, cause.body = some body ∧ body.saysCompleted := by
  cases act
  case resumed body adopts =>
    refine ⟨_, body, ?_⟩
    obtain ⟨-, -, -, rfl⟩ := buildResumedState_some adopts
    exact completed
  case delivered message from_ edge =>
    have said : message.status = .completed := (statusUpdates_status m message _).symm.trans completed
    cases from_ with
    | stream body => exact ⟨_, body, said⟩
    | row body _ _ _ _ _ applied =>
      rw [applied] at said
      exact ⟨_, body, said⟩
  case executeMoved reply status decided updates answered decision kept edge =>
    have said : status = .completed := completed
    rw [said] at decision
    obtain ⟨response, body, reads⟩ := answered.body
    obtain ⟨s, mem, raw⟩ := decodeWireStatus_completed (decideExecuteResult_completed decision)
    cases raw
    exact ⟨_, body, reply, reads, mem⟩
  all_goals first
    | exact absurd completed away
    | exact IntentStatus.noConfusion completed

theorem Ceremony.completes {msg : Msg} (ceremony : Ceremony msg m fx m')
    (away : m.intent.status ≠ .completed) : m'.intent.status ≠ .completed := by
  cases ceremony
  all_goals first
    | exact away
    | exact fun completed => IntentStatus.noConfusion completed

/-- An update completes a trade only by a message that says so. -/
theorem Next.completes {i : Input} (inv : Inv m) (next : Next m i fx m')
    (away : m.intent.status ≠ .completed) (completed : m'.intent.status = .completed) :
    i.2.body.saysCompleted := by
  have along {cause : Cause} {x y : Model} {fx : List Effect} (chain : Chain (Act i.1 cause) x fx y)
      (h : x.intent.status ≠ .completed ∨ ∃ body, cause.body = some body ∧ body.saysCompleted) :
      y.intent.status ≠ .completed ∨ ∃ body, cause.body = some body ∧ body.saysCompleted := by
    refine chain.invariant (P := fun y => y.intent.status ≠ .completed ∨
      ∃ body, cause.body = some body ∧ body.saysCompleted) (fun x fx y h act => ?_) h
    refine h.elim (fun away => ?_) .inr
    by_cases done : y.intent.status = .completed
    · exact .inr (act.completes away done)
    · exact .inl done
  rcases next.cases inv with ⟨-, rfl⟩ | ⟨fy, m₁, fz, stepped, settled, -⟩
  · exact absurd completed away
  have rules (away : m₁.intent.status ≠ .completed) : False := by
    rcases along settled (.inl away) with still | ⟨body, none_, -⟩
    · exact still completed
    · cases none_
  rcases stepped with chain | ceremony
  · rcases along chain (.inl away) with still | ⟨body, same, said⟩
    · exact (rules still).elim
    · cases same
      exact said
  · exact (rules (ceremony.completes (m := receive m i.2) away)).elim

/-- A string is read as unmapped, and the poll that carries it leaves a trade in flight where it
is and, heard, in doubt. -/
def FailsClosed (s : String) : Prop :=
  decodeWireStatus (.str s) = .unmapped s ∧
    ∀ d row, d.status = .str s → readStatusBody d = some row →
      ∀ m m' i fx gen attempt, Reachable m → inFlight m = true →
        i.2.body = .statusReplied gen attempt (.ok (.data row)) → Next m i fx m' →
          inFlight m' = true ∧ (HeardBy m gen attempt row → m'.intent.reconciling = true)

/-- A status outside both vocabularies fails closed exactly where no plain object inherits a
member of its name; and a trade is completed only by a message that says so, a poll's row only
by the wire words for it. -/
theorem foreign_failsClosed_iff :
    (∀ s, Foreign s → (FailsClosed s ↔ inheritedMember s = none)) ∧
      (∀ m m' i fx, Reachable m → Next m i fx m' → m.intent.status ≠ .completed →
        m'.intent.status = .completed → i.2.body.saysCompleted) ∧
      ∀ d row, readStatusBody d = some row → row.status = .completed →
        ∃ s ∈ completedWords, d.status = .str s := by
  refine ⟨fun s foreign => ⟨fun closed => foreign.unmapped_iff.mp closed.1, fun plain => ?_⟩,
    fun m m' i fx reachable next away completed => next.completes reachable.inv away completed,
    fun d row read completed => readStatusBody_completed read completed⟩
  have decoded := foreign.unmapped_iff.mpr plain
  refine ⟨decoded, fun d row carried read m m' i fx gen attempt _ flies body next => ?_⟩
  rw [← carried] at decoded
  obtain ⟨executing, unmapped⟩ := readStatusBody_unmapped decoded read
  exact next.unmapped body executing unmapped flies

end

/-- A name every object inherits is taken for a mapped status. -/
theorem constructor_not_failsClosed :
    Foreign "constructor" ∧ ¬@FailsClosed plainHost "constructor" :=
  ⟨⟨by decide, by decide⟩, fun closed => by cases closed.1⟩

theorem foreign_failsClosed_iff_sample :
    @FailsClosed plainHost "awaiting_attestation" ∧ ¬@FailsClosed plainHost "__proto__" :=
  ⟨((@foreign_failsClosed_iff plainHost).1 _ ⟨by decide, by decide⟩).mpr (by decide),
    fun closed => absurd (((@foreign_failsClosed_iff plainHost).1 "__proto__"
      ⟨by decide, by decide⟩).mp closed) (by decide)⟩

end XochiSdk.Client
