import XochiSdk.Client.Machine.Calm
import XochiSdk.Client.Machine.InFlight
import XochiSdk.Client.Machine.Play

/-!
# Whether a live intent can be left

A dispatched intent, or one whose deposit address is shown, should hold until it ends or the
user resets it. Every message keeps it but the ones of `Abandons`: the amount cleared, a
status from before the quote read beside a shown deposit address, and the second signature
taken up again beside an execute.
-/

namespace XochiSdk.Client

open XochiSdk.Js XochiSdk.Shared XochiSdk.Signer XochiSdk.Library Emits

def endStates : List IntentStatus := [.completed, .refunded, .failed, .expired]

/-- The live intent is still the one held, in flight or ended, and no ceremony goes on. -/
structure Kept (m : Model) (fx : List Effect) (m' : Model) : Prop where
  intentId : m'.intent.intentId = m.intent.intentId
  quote : m'.intent.quote = m.intent.quote
  status : inFlight m' = true ∨ endStates.contains m'.intent.status = true
  silent : ∀ e ∈ fx, e.prompts = false

/-- A status no dispatched intent has. -/
def forgets (status : IntentStatus) : Bool := status == .quoting || status == .idle

theorem inFlight_edge {m : Model} {status : IntentStatus} (flies : inFlight m = true)
    (edge : canTransitionTo m.intent.status status = true) :
    (pollInflightStates.contains status = true ∨ endStates.contains status = true) ∨
      (m.intent.status = .awaiting_deposit ∧ forgets status = true) := by
  unfold inFlight at flies
  generalize m.intent.status = source at flies edge ⊢
  revert flies edge
  cases source <;> cases status <;> decide

theorem applyStatusUpdate_status {m : Model} {message : StatusMessage} (unmapped : Bool)
    (moves : message.status ≠ m.intent.status)
    (edge : canTransitionTo m.intent.status message.status = true) :
    (applyStatusUpdate m message unmapped).value.intent.status = message.status := by
  have ends (m₁ : Model) (status : IntentStatus) :
      (endNotSent (markUnmapped m₁ unmapped) status).intent.status = m₁.intent.status := by
    unfold endNotSent markUnmapped
    split <;> split <;> rfl
  unfold applyStatusUpdate
  rw [value_bind]
  dsimp only
  rw [mapStatusUpdate_status, if_neg moves, value_bind, value_pure, ends, (transition_of_edge edge).1]
  exact statusUpdates_status _ _ _

theorem forgets_edge {m : Model} {status : IntentStatus} (shown : m.intent.status = .awaiting_deposit) (forgot : forgets status = true) :
    status ≠ m.intent.status ∧ canTransitionTo m.intent.status status = true := by
  rw [shown]
  revert forgot
  cases status <;> decide

theorem markRead_status (m : Model) (intentId : String) (attempt : Nat) (unsentRead : Bool) :
    (markRead m intentId attempt unsentRead).value.intent.status = m.intent.status := by
  unfold markRead
  dsimp only
  split <;> simp only [value_bind, value_pure] <;> split <;> rfl

theorem settlePoll_status (m : Model) (poll answered : PollState) (id : String)
    (verdict : Option PollVerdict) :
    (settlePoll m poll answered id verdict).value.intent.status = m.intent.status := by
  unfold settlePoll
  split
  · rfl
  · rfl
  · split
    · rfl
    · unfold exhaustPoll
      simp only [value_bind, value_pure]
      split <;> rfl

theorem onStatusRow_status {m : Model} {id : String} {row : IntentStatusData} (unsentRead : Bool)
    (shown : m.intent.status = .awaiting_deposit) (forgot : forgets row.status = true) :
    (onStatusRow m id row unsentRead).value.1.intent.status = row.status := by
  obtain ⟨moves, edge⟩ := forgets_edge shown forgot
  have applied : (applyStatusUpdate m (rowMessage id row) row.unmapped).value.intent.status =
      row.status := applyStatusUpdate_status row.unmapped moves edge
  unfold onStatusRow
  simp only [value_bind, value_pure]
  split
  · exact applied
  · exact applied

/-- The amount cleared drops any intent that is neither held failed nor unsent. -/
theorem onQuoteRequested_cleared {m : Model} {amount : String} (unset : amount = "" ∨ amount = "0")
    (dropped : survivesClearedAmount m.intent = false) :
    (onQuoteRequested m amount).value.intent = initialIntentState := by
  unfold onQuoteRequested
  rw [value_bind, value_bind]
  dsimp only
  by_cases same : amount = m.amount
  · rw [if_pos same, value_bind, if_pos unset, dropped, if_neg (by decide), abandonSign_value]
  · rw [if_neg same, value_bind, if_pos unset, dropped, if_neg (by decide), abandonSign_value]

section

variable [Host]

/-- The messages that leave a live intent. -/
inductive Abandons (m : Model) (msg : Msg) : Prop where
  | cleared {amount : String} (body : msg.body = .quoteRequested amount)
      (unset : amount = "" ∨ amount = "0") (sent : m.intent.notSent = false)
  | streamed {message : StatusMessage} (body : msg.body = .streamStatus message)
      (own : m.intent.intentId = some message.intentId)
      (shown : m.intent.status = .awaiting_deposit) (status : forgets message.status = true)
  | polled {attempt : Nat} {poll : PollState} {row : IntentStatusData}
      (body : msg.body = .statusReplied poll.gen attempt (.ok (.data row)))
      (polls : m.poll = some poll) (live : poll.stopped = false)
      (unread : poll.answered ≤ attempt) (own : row.intentId = some poll.intentId)
      (shown : m.intent.status = .awaiting_deposit) (status : forgets row.status = true)
  | tapped {pull : Eip712TypedData} {expected : Int} (taps : Taps msg m)
      (pinned : Pinned m pull expected)
  | approved {flow : SignFlow} {pull : Eip712TypedData}
      (body : msg.body = .approvalReplied flow.id (.ok true)) (live : m.sign = some flow)
      (stage : flow.stage = .approval)
      (held : m.intent.quote.bind (·.pullAuthorization) = some pull)

variable {wall : WallClock} {msg : Msg} {m m' x : Model} {fx : List Effect}
  {status : IntentStatus} {marked : Bool}

/-! ## What keeps it -/

theorem Leaves.kept (flies : inFlight m = true)
    (flying : Flying msg.cause (receive m msg) x) (leaves : Leaves wall msg.cause x status marked)
    (sound : Sound m) (holds : ¬Abandons m msg) :
    pollInflightStates.contains status = true ∨ endStates.contains status = true := by
  have flies' : inFlight x = true := flying.flies.trans flies
  have shown (h : x.intent.status = .awaiting_deposit) : m.intent.status = .awaiting_deposit :=
    flying.same.status.symm.trans h
  cases leaves with
  | lapsed | swept | executeFailed => exact .inr rfl
  | delivered from_ edge =>
    refine (inFlight_edge flies' edge).resolve_right fun ⟨here, forgot⟩ => holds ?_
    cases from_ with
    | stream body own =>
      exact .streamed (Option.some.inj body) (flying.same.intentId.symm.trans own) (shown here) forgot
    | @row gen attempt row poll body polls gen_eq live unread own applied =>
      obtain ⟨met, met_polls, on⟩ := flying.poll poll polls
      rw [← gen_eq, on.gen] at body
      rw [on.intentId] at own
      rw [applied] at forgot
      refine .polled (Option.some.inj body) met_polls ?_ (on.answered.trans unread) own (shown here)
        forgot
      cases stopped : met.stopped
      · rfl
      · rw [on.stopped stopped] at live; cases live
  | executeMoved answered decision edge =>
    refine (inFlight_edge flies' edge).resolve_right fun ⟨here, _⟩ => ?_
    have executing := sound.inv.ceremony.executes _ (flying.live answered.sign) answered.stage
    rw [shown here] at executing
    cases executing

theorem Ceremony.silent (flies : inFlight m = true) (h : Ceremony msg m fx m')
    (holds : ¬Abandons m msg) : ∀ e ∈ fx, e.prompts = false := by
  have quietly {fy : List Effect} (quiet : Quiet fy) : ∀ e ∈ fy, e.prompts = false := by
    intro e he
    have := quiet e he
    cases e with
    | timer | emit => rfl
    | api | wallet => cases this
  obtain ⟨-, quoted, signing, -, -, -⟩ := inFlight_away flies
  cases h
  case prompted signable _ _ _ _ _ _ _ => exact absurd (canSignQuote_some signable).1 quoted
  case executed here _ _ _ | kept here _ _ | approvalAsked here _ _ => exact absurd here signing
  case tapped taps pinned => exact absurd (.tapped taps pinned) holds
  case pullPrompted body live stage held _ => exact absurd (.approved body live stage held) holds
  case tapRefused quiet | held quiet => exact quietly quiet
  case resent quiet =>
    intro e he
    rcases List.mem_append.mp he with he | he
    · exact quietly quiet e he
    · rw [List.mem_singleton.mp he]
      rfl

theorem chain_silent {cause : Cause} (chain : Chain (Act wall cause) m fx m') :
    ∀ e ∈ fx, e.prompts = false :=
  chain.effects (P := fun _ => True) (fun _ _ _ _ act => ⟨trivial, fun e he => (act.effects e he).1⟩)
    trivial

theorem Abandons.of_receive (h : Abandons (receive m msg) msg) : Abandons m msg := by
  cases h with
  | cleared body unset sent => exact .cleared body unset sent
  | streamed body own shown status => exact .streamed body own shown status
  | polled body polls live unread own shown status =>
    exact .polled body polls live unread own shown status
  | tapped taps pinned =>
    exact .tapped ⟨taps.body, taps.pending, taps.idle, taps.unsigned, taps.preflight⟩
      ⟨pinned.held, pinned.amount, pinned.pin⟩
  | approved body live stage held => exact .approved body live stage held

theorem Next.silent {i : Input} (sound : Sound m) (flies : inFlight m = true)
    (holds : ¬Abandons m i.2) (next : Next m i fx m') : ∀ e ∈ fx, e.prompts = false := by
  rcases next.cases sound.inv with ⟨rfl, -⟩ | ⟨fy, m₁, fz, stepped, settled, rfl⟩
  · simp
  intro e he
  rcases List.mem_append.mp he with he | he
  · rcases stepped with chain | ceremony
    · exact chain_silent chain e he
    · exact ceremony.silent (m := receive m i.2) flies (fun h => holds h.of_receive) e he
  · exact chain_silent settled e he

/-- A message that abandons nothing keeps the live intent. -/
theorem Next.kept {i : Input} (sound : Sound m) (flies : inFlight m = true)
    (kept : i.2.body ≠ .resetRequested) (holds : ¬Abandons m i.2) (next : Next m i fx m') :
    Kept m fx m' := by
  have silent := next.silent sound flies holds
  cases sound.landing flies kept next with
  | stays same =>
    refine ⟨same.intentId, same.quote, .inl ?_, silent⟩
    unfold inFlight
    rw [same.status]
    exact flies
  | leaves flying leaves same =>
    refine ⟨same.intentId, same.quote, ?_, silent⟩
    unfold inFlight
    rw [same.status]
    exact leaves.kept flies flying sound holds
  | cleared body unset sent => exact absurd (.cleared body unset sent) holds

/-! ## What does not -/

/-- Out of the form's reach, the rules leave the status alone. -/
theorem settle_status (now : Int) (away : forgets m.intent.status = true) :
    (settle m now).value.intent.status = m.intent.status := by
  unfold forgets at away
  have free : m.intent.status ≠ .quoted ∧
      walletInterruptibleStates.contains m.intent.status = false := by
    generalize m.intent.status = status at away ⊢
    revert away
    cases status <;> decide
  rw [(settle_still (.of_away (.inr (.inl free.2)) free.1)).intent]

theorem onStatus_status {poll : PollState} {attempt : Nat} {row : IntentStatusData} {now : Int}
    (polls : m.poll = some poll) (live : poll.stopped = false) (unread : poll.answered ≤ attempt)
    (own : row.intentId = some poll.intentId) (shown : m.intent.status = .awaiting_deposit)
    (forgot : forgets row.status = true) :
    (onStatus m poll.gen attempt (.ok (.data row)) now).value.intent.status = row.status := by
  unfold onStatus foreignStatus
  rw [polls]
  dsimp only
  rw [if_neg (by simp [live]), if_neg (by simpa using unread), if_pos own]
  dsimp only
  rw [value_bind, value_bind, settlePoll_status]
  refine onStatusRow_status _ ?_ forgot
  rw [markRead_status]
  exact shown

theorem beginPullSign_tapped {pull : Eip712TypedData} {expected : Int} (taps : Taps msg m)
    (pinned : Pinned m pull expected) :
    ∃ x, beginPullSign m msg.now = .ok x ∧
      .wallet (.ensureApproval (tapFlow m).id (toString expected)) ∈ x.log := by
  obtain ⟨eip712, typed, amount⟩ := pinned.amount
  have read (m₁ : Model) (intent : m₁.intent = m.intent) :
      readAmount (expectedPullAmount m₁ eip712) = .ok expected := by
    rw [← amount, expectedPullAmount, expectedPullAmount, intent]
  unfold beginPullSign
  simp only [taps.pending, pinned.held, taps.idle, taps.unsigned, taps.preflight]
  unfold completePull
  simp only [pinned.held, typed, nextId]
  rw [read { m with isSigningPull := true, seq := m.seq + 1, sign := none } rfl]
  dsimp only
  rw [pinned.pin]
  exact ⟨_, rfl, by simp [tapFlow]⟩

/-- An abandoned intent is not kept. -/
theorem Abandons.not_kept {i : Input} (flies : inFlight m = true)
    (abandons : Abandons m i.2) (next : Next m i fx m') : ¬Kept m fx m' := by
  have forgotten {x : Machine Model} (stepped : step i.1 (receive m i.2) i.2 = .ok x)
      (forgot : forgets x.value.intent.status = true) : ¬Kept m fx m' := by
    obtain ⟨-, rfl⟩ := next.of_step stepped
    intro kept
    have status := settle_status i.2.now forgot
    have held := kept.status
    unfold inFlight at held
    rw [status] at held
    revert forgot held
    cases x.value.intent.status <;> decide
  have prompted {x : Machine Model} {e : Effect} (stepped : step i.1 (receive m i.2) i.2 = .ok x)
      (he : e ∈ x.log) (prompts : e.prompts = true) : ¬Kept m fx m' := by
    obtain ⟨rfl, -⟩ := next.of_step stepped
    intro kept
    have silent := kept.silent e (List.mem_append.mpr (.inl he))
    rw [prompts] at silent
    cases silent
  cases abandons with
  | @cleared amount body unset sent =>
    have failed : m.intent.status ≠ .failed := (inFlight_away flies).2.2.2.1
    have stepped : step i.1 (receive m i.2) i.2 = .ok (onQuoteRequested (receive m i.2) amount) := by
      rw [step, body]
    refine forgotten stepped ?_
    have dropped : survivesClearedAmount (receive m i.2).intent = false := by
      simp [survivesClearedAmount, receive, sent, failed]
    rw [onQuoteRequested_cleared unset dropped]
    rfl
  | @streamed message body own shown forgot =>
    have stepped : step i.1 (receive m i.2) i.2 = .ok (onStream (receive m i.2) message) := by
      rw [step, body]
    refine forgotten stepped ?_
    obtain ⟨moves, edge⟩ := forgets_edge shown forgot
    have named : (receive m i.2).intent.intentId = some message.intentId := own
    unfold onStream
    rw [if_neg (not_not.mpr named),
      applyStatusUpdate_status (m := receive m i.2) false moves edge]
    exact forgot
  | @polled attempt poll row body polls live unread own shown forgot =>
    have stepped : step i.1 (receive m i.2) i.2 =
        .ok (onStatus (receive m i.2) poll.gen attempt (.ok (.data row)) i.2.now) := by
      rw [step, body]
    refine forgotten stepped ?_
    rw [onStatus_status (m := receive m i.2) polls live unread own shown forgot]
    exact forgot
  | @tapped pull expected taps pinned =>
    obtain ⟨x, begun, asks⟩ := beginPullSign_tapped (m := receive m i.2)
      ⟨taps.body, taps.pending, taps.idle, taps.unsigned, taps.preflight⟩
      ⟨pinned.held, pinned.amount, pinned.pin⟩
    have stepped : step i.1 (receive m i.2) i.2 = .ok x := by
      rw [step, taps.body]
      exact begun
    exact prompted stepped asks rfl
  | @approved flow pull body live stage held =>
    have stepped : step i.1 (receive m i.2) i.2 =
        .ok (onApproval (receive m i.2) flow.id (.ok true)) := by
      rw [step, body]
    refine prompted (e := .wallet (.signTypedData flow.id .pull pull m.ctx.wallet.chainId))
      stepped ?_ rfl
    unfold onApproval
    dsimp only [receive]
    rw [live]
    dsimp only
    rw [if_neg (by simp [stage]), held]
    simp [promptSignature]

/-! ## Over a run -/

/-- The step keeps a live intent, if it meets one and is no Reset. -/
def KeepsLive (m : Model) (i : Input) (fx : List Effect) (m' : Model) : Prop :=
  inFlight m = true → i.2.body ≠ .resetRequested → Kept m fx m'

/-- The step is none of those that leave a live intent. -/
def LeavesAlone (m : Model) (i : Input) (_ : List Effect) (_ : Model) : Prop :=
  inFlight m = true → i.2.body ≠ .resetRequested → ¬Abandons m i.2

/-- A run keeps its live intents exactly where none of its messages is one that leaves them. -/
theorem run_keeps_live_iff {log : Log} :
    Run Initial (Only Next KeepsLive) log m ↔ Run Initial (Only Next LeavesAlone) log m := by
  constructor
  · refine Run.only_mono fun log m i fx m' before next keeps flies kept abandons => ?_
    exact abandons.not_kept flies next (keeps flies kept)
  · refine Run.only_mono fun log m i fx m' before next alone flies kept => ?_
    have sound := Reachable.sound ⟨log, before.of_only⟩
    exact next.kept sound flies kept (alone flies kept)

end

/-- The amount cleared drops an order that is executing. -/
theorem clearing_abandons :
    letI := plainHost
    let m := played sampleConfig blankContext [resumed .executing none]
    let i := said (.quoteRequested "")
    Reachable m ∧ inFlight m = true ∧ i.2.body ≠ .resetRequested ∧
      ¬Kept m (answer m i).1 (answer m i).2 := by
  let _ := plainHost
  refine ⟨played_reachable _ _ _, by decide +kernel, by simp [said], fun kept => ?_⟩
  exact absurd kept.intentId (by decide +kernel)

end XochiSdk.Client
