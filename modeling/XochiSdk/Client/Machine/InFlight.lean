import XochiSdk.Client.Machine.Rest

/-!
# Leaving an in-flight state

One message from a dispatched intent, or a revealed deposit address, leaves the trade as it
is, moves its status once, or drops it with the amount.
-/

namespace XochiSdk.Client

open XochiSdk.Js XochiSdk.Shared XochiSdk.Signer XochiSdk.Library Emits

theorem busy_of_inFlight {m : Model} (flying : inFlight m = true) : busy m = true := by
  unfold inFlight at flying
  unfold busy
  generalize m.intent.status = status at flying ⊢
  cases status <;> first | rfl | cases flying

theorem inFlight_away {m : Model} (flying : inFlight m = true) :
    m.intent.status ≠ .idle ∧ m.intent.status ≠ .quoted ∧ m.intent.status ≠ .signing ∧
      m.intent.status ≠ .failed ∧ walletInterruptibleStates.contains m.intent.status = false ∧
      canTransitionTo m.intent.status .quoted = false := by
  unfold inFlight at flying
  generalize m.intent.status = status at flying ⊢
  cases status <;> first | decide | cases flying

/-- Two status messages of one cause carry one status. -/
theorem Delivered.status_eq {cause : Cause} {m m' : Model} {message message' : StatusMessage}
    (first : Delivered cause m message) (second : Delivered cause m' message') :
    message'.status = message.status := by
  cases first with
  | stream body =>
    cases second with
    | stream body' =>
      rw [body] at body'
      cases body'
      rfl
    | row body' => rw [body] at body'; cases body'
  | row body _ _ _ _ _ applied =>
    cases second with
    | stream body' => rw [body] at body'; cases body'
    | row body' _ _ _ _ _ applied' =>
      rw [body] at body'
      cases body'
      rw [applied, applied']
      rfl

/-- A status message's mark: a `failed` from an in-flight state is marked by its substatus. -/
def markedBy (m : Model) (message : StatusMessage) : Bool :=
  if message.status = .failed ∧ inFlight m = true then failureMayHaveMoved message.substatus
  else m.intent.mayHaveMoved

theorem mapStatusUpdate_same (message : StatusMessage) (intent : IntentState) :
    SameTrade ((mapStatusUpdate message).2 intent) intent := by
  unfold mapStatusUpdate
  split <;> rfl

theorem statusUpdates_same (m : Model) (message : StatusMessage) (status : IntentStatus) :
    SameTrade (statusUpdates m message { m.intent with status := status })
      { m.intent with status := status, mayHaveMoved := markedBy m message } := by
  have same := mapStatusUpdate_same message { m.intent with status := status }
  unfold statusUpdates markedBy inFlight
  dsimp only
  rw [mapStatusUpdate_status]
  split
  · exact same.mark _
  · exact same

/-- The messages that may move a status without asking for a quote or ending a ceremony. -/
def MsgBody.moves : MsgBody → Bool
  | .signRequested | .timerFired .expiry | .streamStatus .. | .statusReplied .. |
    .executeReplied .. => true
  | _ => false

theorem MsgBody.moves_alone {body : MsgBody} (h : body.moves = true) :
    body.asksQuote = false ∧ body.endsCeremony = false := by
  unfold MsgBody.moves at h
  split at h <;> first | exact ⟨rfl, rfl⟩ | cases h

/-- The trade as it was met, with what one message may have noted on it. -/
structure Flying (cause : Cause) (m x : Model) : Prop where
  same : SameTrade x.intent m.intent
  ctx : x.ctx = m.ctx ∨ ∃ ctx, cause.body = some (.contextChanged ctx)
  sign : x.sign = m.sign ∨ (x.sign = none ∧ Stops cause m)
  unsent : x.intent.notSent = true →
    m.intent.notSent = true ∨ (ReadsUnsent cause ∧ x.sign = none)
  sent : x.intent.notSent = false → m.intent.notSent = false ∨ Reports cause
  poll : ∀ poll, x.poll = some poll →
    ∃ met, m.poll = some met ∧ poll.ContinuesFrom met
  watched : x.watched.wallet = m.watched.wallet

theorem Flying.live {cause : Cause} {m x : Model} (flying : Flying cause m x) {flow : SignFlow} (live : x.sign = some flow) :
    m.sign = some flow := by
  rcases flying.sign with same | none
  · exact same.symm.trans live
  · rw [live] at none; cases none.1

theorem Flying.flies {cause : Cause} {m x : Model} (flying : Flying cause m x) : inFlight x = inFlight m := by
  unfold inFlight
  rw [flying.same.status]

section

variable [Host]

/-- A move out of an in-flight state: the status it goes to, and its mark. -/
inductive Leaves (wall : WallClock) (cause : Cause) (m : Model) : IntentStatus → Bool → Prop where
  | lapsed (edge : canTransitionTo m.intent.status .expired = true) (expires : Expires cause m) :
      Leaves wall cause m .expired m.intent.mayHaveMoved
  | delivered {message : StatusMessage} (from_ : Delivered cause m message)
      (edge : canTransitionTo m.intent.status message.status = true) :
      Leaves wall cause m message.status (markedBy m message)
  | swept {gen attempt : Nat} {poll : PollState}
      (body : cause.body = some (.statusReplied gen attempt (.ok .notFound)))
      (polls : m.poll = some poll) (gen_eq : poll.gen = gen) (live : poll.stopped = false)
      (past : sweptPastFinish m.intent poll.intentId cause.now = true) :
      Leaves wall cause m .failed false
  | executeFailed {flow : SignFlow} {reply : RelayedExecuteReply} {error : String}
      {mayHaveMoved : Bool} (answered : ExecuteAnswered cause m flow reply)
      (decided : decideExecuteResult (decodeReply reply) = .failed error mayHaveMoved) :
      Leaves wall cause m .failed mayHaveMoved
  | executeMoved {flow : SignFlow} {reply : RelayedExecuteReply} {status : IntentStatus}
      {updates : ExecuteUpdates} (answered : ExecuteAnswered cause m flow reply)
      (decision : decideExecuteResult (decodeReply reply) = .transition (.known status) updates)
      (edge : canTransitionTo m.intent.status status = true) :
      Leaves wall cause m status m.intent.mayHaveMoved

variable {wall : WallClock} {cause : Cause} {now : Int} {m m' x y : Model} {fx : List Effect}
  {status : IntentStatus} {marked : Bool}

theorem Leaves.moves (leaves : Leaves wall cause m status marked) :
    cause.body = none ∨ ∃ body, cause.body = some body ∧ body.moves = true := by
  cases leaves with
  | lapsed _ expires =>
    rcases expires with body | ⟨-, body | ⟨none, -⟩⟩
    · exact .inr ⟨_, body, rfl⟩
    · exact .inr ⟨_, body, rfl⟩
    · exact .inl none
  | delivered from_ =>
    cases from_ with
    | stream body => exact .inr ⟨_, body, rfl⟩
    | row body => exact .inr ⟨_, body, rfl⟩
  | swept body => exact .inr ⟨_, body, rfl⟩
  | executeFailed answered =>
    obtain ⟨_, body, -⟩ := answered.body
    exact .inr ⟨_, body, rfl⟩
  | executeMoved answered =>
    obtain ⟨_, body, -⟩ := answered.body
    exact .inr ⟨_, body, rfl⟩

/-- The trade after its one move. -/
structure Left (m : Model) (status : IntentStatus) (marked : Bool) (y : Model) : Prop where
  same : SameTrade y.intent { m.intent with status := status, mayHaveMoved := marked }
  ctx : y.ctx = m.ctx
  sign : y.sign = none
  watched : y.watched.wallet = m.watched.wallet

/-- The trade, dropped with the amount. -/
structure Cleared (cause : Cause) (m y : Model) : Prop where
  body : ∃ amount, cause.body = some (.quoteRequested amount) ∧ (amount = "" ∨ amount = "0")
  sent : m.intent.notSent = false
  intent : SameTrade y.intent initialIntentState

/-- What a message's acts leave of an in-flight trade. -/
inductive Flown (wall : WallClock) (cause : Cause) (m y : Model) : Prop where
  | stays (flying : Flying cause m y) : Flown wall cause m y
  | leaves {x : Model} {status : IntentStatus} {marked : Bool} (flying : Flying cause m x)
      (leaves : Leaves wall cause x status marked) (left : Left x status marked y) :
      Flown wall cause m y
  | cleared (cleared : Cleared cause m y) : Flown wall cause m y

theorem Act.flying {body : MsgBody} (inv : CeremonyInv x) (message : cause.body = some body)
    (kept : body ≠ .resetRequested) (flies : inFlight m = true) (flying : Flying cause m x)
    (act : Act wall cause x fx y) : Flown wall cause m y := by
  have flies : inFlight x = true := flying.flies.trans flies
  have busy := busy_of_inFlight flies
  obtain ⟨idle, quoted, signing, failed, locked, noReturn⟩ := inFlight_away flies
  have notes {z : Model} (same : SameTrade z.intent x.intent) (ctx : z.ctx = x.ctx)
      (sign : z.sign = x.sign) (sent : z.intent.notSent = x.intent.notSent)
      (poll : z.poll = x.poll) (watched : z.watched.wallet = x.watched.wallet) :
      Flown wall cause m z :=
    .stays {
      same := same.trans flying.same
      ctx := by rw [ctx]; exact flying.ctx
      sign := by rw [sign]; exact flying.sign
      unsent := by rw [sent, sign]; exact flying.unsent
      sent := by rw [sent]; exact flying.sent
      poll := by rw [poll]; exact flying.poll
      watched := watched.trans flying.watched }
  have moves {status : IntentStatus} {marked : Bool} {intent : IntentState} {z : Model}
      (invz : CeremonyInv z) (ctx : z.ctx = x.ctx) (watched : z.watched.wallet = x.watched.wallet)
      (leaves : Leaves wall cause x status marked)
      (same : SameTrade intent { x.intent with status := status, mayHaveMoved := marked }) :
      Flown wall cause m (moved z status intent) :=
    .leaves flying leaves ⟨same, ctx, (moved_unsigned invz _ _).sign, watched⟩
  cases act
  case watched rule | walletReset rule _ _ _ => rw [rule] at message; cases message
  case annotated notSent _ h =>
    refine .stays { flying with
      same := flying.same, unsent := fun unsent => ?_, sent := fun sent => ?_ }
    · rcases h with same | ⟨dropped, -⟩
      · exact flying.unsent (same.symm.trans unsent)
      · rw [dropped] at unsent; cases unsent
    · rcases h with same | ⟨-, reports⟩
      · exact flying.sent (same.symm.trans sent)
      · exact .inr reports
  case unsent reads free _ =>
    exact .stays { flying with
      same := flying.same, unsent := fun _ => .inr ⟨reads, free⟩, sent := fun sent => by cases sent }
  case contextChanged ctx body =>
    exact .stays { flying with same := flying.same, ctx := .inr ⟨ctx, body⟩ }
  case cleared amount body unset dropped =>
    have sent : x.intent.notSent = false := by
      simp only [survivesClearedAmount, Bool.or_eq_false_iff] at dropped
      exact dropped.2
    refine .cleared ⟨⟨amount, body, unset⟩, ?_, rfl⟩
    refine (flying.sent sent).resolve_right ?_
    rintro ⟨_, same, reports⟩
    rw [body] at same
    cases same
    cases reports
  case reset body _ =>
    rw [body] at message
    cases message
    exact absurd rfl kept
  case resumed _ adopts => exact absurd (buildResumedState_some adopts).1 idle
  case asked quotable _ _ | sent quotable _ _ =>
    rw [quotable.1] at busy; cases busy
  case requoted quotable _ _ | unquoted quotable _ _ =>
    rw [quotable.1] at busy; cases busy
  case allocationFailed allocatable =>
    rw [idle_of_allocatable allocatable] at busy; cases busy
  case accepted answered _ _ _ _ _ | late answered _ _ =>
    rw [answered.idle] at busy; cases busy
  case returned edge => rw [noReturn] at edge; cases edge
  case revealed signable _ _ _ _ => exact absurd (canSignQuote_some signable).1 quoted
  case signFailed _ _ _ _ h => exact absurd h signing
  case lapsed edge expires => exact moves inv rfl rfl (.lapsed edge expires) rfl
  case delivered from_ edge =>
    exact moves inv rfl rfl (.delivered from_ edge) (statusUpdates_same _ _ _)
  case swept body polls gen_eq live past edge =>
    exact moves inv rfl rfl (.swept body polls gen_eq live past) rfl
  case executeFailed answered decided edge =>
    exact moves (answeredExecute_ceremonyInv inv _) rfl rfl (.executeFailed answered decided) rfl
  case executeMoved answered decision kept edge =>
    exact moves (answeredExecute_ceremonyInv inv _) rfl rfl
      (.executeMoved answered decision edge) rfl
  case stopped free pending awaits signs =>
    refine .stays { flying with
      same := flying.same, sign := .inr ⟨rfl, ?_⟩
      unsent := fun unsent => (flying.unsent unsent).imp_right fun ⟨reads, _⟩ => ⟨reads, rfl⟩ }
    rcases flying.sign with same | ⟨_, stops⟩
    · unfold Stops awaitingResend at free ⊢
      rwa [same] at free
    · exact stops
  case polled key _ =>
    refine .stays { flying with same := flying.same, poll := fun poll h => ?_ }
    rcases key poll h with ⟨old, polls, on⟩ | ⟨none, -, -⟩
    · obtain ⟨met, met_polls, before⟩ := flying.poll old polls
      exact ⟨met, met_polls, on.trans before⟩
    · rw [none] at message; cases message
  all_goals exact notes (.refl _) rfl rfl rfl rfl rfl

/-- Only an expiry moves a status on Confirm or on the countdown. -/
theorem Leaves.of_expiry (leaves : Leaves wall cause m status marked)
    (body : cause.body = some .signRequested ∨ cause.body = some (.timerFired .expiry)) :
    status = .expired := by
  have other {body' : MsgBody} (same : cause.body = some body') (sign : body' ≠ .signRequested)
      (tick : body' ≠ .timerFired .expiry) : status = .expired := by
    rcases body with body | body <;> rw [same] at body <;> cases body
    · exact absurd rfl sign
    · exact absurd rfl tick
  cases leaves with
  | lapsed => rfl
  | delivered from_ =>
    cases from_ with
    | stream body => exact other body (by simp) (by simp)
    | row body => exact other body (by simp) (by simp)
  | swept body => exact other body (by simp) (by simp)
  | executeFailed answered | executeMoved answered =>
    obtain ⟨_, body, -⟩ := answered.body
    exact other body (by simp) (by simp)

/-- A status message moves the status to its own. -/
theorem Leaves.of_delivered {message : StatusMessage} (leaves : Leaves wall cause m status marked)
    (from_ : Delivered cause m' message) : status = message.status := by
  have other {body : MsgBody} (same : cause.body = some body) (h : body.reports = false) :
      status = message.status := by
    obtain ⟨_, body', reports⟩ := from_.reports
    rw [same] at body'
    cases body'
    rw [h] at reports; cases reports
  cases leaves with
  | lapsed _ expires =>
    rcases expires with body | ⟨-, body | ⟨none, -⟩⟩
    · exact other body rfl
    · exact other body rfl
    · obtain ⟨_, body', -⟩ := from_.reports
      rw [none] at body'; cases body'
  | delivered from' => exact from_.status_eq from'
  | swept body => exact other body rfl
  | executeFailed answered | executeMoved answered =>
    obtain ⟨_, body, -⟩ := answered.body
    exact other body rfl

theorem Leaves.of_notFound {gen attempt : Nat} (leaves : Leaves wall cause m status marked)
    (notFound : cause.body = some (.statusReplied gen attempt (.ok .notFound))) :
    status = .failed := by
  have other {body : MsgBody} (same : cause.body = some body)
      (h : body ≠ .statusReplied gen attempt (.ok .notFound)) : status = .failed := by
    rw [notFound] at same
    cases same
    exact absurd rfl h
  cases leaves with
  | lapsed _ expires =>
    rcases expires with body | ⟨-, body | ⟨none, -⟩⟩
    · exact other body (by simp)
    · exact other body (by simp)
    · rw [notFound] at none; cases none
  | delivered from_ =>
    cases from_ with
    | stream body => exact other body (by simp)
    | row body => exact other body (by simp)
  | swept | executeFailed => rfl
  | executeMoved answered =>
    obtain ⟨_, body, -⟩ := answered.body
    exact other body (by simp)

theorem Act.left {body : MsgBody} (message : cause.body = some body)
    (leaves : Leaves wall cause x status marked)
    (left : Left x status marked y) (act : Act wall cause y fx m') :
    Left x status marked m' := by
  have silent : body.moves = true := by
    rcases leaves.moves with none | ⟨_, same, moves⟩
    · rw [message] at none; cases none
    · rw [message] at same; cases same; exact moves
  obtain ⟨noAsk, noEnd⟩ := MsgBody.moves_alone silent
  have asks : ¬Asks cause := by
    rintro ⟨_, same, asks⟩
    rw [message] at same
    cases same
    rw [noAsk] at asks; cases asks
  have ends : ¬EndsCeremony cause := by
    rintro ⟨_, same, ends⟩
    rw [message] at same
    cases same
    rw [noEnd] at ends; cases ends
  have unmoving {body' : MsgBody} (same : cause.body = some body') (h : body'.moves = false) :
      False := by
    rw [message] at same
    cases same
    rw [silent] at h; cases h
  have unsigned {flow : SignFlow} (h : y.sign = some flow) : False := by
    rw [left.sign] at h; cases h
  have notes {z : Model} (same : SameTrade z.intent y.intent) (ctx : z.ctx = y.ctx)
      (sign : z.sign = y.sign ∨ z.sign = none) (watched : z.watched.wallet = y.watched.wallet) :
      Left x status marked z :=
    ⟨same.trans left.same, ctx.trans left.ctx, sign.elim (·.trans left.sign) id,
      watched.trans left.watched⟩
  have at_ : y.intent.status = status := left.same.status
  cases act
  case watched rule | walletReset rule _ _ _ => rw [rule] at message; cases message
  case requoted asked _ _ _ | unquoted asked _ _ _ | allocationFailed asked _ =>
    exact absurd asked asks
  case accepted answered _ _ _ _ _ | late answered _ _ =>
    exact absurd ⟨_, answered.body, rfl⟩ asks
  case returned ending _ | signFailed ending _ _ _ _ => exact absurd ending ends
  case contextChanged same | amountChanged same | cleared same _ _ | reset same _ |
      resumed same _ =>
    exact (unmoving same rfl).elim
  case executeFailed answered _ _ | executeMoved answered _ _ _ =>
    exact (unsigned answered.sign).elim
  case lapsed edge expires =>
    have expired := leaves.of_expiry (expires.imp id fun h => h.2.resolve_right fun none => by
      rw [none.1] at message; cases message)
    rw [at_, expired] at edge; cases edge
  case revealed requested _ signable _ _ _ _ =>
    have expired := leaves.of_expiry (.inl requested)
    have quoted := (canSignQuote_some signable).1
    rw [at_, expired] at quoted; cases quoted
  case swept notFound _ _ _ _ edge =>
    rw [at_, leaves.of_notFound notFound] at edge; cases edge
  case delivered report from_ edge =>
    -- the one status that may be moved to itself is `quoting`
    have again := leaves.of_delivered from_
    rw [at_, again] at edge
    have still : SameTrade { y.intent with
        status := report.status, mayHaveMoved := markedBy y report } y.intent := by
      have unmarked : markedBy y report = y.intent.mayHaveMoved := by
        unfold markedBy
        rw [if_neg]
        rintro ⟨failed, -⟩
        rw [failed] at edge; cases edge
      rw [unmarked, ← again, ← at_]
      exact .refl _
    exact notes ((statusUpdates_same _ _ _).trans still) rfl (moved_sign _ _ _) rfl
  case stopped => exact notes (.refl _) rfl (.inr rfl) rfl
  all_goals exact notes (.refl _) rfl (.inl rfl) rfl

theorem Act.of_quoteRequested {amount : String} (message : cause.body = some (.quoteRequested amount))
    (act : Act wall cause x fx y) :
    SameTrade y.intent x.intent ∨ y.intent = initialIntentState := by
  have silent {body : MsgBody} (same : cause.body = some body) (h : ∀ a, body ≠ .quoteRequested a) :
      SameTrade y.intent x.intent ∨ y.intent = initialIntentState := by
    rw [message] at same
    cases same
    exact absurd rfl (h amount)
  cases act
  case watched rule | walletReset rule _ _ _ => rw [rule] at message; cases message
  case requoted asked _ _ _ | unquoted asked _ _ _ | allocationFailed asked _ =>
    obtain ⟨_, same, asks⟩ := asked
    exact silent same fun _ h => by rw [h] at asks; cases asks
  case returned ending _ | signFailed ending _ _ _ _ =>
    obtain ⟨_, same, ends⟩ := ending
    exact silent same fun _ h => by rw [h] at ends; cases ends
  case accepted answered _ _ _ _ _ => exact silent answered.body (by simp)
  case executeFailed answered _ _ | executeMoved answered _ _ _ =>
    obtain ⟨_, same, -⟩ := answered.body
    exact silent same (by simp)
  case resumed same _ | revealed same _ _ _ _ _ _ | swept same _ _ _ _ _ =>
    exact silent same (by simp)
  case delivered from_ _ =>
    obtain ⟨_, same, reports⟩ := from_.reports
    exact silent same fun _ h => by rw [h] at reports; cases reports
  case lapsed expires =>
    rcases expires with same | ⟨-, same | ⟨none, -⟩⟩
    · exact silent same (by simp)
    · exact silent same (by simp)
    · rw [none] at message; cases message
  case cleared | reset => exact .inr rfl
  all_goals exact .inl rfl

theorem Flown.chain {body : MsgBody} (inv : Inv m) (message : cause.body = some body)
    (kept : body ≠ .resetRequested) (flies : inFlight m = true)
    (chain : Chain (Act wall cause) m fx m') : Flown wall cause m m' := by
  suffices h : Inv m' ∧ Flown wall cause m m' from h.2
  refine chain.invariant (P := fun y => Inv y ∧ Flown wall cause m y) ?_ ⟨inv, .stays {
    same := .refl _, ctx := .inl rfl, sign := .inl rfl, unsent := .inl, sent := .inl
    poll := fun poll h => ⟨poll, h, .refl _⟩, watched := rfl }⟩
  rintro y _ z ⟨inv, flown⟩ act
  refine ⟨act.inv inv, ?_⟩
  cases flown with
  | stays flying => exact act.flying inv.ceremony message kept flies flying
  | leaves flying leaves left => exact .leaves flying leaves (act.left message leaves left)
  | cleared cleared =>
    obtain ⟨amount, same, unset⟩ := cleared.body
    refine .cleared ⟨⟨amount, same, unset⟩, cleared.sent, ?_⟩
    rcases act.of_quoteRequested same with still | initial
    · exact still.trans cleared.intent
    · rw [initial]
      exact .refl _

theorem Leaves.away (flies : inFlight m = true) (leaves : Leaves wall cause m status marked) :
    status ≠ .quoted := by
  have edges (edge : canTransitionTo m.intent.status status = true) : status ≠ .quoted := by
    rintro rfl
    rw [(inFlight_away flies).2.2.2.2.2] at edge; cases edge
  cases leaves with
  | lapsed => decide
  | delivered _ edge | executeMoved _ _ edge => exact edges edge
  | swept | executeFailed => decide

/-- What one update leaves of an in-flight trade. -/
inductive Landing (wall : WallClock) (msg : Msg) (m m' : Model) : Prop where
  | stays (same : SameTrade m'.intent m.intent) : Landing wall msg m m'
  | leaves {x : Model} {status : IntentStatus} {marked : Bool}
      (flying : Flying msg.cause (receive m msg) x)
      (leaves : Leaves wall msg.cause x status marked)
      (same : SameTrade m'.intent { m.intent with status := status, mayHaveMoved := marked }) :
      Landing wall msg m m'
  | cleared {amount : String} (body : msg.body = .quoteRequested amount)
      (unset : amount = "" ∨ amount = "0") (sent : m.intent.notSent = false)
      (same : SameTrade m'.intent initialIntentState) : Landing wall msg m m'

theorem Ceremony.same {msg : Msg} (flies : inFlight m = true) (h : Ceremony msg m fx m') :
    SameTrade m'.intent m.intent := by
  obtain ⟨-, quoted, signing, -, -, -⟩ := inFlight_away flies
  cases h
  case prompted signable _ _ _ _ _ _ _ => exact absurd (canSignQuote_some signable).1 quoted
  case executed here _ _ _ => exact absurd here signing
  all_goals exact .refl _

theorem Sound.landing {i : Input} (sound : Sound m) (flies : inFlight m = true)
    (kept : i.2.body ≠ .resetRequested) (next : Next m i fx m') : Landing i.1 i.2 m m' := by
  rcases next.cases sound.inv with ⟨-, rfl⟩ | ⟨fy, m₁, fz, stepped, settled, -⟩
  · exact .stays (.refl _)
  have locked := (inFlight_away flies).2.2.2.2.1
  have quoted := (inFlight_away flies).2.1
  have stays (same : SameTrade m₁.intent m.intent) : SameTrade m'.intent m.intent := by
    have away : m₁.intent.status ≠ .quoted := by rwa [same.status]
    have unwatched : Unwatched m₁ := .inr (.inl (by rw [same.status]; exact locked))
    exact (settled_same settled away unwatched).1.trans same
  rcases stepped with chain | ceremony
  · have flown := Flown.chain (m := receive m i.2) (sound.inv.receive i.1 i.2) rfl kept flies chain
    cases flown with
    | stays flying => exact .stays (stays flying.same)
    | cleared cleared =>
      obtain ⟨amount, same, unset⟩ := cleared.body
      have away : m₁.intent.status ≠ .quoted := by rw [cleared.intent.status]; decide
      have unwatched : Unwatched m₁ := .inr (.inl (by rw [cleared.intent.status]; rfl))
      exact .cleared (Option.some.inj same) unset cleared.sent
        ((settled_same settled away unwatched).1.trans cleared.intent)
    | @leaves x status marked flying leaves left =>
      have flies' : inFlight x = true := flying.flies.trans flies
      have away : m₁.intent.status ≠ .quoted := by
        rw [left.same.status]
        exact leaves.away flies'
      have trade : SameTrade m₁.intent { m.intent with status := status, mayHaveMoved := marked } :=
        left.same.trans (flying.same.move status marked)
      have ctx : m₁.ctx = m.ctx := by
        refine left.ctx.trans (flying.ctx.resolve_right ?_)
        rintro ⟨ctx, body⟩
        rcases leaves.moves with none | ⟨_, same, moves⟩
        · cases none
        · rw [body] at same
          cases same
          cases moves
      have unwatched : Unwatched m₁ := by
        refine .inl ?_
        have seen := sound.rest.seen.resolve_left (inFlight_away flies).1
        have key : walletKey m₁ = walletKey m := by
          unfold walletKey
          rw [ctx, trade.quotedAddress, trade.quotedChainId]
        rw [key, ← seen, left.watched, flying.watched]
        rfl
      exact .leaves flying leaves ((settled_same settled away unwatched).1.trans trade)
  · exact .stays (stays (ceremony.same (m := receive m i.2) flies))

/-- A Reset leaves no trade. -/
theorem Next.of_reset {i : Input} (next : Next m i fx m') (body : i.2.body = .resetRequested) :
    SameTrade m'.intent initialIntentState := by
  unfold Next update step at next
  rw [body] at next
  obtain ⟨-, rfl⟩ := next
  have rule : (rulesCause i.2.now).body = none := rfl
  have settled : Settled i.1 i.2.now _ _ _ :=
    settle_does (m := (onReset { m with hidden := i.2.hidden }).value) rule
  have reset : (onReset { m with hidden := i.2.hidden }).value.intent = initialIntentState := by
    unfold onReset
    simp only [value_bind]
    split <;> rfl
  refine (settled_same settled ?_ (.inr (.inl ?_))).1.trans (by rw [reset]; exact .refl _)
  · rw [reset]; decide
  · rw [reset]; rfl

end

end XochiSdk.Client
