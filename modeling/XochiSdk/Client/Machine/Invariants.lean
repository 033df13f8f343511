import XochiSdk.Client.Machine.UpdateActs

/-!
# The invariants of a model

What every act and every ceremony outcome preserves: where a ceremony may stand, what the
quotes in the air are for, and what a planned refresh asks.
-/

namespace XochiSdk.Client

open XochiSdk.Js XochiSdk.Shared XochiSdk.Signer XochiSdk.Library Emits

/-- No ceremony is under way, and nothing signed is kept. -/
structure Unsigned (m : Model) : Prop where
  sign : m.sign = none
  pending : m.pendingIntentSig = none
  awaiting : m.awaitingPull = false
  signing : m.isSigningPull = false

/-- Where a ceremony may stand. -/
structure CeremonyInv (m : Model) : Prop where
  confined : Unsigned m ∨ m.intent.status = .signing ∨ m.intent.status = .executing
  origin : ∀ flow, m.sign = some flow → flow.stage = .intent → flow.origin = .sign
  /-- The second signature waits for a tap only once the first prompt is over. -/
  first : ∀ flow, m.sign = some flow → flow.stage = .intent → m.awaitingPull = false
  signing : ∀ flow, m.sign = some flow → flow.origin = .sign → flow.stage ≠ .execute →
    m.intent.status = .signing
  executes : ∀ flow, m.sign = some flow → flow.stage = .execute → m.intent.status = .executing
  attempt : ∀ flow, m.sign = some flow → flow.stage ≠ .execute → flow.execute = none
  /-- "Not sent yet" is said only of an execute, and of none that is out. -/
  notSent : m.intent.notSent = true → m.intent.status = .executing
  sent : ∀ flow, m.sign = some flow → flow.stage = .execute → m.intent.notSent = false

theorem CeremonyInv.of_unsigned {m : Model} (h : Unsigned m) (sent : m.intent.notSent = false) :
    CeremonyInv m where
  confined := .inl h
  origin := fun _ live => by rw [h.sign] at live; cases live
  first := fun _ live => by rw [h.sign] at live; cases live
  signing := fun _ live => by rw [h.sign] at live; cases live
  executes := fun _ live => by rw [h.sign] at live; cases live
  attempt := fun _ live => by rw [h.sign] at live; cases live
  notSent := fun unsent => by rw [sent] at unsent; cases unsent
  sent := fun _ _ _ => sent

theorem CeremonyInv.unsigned {m : Model} (inv : CeremonyInv m) (signing : m.intent.status ≠ .signing)
    (executing : m.intent.status ≠ .executing) : Unsigned m :=
  inv.confined.elim id fun h => h.elim (fun h => absurd h signing) fun h => absurd h executing

theorem CeremonyInv.never_unsent {m : Model} (inv : CeremonyInv m) (h : m.intent.status ≠ .executing) :
    m.intent.notSent = false := by
  cases unsent : m.intent.notSent
  · rfl
  · exact absurd (inv.notSent unsent) h

/-- A move an act makes leaves no ceremony. -/
theorem moved_unsigned {m : Model} (inv : CeremonyInv m) (target : IntentStatus)
    (intent : IntentState) : Unsigned (moved m target intent) := by
  cases ends : endsCeremony m target with
  | true => constructor <;> simp [moved, ends]
  | false =>
    have away : m.intent.status ≠ .executing ∧ m.intent.status ≠ .signing := by
      simp only [endsCeremony, Bool.or_eq_false_iff, beq_eq_false_iff_ne] at ends
      refine ⟨ends.1, fun signing => ?_⟩
      rw [signing] at ends
      simp only [ownExecute, beq_self_eq_true, Bool.true_and, Bool.not_eq_false',
        Bool.and_eq_true] at ends
      obtain ⟨-, -, own⟩ := ends
      split at own
      · rename_i flow live
        have := inv.executes flow live (by simpa using own)
        rw [signing] at this
        cases this
      · cases own
    have idle := inv.unsigned away.2 away.1
    constructor
    · simpa [moved, ends] using idle.sign
    · simpa [moved, ends] using idle.pending
    · simpa [moved, ends] using idle.awaiting
    · simpa [moved, ends] using idle.signing

theorem moved_ceremonyInv {m : Model} (inv : CeremonyInv m) (target : IntentStatus)
    (intent : IntentState) : CeremonyInv (moved m target intent) :=
  .of_unsigned (moved_unsigned inv target intent) rfl

theorem unsigned_of_idle {m : Model} (inv : CeremonyInv m) (idle : busy m = false) :
    Unsigned m ∧ m.intent.notSent = false := by
  have away : m.intent.status ≠ .signing ∧ m.intent.status ≠ .executing := by
    constructor <;> intro h <;> rw [busy, h] at idle <;> cases idle
  exact ⟨inv.unsigned away.1 away.2, inv.never_unsent away.2⟩

theorem CeremonyInv.congr {m m₁ : Model} (inv : CeremonyInv m) (sign : m₁.sign = m.sign)
    (pending : m₁.pendingIntentSig = m.pendingIntentSig)
    (awaiting : m₁.awaitingPull = m.awaitingPull) (signing : m₁.isSigningPull = m.isSigningPull)
    (status : m₁.intent.status = m.intent.status)
    (notSent : m₁.intent.notSent = true →
      m.intent.notSent = true ∨ (m.sign = none ∧ m.intent.status = .executing)) :
    CeremonyInv m₁ where
  confined := by
    rw [status]
    exact inv.confined.imp (fun u => ⟨sign.trans u.sign, pending.trans u.pending,
      awaiting.trans u.awaiting, signing.trans u.signing⟩) id
  origin := by rw [sign]; exact inv.origin
  first := by rw [sign, awaiting]; exact inv.first
  signing := by rw [sign, status]; exact inv.signing
  executes := by rw [sign, status]; exact inv.executes
  attempt := by rw [sign]; exact inv.attempt
  notSent := fun unsent => status.trans ((notSent unsent).elim inv.notSent And.right)
  sent := by
    rw [sign]
    intro flow live stage
    refine Bool.eq_false_iff.mpr fun unsent => ?_
    rcases notSent unsent with before | ⟨free, -⟩
    · rw [inv.sent flow live stage] at before
      cases before
    · rw [live] at free
      cases free

theorem CeremonyInv.stop {m m₁ : Model} (inv : CeremonyInv m) (sign : m₁.sign = none)
    (pending : m₁.pendingIntentSig = m.pendingIntentSig ∨ m₁.pendingIntentSig = none)
    (awaiting : m₁.awaitingPull = true → m.awaitingPull = true)
    (signing : m₁.isSigningPull = true → m.isSigningPull = true)
    (intent : m₁.intent = m.intent) : CeremonyInv m₁ where
  confined := by
    rw [intent]
    refine inv.confined.imp (fun u => ⟨sign, ?_, ?_, ?_⟩) id
    · exact pending.elim (fun h => h.trans u.pending) id
    · simpa [u.awaiting] using awaiting
    · simpa [u.signing] using signing
  origin := fun _ live => by rw [sign] at live; cases live
  first := fun _ live => by rw [sign] at live; cases live
  signing := fun _ live => by rw [sign] at live; cases live
  executes := fun _ live => by rw [sign] at live; cases live
  attempt := fun _ live => by rw [sign] at live; cases live
  notSent := by rw [intent]; exact inv.notSent
  sent := fun _ live => by rw [sign] at live; cases live

theorem answeredExecute_ceremonyInv {m : Model} (inv : CeremonyInv m) (flow : SignFlow) :
    CeremonyInv (answeredExecute m flow) :=
  inv.stop rfl (.inr rfl) id (by unfold answeredExecute endSignFlow; split <;> simp) rfl

/-- What a resume adopts, and from where. -/
theorem buildResumedState_some {prev adopted : IntentState} {intentId owner : String}
    {status : IntentStatus} {depositDeadline : Option Int}
    (adopts : buildResumedState prev intentId status owner depositDeadline = some adopted) :
    prev.status = .idle ∧ adopted = { initialIntentState with
      intentId := some intentId, status := status, quotedAddress := some owner
      depositDeadline := depositDeadline } := by
  unfold buildResumedState at adopts
  split at adopts
  · cases adopts
  · rename_i accepted
    cases adopts
    simp only [Bool.or_eq_true, not_or, Bool.not_eq_true', Bool.not_eq_false,
      canAdoptResumedIntent, Bool.and_eq_true, beq_iff_eq] at accepted
    exact ⟨accepted.2.1, rfl⟩

theorem canSignQuote_some {status : IntentStatus} {quote : QuoteResponse}
    (h : canSignQuote status (some quote) = true) :
    status = .quoted ∧ quote.canSolve = true ∧ quote.preview = false := by
  simpa [canSignQuote, and_assoc] using h

theorem awaitingResend_iff {m : Model} :
    awaitingResend m = true ↔ ∃ flow attempt resendAt, m.sign = some flow ∧ flow.stage = .execute ∧
      flow.execute = some attempt ∧ attempt.resendAt = some resendAt := by
  unfold awaitingResend
  cases m.sign with
  | none => simp
  | some flow =>
    simp only [Bool.and_eq_true, beq_iff_eq, Option.isSome_iff_exists, Option.bind_eq_some_iff]
    constructor
    · rintro ⟨stage, resendAt, attempt, sent, waits⟩
      exact ⟨flow, attempt, resendAt, rfl, stage, sent, waits⟩
    · rintro ⟨_, attempt, resendAt, ⟨⟩, stage, sent, waits⟩
      exact ⟨stage, resendAt, attempt, sent, waits⟩

theorem statusUpdates_status (m : Model) (message : StatusMessage) (intent : IntentState) :
    (statusUpdates m message intent).status = intent.status := by
  unfold statusUpdates mapStatusUpdate
  dsimp only
  split <;> split <;> rfl

section

variable [Host] {wall : WallClock} {cause : Cause} {msg : Msg} {m m' : Model} {fx : List Effect}

theorem Act.ceremonyInv (inv : CeremonyInv m) (h : Act wall cause m fx m') : CeremonyInv m' := by
  have stays (idle : busy m = false) {m₁ : Model} (sign : m₁.sign = m.sign)
      (pending : m₁.pendingIntentSig = m.pendingIntentSig)
      (awaiting : m₁.awaitingPull = m.awaitingPull) (signing : m₁.isSigningPull = m.isSigningPull)
      (notSent : m₁.intent.notSent = true → m.intent.notSent = true) : CeremonyInv m₁ := by
    obtain ⟨clear, sent⟩ := unsigned_of_idle inv idle
    refine .of_unsigned ⟨sign.trans clear.sign, pending.trans clear.pending,
      awaiting.trans clear.awaiting, signing.trans clear.signing⟩ ?_
    cases unsent : m₁.intent.notSent
    · rfl
    · rw [notSent unsent] at sent
      cases sent
  cases h
  case executeFailed | executeMoved =>
    exact moved_ceremonyInv (answeredExecute_ceremonyInv inv _) _ _
  case lapsed | returned | revealed | signFailed | delivered | swept =>
    exact moved_ceremonyInv inv _ _
  case cleared | reset | walletReset => exact .of_unsigned ⟨rfl, rfl, rfl, rfl⟩ rfl
  case annotated kept =>
    refine inv.congr rfl rfl rfl rfl rfl fun h => .inl ?_
    rcases kept with same | ⟨dropped, -⟩
    · exact same.symm.trans h
    · rw [dropped] at h
      cases h
  case unsent _ free executing => exact inv.congr rfl rfl rfl rfl rfl fun _ => .inr ⟨free, executing⟩
  case stopped _ pending awaits signs => exact inv.stop rfl pending awaits signs rfl
  case resumed adopts =>
    obtain ⟨idle, rfl⟩ := buildResumedState_some adopts
    exact stays (by rw [busy, idle]; rfl) rfl rfl rfl rfl (by simp [initialIntentState])
  case requoted _ quotable _ _ => exact stays quotable.1 rfl rfl rfl rfl (by simp)
  case unquoted _ quotable _ kept => exact stays quotable.1 rfl rfl rfl rfl kept
  case allocationFailed _ allocatable =>
    exact stays (idle_of_allocatable allocatable) rfl rfl rfl rfl id
  case accepted answered _ _ _ _ kept => exact stays answered.idle rfl rfl rfl rfl kept
  all_goals exact inv.congr rfl rfl rfl rfl rfl .inl

/-- A tap finds a kept signature: the ceremony is signing, or beside an execute. -/
theorem Taps.status (inv : CeremonyInv m) (taps : Taps msg m) :
    m.intent.status = .signing ∨ m.intent.status = .executing := by
  refine inv.confined.resolve_left fun unsigned => ?_
  have pending := taps.pending
  rw [unsigned.pending] at pending
  cases pending

theorem tapped_ceremonyInv (inv : CeremonyInv m) (taps : Taps msg m) :
    CeremonyInv { m with isSigningPull := true, seq := m.seq + 1, sign := some (tapFlow m) } := by
  have status := taps.status inv
  exact {
    confined := .inr status
    origin := by rintro _ ⟨⟩ stage; cases stage
    first := by rintro _ ⟨⟩ stage; cases stage
    signing := by rintro _ ⟨⟩ origin; cases origin
    executes := by rintro _ ⟨⟩ stage; cases stage
    attempt := by rintro _ ⟨⟩ -; rfl
    notSent := inv.notSent
    sent := by rintro _ ⟨⟩ stage; cases stage }

theorem Ceremony.ceremonyInv (inv : CeremonyInv m) (h : Ceremony msg m fx m') :
    CeremonyInv m' := by
  cases h with
  | prompted body held signable current pull typed preflight payout before after =>
    exact {
      confined := .inr (.inl rfl)
      origin := by rintro _ ⟨⟩ -; rfl
      first := by
        have quoted : m.intent.status = .quoted := (canSignQuote_some signable).1
        have rest := (unsigned_of_idle inv (by rw [busy, quoted]; rfl)).1
        rintro _ ⟨⟩ -
        simp [moved, rest.awaiting]
      signing := by rintro _ ⟨⟩ - -; rfl
      executes := by rintro _ ⟨⟩ stage; cases stage
      attempt := by rintro _ ⟨⟩ -; rfl
      notSent := by simp [moved]
      sent := by rintro _ ⟨⟩ stage; cases stage }
  | executed live signing completes awaits before =>
    exact {
      confined := .inr (.inr rfl)
      origin := by rintro _ ⟨⟩ stage; cases stage
      first := by rintro _ ⟨⟩ stage; cases stage
      signing := by rintro _ ⟨⟩ - stage; exact absurd rfl stage
      executes := by rintro _ ⟨⟩ -; rfl
      attempt := by rintro _ ⟨⟩ stage; exact absurd rfl stage
      notSent := by simp
      sent := by simp }
  | kept body live stage signing signs h =>
    exact {
      confined := .inr (.inl signing)
      origin := by simp
      first := by simp
      signing := by simp
      executes := by simp
      attempt := by simp
      notSent := inv.notSent
      sent := by simp }
  | approvalAsked body live stage signing pinned before =>
    have unsent := inv.attempt _ live (by rw [stage]; decide)
    exact {
      confined := .inr (.inl signing)
      origin := by rintro _ ⟨⟩ stage; cases stage
      first := by rintro _ ⟨⟩ stage; cases stage
      signing := by rintro _ ⟨⟩ - -; exact signing
      executes := by rintro _ ⟨⟩ stage; cases stage
      attempt := by rintro _ ⟨⟩ -; exact unsent
      notSent := inv.notSent
      sent := by rintro _ ⟨⟩ stage; cases stage }
  | tapped taps pinned => exact tapped_ceremonyInv inv taps
  | tapRefused taps read edge h => exact tapped_ceremonyInv inv taps
  | pullPrompted body live stage held after =>
    have unsent := inv.attempt _ live (by rw [stage]; decide)
    have confirmed := fun origin => inv.signing _ live origin (by rw [stage]; decide)
    exact {
      confined := inv.confined.imp (fun u => by rw [u.sign] at live; cases live) id
      origin := by rintro _ ⟨⟩ stage; cases stage
      first := by rintro _ ⟨⟩ stage; cases stage
      signing := by rintro _ ⟨⟩ origin -; exact confirmed origin
      executes := by rintro _ ⟨⟩ stage; cases stage
      attempt := by rintro _ ⟨⟩ -; exact unsent
      notSent := inv.notSent
      sent := by rintro _ ⟨⟩ stage; cases stage }
  | held body refused live stage out sent own executing certain decision h =>
    exact {
      confined := .inr (.inr executing)
      origin := by rintro _ ⟨⟩ h; rw [stage] at h; cases h
      first := by rintro _ ⟨⟩ h; rw [stage] at h; cases h
      signing := by rintro _ ⟨⟩ - h; exact absurd stage h
      executes := by rintro _ ⟨⟩ -; exact executing
      attempt := by rintro _ ⟨⟩ h; exact absurd stage h
      notSent := inv.notSent
      sent := fun _ _ _ => inv.sent _ live stage }
  | resent live sent waits executing bound inTime before =>
    obtain ⟨flow, _, _, live', stage, -, -⟩ := awaitingResend_iff.mp waits
    rw [live] at live'
    cases live'
    exact {
      confined := .inr (.inr executing)
      origin := by rintro _ ⟨⟩ h; rw [stage] at h; cases h
      first := by rintro _ ⟨⟩ h; rw [stage] at h; cases h
      signing := by rintro _ ⟨⟩ - h; exact absurd stage h
      executes := by rintro _ ⟨⟩ -; exact executing
      attempt := by rintro _ ⟨⟩ h; exact absurd stage h
      notSent := inv.notSent
      sent := fun _ _ _ => inv.sent _ live stage }

/-! ## Quotes in the air -/

/-- A flight is for the trade on the form, and its request, once sent, is its own. -/
structure FlightOk (m : Model) (flight : QuoteFlight) : Prop where
  amount : flight.amount = m.amount
  trade : tradeKey flight.ctx = tradeKey m.ctx
  origin : flight.depositOrigin = !isChainId flight.ctx.fromChainId
  access : quoteAccessDecision (textSet flight.ctx.wallet.address)
    flight.ctx.settlementPreference flight.depositOrigin flight.allocate.isSome =
      if flight.preview then .preview else .executable
  allocates : flight.allocate.isSome = true → flight.silent = false ∧ flight.depositOrigin = true
  request : flight.stage = .api → ∃ now, flight.request = some (flightRequest flight now) ∧
    Sendable flight now

structure FlightInv (m : Model) : Prop where
  flights : ∀ flight ∈ m.flights, FlightOk m flight
  idle : busy m = true → m.flights = []
  refresh : ∀ plan, m.refresh = some plan → plan.amount = m.amount

theorem FlightOk.congr {m m₁ : Model} {flight : QuoteFlight} (ok : FlightOk m flight)
    (amount : m₁.amount = m.amount) (trade : tradeKey m₁.ctx = tradeKey m.ctx) :
    FlightOk m₁ flight :=
  ⟨ok.amount.trans amount.symm, ok.trade.trans trade.symm, ok.origin, ok.access, ok.allocates,
    ok.request⟩

theorem Fresh.ok {flight : QuoteFlight} (fresh : Fresh m flight) (stage : flight.stage = .session) :
    FlightOk m flight :=
  ⟨fresh.amount, by rw [fresh.ctx], fresh.origin, fresh.access, fresh.allocates,
    fun h => by rw [stage] at h; cases h⟩

theorem Ready.sent_ok (inv : FlightInv m) {flight : QuoteFlight} (ready : Ready m flight)
    {now : Int} (sendable : Sendable flight now) : FlightOk m (flight.sent now) := by
  have sent : (flight.sent now).request = some (flightRequest (flight.sent now) now) ∧
      Sendable (flight.sent now) now := ⟨rfl, sendable.keys, sendable.valid⟩
  rcases ready with ⟨mem, -⟩ | fresh
  · have ok := inv.flights flight mem
    exact ⟨ok.amount, ok.trade, ok.origin, ok.access, ok.allocates, fun _ => ⟨now, sent⟩⟩
  · exact ⟨fresh.amount, by rw [← fresh.ctx]; rfl, fresh.origin, fresh.access,
      fresh.allocates, fun _ => ⟨now, sent⟩⟩

theorem moved_flightInv (inv : FlightInv m) {target : IntentStatus} {intent : IntentState}
    (same : intent.status = target) : FlightInv (moved m target intent) where
  flights := by
    intro flight mem
    unfold moved at mem
    dsimp only at mem
    split at mem
    · cases mem
    · exact (inv.flights flight mem).congr rfl rfl
  idle := by
    intro now
    unfold moved
    dsimp only
    split
    · rfl
    · rename_i kept
      have entered : quoteBusyStates.contains target = true := by
        rw [← same]
        exact now
      simp only [supersedes, entered, Bool.true_and, Bool.not_eq_true', Bool.not_eq_false] at kept
      exact inv.idle kept
  refresh := inv.refresh

theorem putFlight_flightInv (inv : FlightInv m) (idle : busy m = false) {flight : QuoteFlight}
    (ok : FlightOk m flight) : FlightInv (putFlight m flight) where
  flights := by
    intro other mem
    rcases List.mem_append.mp mem with mem | mem
    · exact (inv.flights other (List.mem_filter.mp mem).1).congr rfl rfl
    · rw [List.mem_singleton.mp mem]
      exact ok.congr rfl rfl
  idle := fun now => by rw [show busy (putFlight m flight) = busy m from rfl, idle] at now; cases now
  refresh := inv.refresh

theorem Act.flightInv (inv : FlightInv m) (h : Act wall cause m fx m') : FlightInv m' := by
  have same {m₁ : Model} (ctx : m₁.ctx = m.ctx) (amount : m₁.amount = m.amount)
      (flights : ∀ flight ∈ m₁.flights, flight ∈ m.flights)
      (idle : busy m₁ = true → busy m = true)
      (refresh : ∀ plan, m₁.refresh = some plan → plan.amount = m.amount) : FlightInv m₁ := by
    refine ⟨fun flight mem => (inv.flights flight (flights flight mem)).congr amount (by rw [ctx]),
      fun now => ?_, fun plan h => (refresh plan h).trans amount.symm⟩
    refine List.eq_nil_iff_forall_not_mem.mpr fun flight mem => ?_
    have := flights flight mem
    rw [inv.idle (idle now)] at this
    cases this
  have planned {flight : QuoteFlight} {quote : QuoteResponse} {refresh : Option RefreshPlan}
      (answered : Answered cause m flight quote)
      (plan : refresh = m.refresh ∨ refresh = some ⟨flight.amount, quote.hasDeposit⟩) :
      ∀ p, refresh = some p → p.amount = m.amount := by
    rintro p rfl
    rcases plan with kept | landed
    · exact inv.refresh p kept.symm
    · cases landed
      exact (inv.flights flight (findFlight_mem answered.found).1).amount
  cases h
  case executeFailed | executeMoved =>
    refine moved_flightInv (?_ : FlightInv (answeredExecute m _)) rfl
    exact same rfl rfl (fun _ h => h) id inv.refresh
  case lapsed | returned | revealed | signFailed | swept => exact moved_flightInv inv rfl
  case delivered => exact moved_flightInv inv (statusUpdates_status _ _ _)
  case asked quotable fresh session => exact putFlight_flightInv inv quotable.1 (fresh.ok session)
  case sent quotable ready sendable =>
    exact putFlight_flightInv inv quotable.1 (ready.sent_ok inv sendable)
  case contextChanged =>
    refine ⟨fun flight mem => ?_, fun now => ?_, inv.refresh⟩
    · dsimp only at mem
      split at mem
      · rename_i key
        exact (inv.flights flight mem).congr rfl key
      · cases mem
    · dsimp only
      rw [inv.idle now, ite_self]
  case amountChanged =>
    refine ⟨fun flight mem => ?_, fun now => ?_, by simp⟩
    · dsimp only at mem
      split at mem
      · rename_i kept
        exact (inv.flights flight mem).congr kept rfl
      · cases mem
    · dsimp only
      rw [inv.idle now, ite_self]
  case cleared => exact same rfl rfl (fun _ h => h) (fun now => by cases now) inv.refresh
  case reset => exact ⟨by simp, fun _ => rfl, by simp⟩
  case resumed => exact ⟨by simp, fun _ => rfl, inv.refresh⟩
  case dropped => exact same rfl rfl (fun _ h => (List.mem_filter.mp h).1) id inv.refresh
  case requoted | unquoted | allocationFailed =>
    exact same rfl rfl (fun _ h => h) (fun now => by cases now) inv.refresh
  case accepted answered _ _ plan _ _ =>
    exact same rfl rfl (fun _ h => (List.mem_filter.mp h).1) (fun now => by cases now)
      (planned answered plan)
  case late answered _ plan => exact same rfl rfl (fun _ h => h) id (planned answered plan)
  case unplanned => exact same rfl rfl (fun _ h => h) id (by simp)
  case walletReset => exact same rfl rfl (fun _ h => h) (fun now => by cases now) (by simp)
  all_goals exact same rfl rfl (fun _ h => h) id inv.refresh

theorem Ceremony.flightInv (inv : FlightInv m) (h : Ceremony msg m fx m') : FlightInv m' := by
  have same {m₁ : Model} (ctx : m₁.ctx = m.ctx) (amount : m₁.amount = m.amount)
      (flights : m₁.flights = m.flights) (idle : busy m₁ = true → busy m = true)
      (refresh : m₁.refresh = m.refresh) : FlightInv m₁ := by
    refine ⟨fun flight mem => ?_, fun now => flights.trans (inv.idle (idle now)), ?_⟩
    · rw [flights] at mem
      exact (inv.flights flight mem).congr amount (by rw [ctx])
    · rw [refresh, amount]
      exact inv.refresh
  cases h with
  | prompted =>
    have moves : FlightInv (moved m .signing { m.intent with status := .signing, refusal := none }) :=
      moved_flightInv inv rfl
    exact ⟨fun flight mem => (moves.flights flight mem).congr rfl rfl, moves.idle, moves.refresh⟩
  | executed live signing =>
    exact same rfl rfl rfl (fun _ => by rw [busy, signing]; rfl) rfl
  | kept => exact same rfl rfl rfl id rfl
  | approvalAsked => exact same rfl rfl rfl id rfl
  | tapped => exact same rfl rfl rfl id rfl
  | tapRefused => exact same rfl rfl rfl id rfl
  | pullPrompted => exact same rfl rfl rfl id rfl
  | held => exact same rfl rfl rfl id rfl
  | resent => exact same rfl rfl rfl id rfl

/-! ## Both, along a chain and a run -/

structure Inv (m : Model) : Prop where
  ceremony : CeremonyInv m
  flight : FlightInv m

theorem Inv.coherent (inv : Inv m) : Coherent m where
  refresh := inv.flight.refresh
  origin := inv.ceremony.origin
  signing := inv.ceremony.signing
  executes := inv.ceremony.executes
  confined := fun held => inv.ceremony.confined.resolve_left fun unsigned => by
    rw [unsigned.sign, unsigned.pending] at held
    simp at held

theorem Act.inv (inv : Inv m) (h : Act wall cause m fx m') : Inv m' :=
  ⟨h.ceremonyInv inv.ceremony, h.flightInv inv.flight⟩

theorem Ceremony.inv (inv : Inv m) (h : Ceremony msg m fx m') : Inv m' :=
  ⟨h.ceremonyInv inv.ceremony, h.flightInv inv.flight⟩

theorem init_inv (config : MachineConfig) (ctx : Context) (hidden : Bool) :
    Inv (init config ctx hidden) :=
  ⟨.of_unsigned ⟨rfl, rfl, rfl, rfl⟩ rfl, ⟨by simp [init], fun _ => rfl, by simp [init]⟩⟩

end

end XochiSdk.Client
