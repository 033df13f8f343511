import XochiSdk.Client.Machine.Progress

/-!
# The price countdown of a deposit route

An allocated deposit runs to its attested deadline, and its price is not counted down. Along a
run no timer expires it exactly where no tick finds its price run out: the countdown is stopped
as the deposit lands, but a tick already queued is not refused.
-/

namespace XochiSdk.Client

open XochiSdk.Js XochiSdk.Shared XochiSdk.Signer XochiSdk.Library Emits

/-- A deposit address is held: quoted with its deposit allocated, or shown. -/
def DepositHeld (m : Model) : Prop :=
  (m.intent.status = .quoted ∨ m.intent.status = .awaiting_deposit) ∧
    ∃ quote, m.intent.quote = some quote ∧ quote.hasDeposit = true

/-- Whatever is held is held for its deposit, and has not expired. -/
structure DepositOnly (m : Model) : Prop where
  unexpired : m.intent.status ≠ .expired
  deposit : ∀ quote, m.intent.quote = some quote → quote.hasDeposit = true

theorem DepositHeld.only {m : Model} (held : DepositHeld m) : DepositOnly m := by
  obtain ⟨status, quote, holds, deposit⟩ := held
  refine ⟨fun expired => ?_, fun other same => ?_⟩
  · rw [expired] at status
    rcases status with h | h <;> cases h
  · rw [holds] at same
    cases same
    exact deposit

/-- A change to no `expired` status, which keeps the quote or lets go of it. -/
theorem DepositOnly.change {m m' : Model} (only : DepositOnly m)
    (unexpired : m'.intent.status ≠ .expired)
    (quote : m'.intent.quote = m.intent.quote ∨ m'.intent.quote = none) : DepositOnly m' := by
  refine ⟨unexpired, fun held same => ?_⟩
  rcases quote with kept | gone
  · rw [kept] at same
    exact only.deposit held same
  · rw [gone] at same
    cases same

theorem DepositOnly.congr {m m' : Model} (only : DepositOnly m) (intent : m'.intent = m.intent) :
    DepositOnly m' := by
  refine only.change ?_ (.inl (by rw [intent]))
  rw [intent]
  exact only.unexpired

section

variable [Host] {wall : WallClock} {cause : Cause} {m m' : Model} {fx : List Effect}

/-- A cause that is a timer other than the countdown's, or the rules. -/
def Untold (cause : Cause) : Prop :=
  ∀ body, cause.body = some body → ∃ timer, body = .timerFired timer ∧ timer ≠ .expiry

theorem Act.depositOnly (untold : Untold cause) (only : DepositOnly m)
    (act : Act wall cause m fx m') : DepositOnly m' := by
  have not_told {body : MsgBody} (told : cause.body = some body)
      (h : ∀ timer, timer ≠ .expiry → body ≠ .timerFired timer) : DepositOnly m' := by
    obtain ⟨timer, same, away⟩ := untold body told
    exact absurd same (h timer away)
  cases act
  case cleared body _ _ | reset body _ | resumed body _ | contextChanged body |
      amountChanged body | revealed body _ _ _ _ _ _ | swept body _ _ _ _ _ =>
    exact not_told body (by simp)
  case accepted answered _ _ _ _ _ | late answered _ _ => exact not_told answered.body (by simp)
  case executeFailed answered _ _ | executeMoved answered _ _ _ =>
    obtain ⟨_, body, -⟩ := answered.body
    exact not_told body (by simp)
  case delivered from_ _ =>
    cases from_ with
    | stream body => exact not_told body (by simp)
    | row body => exact not_told body (by simp)
  case lapsed edge expires =>
    rcases expires with body | ⟨held, body | ⟨-, counted⟩⟩
    · exact not_told body (by simp)
    · obtain ⟨timer, same, away⟩ := untold _ body
      cases same
      exact absurd rfl away
    · obtain ⟨quote, holds⟩ := Option.isSome_iff_exists.mp held
      have deposit := only.deposit quote holds
      rw [counted.2 quote holds] at deposit
      cases deposit
  case unquoted kept _ =>
    rcases kept with same | gone | ⟨_, _, body, -, -⟩
    · exact only.change (by simp) (.inl same)
    · exact only.change (by simp) (.inr gone)
    · exact not_told body (by simp)
  case requoted kept _ => exact only.change (by simp) kept
  case walletReset => exact only.change (by simp [initialIntentState]) (.inr rfl)
  case allocationFailed | returned | signFailed => exact only.change (by simp [moved]) (.inl rfl)
  case annotated | unsent => exact only.change only.unexpired (.inl rfl)
  all_goals exact only.congr rfl

variable {msg : Msg}

theorem Ceremony.depositOnly (only : DepositOnly m) (h : Ceremony msg m fx m') :
    DepositOnly m' := by
  cases h
  case prompted | executed => exact only.change (by simp [moved]) (.inl rfl)
  all_goals exact only.congr rfl

/-- A tick finds the price run out. -/
theorem tickExpiry_lapsed {quote : QuoteResponse} {now : Int} (held : m.intent.quote = some quote)
    (lapsed : priceLapsed quote now = true)
    (edge : canTransitionTo m.intent.status .expired = true) :
    ∃ quoteExpiresIn error, (tickExpiry m now).value =
      moved { m with quoteExpiresIn := quoteExpiresIn } .expired
        { m.intent with status := .expired, error := error } := by
  unfold priceLapsed at lapsed
  simp only [Bool.and_eq_true, bne_iff_ne, ne_eq] at lapsed
  obtain ⟨set, past⟩ := lapsed
  have shown : textOrNone (m.intent.quote.map (·.expiry)) = some quote.expiry := by
    simp [held, textOrNone, textSet, set]
  unfold tickExpiry
  rw [shown]
  dsimp only
  cases parsed : Host.dateParse quote.expiry with
  | none =>
    rw [parsed] at past
    cases past
  | some t =>
    rw [parsed] at past
    have ended : max 0 ((t.ms - now) / 1000) = 0 := by
      have : (t.ms - now) / 1000 ≤ 0 := by simpa using past
      omega
    dsimp only
    rw [if_pos ended]
    exact ⟨some (.secs (max 0 ((t.ms - now) / 1000))), _,
      (transition_of_edge (m := { m with
        quoteExpiresIn := some (.secs (max 0 ((t.ms - now) / 1000))) }) edge).1⟩

/-! ## Over a run -/

/-- No timer expires a deposit that is held. -/
def KeepsDeposit (m : Model) (i : Input) (_ : List Effect) (m' : Model) : Prop :=
  ∀ timer, i.2.body = .timerFired timer → DepositHeld m → m'.intent.status ≠ .expired

/-- No tick finds the price of a held deposit run out. -/
def NoLateTick (m : Model) (i : Input) (_ : List Effect) (_ : Model) : Prop :=
  i.2.body = .timerFired .expiry → DepositHeld m →
    ∀ quote, m.intent.quote = some quote → priceLapsed quote i.2.now = false

/-- The rules alone keep a deposit from expiring. -/
theorem Settled.depositOnly {now : Int} (settled : Settled wall now m fx m')
    (only : DepositOnly m) : DepositOnly m' :=
  settled.invariant (fun _ _ _ only act => act.depositOnly (fun _ told => by cases told) only) only

theorem Next.depositOnly {i : Input} {timer : TimerName} (inv : Inv m) (only : DepositOnly m)
    (fired : i.2.body = .timerFired timer) (other : timer ≠ .expiry) (next : Next m i fx m') :
    DepositOnly m' := by
  rcases next.cases inv with ⟨-, rfl⟩ | ⟨fy, m₁, fz, stepped, settled, -⟩
  · exact only
  have received : DepositOnly (receive m i.2) := only.congr rfl
  refine Settled.depositOnly settled ?_
  rcases stepped with chain | ceremony
  · refine chain.invariant (fun _ _ _ only act => act.depositOnly ?_ only) received
    rintro _ told
    rw [Msg.cause_body fired] at told
    cases told
    exact ⟨timer, rfl, other⟩
  · exact ceremony.depositOnly received

/-- A tick that finds the price on leaves the deposit to the rules. -/
theorem Next.ticked {i : Input} (held : DepositHeld m) (ticks : i.2.body = .timerFired .expiry)
    (on : ∀ quote, m.intent.quote = some quote → priceLapsed quote i.2.now = false)
    (next : Next m i fx m') : m'.intent.status ≠ .expired := by
  have stepped : step i.1 (receive m i.2) i.2 = .ok (tickExpiry (receive m i.2) i.2.now) := by
    rw [step, ticks]
    rfl
  obtain ⟨-, rfl⟩ := next.of_step stepped
  have still := tickExpiry_still (m := receive m i.2) on
  have held' : DepositOnly (receive m i.2) := held.only.congr rfl
  have only : DepositOnly (tickExpiry (receive m i.2) i.2.now).value := held'.congr still.intent
  have settled : Settled i.1 i.2.now _ _ _ :=
    settle_does (m := (tickExpiry (receive m i.2) i.2.now).value) rfl
  exact (Settled.depositOnly settled only).unexpired

/-- A tick that finds the price run out expires the deposit, and the rules leave it there. -/
theorem Next.tickedLate {i : Input} {quote : QuoteResponse} (sound : Sound m) (held : DepositHeld m)
    (ticks : i.2.body = .timerFired .expiry) (holds : m.intent.quote = some quote)
    (late : priceLapsed quote i.2.now = true) (next : Next m i fx m') :
    m'.intent.status = .expired := by
  have stepped : step i.1 (receive m i.2) i.2 = .ok (tickExpiry (receive m i.2) i.2.now) := by
    rw [step, ticks]
    rfl
  obtain ⟨-, rfl⟩ := next.of_step stepped
  have edge : canTransitionTo (receive m i.2).intent.status .expired = true := by
    rcases held.1 with quoted | shown
    · rw [receive, quoted]
      rfl
    · rw [receive, shown]
      rfl
  obtain ⟨quoteExpiresIn, error, value⟩ :=
    tickExpiry_lapsed (m := receive m i.2) holds late edge
  have seen : m.watched.wallet = walletKey m := by
    refine sound.rest.seen.resolve_left fun idle => ?_
    rcases held.1 with h | h
    · rw [idle] at h
      cases h
    · rw [idle] at h
      cases h
  have status : (tickExpiry (receive m i.2) i.2.now).value.intent.status = .expired := by
    rw [value]
    rfl
  have watched : Unwatched (tickExpiry (receive m i.2) i.2.now).value := by
    left
    rw [value]
    exact seen
  have still := settle_still (.of_away watched (by rw [status]; decide) : Calm i.2.now _)
  rw [still.intent, status]

/-- A run expires no held deposit by a timer exactly where no tick finds its price run out. -/
theorem run_keeps_deposit_iff {log : Log} :
    Run Initial (Only Next KeepsDeposit) log m ↔ Run Initial (Only Next NoLateTick) log m := by
  constructor
  · refine Run.only_mono fun log m i fx m' before next keeps ticks held quote holds => ?_
    by_contra late
    have sound : Sound m := Reachable.sound ⟨_, before.of_only⟩
    exact keeps _ ticks held (next.tickedLate sound held ticks holds (by simpa using late))
  · refine Run.only_mono fun log m i fx m' before next early timer fired held => ?_
    have inv : Inv m := MachineRun.inv before.of_only
    by_cases ticks : timer = .expiry
    · subst ticks
      exact next.ticked held fired (early fired held)
    · exact (next.depositOnly inv held.only fired ticks).unexpired

end

/-- A tick queued before the deposit landed expires it, its own window still open. -/
theorem late_tick_expires :
    letI := depositHost
    ∃ m i, Reachable m ∧ i.2.body = .timerFired .expiry ∧ DepositHeld m ∧
      (∃ quote deadline, m.intent.quote = some quote ∧ quote.depositDeadline = some deadline ∧
        i.2.now < deadline * 1000) ∧
      (answer m i).2.intent.status = .expired := by
  let _ := depositHost
  obtain ⟨id, m, sent⟩ := deposit_sent
  obtain ⟨attested, seen, passed⟩ := deposit_passed sent.on sent.found
    (by rw [busy, sent.quoting]; rfl) (by rw [sent.quoting]; rfl) sent.unseen
  obtain ⟨m', quoted⟩ := landed sampleNow sent rfl passed rfl (.inl (by decide))
  let late := told sampleWall 1735689660000 (.timerFired .expiry)
  have held : DepositHeld m' := ⟨.inl quoted.status, depositQuote, quoted.held, by decide⟩
  refine ⟨m', late, quoted.on.reachable, rfl, held,
    ⟨depositQuote, 1735693200, quoted.held, rfl, by decide⟩, ?_⟩
  exact (next_answer m' late).tickedLate quoted.on.reachable.sound held rfl quoted.held (by decide +kernel)

end XochiSdk.Client
