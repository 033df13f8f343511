import XochiSdk.Client.Machine.Abandon

/-!
# A failure that may have moved funds

Such a failure should hold until the user resets it: no message gets it a quote, a prompt or an
execute. Along every run that keeps it so far, a message other than Reset keeps it exactly where it
is no status frame of the same intent from before the quote.
-/

namespace XochiSdk.Client

open XochiSdk.Js XochiSdk.Shared XochiSdk.Signer XochiSdk.Library Emits

/-- Failed, with funds that may have moved. -/
def MayHaveMoved (m : Model) : Prop := m.intent.status = .failed ∧ m.intent.mayHaveMoved = true

/-- Such a failure, with no quote in the air. -/
structure Absorbed (m : Model) : Prop where
  moved : MayHaveMoved m
  flights : m.flights = []

/-- Anything asked of the wallet: a session, a signature, an approval or its reset. -/
def Effect.asksWallet : Effect → Bool
  | .wallet _ => true
  | _ => false

/-- The effect asks for no quote, puts nothing to the wallet and sends no execute. -/
def Effect.harmless (e : Effect) : Prop :=
  e.asksQuote = false ∧ e.asksWallet = false ∧ e.executes = false

/-- A frame of the intent's own status stream, from before the quote. -/
def Forgotten (m : Model) (body : MsgBody) : Prop :=
  ∃ message, body = .streamStatus message ∧ m.intent.intentId = some message.intentId ∧
    forgets message.status = true

section

variable [Host] {wall : WallClock} {cause : Cause} {msg : Msg} {m m' : Model} {fx : List Effect}

theorem MayHaveMoved.unsigned (moved : MayHaveMoved m) (inv : Inv m) : Unsigned m :=
  inv.ceremony.unsigned (by rw [moved.1]; decide) (by rw [moved.1]; decide)

omit [Host] in
theorem failed_edge {status : IntentStatus} (edge : canTransitionTo .failed status = true) :
    forgets status = true := by
  revert edge
  cases status <;> decide

/-- No status message that sets the act off is from before the quote. -/
def Remembers (cause : Cause) (m : Model) : Prop :=
  ∀ message, Delivered cause m message → forgets message.status = false

omit [Host] in
theorem Effect.unasked {e : Effect} (quiet : e.quiet = true) : e.asksWallet = false := by
  cases e with
  | wallet => cases quiet
  | _ => rfl

/-- Only a Reset asks anything of the wallet where the trade is not quotable. -/
theorem Act.asksWallet (act : Act wall cause m fx m') :
    (∀ e ∈ fx, e.asksWallet = true → Quotable m) ∨
      (cause.body = some .resetRequested ∧ m'.intent.mayHaveMoved = false) := by
  cases act
  case quiet quiet =>
    refine .inl fun e mem asks => ?_
    rw [Effect.unasked (quiet e mem)] at asks
    cases asks
  case asked quotable _ _ => exact .inl fun _ _ _ => quotable
  case sent quotable _ _ => exact .inl fun _ _ _ => quotable
  case reset body _ => exact .inr ⟨body, rfl⟩
  case polled reads =>
    refine .inl fun e mem asks => ?_
    rcases reads e mem with quiet | ⟨_, _, _, rfl, -⟩
    · rw [Effect.unasked quiet] at asks
      cases asks
    · cases asks
  all_goals exact .inl fun _ mem => nomatch mem

/-- What an act keeps of the failure. -/
structure Held (m : Model) (fx : List Effect) (m' : Model) : Prop where
  absorbed : Absorbed m'
  intentId : m'.intent.intentId = m.intent.intentId
  poll : m.poll = none → m'.poll = none
  harmless : ∀ e ∈ fx, e.harmless

/-- An act keeps the failure, or is a Reset. -/
theorem Act.absorbed (inv : Inv m) (absorbed : Absorbed m) (act : Act wall cause m fx m')
    (remembers : Remembers cause m) : Held m fx m' ∨
      (cause.body = some .resetRequested ∧ m'.intent.mayHaveMoved = false) := by
  have failed := absorbed.moved.1
  have marked := absorbed.moved.2
  have signed (flow : SignFlow) (live : m.sign = some flow) : False := by
    rw [(absorbed.moved.unsigned inv).sign] at live
    cases live
  have unquotable (quotable : Quotable m) : False := quotable.2 failed marked absorbed.flights
  rcases act.asksWallet with asksWallet | reset
  swap
  · exact .inr reset
  have harmless : ∀ e ∈ fx, e.harmless := by
    intro e mem
    obtain ⟨-, executes, asks⟩ := act.effects e mem
    refine ⟨?_, ?_, executes⟩
    · cases quote : e.asksQuote
      · rfl
      · exact absurd (asks quote) unquotable
    · cases wallet : e.asksWallet
      · rfl
      · exact absurd (asksWallet e mem wallet) unquotable
  have away {status : IntentStatus} (edge : canTransitionTo m.intent.status status = true)
      (other : forgets status = false) : False := by
    rw [failed] at edge
    rw [failed_edge edge] at other
    cases other
  have stays (status : m'.intent.status = m.intent.status)
      (mark : m'.intent.mayHaveMoved = m.intent.mayHaveMoved)
      (flights : m'.flights = [] ∨ m'.flights = m.flights) (poll : m.poll = none → m'.poll = none)
      (intentId : m'.intent.intentId = m.intent.intentId) : Held m fx m' ∨
        (cause.body = some .resetRequested ∧ m'.intent.mayHaveMoved = false) := by
    refine .inl ⟨⟨⟨status.trans failed, mark.trans marked⟩, ?_⟩, intentId, poll, harmless⟩
    rcases flights with none | same
    · exact none
    · exact same.trans absorbed.flights
  cases act
  case unsent _ _ executing =>
    rw [failed] at executing
    cases executing
  case contextChanged | amountChanged =>
    refine stays rfl rfl ?_ id rfl
    dsimp only
    split
    · exact .inr rfl
    · exact .inl rfl
  case cleared dropped =>
    simp [survivesClearedAmount, failed, marked] at dropped
  case reset body _ => exact .inr ⟨body, rfl⟩
  case resumed adopts =>
    rw [(buildResumedState_some adopts).1] at failed
    cases failed
  case asked quotable _ _ => exact (unquotable quotable).elim
  case sent quotable _ _ => exact (unquotable quotable).elim
  case requoted quotable _ _ => exact (unquotable quotable).elim
  case unquoted quotable _ _ => exact (unquotable quotable).elim
  case dropped =>
    refine stays rfl rfl (.inl ?_) id rfl
    simp [withoutFlight, absorbed.flights]
  case allocationFailed allocatable =>
    rw [failed] at allocatable
    cases allocatable
  case accepted answered _ _ _ _ _ =>
    have found := (findFlight_mem answered.found).1
    rw [absorbed.flights] at found
    cases found
  case lapsed edge _ => exact (away edge rfl).elim
  case returned edge => exact (away edge rfl).elim
  case revealed signable _ _ _ _ =>
    rw [failed] at signable
    cases (canSignQuote_some signable).1
  case signFailed live _ _ _ => exact (signed _ live).elim
  case delivered from_ edge => exact (away edge (remembers _ from_)).elim
  case swept edge => exact (away edge rfl).elim
  case executeFailed answered _ _ => exact (signed _ answered.sign).elim
  case executeMoved answered _ _ _ => exact (signed _ answered.sign).elim
  case walletReset _ _ still =>
    rw [marked] at still
    cases still
  case polled poll seq _ key _ =>
    refine stays rfl rfl (.inr rfl) (fun none => ?_) rfl
    cases poll with
    | none => rfl
    | some poll =>
      rcases key poll rfl with ⟨old, live, -⟩ | ⟨-, armed, -⟩
      · rw [none] at live
        cases live
      · have flies := (pollKey_some armed).1
        unfold inFlight at flies
        rw [failed] at flies
        cases flies
  all_goals exact stays rfl rfl (.inr rfl) id rfl

/-- No ceremony goes on under a failure. -/
theorem Ceremony.away (inv : Inv m) (outcome : Ceremony msg m fx m') :
    m.intent.status ≠ .failed := by
  intro failed
  have unsigned := inv.ceremony.unsigned (by rw [failed]; decide) (by rw [failed]; decide)
  have signed (flow : SignFlow) (live : m.sign = some flow) : False := by
    rw [unsigned.sign] at live
    cases live
  cases outcome with
  | prompted _ _ signable =>
    rw [failed] at signable
    cases (canSignQuote_some signable).1
  | executed live => exact signed _ live
  | kept _ live => exact signed _ live
  | approvalAsked _ live => exact signed _ live
  | tapped taps =>
    rcases taps.status inv.ceremony with here | here
    · exact absurd (failed.symm.trans here) (by decide)
    · exact absurd (failed.symm.trans here) (by decide)
  | tapRefused taps =>
    rcases taps.status inv.ceremony with here | here
    · exact absurd (failed.symm.trans here) (by decide)
    · exact absurd (failed.symm.trans here) (by decide)
  | pullPrompted _ live => exact signed _ live
  | held _ _ live => exact signed _ live
  | resent live => exact signed _ live

/-- A failure of the same intent, absorbed, with no status poll. -/
structure Gone (m x : Model) : Prop where
  inv : Inv x
  absorbed : Absorbed x
  rest : x.poll = none
  intentId : x.intent.intentId = m.intent.intentId

theorem Gone.remembers {x : Model} (gone : Gone m x)
    (remembers : ∀ body, cause.body = some body → ¬Forgotten m body) : Remembers cause x := by
  intro message from_
  cases from_ with
  | stream body own =>
    refine Bool.eq_false_iff.mpr fun forgot => remembers _ body ?_
    exact ⟨message, rfl, gone.intentId.symm.trans own, forgot⟩
  | row _ polls =>
    rw [gone.rest] at polls
    cases polls

theorem Gone.act {x y : Model} (gone : Gone m x) (act : Act wall cause x fx y)
    (kept : cause.body ≠ some .resetRequested)
    (remembers : ∀ body, cause.body = some body → ¬Forgotten m body) :
    Gone m y ∧ ∀ e ∈ fx, e.harmless := by
  rcases act.absorbed gone.inv gone.absorbed (gone.remembers remembers) with held | ⟨body, -⟩
  · refine ⟨⟨act.inv gone.inv, held.absorbed, held.poll gone.rest, ?_⟩, held.harmless⟩
    exact held.intentId.trans gone.intentId
  · exact absurd body kept

/-- Acts in a row keep the failure. -/
theorem Chain.absorbed {x : Model} (gone : Gone m x) (chain : Chain (Act wall cause) x fx m')
    (kept : cause.body ≠ some .resetRequested)
    (remembers : ∀ body, cause.body = some body → ¬Forgotten m body) :
    Gone m m' ∧ ∀ e ∈ fx, e.harmless := by
  refine ⟨chain.invariant ?_ gone, chain.effects (P := Gone m) ?_ gone⟩
  · exact fun _ _ _ gone act => (gone.act act kept remembers).1
  · exact fun _ _ _ gone act => gone.act act kept remembers

theorem Sound.unpolled (sound : Sound m) (failed : m.intent.status = .failed) : m.poll = none := by
  cases polls : m.poll with
  | none => rfl
  | some poll =>
    have flies := (sound.poll polls).1
    unfold inFlight at flies
    rw [failed] at flies
    cases flies

theorem Next.absorbed {i : Input} (sound : Sound m) (absorbed : Absorbed m) (next : Next m i fx m')
    (kept : i.2.body ≠ .resetRequested) (remembers : ¬Forgotten m i.2.body) :
    Absorbed m' ∧ m'.intent.intentId = m.intent.intentId ∧ ∀ e ∈ fx, e.harmless := by
  rcases next.cases sound.inv with ⟨rfl, rfl⟩ | ⟨fy, m₁, fz, stepped, settled, rfl⟩
  · exact ⟨absorbed, rfl, by simp⟩
  have inv := sound.inv.receive i.1 i.2
  have met : Gone (receive m i.2) (receive m i.2) :=
    ⟨inv, ⟨absorbed.moved, absorbed.flights⟩, sound.unpolled absorbed.moved.1, rfl⟩
  rcases stepped with chain | ceremony
  · obtain ⟨gone, harmless⟩ := Chain.absorbed met chain (fun body => kept (Option.some.inj body))
      (by rintro _ ⟨⟩; exact remembers)
    obtain ⟨gone', harmless'⟩ := Chain.absorbed gone settled (fun told => by cases told)
      (fun _ told => by cases told)
    refine ⟨gone'.absorbed, gone'.intentId, fun e mem => ?_⟩
    rcases List.mem_append.mp mem with mem | mem
    · exact harmless e mem
    · exact harmless' e mem
  · exact absurd absorbed.moved.1 (ceremony.away (m := receive m i.2) inv)

/-- A frame from before the quote takes the failure away. -/
theorem Next.forgotten {i : Input} (failed : m.intent.status = .failed) (next : Next m i fx m')
    (forgotten : Forgotten m i.2.body) : m'.intent.status ≠ .failed := by
  obtain ⟨message, body, own, forgot⟩ := forgotten
  have stepped : step i.1 (receive m i.2) i.2 = .ok (onStream (receive m i.2) message) := by
    rw [step, body]
  have moved : message.status ≠ m.intent.status ∧
      canTransitionTo m.intent.status message.status = true := by
    rw [failed]
    revert forgot
    cases message.status <;> decide
  have named : (receive m i.2).intent.intentId = some message.intentId := own
  have read : (onStream (receive m i.2) message).value.intent.status = message.status := by
    unfold onStream
    rw [if_neg (not_not.mpr named)]
    exact applyStatusUpdate_status (m := receive m i.2) false moved.1 moved.2
  obtain ⟨-, rfl⟩ := next.of_step stepped
  rw [settle_status _ (by rw [read]; exact forgot), read]
  exact failed ▸ moved.1

/-! ## Over a run -/

/-- The user did not reset. -/
def NoReset (_ : Model) (i : Input) (_ : List Effect) (_ : Model) : Prop :=
  i.2.body ≠ .resetRequested

/-- Every state a message met was such a failure, and nothing was asked of the venue or wallet. -/
structure Holds (log : Log) : Prop where
  met : ∀ source i, .handled source i ∈ log → Absorbed source
  harmless : ∀ e, .emitted e ∈ log → e.harmless

/-- No frame of the failed intent is from before the quote. -/
def Unforgotten (log : Log) : Prop :=
  ∀ source i, .handled source i ∈ log → ¬Forgotten source i.2.body

variable {pre log : Log}

theorem MachineRun.continue {ok : Model → Input → List Effect → Model → Prop}
    (before : MachineRun pre m) (run : Run (· = m) (Only Next ok) log m') :
    MachineRun (pre ++ log) m' := by
  induction run with
  | init start =>
    cases start
    rwa [List.append_nil]
  | step _ next ih =>
    rw [← List.append_assoc]
    exact ih.step next.1

omit [Host] in
theorem Holds.snoc {source : Model} {i : Input} (held : Holds log) (here : Absorbed source)
    (harmless : ∀ e ∈ fx, e.harmless) : Holds (log ++ .handled source i :: fx.map .emitted) where
  met other j mem := by
    rcases List.mem_append.mp mem with mem | mem
    · exact held.met other j mem
    rcases List.mem_cons.mp mem with same | mem
    · cases same
      exact here
    · simp at mem
  harmless e mem := by
    rcases List.mem_append.mp mem with mem | mem
    · exact held.harmless e mem
    · exact harmless e (by simpa using mem)

theorem run_absorbed (before : MachineRun pre m) (absorbed : Absorbed m)
    (run : Run (· = m) (Only Next NoReset) log m') (unforgotten : Unforgotten log) :
    Absorbed m' ∧ m'.intent.intentId = m.intent.intentId ∧ Holds log := by
  induction run with
  | init start =>
    cases start
    exact ⟨absorbed, rfl, fun _ _ mem => by simp at mem, fun _ mem => by simp at mem⟩
  | @step log x x' i fx run next ih =>
    obtain ⟨here, named, held⟩ := ih fun source j mem =>
      unforgotten source j (List.mem_append_left _ mem)
    have sound : Sound x := Reachable.sound ⟨_, before.continue run⟩
    obtain ⟨here', named', harmless⟩ := next.1.absorbed sound here next.2
      (unforgotten x i (by simp))
    exact ⟨here', named'.trans named, held.snoc here harmless⟩

theorem run_unforgotten (run : Run (· = m) (Only Next NoReset) log m') (here : Absorbed m')
    (held : Holds log) : Unforgotten log := by
  induction run with
  | init => exact fun _ _ mem => by simp at mem
  | @step log x x' i fx run next ih =>
    have met : Absorbed x := held.met x i (by simp)
    have earlier : Holds log :=
      ⟨fun source j mem => held.met source j (List.mem_append_left _ mem),
        fun e mem => held.harmless e (List.mem_append_left _ mem)⟩
    intro source j mem
    rcases List.mem_append.mp mem with mem | mem
    · exact ih met earlier source j mem
    rcases List.mem_cons.mp mem with same | mem
    · cases same
      exact fun forgotten => next.1.forgotten met.moved.1 forgotten here.moved.1
    · simp at mem

/-- Without a Reset, a failure that may have moved funds stays that failure, asks for no quote and
puts nothing to the wallet, exactly where no frame of its intent from before the quote comes. -/
theorem moved_absorbed_iff (before : MachineRun pre m) (absorbed : Absorbed m)
    (run : Run (· = m) (Only Next NoReset) log m') :
    Unforgotten log ↔
      Absorbed m' ∧ m'.intent.intentId = m.intent.intentId ∧ Holds log := by
  constructor
  · exact run_absorbed before absorbed run
  · exact fun ⟨here, _, held⟩ => run_unforgotten run here held

end

/-- A failed order taken up again, and the amount cleared after it. -/
theorem sample_absorbed :
    letI := plainHost
    ∃ pre m log m', MachineRun pre m ∧ Absorbed m ∧ Run (· = m) (Only Next NoReset) log m' ∧
      (Unforgotten log ↔
        Absorbed m' ∧ m'.intent.intentId = m.intent.intentId ∧ Holds log) := by
  let _ := plainHost
  let m := played sampleConfig blankContext [resumed .failed none]
  let i := said (.quoteRequested "")
  obtain ⟨pre, before⟩ : Reachable m := played_reachable _ _ _
  have absorbed : Absorbed m := ⟨⟨by decide +kernel, by decide +kernel⟩, by decide +kernel⟩
  have run : Run (· = m) (Only Next NoReset) _ (answer m i).2 :=
    .step (.init rfl) ⟨next_answer m i, by simp [NoReset, i, said]⟩
  exact ⟨pre, m, _, _, before, absorbed, run, moved_absorbed_iff before absorbed run⟩

end XochiSdk.Client
