import XochiSdk.Client.Machine.Landing
import XochiSdk.Client.Machine.Allocations
import XochiSdk.Client.Machine.Abandon
import XochiSdk.Client.Machine.Provenance

/-!
# Where the quote on screen comes from

Every solvable quote a model holds answered a request the machine had sent, passed every gate for
that request, and left its terms on the intent untouched. So a quote put to the wallet, or one
whose deposit address is shown, was vetted for the trade that is on the form.
-/

namespace XochiSdk.Client

open XochiSdk.Js XochiSdk.Shared XochiSdk.Signer XochiSdk.Library Emits

/-- What a quote leaves on the intent that holds it. -/
structure QuoteTerms where
  quote : Option QuoteResponse
  intentId : Option String
  quoteId : Option String
  address : Option String
  chainId : Option Int
  amount : Option String
  settlement : Option SettlementType
  deadline : Option Int
  attested : Option StoredDepositAttestation

def IntentState.terms (intent : IntentState) : QuoteTerms where
  quote := intent.quote
  intentId := intent.intentId
  quoteId := intent.quoteId
  address := intent.quotedAddress
  chainId := intent.quotedChainId
  amount := intent.quotedFromAmount
  settlement := intent.quotedSettlement
  deadline := intent.depositDeadline
  attested := intent.attestedDeposit

/-- The terms a landed answer leaves. -/
def landedTerms (flight : QuoteFlight) (quote : QuoteResponse)
    (attested : Option StoredDepositAttestation) : QuoteTerms :=
  (quoteState flight quote attested initialIntentState).terms

/-- Nothing solvable is held. -/
def Bare (m : Model) : Prop := ∀ quote, m.intent.quote = some quote → quote.canSolve = false

/-- The held quote, its terms and its trade are the same. -/
structure SameHeld (m m' : Model) : Prop where
  terms : m'.intent.terms = m.intent.terms
  trade : m'.quotedTrade = m.quotedTrade

/-- The flight's request was sent. -/
def Asked (log : Log) (flight : QuoteFlight) : Prop :=
  ∃ request, flight.request = some request ∧
    .emitted (.api (.quote flight.id request flight.forceRefresh)) ∈ log

section

variable [Host]

/-- Every gate a served quote passes, for the request its flight sent. -/
structure Gates (wall : WallClock) (quote : QuoteResponse) (flight : QuoteFlight)
    (recipients : Option PinnedPullRecipients) : Prop where
  served : quote.success = true
  solvable : quote.canSolve = true
  preview : quote.preview = flight.preview
  echo : recipientEchoError (flight.request.bind (·.recipientAddress)) quote.recipientAddress = none
  claim : claimInfoError quote.claimInfo flight.ctx.toChainId flight.settlement = none
  payout : recipientIsDestinationToken (resolvedRecipient flight.ctx) flight.ctx.toToken = false
  route : depositDisagrees quote flight = false
  signable : quote.hasDeposit = false → quote.eip712Data.isSome = true →
    signableCheck wall quote flight recipients = .ok ()

/-- A request's answer came, and passed every gate. -/
def Vouched (log : Log) (flight : QuoteFlight) (quote : QuoteResponse)
    (attested : Option StoredDepositAttestation) : Prop :=
  ∃ pre source wall msg post seen, log = pre ++ .handled source (wall, msg) :: post ∧
    msg.body = .quoteReplied flight.id (.ok quote) ∧ Asked pre flight ∧ FlightOk source flight ∧
    Passed wall (receive source msg) flight quote attested seen ∧
    Gates wall quote flight source.config.pullRecipients

/-- The held quote is a vouched answer, on its own terms. -/
structure Vetted (log : Log) (m : Model) (flight : QuoteFlight) (quote : QuoteResponse)
    (attested : Option StoredDepositAttestation) : Prop where
  vouched : Vouched log flight quote attested
  terms : m.intent.terms = landedTerms flight quote attested
  trade : m.quotedTrade = some (tradeKey flight.ctx)

variable {wall : WallClock} {cause : Cause} {msg : Msg} {m m' m'' : Model} {fx : List Effect}
  {log : Log} {flight : QuoteFlight} {quote : QuoteResponse}
  {attested : Option StoredDepositAttestation}

omit [Host] in
theorem unrefused_if {p : Prop} [Decidable p] {refusal : QuoteRefusal}
    (unrefused : (if p then some refusal else none) = none) : ¬p := by
  intro holds
  rw [if_pos holds] at unrefused
  cases unrefused

theorem Gates.of_unrefused {recipients : Option PinnedPullRecipients}
    (unrefused : quoteRefusal wall quote flight recipients = none) :
    Gates wall quote flight recipients := by
  unfold quoteRefusal at unrefused
  simp only [Option.orElse_eq_none] at unrefused
  obtain ⟨declined, preview, echo, claim, payout, route, signable⟩ := unrefused
  unfold declinedRefusal at declined
  split at declined
  · cases declined
  rename_i served
  split at declined
  · cases declined
  rename_i solvable
  unfold previewRefusal at preview
  unfold payoutRefusal at payout
  dsimp only at payout
  unfold depositRefused at route
  unfold signableRefusal at signable
  constructor
  · exact Bool.not_eq_false _ ▸ served
  · exact Bool.not_eq_false _ ▸ solvable
  · exact not_not.mp (unrefused_if preview)
  · exact Option.map_eq_none_iff.mp echo
  · exact Option.map_eq_none_iff.mp claim
  · exact Bool.eq_false_iff.mpr (unrefused_if payout)
  · exact Bool.eq_false_iff.mpr (unrefused_if route)
  · intro plain typed
    rw [plain, typed, if_pos (by rfl)] at signable
    cases check : signableCheck wall quote flight recipients with
    | ok => rfl
    | error e =>
      rw [check] at signable
      cases signable

omit [Host] in
theorem SameHeld.refl (m : Model) : SameHeld m m := ⟨rfl, rfl⟩

omit [Host] in
theorem SameHeld.trans (first : SameHeld m m') (second : SameHeld m' m'') : SameHeld m m'' :=
  ⟨second.terms.trans first.terms, second.trade.trans first.trade⟩

omit [Host] in
theorem SameHeld.held (same : SameHeld m m') : m'.intent.quote = m.intent.quote :=
  congrArg QuoteTerms.quote same.terms

omit [Host] in
theorem bare_of_none (none : m.intent.quote = none) : Bare m := by
  intro quote held
  rw [none] at held
  cases held

omit [Host] in
theorem Bare.same (bare : Bare m) (same : SameHeld m m') : Bare m' := by
  intro quote held
  exact bare quote (same.held ▸ held)

omit [Host] in
theorem moved_terms (m : Model) (target : IntentStatus) {intent : IntentState}
    (same : intent.terms = m.intent.terms) : SameHeld m (moved m target intent) :=
  ⟨same, rfl⟩

omit [Host] in
theorem statusUpdates_terms (m : Model) (message : StatusMessage) (intent : IntentState) :
    (statusUpdates m message intent).terms = intent.terms := by
  have plan : ((mapStatusUpdate message).2 intent).terms = intent.terms := by
    unfold mapStatusUpdate
    split <;> rfl
  unfold statusUpdates
  dsimp only
  split
  · exact plan
  · exact plan

/-- An act leaves the terms, holds nothing solvable, or takes a quote's answer. -/
theorem Act.terms (act : Act wall cause m fx m') : SameHeld m m' ∨ Bare m' ∨
    ∃ id quote, cause.body = some (.quoteReplied id (.ok quote)) := by
  cases act
  case accepted answered _ _ _ _ _ => exact .inr (.inr ⟨_, _, answered.body⟩)
  case cleared | reset | walletReset => exact .inr (.inl (bare_of_none rfl))
  case resumed adopts =>
    obtain ⟨-, rfl⟩ := buildResumedState_some adopts
    exact .inr (.inl (bare_of_none rfl))
  case requoted kept edge =>
    rcases kept with same | none
    · subst same
      exact .inl ⟨rfl, rfl⟩
    · exact .inr (.inl (bare_of_none none))
  case unquoted kept _ =>
    rcases kept with same | none | ⟨_, declined, -, held, unsolved⟩
    · subst same
      exact .inl ⟨rfl, rfl⟩
    · exact .inr (.inl (bare_of_none none))
    · refine .inr (.inl fun quote here => ?_)
      cases held.symm.trans here
      exact unsolved
  case delivered => exact .inl (moved_terms _ _ (statusUpdates_terms _ _ _))
  all_goals exact .inl ⟨rfl, rfl⟩

/-- Without a quote's answer, acts in a row leave the terms or hold nothing solvable. -/
theorem Chain.terms (chain : Chain (Act wall cause) m fx m')
    (other : ∀ id quote, cause.body ≠ some (.quoteReplied id (.ok quote))) :
    SameHeld m m' ∨ Bare m' := by
  refine chain.invariant (P := fun x => SameHeld m x ∨ Bare x) ?_ (.inl (.refl m))
  intro x fy y held act
  rcases act.terms with same | bare | ⟨id, quote, body⟩
  · rcases held with before | bare
    · exact .inl (before.trans same)
    · exact .inr (bare.same same)
  · exact .inr bare
  · exact absurd body (other id quote)

/-! ## A quote's answer -/

omit [Host] in
theorem withoutFlight_held (m : Model) (id : String) : SameHeld m (withoutFlight m id) := ⟨rfl, rfl⟩

theorem planRefresh_held (m : Model) (flight : QuoteFlight) (quote : QuoteResponse) (now : Int) :
    SameHeld m (planRefresh m flight quote now).value := by
  obtain ⟨refresh, value⟩ := planRefresh_value m flight quote now
  rw [value]
  exact ⟨rfl, rfl⟩

omit [Host] in
/-- A move to a state of the same terms, or of nothing solvable. -/
theorem transition_held (m : Model) (target : IntentStatus)
    (updates : IntentState → IntentState)
    (spares : ∀ intent, (updates intent).terms = intent.terms ∨
      ∀ quote, (updates intent).quote = some quote → quote.canSolve = false) :
    SameHeld m (transition m target updates).value ∨ Bare (transition m target updates).value := by
  cases edge : canTransitionTo m.intent.status target with
  | false =>
    rw [(transition_of_no_edge edge).1]
    exact .inl (.refl m)
  | true =>
    rw [(transition_of_edge edge).1]
    rcases spares { m.intent with status := target } with same | bare
    · exact .inl ⟨same, rfl⟩
    · exact .inr bare

omit [Host] in
theorem refuseQuote_held (m : Model) (flight : QuoteFlight) (error : String)
    {shown : Option QuoteResponse}
    (declined : ∀ quote, shown = some quote → quote.canSolve = false) :
    SameHeld m (refuseQuote m flight error shown).value ∨
      Bare (refuseQuote m flight error shown).value := by
  unfold refuseQuote
  rw [value_bind]
  split
  · exact .inl (.refl m)
  · exact transition_held m _ _ fun _ => .inr declined

omit [Host] in
theorem quoteThrew_held (m : Model) (flight : QuoteFlight) (failure : ErrorReport) :
    SameHeld m (quoteThrew m flight failure).value ∨ Bare (quoteThrew m flight failure).value := by
  unfold quoteThrew
  rw [value_bind, value_bind]
  split
  · exact .inl (.refl m)
  rw [value_pure]
  unfold quoteFailed allocationFailed
  split
  · split
    · exact .inl ⟨rfl, rfl⟩
    · exact .inl ⟨rfl, rfl⟩
  · exact .inr (bare_of_none rfl)

/-- An accepted answer lands on its terms, or leaves what was held. -/
theorem acceptQuote_held (m : Model) (flight : QuoteFlight) (quote : QuoteResponse)
    (attested : Option StoredDepositAttestation) (now : Int) :
    SameHeld m (acceptQuote m flight quote attested now).value ∨
      ((acceptQuote m flight quote attested now).value.intent.terms =
          landedTerms flight quote attested ∧
        (acceptQuote m flight quote attested now).value.quotedTrade =
          some (tradeKey flight.ctx)) := by
  have planned {x : Model} (terms : x.intent.terms = landedTerms flight quote attested)
      (trade : x.quotedTrade = some (tradeKey flight.ctx)) :
      (planRefresh x flight quote now).value.intent.terms = landedTerms flight quote attested ∧
        (planRefresh x flight quote now).value.quotedTrade = some (tradeKey flight.ctx) := by
    have same := planRefresh_held x flight quote now
    exact ⟨same.terms.trans terms, same.trade.trans trade⟩
  unfold acceptQuote
  dsimp only
  split
  · split
    · exact .inl (.refl m)
    · exact .inr (planned rfl rfl)
  split
  · exact .inr (planned rfl rfl)
  rw [value_bind]
  split
  · rename_i edge
    rw [(transition_of_edge edge).1]
    exact .inr (planned rfl rfl)
  · rename_i edge
    rw [(transition_of_no_edge (by simpa using edge)).1]
    exact .inl (planRefresh_held m flight quote now)

/-- What an answer leaves: the terms, nothing solvable, or a quote that passed every gate. -/
theorem onQuote_held (m : Model) (wall : WallClock) (id : String) (result : Outcome QuoteResponse)
    (now : Int) :
    SameHeld m (onQuote wall m id result now).value ∨ Bare (onQuote wall m id result now).value ∨
      ∃ flight quote attested seen, id = flight.id ∧ result = .ok quote ∧
        Passed wall m flight quote attested seen ∧
        (onQuote wall m id result now).value.intent.terms = landedTerms flight quote attested ∧
        (onQuote wall m id result now).value.quotedTrade = some (tradeKey flight.ctx) := by
  unfold onQuote
  split
  · exact .inl (.refl m)
  rename_i flight found
  obtain ⟨mem, rfl, -⟩ := findFlight_mem found
  dsimp only
  split
  · exact .inl (withoutFlight_held m _)
  rename_i idle
  obtain ⟨idle, live⟩ : busy m = false ∧ endedStates.contains m.intent.status = false := by
    simpa [busy] using idle
  have start := withoutFlight_held m flight.id
  have spared {x : Model} (held : SameHeld (withoutFlight m flight.id) x ∨ Bare x) :
      SameHeld m x ∨ Bare x ∨ ∃ f quote attested seen, flight.id = f.id ∧ result = .ok quote ∧
        Passed wall m f quote attested seen ∧ x.intent.terms = landedTerms f quote attested ∧
          x.quotedTrade = some (tradeKey f.ctx) :=
    held.elim (fun same => .inl (start.trans same)) fun bare => .inr (.inl bare)
  cases result with
  | error failure => exact spared (quoteThrew_held _ _ _)
  | ok quote =>
    have refused (error : String) {shown : Option QuoteResponse}
        (declined : ∀ quote, shown = some quote → quote.canSolve = false) :=
      spared (refuseQuote_held (withoutFlight m flight.id) flight error declined)
    have taken {attested : Option StoredDepositAttestation} {seen : SeenDepositAddresses}
        (passed : Passed wall m flight quote attested seen) :
        let x := (acceptQuote { withoutFlight m flight.id with seenDepositAddresses := seen } flight
          quote attested now).value
        SameHeld m x ∨ Bare x ∨ ∃ f q attested seen, flight.id = f.id ∧
          (.ok quote : Outcome QuoteResponse) = .ok q ∧ Passed wall m f q attested seen ∧
          x.intent.terms = landedTerms f q attested ∧ x.quotedTrade = some (tradeKey f.ctx) := by
      intro x
      rcases acceptQuote_held { withoutFlight m flight.id with seenDepositAddresses := seen } flight
        quote attested now with same | ⟨terms, trade⟩
      · exact .inl ⟨same.terms, same.trade⟩
      · exact .inr (.inr ⟨flight, quote, attested, seen, rfl, rfl, passed, terms, trade⟩)
    dsimp only
    unfold onServedQuote
    split
    · rename_i refusal gate
      rw [value_bind]
      refine refused _ fun shown here => ?_
      rcases quoteRefusal_quote gate with none | ⟨held, unsolved⟩
      · rw [none] at here
        cases here
      · cases held.symm.trans here
        exact unsolved
    rename_i gates
    split
    · rename_i deposit
      exact taken ⟨found, idle, live, gates, .intent (by simpa using deposit)⟩
    rename_i deposit
    split
    · exact refused _ (by simp)
    rename_i request precheck
    split
    · exact refused _ (by simp)
    rename_i verified check
    exact taken ⟨found, idle, live, gates, .deposit (by simpa using deposit) precheck check⟩

/-! ## Over a run -/

omit [Host] in
theorem Asked.more (asked : Asked log flight) (later : Log) : Asked (log ++ later) flight := by
  obtain ⟨request, sent, mem⟩ := asked
  exact ⟨request, sent, List.mem_append_left _ mem⟩

theorem Vouched.more (vouched : Vouched log flight quote attested) (later : Log) :
    Vouched (log ++ later) flight quote attested := by
  obtain ⟨pre, source, wall, msg, post, seen, rfl, rest⟩ := vouched
  exact ⟨pre, source, wall, msg, post ++ later, seen, by simp, rest⟩

theorem Vetted.more (vetted : Vetted log m flight quote attested) (same : SameHeld m m')
    (later : Log) : Vetted (log ++ later) m' flight quote attested :=
  ⟨vetted.vouched.more later, same.terms.trans vetted.terms, same.trade.trans vetted.trade⟩

/-- Each request in the air was sent. -/
def AllAsked (log : Log) (m : Model) : Prop :=
  ∀ flight ∈ m.flights, flight.stage = .api → Asked log flight

omit [Host] in
theorem AllAsked.more (asked : AllAsked log m) (later : Log)
    (kept : ∀ flight ∈ m'.flights, flight ∈ m.flights) : AllAsked (log ++ later) m' :=
  fun flight mem sent => (asked flight (kept flight mem) sent).more later

omit [Host] in
theorem moved_flights (m : Model) (target : IntentStatus) (intent : IntentState) :
    ∀ flight ∈ (moved m target intent).flights, flight ∈ m.flights := by
  unfold moved
  dsimp only
  split
  · simp
  · exact fun _ mem => mem

omit [Host] in
theorem mem_putFlight {flight other : QuoteFlight} (mem : other ∈ (putFlight m flight).flights) :
    other = flight ∨ other ∈ m.flights := by
  unfold putFlight at mem
  rcases List.mem_append.mp mem with mem | mem
  · exact .inr (List.mem_filter.mp mem).1
  · exact .inl (List.mem_singleton.mp mem)

theorem AllAsked.act (asked : AllAsked log m) (act : Act wall cause m fx m') :
    AllAsked (log ++ fx.map .emitted) m' := by
  cases act
  case asked fresh session =>
    intro flight mem sent
    rcases mem_putFlight mem with rfl | mem
    · rw [session] at sent
      cases sent
    · exact (asked flight mem sent).more _
  case sent ready sendable =>
    intro flight mem sent
    rcases mem_putFlight mem with rfl | mem
    · exact ⟨_, rfl, by simp [QuoteFlight.sent]⟩
    · exact (asked flight mem sent).more _
  case executeFailed | executeMoved =>
    exact asked.more _ (moved_flights _ _ _)
  case lapsed | returned | revealed | signFailed | delivered | swept =>
    exact asked.more _ (moved_flights _ _ _)
  case contextChanged | amountChanged =>
    refine asked.more _ fun flight mem => ?_
    dsimp only at mem
    split at mem
    · exact mem
    · cases mem
  case reset | resumed => exact asked.more _ fun flight mem => by cases mem
  case dropped | accepted => exact asked.more _ fun flight mem => (List.mem_filter.mp mem).1
  all_goals exact asked.more _ fun flight mem => mem

omit [Host] in
theorem receive_held (m : Model) (msg : Msg) : SameHeld m (receive m msg) := ⟨rfl, rfl⟩

theorem Ceremony.spared (ceremony : Ceremony msg m fx m') :
    (∀ flight ∈ m'.flights, flight ∈ m.flights) ∧ SameHeld m m' := by
  cases ceremony with
  | prompted =>
    exact ⟨moved_flights m .signing { m.intent with status := .signing, refusal := none }, rfl, rfl⟩
  | executed | kept | approvalAsked | tapped | tapRefused | pullPrompted | held | resent =>
    exact ⟨fun _ mem => mem, rfl, rfl⟩

theorem asked_law : Law AllAsked where
  init := by
    rintro _ ⟨config, ctx, hidden, rfl⟩ _ mem
    cases mem
  handled _ _ _ _ asked := asked.more _ fun _ mem => mem
  act _ _ _ _ _ _ _ asked act := asked.act act
  ceremony _ _ _ _ _ _ _ asked ceremony := asked.more _ ceremony.spared.1

/-- What a model holds is vetted. -/
def AllVetted (log : Log) (m : Model) : Prop :=
  ∀ quote, m.intent.quote = some quote → quote.canSolve = true →
    ∃ flight attested, Vetted log m flight quote attested

theorem AllVetted.more (vetted : AllVetted log m) (later : Log)
    (held : SameHeld m m' ∨ Bare m') : AllVetted (log ++ later) m' := by
  intro quote here solves
  rcases held with same | bare
  · obtain ⟨flight, attested, vetted⟩ := vetted quote (same.held ▸ here) solves
    exact ⟨flight, attested, vetted.more same later⟩
  · rw [bare quote here] at solves
    cases solves

theorem settle_held (wall : WallClock) (m : Model) (now : Int) :
    SameHeld m (settle m now).value ∨ Bare (settle m now).value :=
  have settled : Settled wall now m _ (settle m now).value := settle_does rfl
  Chain.terms settled fun id quote body => by cases body

/-- A message other than a quote's answer leaves the terms, or nothing solvable. -/
theorem Next.terms {i : Input} (inv : Inv m) (next : Next m i fx m')
    (other : ∀ id quote, i.2.body ≠ .quoteReplied id (.ok quote)) : SameHeld m m' ∨ Bare m' := by
  rcases next.cases inv with ⟨-, rfl⟩ | ⟨fy, m₁, fz, stepped, settled, -⟩
  · exact .inl (.refl _)
  have first : SameHeld m m₁ ∨ Bare m₁ := by
    rcases stepped with chain | ceremony
    · have held := Chain.terms chain fun id quote body => other id quote (Option.some.inj body)
      exact held.imp_left (receive_held m i.2).trans
    · exact .inl ((receive_held m i.2).trans ceremony.spared.2)
  have rules := Chain.terms settled fun id quote body => by cases body
  rcases rules with same | bare
  · rcases first with before | bare
    · exact .inl (before.trans same)
    · exact .inr (bare.same same)
  · exact .inr bare

theorem AllVetted.next {i : Input} (run : MachineRun log m) (vetted : AllVetted log m)
    (next : Next m i fx m') : AllVetted (log ++ .handled m i :: fx.map .emitted) m' := by
  have inv := MachineRun.inv run
  cases body : i.2.body with
  | quoteReplied id result =>
    have stepped : step i.1 (receive m i.2) i.2 =
        .ok (onQuote i.1 (receive m i.2) id result i.2.now) := by
      rw [step, body]
    obtain ⟨-, rfl⟩ := next.of_step stepped
    have rules := settle_held i.1 (onQuote i.1 (receive m i.2) id result i.2.now).value i.2.now
    have start := receive_held m i.2
    rcases onQuote_held (receive m i.2) i.1 id result i.2.now with same | bare |
      ⟨flight, quote, attested, seen, rfl, rfl, passed, terms, trade⟩
    · exact vetted.more _ (rules.imp_left fun after => start.trans (same.trans after))
    · exact vetted.more _ (.inr (rules.elim bare.same fun bare => bare))
    intro held here solves
    rcases rules with same | bare
    · obtain ⟨mem, -, sent⟩ := findFlight_mem passed.found
      have quoted := congrArg QuoteTerms.quote (same.terms.trans terms)
      obtain rfl : quote = held := Option.some.inj (quoted.symm.trans here)
      have asked : Asked log flight := asked_law.run run flight mem sent
      have ok : FlightOk m flight := inv.flight.flights flight mem
      have gates : Gates i.1 quote flight m.config.pullRecipients := .of_unrefused passed.gates
      refine ⟨flight, attested, ?_, ?_, ?_⟩
      · exact ⟨log, m, i.1, i.2, _, seen, rfl, body, asked, ok, passed, gates⟩
      · exact same.terms.trans terms
      · exact same.trade.trans trade
    · rw [bare held here] at solves
      cases solves
  | _ => exact vetted.more _ (next.terms inv fun id quote same => by rw [body] at same; cases same)

theorem run_vetted (run : MachineRun log m) : AllVetted log m := by
  refine Run.invariant (P := AllVetted) ?_ ?_ run
  swap
  · exact fun _ _ _ _ _ run vetted next => vetted.next run next
  rintro _ ⟨config, ctx, hidden, rfl⟩ quote held
  cases held

/-! ## What is shown -/

/-- The model holds a vetted, executable quote for the trade on the form. -/
structure Offers (log : Log) (m : Model) (flight : QuoteFlight) (quote : QuoteResponse)
    (attested : Option StoredDepositAttestation) : Prop where
  held : m.intent.quote = some quote
  vetted : Vetted log m flight quote attested
  solvable : quote.canSolve = true
  executable : quote.preview = false
  trade : tradeKey flight.ctx = tradeKey m.ctx
  amount : flight.amount = m.amount

theorem offers (vetted : AllVetted log m) (held : m.intent.quote = some quote)
    (signable : canSignQuote m.intent.status (some quote) = true)
    (current : holdsCurrentQuote m = true) :
    ∃ flight attested, Offers log m flight quote attested := by
  simp only [canSignQuote, Bool.and_eq_true, beq_iff_eq, Bool.not_eq_true'] at signable
  obtain ⟨⟨-, solvable⟩, executable⟩ := signable
  obtain ⟨flight, attested, vetted⟩ := vetted quote held solvable
  simp only [holdsCurrentQuote, Bool.and_eq_true, beq_iff_eq] at current
  have amount : m.intent.quotedFromAmount = some flight.amount :=
    congrArg QuoteTerms.amount vetted.terms
  refine ⟨flight, attested, held, vetted, solvable, executable, ?_, ?_⟩
  · exact Option.some.inj (vetted.trade.symm.trans current.2)
  · exact Option.some.inj (amount.symm.trans current.1)

/-- Of a vetted quote without a deposit, nothing was attested, and its intent was checked. -/
theorem Vouched.plain (vouched : Vouched log flight quote attested)
    (plain : quote.hasDeposit = false) :
    attested = none := by
  obtain ⟨_, _, _, _, _, _, -, -, -, -, passed, -⟩ := vouched
  cases passed.verified with
  | intent => rfl
  | deposit deposit =>
    rw [plain] at deposit
    cases deposit

/-- A price expiry that can be read is not past. One at the epoch counts as none. -/
def Unexpired (quote : QuoteResponse) (now : Int) : Prop :=
  ∀ t, Host.dateParse quote.expiry = some t → t.ms ≠ 0 → quote.expiry ≠ "" → now < t.ms

theorem unexpired_of_proceed {now : Int} (held : m.intent.quote = some quote)
    (proceeds : signPreflight m now = .proceed) : Unexpired quote now := by
  intro t read dated stated
  unfold signPreflight decideSignPreflight at proceeds
  rw [held] at proceeds
  dsimp only [Option.map_some, Option.getD_some] at proceeds
  have dates : (quote.expiry == "") = false := beq_eq_false_iff_ne.mpr stated
  rw [read, dates] at proceeds
  dsimp only [Option.map_some] at proceeds
  by_contra late
  have lapsed : (t.ms != 0 && decide (now ≥ t.ms)) = true := by
    simp only [Bool.and_eq_true, bne_iff_ne, decide_eq_true_eq]
    exact ⟨dated, not_lt.mp late⟩
  simp only [Bool.false_eq_true, if_false, lapsed, if_true] at proceeds
  repeat' split at proceeds
  all_goals cases proceeds

omit [Host] in
theorem transition_status (m : Model) (target : IntentStatus)
    (updates : IntentState → IntentState)
    (keeps : ∀ intent, (updates intent).status = intent.status) :
    (transition m target updates).value.intent.status = m.intent.status ∨
      (transition m target updates).value.intent.status = target := by
  cases edge : canTransitionTo m.intent.status target with
  | false => exact .inl (by rw [(transition_of_no_edge edge).1])
  | true => exact .inr (by rw [(transition_of_edge edge).1]; exact keeps _)

/-- What Confirm found when it showed a deposit address. -/
structure Reveals (m : Model) (now : Int) (quote : QuoteResponse) (limit : Int) : Prop where
  held : m.intent.quote = some quote
  signable : canSignQuote m.intent.status (some quote) = true
  current : holdsCurrentQuote m = true
  deposit : quote.hasDeposit = true
  deadline : m.intent.depositDeadline = some limit
  window : depositMinWindowSeconds ≤ limit - now / 1000

theorem beginIntentSign_unshown {eip712 : Eip712TypedData} {now : Int}
    (away : m.intent.status ≠ .awaiting_deposit) :
    (beginIntentSign m quote eip712 now).value.intent.status ≠ .awaiting_deposit := by
  have moves (target : IntentStatus) (other : target ≠ .awaiting_deposit)
      (updates : IntentState → IntentState)
      (keeps : ∀ intent, (updates intent).status = intent.status) :
      (transition m target updates).value.intent.status ≠ .awaiting_deposit := by
    rcases transition_status m target updates keeps with same | moved
    · rw [same]
      exact away
    · rw [moved]
      exact other
  unfold beginIntentSign
  split
  · exact away
  · exact moves .expired (by decide) _ fun _ => rfl
  all_goals
    dsimp only [promptIntent]
    split
    · exact away
    rw [value_bind]
    have signing := moves .signing (by decide) (fun intent => { intent with refusal := none })
      fun _ => rfl
    split
    · exact signing
    · exact signing

theorem beginSign_reveals {now : Int} (away : m.intent.status ≠ .awaiting_deposit)
    (shown : (beginSign m now).value.intent.status = .awaiting_deposit) :
    ∃ quote limit, Reveals m now quote limit := by
  unfold beginSign at shown
  split at shown
  · exact absurd shown away
  dsimp only at shown
  cases held : m.intent.quote with
  | none =>
    rw [held] at shown
    exact absurd shown away
  | some quote =>
    rw [held] at shown
    dsimp only at shown
    split at shown
    · exact absurd shown away
    rename_i signable
    split at shown
    · exact absurd shown away
    rename_i current
    split at shown
    · rename_i deposit
      unfold revealDeposit at shown
      dsimp only at shown
      cases deadline : m.intent.depositDeadline with
      | none =>
        rw [deadline, if_pos rfl, value_bind] at shown
        rcases transition_status m .expired (fun intent =>
          { intent with error := some (.text "Quote expired") }) fun _ => rfl with same | moved
        · exact absurd (same.symm.trans shown) away
        · cases moved.symm.trans shown
      | some limit =>
        refine ⟨quote, limit, held, by simpa using signable, by simpa using current, deposit,
          deadline, ?_⟩
        rw [deadline] at shown
        dsimp only at shown
        split at shown
        · rw [value_bind] at shown
          rcases transition_status m .expired (fun intent =>
            { intent with error := some (.text "Quote expired") }) fun _ => rfl with same | moved
          · exact absurd (same.symm.trans shown) away
          · cases moved.symm.trans shown
        · rename_i inside
          simpa using inside
    · split at shown
      · exact absurd shown away
      · exact absurd shown (beginIntentSign_unshown away)

/-! ## The prompt and the reveal -/

/-- A step that prompts for an intent found it signable, for the trade on the form. -/
theorem Next.prompts {i : Input} {id : String} {eip712 : Eip712TypedData} {chainId : Option Int}
    (inv : Inv m) (next : Next m i fx m')
    (mem : Effect.wallet (.signTypedData id .intent eip712 chainId) ∈ fx) :
    ∃ quote, m.intent.quote = some quote ∧ canSignQuote m.intent.status (some quote) = true ∧
      holdsCurrentQuote m = true ∧ quote.hasDeposit = false ∧ quote.eip712Data = some eip712 ∧
      signPreflight m i.2.now = .proceed := by
  rcases next.cases inv with ⟨rfl, -⟩ | ⟨fy, m₁, fz, stepped, settled, rfl⟩
  · cases mem
  have loud {fw : List Effect} (silent : ∀ e ∈ fw, e.prompts = false)
      (here : Effect.wallet (.signTypedData id .intent eip712 chainId) ∈ fw) : False := by
    cases silent _ here
  have quietly {fw : List Effect} (quiet : Quiet fw)
      (here : Effect.wallet (.signTypedData id .intent eip712 chainId) ∈ fw) : False := by
    cases quiet _ here
  rcases List.mem_append.mp mem with mem | mem
  · rcases stepped with chain | ceremony
    · exact (loud (chain_silent chain) mem).elim
    cases ceremony with
    | @prompted quote _ _ _ _ held signable current plain typed preflight _ before after =>
      rcases List.mem_append.mp mem with mem | mem
      · exact (quietly before mem).elim
      rcases List.mem_cons.mp mem with same | mem
      · cases same
        exact ⟨quote, held, signable, current, plain, typed, preflight⟩
      · exact (quietly after mem).elim
    | executed _ _ _ _ before =>
      rcases List.mem_append.mp mem with mem | mem
      · exact (quietly before mem).elim
      · cases List.mem_singleton.mp mem
    | kept _ _ _ _ _ h => exact (quietly h mem).elim
    | approvalAsked _ _ _ _ _ before =>
      rcases List.mem_append.mp mem with mem | mem
      · exact (quietly before mem).elim
      · cases List.mem_singleton.mp mem
    | tapped => cases List.mem_singleton.mp mem
    | tapRefused _ _ _ h => exact (quietly h mem).elim
    | pullPrompted _ _ _ _ after =>
      rcases List.mem_cons.mp mem with same | mem
      · cases same
      · exact (quietly after mem).elim
    | held _ _ _ _ _ _ _ _ _ _ h => exact (quietly h mem).elim
    | resent _ _ _ _ _ _ before =>
      rcases List.mem_append.mp mem with mem | mem
      · exact (quietly before mem).elim
      · cases List.mem_singleton.mp mem
  · exact (loud (chain_silent settled) mem).elim

/-- The rules show no deposit address, and hide none. -/
theorem settle_shown (wall : WallClock) (m : Model) (now : Int)
    (shown : (settle m now).value.intent.status = .awaiting_deposit) :
    m.intent.status = .awaiting_deposit ∧ (settle m now).value.intent = m.intent := by
  have settled : Settled wall now m _ (settle m now).value := settle_does rfl
  have before : m.intent.status = .awaiting_deposit := by
    by_contra away
    refine settled.invariant (P := fun x => x.intent.status ≠ .awaiting_deposit) ?_ away shown
    intro x fy y away act
    obtain ⟨change, -⟩ := act.of_rules rfl
    generalize y.intent = intent at change
    cases change with
    | kept same => rw [same.status]; exact away
    | lapsed quoted same => rw [same.status]; simp
    | reset => simp [initialIntentState]
  refine ⟨before, (settle_still (.of_away (.inr (.inl ?_)) ?_)).intent⟩
  · rw [before]
    rfl
  · rw [before]
    decide

/-- Confirm that shows a deposit address found its window open. -/
theorem Next.reveals {i : Input} (next : Next m i fx m') (body : i.2.body = .signRequested)
    (away : m.intent.status ≠ .awaiting_deposit) (shown : m'.intent.status = .awaiting_deposit) :
    ∃ quote limit, Reveals m i.2.now quote limit := by
  have stepped : step i.1 (receive m i.2) i.2 = .ok (beginSign (receive m i.2) i.2.now) := by
    rw [step, body]
  obtain ⟨-, rfl⟩ := next.of_step stepped
  obtain ⟨shown, -⟩ := settle_shown i.1 _ _ shown
  obtain ⟨quote, limit, reveals⟩ := beginSign_reveals (m := receive m i.2) away shown
  exact ⟨quote, limit, reveals.held, reveals.signable, reveals.current, reveals.deposit,
    reveals.deadline, reveals.window⟩

/-- Of a vetted deposit, the attestation was checked. -/
theorem Vouched.deposit (vouched : Vouched log flight quote attested)
    (deposit : quote.hasDeposit = true) :
    ∃ stored, attested = some stored := by
  obtain ⟨_, _, _, _, _, _, -, -, -, -, passed, -⟩ := vouched
  cases passed.verified with
  | intent plain =>
    rw [plain] at deposit
    cases deposit
  | deposit => exact ⟨_, rfl⟩

/-- Along every run, an intent is put to the wallet only of a vetted quote without a deposit, for
the trade on the form and before its price is past; and Confirm shows a deposit address only of a
vetted one, attested, with its window open. -/
theorem shown_vetted {i : Input} (run : MachineRun log m) (next : Next m i fx m') :
    (∀ id eip712 chainId, Effect.wallet (.signTypedData id .intent eip712 chainId) ∈ fx →
      ∃ flight quote, Offers log m flight quote none ∧ quote.hasDeposit = false ∧
        quote.eip712Data = some eip712 ∧ Unexpired quote i.2.now) ∧
    (i.2.body = .signRequested → m.intent.status ≠ .awaiting_deposit →
      m'.intent.status = .awaiting_deposit →
      ∃ flight quote stored limit, Offers log m flight quote (some stored) ∧
        quote.hasDeposit = true ∧ quote.depositDeadline = some limit ∧
        depositMinWindowSeconds ≤ limit - i.2.now / 1000) := by
  have vetted := run_vetted run
  constructor
  · intro id eip712 chainId mem
    obtain ⟨quote, held, signable, current, plain, typed, proceeds⟩ :=
      next.prompts (MachineRun.inv run) mem
    obtain ⟨flight, attested, offers⟩ := offers vetted held signable current
    obtain rfl := offers.vetted.vouched.plain plain
    exact ⟨flight, quote, offers, plain, typed, unexpired_of_proceed held proceeds⟩
  · intro body away shown
    obtain ⟨quote, limit, reveals⟩ := next.reveals body away shown
    obtain ⟨flight, attested, offers⟩ := offers vetted reveals.held reveals.signable reveals.current
    obtain ⟨stored, rfl⟩ := offers.vetted.vouched.deposit reveals.deposit
    refine ⟨flight, quote, stored, limit, offers, reveals.deposit, ?_, reveals.window⟩
    have stated := congrArg QuoteTerms.deadline offers.vetted.terms
    have landed : (landedTerms flight quote (some stored)).deadline = quote.depositDeadline :=
      if_pos reveals.deposit
    exact (stated.symm.trans reveals.deadline ▸ landed).symm

end

/-- The sample's intent prompt is of a vetted quote. -/
theorem sample_shown :
    letI := plainHost
    ∃ log m i, ∃ (fx : List Effect) (m' : Model) (id : String) (eip712 : Eip712TypedData)
      (chainId : Option Int), MachineRun log m ∧ Next m i fx m' ∧
      Effect.wallet (.signTypedData id .intent eip712 chainId) ∈ fx ∧
      ∃ flight quote, Offers log m flight quote none ∧ quote.hasDeposit = false ∧
        quote.eip712Data = some eip712 ∧ Unexpired quote i.2.now := by
  let _ := plainHost
  obtain ⟨log, m, pre, id, request, post, run, here⟩ := sample_sends
  obtain ⟨n, attempted⟩ := (traced_law.run run).2.lawful id request pre _ post here rfl
  obtain ⟨before, source, wall, msg, fx, first, later, same, signing⟩ := attempted.begins post
  obtain ⟨fy, m', ran, next⟩ := run.at_emitted (here.trans same)
  obtain ⟨flow, signature, pullSignature, live, rfl, completes, rfl⟩ :=
    next.sends_first (MachineRun.inv ran) signing
  obtain ⟨opener, quote, since, opened, -⟩ := (provenance_law.run ran).backed live signing completes
  obtain ⟨earlier, source', wall', msg', fz, eip712, split, -⟩ := opened
  obtain ⟨fw, m'', ran', next'⟩ := ran.at_emitted split
  let prompt := Effect.wallet (.signTypedData opener .intent eip712 source'.ctx.wallet.chainId)
  have mem : prompt ∈ fz ++ prompt :: fw := List.mem_append_right fz List.mem_cons_self
  exact ⟨earlier, source', (wall', msg'), _, m'', opener, eip712, source'.ctx.wallet.chainId, ran',
    next', mem, (shown_vetted ran' next').1 opener eip712 _ mem⟩

end XochiSdk.Client
