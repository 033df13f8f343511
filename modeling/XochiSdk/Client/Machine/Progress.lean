import XochiSdk.Client.Machine.Play
import XochiSdk.Client.Machine.Landing

/-!
# How far a form gets

Runs of the machine that get somewhere: an amount typed, its request sent, its quote held, its
ceremony signed. Each message leads from one of these models to the next, whatever the form
says, where the checks on the way are given as passed.
-/

namespace XochiSdk.Client

open XochiSdk.Js XochiSdk.Shared XochiSdk.Signer XochiSdk.Library Emits

/-- A form as the user fills it in. -/
structure Form where
  config : MachineConfig
  ctx : Context
  amount : String

/-- A message and the clocks it is handled under, the tab being visible. -/
abbrev told (wall : WallClock) (now : Int) (body : MsgBody) : Input :=
  (wall, { body := body, now := now, hidden := false })

section

variable [Host]

/-- A run reaches this model with the form filled in. -/
structure On (form : Form) (m : Model) : Prop where
  reachable : Reachable m
  config : m.config = form.config
  ctx : m.ctx = form.ctx
  amount : m.amount = form.amount
  account : SameAccount m
  untapped : m.isSigningPull = false

variable {form : Form} {m : Model} {wall : WallClock} {now : Int}

theorem answer_of_step {i : Input} {x : Machine Model}
    (stepped : step i.1 (receive m i.2) i.2 = .ok x) :
    (answer m i).2 = (settle x.value i.2.now).value :=
  ((next_answer m i).of_step stepped).2

/-- A step that leaves the rules nothing to do, and the form as it is. -/
theorem Reachable.on (form : Form) {i : Input} {x : Machine Model} (reachable : Reachable m)
    (stepped : step i.1 (receive m i.2) i.2 = .ok x) (config : x.value.config = form.config)
    (ctx : x.value.ctx = form.ctx) (amount : x.value.amount = form.amount)
    (account : SameAccount x.value) (untapped : x.value.isSigningPull = false)
    (shown : x.value.intent.status = .quoted → Calm i.2.now x.value) :
    On form (answer m i).2 ∧ Still x.value (answer m i).2 := by
  have calm : Calm i.2.now x.value := by
    by_cases quoted : x.value.intent.status = .quoted
    · exact shown quoted
    · exact ⟨.inr account, fun h => absurd h quoted⟩
  have still := settle_still calm
  rw [← answer_of_step stepped] at still
  obtain ⟨log, run⟩ := reachable
  refine ⟨⟨⟨_, run.step (next_answer m i)⟩, ?_, ?_, ?_, ?_, ?_⟩, still⟩
  · rw [still.same]
    exact config
  · rw [still.ctx, ctx]
  · rw [still.amount, amount]
  · exact ⟨by rw [still.intent, still.ctx]; exact account.address,
      by rw [still.intent, still.ctx]; exact account.chainId⟩
  · rw [still.same]
    exact untapped

theorem On.answer {i : Input} {x : Machine Model} (on : On form m)
    (stepped : step i.1 (receive m i.2) i.2 = .ok x) (config : x.value.config = m.config)
    (ctx : x.value.ctx = m.ctx) (amount : x.value.amount = m.amount)
    (account : SameAccount x.value) (untapped : x.value.isSigningPull = m.isSigningPull)
    (shown : x.value.intent.status = .quoted → Calm i.2.now x.value) :
    On form (answer m i).2 ∧ Still x.value (answer m i).2 :=
  on.reachable.on form stepped (config.trans on.config) (ctx.trans on.ctx) (amount.trans on.amount)
    account (untapped.trans on.untapped) shown

/-- Before anything is quoted there is no account to differ from. -/
theorem SameAccount.unquoted (address : m.intent.quotedAddress = none)
    (chainId : m.intent.quotedChainId = none) : SameAccount m :=
  ⟨.inl (by rw [address]; rfl), .inl chainId⟩

/-! ## An amount typed -/

/-- The amount is in, and nothing was asked. -/
structure Typed (form : Form) (m : Model) : Prop where
  on : On form m
  intent : m.intent = initialIntentState
  flights : m.flights = []
  allocationKey : m.allocationKey = none
  unseen : m.seenDepositAddresses = []

theorem typed (wall : WallClock) (now : Int) (form : Form) (set : form.amount ≠ "")
    (nonzero : form.amount ≠ "0") : ∃ m, Typed form m := by
  let blank := init form.config form.ctx false
  let i := told wall now (.quoteRequested form.amount)
  have stepped : step i.1 (receive blank i.2) i.2 =
      .ok (onQuoteRequested (receive blank i.2) form.amount) := rfl
  have value : (onQuoteRequested (receive blank i.2) form.amount).value =
      { blank with hidden := false, amount := form.amount } := by
    unfold onQuoteRequested
    simp only [value_bind]
    rw [if_neg (show form.amount ≠ (receive blank i.2).amount from set), value_bind,
      if_neg (by simp [set, nonzero])]
    rfl
  have reached : Reachable blank := ⟨[], .init ⟨_, _, _, rfl⟩⟩
  obtain ⟨on, still⟩ := reached.on form stepped (by rw [value]; rfl) (by rw [value]; rfl)
    (by rw [value]) (by rw [value]; exact .unquoted rfl rfl) (by rw [value]; rfl)
    (by rw [value]; exact fun h => by cases h)
  refine ⟨_, on, ?_, ?_, ?_, ?_⟩
  · rw [still.intent, value]
    rfl
  · rw [still.flights, value]
    rfl
  · rw [still.same, value]
    rfl
  · rw [still.same, value]
    rfl

/-! ## A request sent -/

omit [Host] in
theorem findFlight_put (m : Model) (flight : QuoteFlight) :
    findFlight (putFlight m flight) flight.id flight.stage = some flight := by
  have none : (m.flights.filter fun f => f.id != flight.id).find?
      (fun f => f.id == flight.id && f.stage == flight.stage) = none := by
    rw [List.find?_eq_none]
    intro f mem
    have := (List.mem_filter.mp mem).2
    simp only [bne_iff_ne, ne_eq] at this
    simp [this]
  unfold findFlight putFlight
  dsimp only
  rw [List.find?_append, none]
  simp

omit [Host] in
theorem findFlight_without {m : Model} {id gone : String} {stage : FlightStage} (other : id ≠ gone) :
    findFlight (withoutFlight m gone) id stage = findFlight m id stage := by
  unfold findFlight withoutFlight
  dsimp only
  induction m.flights with
  | nil => rfl
  | cons f rest ih =>
    by_cases own : f.id = gone
    · rw [List.filter_cons_of_neg (by simp [own]), List.find?_cons_of_neg (by simp [own, Ne.symm other])]
      exact ih
    · rw [List.filter_cons_of_pos (by simp [own]), List.find?_cons, List.find?_cons, ih]

omit [Host] in
theorem findFlight_put_other {m : Model} {flight : QuoteFlight} {id : String} {stage : FlightStage}
    (other : id ≠ flight.id) :
    findFlight (putFlight m flight) id stage = findFlight m id stage := by
  have alone : [flight].find? (fun f => f.id == id && f.stage == stage) = none := by
    simp [Ne.symm other]
  rw [← findFlight_without (m := m) other]
  unfold findFlight putFlight withoutFlight
  dsimp only
  rw [List.find?_append, alone, Option.or_none]

/-- A request that is valid where it is sent. -/
structure Askable (flight : QuoteFlight) (now : Int) : Prop where
  visible : flight.silent = false
  keys : ¬(flight.ctx.settlementPreference = .stealth ∧ flight.ctx.stealthMetaAddress = none)
  valid : validateSwapParams (flightRequest flight now) now = []

/-- The model of a request on its way. -/
def Model.quoting (m : Model) : Model :=
  { m with intent := { m.intent with status := .quoting, notSent := false } }

theorem sendQuote_sends {flight : QuoteFlight} (askable : Askable flight now)
    (idle : busy m = false) (edge : canTransitionTo m.intent.status .quoting = true) :
    (sendQuote m flight now).value = putFlight m.quoting (flight.sent now) := by
  unfold sendQuote
  rw [if_neg askable.keys]
  dsimp only
  rw [askable.valid]
  dsimp only
  rw [if_neg (by simp [askable.visible]), value_bind, (transition_of_edge edge).1,
    moved_idle idle rfl]
  rfl

/-- The flight a form's quote starts. -/
def Form.flight (form : Form) (id : String) (allocate : Option Allocation) : QuoteFlight where
  id := id
  stage := .session
  amount := form.amount
  silent := false
  forceRefresh := allocate.isSome
  allocate := allocate
  ctx := form.ctx
  depositOrigin := !isChainId form.ctx.fromChainId
  preview := quoteAccessDecision (textSet form.ctx.wallet.address) form.ctx.settlementPreference
    (!isChainId form.ctx.fromChainId) allocate.isSome == .preview
  request := none

/-- What the form asks for a quote with. -/
def Form.opts (form : Form) (allocate : Option Allocation) : QuoteOpts where
  amount := form.amount
  silent := false
  forceRefresh := allocate.isSome
  allocate := allocate

/-- A quote may be asked for with this form. -/
structure Form.Asks (form : Form) (allocate : Option Allocation) : Prop where
  access : quoteAccessDecision (textSet form.ctx.wallet.address) form.ctx.settlementPreference
    (!isChainId form.ctx.fromChainId) allocate.isSome ≠ .needs_wallet
  amount : form.amount ≠ ""

/-- The form's quote needs a session first. -/
def Form.sessioned (form : Form) (allocate : Option Allocation) : Bool :=
  (form.flight "" allocate).depositOrigin && !(form.flight "" allocate).preview

theorem startQuote_flies (m : Model) (now : Int) {allocate : Option Allocation} (ctx : m.ctx = form.ctx)
    (unmarked : m.intent.status ≠ .failed) (asks : form.Asks allocate) :
    startQuote m now (form.opts allocate) =
      if form.sessioned allocate then do
        emit (.wallet (.ensureSession ("q" ++ toString (m.seq + 1)) true))
        pure (putFlight { m with seq := m.seq + 1 }
          (form.flight ("q" ++ toString (m.seq + 1)) allocate))
      else
        sendQuote { m with seq := m.seq + 1 } (form.flight ("q" ++ toString (m.seq + 1)) allocate)
          now := by
  obtain ⟨config, held, amount⟩ := form
  have ctx : m.ctx = held := ctx
  subst ctx
  have access := asks.access
  unfold startQuote
  rw [if_neg (fun h => unmarked h.1)]
  dsimp only [Form.opts]
  rw [if_neg access]
  rfl

/-- A form's flight is in the air. -/
structure Sent (form : Form) (flight : QuoteFlight) (m : Model) : Prop where
  on : On form m
  quoting : m.intent.status = .quoting
  unquoted : m.intent.quotedAddress = none ∧ m.intent.quotedChainId = none
  found : findFlight m flight.id .api = some flight
  unseen : m.seenDepositAddresses = []

theorem Sent.of_value {flight : QuoteFlight} {i : Input} {x : Machine Model} {m₁ : Model}
    (on : On form m) (stepped : step i.1 (receive m i.2) i.2 = .ok x)
    (value : x.value = putFlight m₁.quoting (flight.sent i.2.now)) (config : m₁.config = m.config) (ctx : m₁.ctx = m.ctx)
    (amount : m₁.amount = m.amount) (untapped : m₁.isSigningPull = m.isSigningPull) (unquoted : m₁.intent.quotedAddress = none ∧
      m₁.intent.quotedChainId = none) (unseen : m₁.seenDepositAddresses = []) :
    Sent form (flight.sent i.2.now) (answer m i).2 ∧
      ∀ id, id ≠ flight.id → findFlight (answer m i).2 id .api = findFlight m₁ id .api := by
  obtain ⟨on', still⟩ := on.answer stepped (by rw [value]; exact config) (by rw [value]; exact ctx)
    (by rw [value]; exact amount) (by rw [value]; exact .unquoted unquoted.1 unquoted.2)
    (by rw [value]; exact untapped) (by rw [value]; exact fun h => by cases h)
  have flights (id : String) : findFlight (answer m i).2 id .api = findFlight x.value id .api := by
    rw [findFlight, still.flights]
    rfl
  refine ⟨⟨on', ?_, ?_, ?_, ?_⟩, fun id other => ?_⟩
  · rw [still.intent, value]
    rfl
  · rw [still.intent, value]
    exact unquoted
  · rw [flights, value]
    exact findFlight_put _ (flight.sent i.2.now)
  · rw [still.same, value]
    exact unseen
  · have other : id ≠ (flight.sent i.2.now).id := other
    rw [flights, value, findFlight_put_other other]
    rfl

/-- A quote the form asks for, without a session, is in the air beside those that were. -/
theorem refreshed (wall : WallClock) (on : On form m) (idle : busy m = false)
    (unmarked : m.intent.status ≠ .failed)
    (edge : canTransitionTo m.intent.status .quoting = true)
    (unquoted : m.intent.quotedAddress = none ∧ m.intent.quotedChainId = none)
    (unseen : m.seenDepositAddresses = []) (asks : form.Asks none) (sessionless : form.sessioned none = false)
    (askable : Askable (form.flight "" none) now) :
    ∃ flight m', flight = (form.flight ("q" ++ toString (m.seq + 1)) none).sent now ∧
      Sent form flight m' ∧
      ∀ id, id ≠ flight.id → findFlight m' id .api = findFlight m id .api := by
  let i := told wall now .refreshRequested
  have stepped : step i.1 (receive m i.2) i.2 = .ok (requestQuote (receive m i.2) now) := rfl
  have value : (requestQuote (receive m i.2) now).value =
      putFlight (Model.quoting { receive m i.2 with seq := m.seq + 1 })
        ((form.flight ("q" ++ toString (m.seq + 1)) none).sent now) := by
    have amount : (receive m i.2).amount = form.amount := on.amount
    have ctx : (receive m i.2).ctx = form.ctx := on.ctx
    unfold requestQuote
    have calm : quoteBusyStates.contains (receive m i.2).intent.status = false := idle
    rw [calm, if_neg (by decide), if_pos (by rw [amount]; exact asks.amount), amount]
    have flies := startQuote_flies (receive m i.2) now ctx unmarked asks
    rw [sessionless, if_neg (by decide)] at flies
    have opts : quoteOpts form.amount = form.opts none := rfl
    rw [opts, flies]
    exact sendQuote_sends (m := { receive m i.2 with seq := m.seq + 1 })
      ⟨askable.visible, askable.keys, askable.valid⟩ idle edge
  obtain ⟨sent, others⟩ := Sent.of_value on stepped value rfl rfl rfl rfl unquoted unseen
  exact ⟨_, _, rfl, sent, others⟩

/-- An allocation the form asks for is in the air once its session is there. -/
theorem allocated (wall : WallClock) (typed : Typed form m) (key ref : String)
    (asks : form.Asks (some ⟨key, ref⟩)) (deposit : isChainId form.ctx.fromChainId = false)
    (connected : textSet form.ctx.wallet.address = true)
    (sessioned : form.sessioned (some ⟨key, ref⟩) = true)
    (askable : Askable (form.flight "" (some ⟨key, ref⟩)) now) :
    ∃ flight m', flight = (form.flight ("q" ++ toString (m.seq + 1)) (some ⟨key, ref⟩)).sent now ∧
      Sent form flight m' := by
  let i := told wall now (.allocateRequested key ref)
  let flight := form.flight ("q" ++ toString (m.seq + 1)) (some ⟨key, ref⟩)
  have stepped : step i.1 (receive m i.2) i.2 =
      .ok (onAllocateRequested (receive m i.2) key ref now) := rfl
  have value : (onAllocateRequested (receive m i.2) key ref now).value =
      putFlight { receive m i.2 with allocationKey := some key, seq := m.seq + 1 } flight := by
    have open_ : allocationRefused (receive m i.2) = false := by
      have ctx : (receive m i.2).ctx = form.ctx := typed.on.ctx
      have amount : (receive m i.2).amount = form.amount := typed.on.amount
      have idle : (receive m i.2).intent.status = .idle := by
        rw [receive, typed.intent]
        rfl
      unfold allocationRefused
      rw [ctx, amount, deposit, connected, idle, show allocatableStates.contains .idle = true from rfl]
      simpa using asks.amount
    have named : (receive m i.2).allocationKey = none := typed.allocationKey
    have flies := startQuote_flies { receive m i.2 with allocationKey := some key } now
      typed.on.ctx (by rw [receive, typed.intent]; decide) asks
    rw [sessioned, if_pos rfl] at flies
    unfold onAllocateRequested
    rw [open_, if_neg (by decide), named]
    have opts : ({ amount := (receive m i.2).amount, silent := false, forceRefresh := true
                   allocate := some ⟨key, ref⟩ } : QuoteOpts) = form.opts (some ⟨key, ref⟩) := by
      rw [show (receive m i.2).amount = form.amount from typed.on.amount]
      rfl
    have started := congrArg Emits.value flies
    rw [← opts] at started
    exact started
  have idle : (onAllocateRequested (receive m i.2) key ref now).value.intent = initialIntentState := by
    rw [value]
    exact typed.intent
  obtain ⟨on, still⟩ := typed.on.answer stepped (by rw [value]; rfl) (by rw [value]; rfl)
    (by rw [value]; rfl) (.unquoted (by rw [idle]; rfl) (by rw [idle]; rfl))
    (by rw [value]; rfl) (by rw [idle]; exact fun h => by cases h)
  have waits : (answer m i).2.intent = initialIntentState := still.intent.trans idle
  have unseen : (answer m i).2.seenDepositAddresses = [] := by
    rw [still.same, value]
    exact typed.unseen
  have found : findFlight (answer m i).2 flight.id .session = some flight := by
    rw [findFlight, still.flights, value]
    exact findFlight_put _ flight
  generalize (answer m i).2 = next at on waits found unseen
  let i' := told wall now (.sessionReplied flight.id .ok)
  have stepped' : step i'.1 (receive next i'.2) i'.2 =
      .ok (onSession (receive next i'.2) flight.id .ok now) := rfl
  have value' : (onSession (receive next i'.2) flight.id .ok now).value =
      putFlight (Model.quoting (receive next i'.2)) (flight.sent now) := by
    have found : findFlight (receive next i'.2) flight.id .session = some flight := found
    have status : (receive next i'.2).intent.status = .idle := by
      rw [receive, waits]
      rfl
    unfold onSession
    rw [found]
    dsimp only
    rw [status, if_neg (by decide), if_pos rfl]
    exact sendQuote_sends (m := receive next i'.2) ⟨askable.visible, askable.keys, askable.valid⟩
      (by rw [busy, status]; rfl) (by rw [status]; rfl)
  obtain ⟨sent, -⟩ := Sent.of_value on stepped' value' rfl rfl rfl rfl
    ⟨by rw [receive, waits]; rfl, by rw [receive, waits]; rfl⟩ unseen
  exact ⟨_, _, rfl, sent⟩

/-- A quote's failure, not an allocation's, fails the intent and leaves the others in the air. -/
theorem quoteErred (wall : WallClock) (now : Int) {flight : QuoteFlight} (sent : Sent form flight m)
    (visible : flight.silent = false) (plain : flight.allocate = none) (failure : ErrorReport) :
    ∃ m', On form m' ∧ m'.intent.status = .failed ∧ m'.seenDepositAddresses = [] ∧
      ∀ id, id ≠ flight.id → findFlight m' id .api = findFlight m id .api := by
  let i := told wall now (.quoteReplied flight.id (.error failure))
  have stepped : step i.1 (receive m i.2) i.2 =
      .ok (onQuote wall (receive m i.2) flight.id (.error failure) now) := rfl
  have value : (onQuote wall (receive m i.2) flight.id (.error failure) now).value =
      patch (withoutFlight (receive m i.2) flight.id) fun intent =>
        { intent with
          status := .failed
          error := some (failure.value.getD (.text "Quote request failed")), quote := none } := by
    have found : findFlight (receive m i.2) flight.id .api = some flight := sent.found
    have status : (receive m i.2).intent.status = .quoting := sent.quoting
    unfold onQuote
    rw [found]
    dsimp only
    rw [status, if_neg (by decide)]
    unfold quoteThrew
    simp only [value_bind]
    rw [if_neg (by simp [visible])]
    unfold quoteFailed
    rw [plain]
    rfl
  obtain ⟨on, still⟩ := sent.on.answer stepped (by rw [value]; rfl) (by rw [value]; rfl)
    (by rw [value]; rfl) (by rw [value]; exact .unquoted sent.unquoted.1 sent.unquoted.2)
    (by rw [value]; rfl) (by rw [value]; exact fun h => by cases h)
  refine ⟨_, on, ?_, ?_, fun id other => ?_⟩
  · rw [still.intent, value]
    rfl
  · rw [still.same, value]
    exact sent.unseen
  · rw [findFlight, still.flights, value]
    exact findFlight_without other

/-! ## A quote held -/

/-- A form's quote is on screen. -/
structure Quoted (form : Form) (flight : QuoteFlight) (quote : QuoteResponse) (m : Model) : Prop where
  on : On form m
  status : m.intent.status = .quoted
  held : m.intent.quote = some quote
  amount : m.intent.quotedFromAmount = some flight.amount
  address : m.intent.quotedAddress = flight.ctx.wallet.address
  chainId : m.intent.quotedChainId = flight.ctx.wallet.chainId
  trade : m.quotedTrade = some (tradeKey flight.ctx)

omit [Host] in
theorem depositPrecheck_ok {quote : QuoteResponse} (request : QuoteRequest)
    {resolved : SettlementType}
    (settles : quote.settlementType = some resolved) (connected : textSet request.wallet = true)
    (same : resolved = request.settlementPreference) :
    depositPrecheck quote (some request) = .ok request := by
  unfold depositPrecheck
  rw [settles]
  dsimp only
  rw [connected, if_neg (by decide), if_neg (not_not.mpr same)]

theorem Passed.receive {flight : QuoteFlight} {quote : QuoteResponse}
    {attested : Option StoredDepositAttestation} {seen : SeenDepositAddresses}
    (passed : Passed wall m flight quote attested seen) (msg : Msg) :
    Passed wall (receive m msg) flight quote attested seen := by
  refine ⟨passed.found, passed.idle, passed.live, passed.gates, ?_⟩
  cases passed.verified with
  | intent plain => exact .intent plain
  | deposit deposit precheck checked => exact .deposit deposit precheck checked

/-- A quote that passes the gates is held. -/
theorem landed {wall : WallClock} (now : Int) {flight : QuoteFlight} {quote : QuoteResponse}
    {attested : Option StoredDepositAttestation} {seen : SeenDepositAddresses}
    (sent : Sent form flight m) (visible : flight.silent = false)
    (passed : Passed wall m flight quote attested seen) (executable : quote.preview = false)
    (lasts : quote.hasDeposit = true ∨ priceLapsed quote now = false) :
    ∃ m', Quoted form flight quote m' := by
  let i := told wall now (.quoteReplied flight.id (.ok quote))
  have stepped : step i.1 (receive m i.2) i.2 = .ok (acceptQuote
      { withoutFlight (receive m i.2) flight.id with seenDepositAddresses := seen } flight quote
      attested i.2.now) := by
    rw [← (passed.receive i.2).accepts]
    rfl
  have edge : canTransitionTo m.intent.status .quoted = true := by
    rw [sent.quoting]
    rfl
  have lands : Landed _ flight quote attested _ :=
    acceptQuote_lands { withoutFlight (receive m i.2) flight.id with
      seenDepositAddresses := seen } now visible passed.idle (.inr edge)
  have inv : FlightInv m := sent.on.reachable.inv.flight
  have ok : FlightOk { withoutFlight (receive m i.2) flight.id with seenDepositAddresses := seen }
      flight := (inv.flights flight (findFlight_mem sent.found).1).congr rfl rfl
  obtain ⟨before, -, intent⟩ := lands.intent
  obtain ⟨on, still⟩ := sent.on.answer stepped (by rw [lands.same]; rfl) (by rw [lands.same]; rfl)
    (by rw [lands.same]; rfl) (lands.account ok) (by rw [lands.same]; rfl)
    fun _ => lands.calm ok executable lasts
  refine ⟨_, on, ?_, ?_, ?_, ?_, ?_, ?_⟩
  · rw [still.intent, lands.status]
  · rw [still.intent, lands.held]
  · rw [still.intent, intent]
    rfl
  · rw [still.intent, intent]
    simp [quoteState, executable]
  · rw [still.intent, intent]
    rfl
  · rw [still.same, lands.same]

/-! ## A ceremony -/

/-- What Confirm checks of a form's quote. -/
structure Confirmable (form : Form) (quote : QuoteResponse) (eip712 : Eip712TypedData) (now : Int) :
    Prop where
  solvable : quote.canSolve = true
  executable : quote.preview = false
  plain : quote.hasDeposit = false
  typed : quote.eip712Data = some eip712
  preflight : decideSignPreflight
    { hasDepositAddress := false
      hasEip712 := true
      address := form.ctx.wallet.address
      quotedAddress := form.ctx.wallet.address
      quotedChainId := form.ctx.wallet.chainId
      chainId := form.ctx.wallet.chainId
      originChainId := form.ctx.fromChainId
      expiryMs := if quote.expiry == "" then some 0 else (Host.dateParse quote.expiry).map (·.ms)
      now := now } = .proceed
  payout : validatePayoutPin eip712 quote.toAmount
    (textOrNone (textOrNone (form.ctx.recipientAddress.map trim) <|> form.ctx.wallet.address)) = none

/-- The trade a ceremony holds. -/
structure Trades (form : Form) (quote : QuoteResponse) (m : Model) : Prop where
  on : On form m
  held : m.intent.quote = some quote
  amount : m.intent.quotedFromAmount = some form.amount
  address : m.intent.quotedAddress = form.ctx.wallet.address
  chainId : m.intent.quotedChainId = form.ctx.wallet.chainId

/-- The preflight reads what the form and its quote say. -/
theorem Trades.preflight {quote : QuoteResponse} {eip712 : Eip712TypedData}
    (trades : Trades form quote m) (confirmable : Confirmable form quote eip712 now) :
    signPreflight m now = .proceed := by
  unfold signPreflight
  rw [trades.held, trades.on.ctx, trades.address, trades.chainId]
  exact confirmable.preflight

/-- A ceremony is at a stage. -/
structure Signs (form : Form) (quote : QuoteResponse) (flow : SignFlow) (m : Model) : Prop where
  trades : Trades form quote m
  status : m.intent.status = .signing
  sign : m.sign = some flow

theorem confirmed (wall : WallClock) {flight : QuoteFlight} {quote : QuoteResponse}
    {eip712 : Eip712TypedData} (quoted : Quoted form flight quote m)
    (own : flight.amount = form.amount ∧ flight.ctx = form.ctx)
    (confirmable : Confirmable form quote eip712 now) :
    ∃ flow m', flow.stage = .intent ∧ flow.origin = .sign ∧ Signs form quote flow m' := by
  let i := told wall now .signRequested
  have stepped : step i.1 (receive m i.2) i.2 = .ok (beginSign (receive m i.2) now) := rfl
  have trades : Trades form quote m :=
    ⟨quoted.on, quoted.held, by rw [quoted.amount, own.1], by rw [quoted.address, own.2],
      by rw [quoted.chainId, own.2]⟩
  have holds : holdsCurrentQuote m = true := by
    unfold holdsCurrentQuote
    rw [quoted.amount, quoted.trade, own.1, own.2, quoted.on.ctx, quoted.on.amount]
    simp
  let flow : SignFlow :=
    { id := "s" ++ toString (m.seq + 1), origin := .sign, stage := .intent
      intentSignature := none, execute := none }
  have value : (beginSign (receive m i.2) now).value =
      { moved (receive m i.2) .signing
          { m.intent with status := .signing, refusal := none } with
        seq := m.seq + 1, sign := some flow } := by
    have status : (receive m i.2).intent.status = .quoted := quoted.status
    have held : (receive m i.2).intent.quote = some quote := quoted.held
    have holds : holdsCurrentQuote (receive m i.2) = true := holds
    have signable : canSignQuote .quoted (some quote) = true := by
      simp [canSignQuote, confirmable.solvable, confirmable.executable]
    have preflight : signPreflight (receive m i.2) now = .proceed := trades.preflight confirmable
    have recipient : validatePayoutPin eip712 quote.toAmount
        (textOrNone (textOrNone ((receive m i.2).ctx.recipientAddress.map trim) <|>
          (receive m i.2).ctx.wallet.address)) = none := by
      rw [show (receive m i.2).ctx = form.ctx from quoted.on.ctx]
      exact confirmable.payout
    have edge : canTransitionTo (receive m i.2).intent.status .signing = true := by
      rw [status]
      rfl
    unfold beginSign
    rw [status, if_neg (by simp), held]
    dsimp only
    rw [signable, if_neg (by decide), holds, if_neg (by decide), confirmable.plain,
      if_neg (by decide), confirmable.typed]
    dsimp only
    unfold beginIntentSign
    rw [preflight]
    dsimp only [promptIntent]
    rw [recipient]
    dsimp only
    rw [value_bind, (transition_of_edge edge).1]
    split
    · rename_i refused
      exact absurd rfl refused
    · rfl
  have signing : (beginSign (receive m i.2) now).value.intent.status = .signing := by
    rw [value]
    rfl
  obtain ⟨on, still⟩ := quoted.on.answer stepped (by rw [value]; rfl) (by rw [value]; rfl)
    (by rw [value]; rfl)
    (by rw [value]; exact ⟨quoted.on.account.address, quoted.on.account.chainId⟩)
    (by rw [value]; simp [moved, endsCeremony, receive, quoted.status])
    (by rw [signing]; exact fun h => by cases h)
  refine ⟨flow, _, rfl, rfl, ⟨on, ?_, ?_, ?_, ?_⟩, ?_, ?_⟩
  · rw [still.intent, value]
    exact trades.held
  · rw [still.intent, value]
    exact trades.amount
  · rw [still.intent, value]
    exact trades.address
  · rw [still.intent, value]
    exact trades.chainId
  · rw [still.intent, signing]
  · rw [still.sign, value]

/-- A step of the ceremony that keeps its trade. -/
theorem Signs.onward {quote : QuoteResponse} {flow flow' : SignFlow} {i : Input}
    {x : Machine Model} (signs : Signs form quote flow m)
    (stepped : step i.1 (receive m i.2) i.2 = .ok x)
    (same : ∃ pending awaiting, x.value = { receive m i.2 with
      pendingIntentSig := pending, awaitingPull := awaiting, sign := some flow' }) :
    Signs form quote flow' (answer m i).2 ∧
      (answer m i).2.pendingIntentSig = x.value.pendingIntentSig := by
  obtain ⟨pending, awaiting, value⟩ := same
  have status : x.value.intent.status = .signing := by
    rw [value]
    exact signs.status
  obtain ⟨on, still⟩ := signs.trades.on.answer stepped (by rw [value]; rfl) (by rw [value]; rfl)
    (by rw [value]; rfl)
    (by rw [value]; exact ⟨signs.trades.on.account.address, signs.trades.on.account.chainId⟩)
    (by rw [value]; rfl) (by rw [status]; exact fun h => by cases h)
  have intent : (answer m i).2.intent = m.intent := by
    rw [still.intent, value]
    rfl
  refine ⟨⟨⟨on, ?_, ?_, ?_, ?_⟩, ?_, ?_⟩, ?_⟩
  · rw [intent, signs.trades.held]
  · rw [intent, signs.trades.amount]
  · rw [intent, signs.trades.address]
  · rw [intent, signs.trades.chainId]
  · rw [intent, signs.status]
  · rw [still.sign, value]
  · rw [still.same]

/-- What a form's pull passes. -/
structure Pullable (form : Form) (quote : QuoteResponse) (pull : Eip712TypedData) (expected : Int) :
    Prop where
  held : quote.pullAuthorization = some pull
  typed : ∃ eip712, quote.eip712Data = some eip712
  set : form.amount ≠ ""
  amount : bigInt form.amount = some expected
  pin : validateSolverPin pull form.config.solverPin expected = .ok none

theorem Trades.pinned {quote : QuoteResponse} {pull : Eip712TypedData} {expected : Int}
    (trades : Trades form quote m) (pullable : Pullable form quote pull expected) :
    Pinned m pull expected := by
  obtain ⟨eip712, typed⟩ := pullable.typed
  refine ⟨by rw [trades.held]; exact pullable.held, ⟨eip712, by rw [trades.held]; exact typed, ?_⟩,
    by rw [trades.on.config]; exact pullable.pin⟩
  unfold expectedPullAmount
  rw [trades.amount, if_pos (by simp [textSet, pullable.set])]
  unfold readAmount
  simp [Value.ofText, Value.asBigInt, Value.text, pullable.amount]

theorem completePull_asks {pull : Eip712TypedData} {expected : Int} (pinned : Pinned m pull expected)
    (flow : SignFlow) :
    ∃ x, completePull m flow = .ok x ∧
      x.value = { m with sign := some { flow with stage := .approval } } := by
  obtain ⟨eip712, typed, amount⟩ := pinned.amount
  unfold completePull
  rw [pinned.held, typed]
  dsimp only
  rw [amount]
  dsimp only
  rw [pinned.pin]
  exact ⟨_, rfl, rfl⟩

theorem approvalAsked (wall : WallClock) (now : Int) {quote : QuoteResponse} {flow : SignFlow}
    {pull : Eip712TypedData} {expected : Int} (signs : Signs form quote flow m)
    (stage : flow.stage = .intent) (pullable : Pullable form quote pull expected)
    (inPlace : form.ctx.wallet.stepwise = false) (signature : String) :
    ∃ m', Signs form quote { flow with intentSignature := some signature, stage := .approval } m' ∧
      m'.pendingIntentSig = some signature := by
  let i := told wall now (.signReplied flow.id .intent (.ok signature))
  have pinned := signs.trades.pinned pullable
  have signed : ∃ x, onSigned (receive m i.2) flow.id .intent (.ok signature) now = .ok x ∧
      x.value = { receive m i.2 with
        pendingIntentSig := some signature
        sign := some { flow with intentSignature := some signature, stage := .approval } } := by
    have live : (receive m i.2).sign = some flow := signs.sign
    have status : (receive m i.2).intent.status = .signing := signs.status
    have stepwise : (receive m i.2).ctx.wallet.stepwise = false := by
      rw [show (receive m i.2).ctx = form.ctx from signs.trades.on.ctx]
      exact inPlace
    unfold onSigned
    rw [live]
    dsimp only
    rw [if_neg (by simp [stage, Purpose.stage]), status, if_neg (by simp)]
    have held' : (receive m i.2).intent.quote.bind (·.pullAuthorization) = some pull := pinned.held
    rw [held', stepwise, if_neg (by simp), if_neg (by simp)]
    obtain ⟨x, asks, value⟩ := completePull_asks
      (m := { receive m i.2 with pendingIntentSig := some signature })
      ⟨pinned.held, pinned.amount, pinned.pin⟩ { flow with intentSignature := some signature }
    have asks' : completePull
        { receive m i.2 with pendingIntentSig := some signature, sign := some flow }
        { flow with intentSignature := some signature } = .ok x := by
      rw [← asks, ← live]
    rw [asks']
    exact ⟨_, rfl, value⟩
  obtain ⟨x, stepped, value⟩ := signed
  obtain ⟨signs', pending⟩ := signs.onward (i := i) stepped ⟨some signature, _, value⟩
  exact ⟨_, signs', by rw [pending, value]⟩

theorem pullAsked (wall : WallClock) (now : Int) {quote : QuoteResponse} {flow : SignFlow}
    {pull : Eip712TypedData} {expected : Int} (signs : Signs form quote flow m)
    (stage : flow.stage = .approval) (pullable : Pullable form quote pull expected) :
    ∃ m', Signs form quote { flow with stage := .pull } m' ∧
      m'.pendingIntentSig = m.pendingIntentSig := by
  let i := told wall now (.approvalReplied flow.id (.ok true))
  have stepped : step i.1 (receive m i.2) i.2 =
      .ok (onApproval (receive m i.2) flow.id (.ok true)) := rfl
  have value : (onApproval (receive m i.2) flow.id (.ok true)).value =
      { receive m i.2 with sign := some { flow with stage := .pull } } := by
    have live : (receive m i.2).sign = some flow := signs.sign
    have held : (receive m i.2).intent.quote.bind (·.pullAuthorization) = some pull :=
      (signs.trades.pinned pullable).held
    unfold onApproval
    rw [live]
    dsimp only
    rw [if_neg (by simp [stage]), held]
    rfl
  obtain ⟨signs', pending⟩ := signs.onward (i := i) stepped ⟨_, _, value⟩
  exact ⟨_, signs', by rw [pending, value]; rfl⟩

/-- An execute of Confirm's own flow is out. -/
structure Executes (form : Form) (quote : QuoteResponse) (flow : SignFlow) (m : Model) : Prop where
  trades : Trades form quote m
  status : m.intent.status = .executing
  sign : m.sign = some flow
  stage : flow.stage = .execute
  origin : flow.origin = .sign
  out : awaitingResend m = false

theorem executed (wall : WallClock) (now : Int) {quote : QuoteResponse} {flow : SignFlow}
    (signs : Signs form quote flow m) (stage : flow.stage = .pull)
    (origin : flow.origin = .sign) (pullSignature : String) :
    ∃ sent m', Executes form quote sent m' ∧ m'.pendingIntentSig = m.pendingIntentSig := by
  let i := told wall now (.signReplied flow.id .pull (.ok pullSignature))
  let request : ExecuteRequest :=
    { intentId := m.intent.intentId.getD "", quoteId := m.intent.quoteId.getD ""
      signature := flow.intentSignature.getD "", nonce := now
      pullSignature := some pullSignature }
  let sent : SignFlow := { flow with
    stage := .execute
    execute := some { request := request, resends := 0, resendAt := none, error := none } }
  have signed : ∃ x, step i.1 (receive m i.2) i.2 = .ok x ∧ x.value =
      { receive m i.2 with
        intent := { m.intent with status := .executing, notSent := false }
        awaitingPull := false, sign := some sent, submittedAt := some now, clientFillMs := none } := by
    have live : (receive m i.2).sign = some flow := signs.sign
    have status : (receive m i.2).intent.status = .signing := signs.status
    obtain ⟨-, -, -, ran⟩ := runExecute_spec
      (m := { receive m i.2 with awaitingPull := false }) flow (flow.intentSignature.getD "")
      (some pullSignature) now status
    have steps : step i.1 (receive m i.2) i.2 = .ok (do
        clearTimer .signPrompt
        runExecute { receive m i.2 with awaitingPull := false } flow
          (flow.intentSignature.getD "") (some pullSignature) now) := by
      have body : step i.1 (receive m i.2) i.2 =
          onSigned (receive m i.2) flow.id .pull (.ok pullSignature) now := rfl
      rw [body]
      unfold onSigned
      rw [live]
      dsimp only
      rw [if_neg (by simp [stage, Purpose.stage]), status, if_neg (by simp), ← live]
    exact ⟨_, steps, by rw [value_bind, ran]; rfl⟩
  obtain ⟨x, stepped, value⟩ := signed
  have executing : x.value.intent.status = .executing := by rw [value]
  obtain ⟨on, still⟩ := signs.trades.on.answer stepped (by rw [value]; rfl) (by rw [value]; rfl)
    (by rw [value]; rfl)
    (by rw [value]; exact ⟨signs.trades.on.account.address, signs.trades.on.account.chainId⟩)
    (by rw [value]; rfl) (by rw [executing]; exact fun h => by cases h)
  have intent : (answer m i).2.intent = { m.intent with status := .executing, notSent := false } := by
    rw [still.intent, value]
  have out : (answer m i).2.sign = some sent := by rw [still.sign, value]
  refine ⟨sent, _, ⟨⟨on, ?_, ?_, ?_, ?_⟩, ?_, out, rfl, origin, ?_⟩, ?_⟩
  · rw [intent]
    exact signs.trades.held
  · rw [intent]
    exact signs.trades.amount
  · rw [intent]
    exact signs.trades.address
  · rw [intent]
    exact signs.trades.chainId
  · rw [intent]
  · unfold awaitingResend
    rw [out]
    rfl
  · rw [still.same, value]
    rfl

/-- A prompt timer that fires late ends the flow of an execute that is out. -/
theorem timedOut (wall : WallClock) (now : Int) {quote : QuoteResponse} {flow : SignFlow}
    (executes : Executes form quote flow m) :
    ∃ m', Trades form quote m' ∧ m'.intent.status = .executing ∧ m'.sign = none ∧
      m'.pendingIntentSig = m.pendingIntentSig := by
  let i := told wall now (.timerFired .signPrompt)
  have stepped : step i.1 (receive m i.2) i.2 =
      .ok (signFlowFailed (receive m i.2) promptTimeout) := rfl
  have value : (signFlowFailed (receive m i.2) promptTimeout).value =
      { receive m i.2 with sign := none } := by
    have live : (receive m i.2).sign = some flow := executes.sign
    have status : (receive m i.2).intent.status = .executing := executes.status
    have edge : canTransitionTo (endSignFlow (receive m i.2) flow).intent.status .quoted = false := by
      rw [endSignFlow, status]
      rfl
    unfold signFlowFailed
    rw [live]
    dsimp only
    rw [value_bind, executes.origin]
    simp only [promptTimeout, ErrorValue.isText, beq_self_eq_true, Bool.false_eq_true, if_false,
      if_true]
    rw [(transition_of_no_edge edge).1, endSignFlow, executes.origin]
    rfl
  have executing : (signFlowFailed (receive m i.2) promptTimeout).value.intent.status =
      .executing := by
    rw [value]
    exact executes.status
  obtain ⟨trades, -, -, -, -, -⟩ := executes
  obtain ⟨on, still⟩ := trades.on.answer stepped (by rw [value]; rfl) (by rw [value]; rfl)
    (by rw [value]; rfl) (by rw [value]; exact ⟨trades.on.account.address, trades.on.account.chainId⟩)
    (by rw [value]; rfl) (by rw [executing]; exact fun h => by cases h)
  have intent : (answer m i).2.intent = m.intent := by
    rw [still.intent, value]
    rfl
  refine ⟨_, ⟨on, ?_, ?_, ?_, ?_⟩, ?_, ?_, ?_⟩
  · rw [intent, trades.held]
  · rw [intent, trades.amount]
  · rw [intent, trades.address]
  · rw [intent, trades.chainId]
  · rw [still.intent, executing]
  · rw [still.sign, value]
  · rw [still.same, value]
    rfl

end

/-! ## Two sample forms -/

def sampleAddress : String := "0x2c7536e3605d9c16a7a3d7b1898e529396a65c23"

def sampleContext : Context where
  fromChainId := 1
  toChainId := 8453
  fromToken := "0xA0b86991c6218b36c1d19D4a2e9Eb0cE3606eB48"
  toToken := "0x833589fCD6eDb6E08f4c7C32D4f71b54bdA02913"
  settlementPreference := .public
  trustScore := 0
  slippageBps := 50
  recipientAddress := none
  refundAddress := none
  stealthMetaAddress := none
  ref := none
  promo := none
  paused := false
  wallet := { address := some sampleAddress, chainId := some 1, stepwise := false }

/-- A form whose funds are pulled. -/
def sampleForm : Form where
  config := sampleConfig
  ctx := sampleContext
  amount := "1000"

def sampleIntent : Eip712TypedData where
  domain :=
    { name := "Xochi", version := none, chainId := .ofInt 1, verifyingContract := none
      salt := none }
  types := []
  primaryType := "XochiIntent"
  message := [("wallet", .str sampleAddress), ("fromChainId", .ofInt 1), ("toChainId", .ofInt 8453),
    ("fromToken", .str sampleContext.fromToken), ("toToken", .str sampleContext.toToken),
    ("recipient", .str sampleAddress), ("settlementPreference", .str "public"),
    ("deadline", .ofInt 1735689900), ("fromAmount", .str "1000"), ("toAmount", .str "990")]

def samplePull : Eip712TypedData where
  domain :=
    { name := "USD Coin", version := some "2", chainId := .ofInt 1
      verifyingContract := some sampleContext.fromToken, salt := none }
  types := [(erc3009Type, [])]
  primaryType := erc3009Type
  message := [("from", .str sampleAddress), ("to", .str simpleAccountFactory),
    ("value", .str "1000"), ("validAfter", .ofInt 0), ("validBefore", .ofInt 1735689900)]

def sampleQuote : QuoteResponse where
  success := true
  intentId := "i"
  quoteId := "q"
  canSolve := true
  preview := false
  toAmount := "990"
  minToAmount := "980"
  expiry := "2030-01-01T00:00:00.000Z"
  eip712Data := some sampleIntent
  pullAuthorization := some samplePull
  depositAddress := none
  depositAttestation := none
  depositDeadline := none
  settlementType := some .public
  escrow := .null
  recipientAddress := none
  claimInfo := none
  error := none

/-- A form whose funds come from a deposit. -/
def depositForm : Form where
  config := { sampleConfig with
    depositAttestationSigner := some "0x7e5f4552091a69125d5dfcb7b8c2659029395bdf" }
  ctx := { sampleContext with fromChainId := tronChainId }
  amount := "1000"

/-- That signer's signature over the deposit quote's message. -/
def sampleAttestation : String :=
  "0x871c273747f11a84df48b8d013e49e1783e62bebca28cbb00514a0c5d1fdb724" ++
    "32f643645d918a5c7e0ab072f0a5134706d48d0f1106bf7006ee670a72dd41401c"

def depositQuote : QuoteResponse :=
  { sampleQuote with
    expiry := "2025-01-01T00:01:00.000Z"
    eip712Data := none
    pullAuthorization := none
    depositAddress := some "TJRabPrwbZy45sbavfcjinPJC18kjpRTv8"
    depositAttestation := some sampleAttestation
    depositDeadline := some 1735693200 }

/-- A host that reads the deposit quote's expiry and recovers its signer. -/
@[reducible] def depositHost : Host :=
  { plainHost with
    dateParse := fun s =>
      if s = "2025-01-01T00:01:00.000Z" then some ⟨1735689660000, by decide⟩ else none
    verifyMessage := fun _ signature =>
      if signature = sampleAttestation then .ok "0x7E5F4552091A69125d5DfCb7b8C2659029395Bdf"
      else .error "invalid signature" }

/-- The sample's quote, held. -/
theorem sample_quoted :
    letI := plainHost
    ∃ flight m, (flight.amount = sampleForm.amount ∧ flight.ctx = sampleForm.ctx) ∧
      Quoted sampleForm flight sampleQuote m := by
  let _ := plainHost
  obtain ⟨m, typed⟩ := typed sampleWall sampleNow sampleForm (by decide) (by decide)
  have askable : Askable (sampleForm.flight "" none) sampleNow :=
    ⟨rfl, by decide, by decide⟩
  have idle : m.intent.status = .idle := by
    rw [typed.intent]
    rfl
  obtain ⟨flight, m', rfl, sent, -⟩ := refreshed sampleWall typed.on (by rw [busy, idle]; rfl)
    (by rw [idle]; decide) (by rw [idle]; rfl)
    (by rw [typed.intent]; exact ⟨rfl, rfl⟩) typed.unseen ⟨by decide, by decide⟩ (by decide) askable
  have gates : quoteRefusal sampleWall sampleQuote ((sampleForm.flight "" none).sent sampleNow)
      none = none := Option.isNone_iff_eq_none.mp (by decide)
  have config : m'.config = sampleConfig := sent.on.config
  obtain ⟨m'', quoted⟩ := landed sampleNow sent rfl
    ⟨sent.found, by rw [busy, sent.quoting]; rfl, by rw [sent.quoting]; rfl, by rw [config]; exact gates,
      .intent (by decide)⟩ rfl (.inr (by decide))
  exact ⟨_, m'', ⟨rfl, rfl⟩, quoted⟩

theorem sample_confirmable :
    letI := plainHost
    Confirmable sampleForm sampleQuote sampleIntent sampleNow :=
  letI := plainHost
  ⟨rfl, rfl, by decide, rfl, by decide, Option.isNone_iff_eq_none.mp (by decide)⟩

theorem sample_pullable :
    letI := plainHost
    Pullable sampleForm sampleQuote samplePull 1000 :=
  letI := plainHost
  ⟨rfl, ⟨_, rfl⟩, by decide, by decide, by rfl⟩

/-- The sample's ceremony, both signatures given: its execute is out. -/
theorem sample_executes :
    letI := plainHost
    ∃ flow m, Executes sampleForm sampleQuote flow m ∧ m.pendingIntentSig = some "0x99" := by
  let _ := plainHost
  obtain ⟨flight, m, own, quoted⟩ := sample_quoted
  obtain ⟨flow, m₁, stage, origin, signs⟩ := confirmed sampleWall quoted own sample_confirmable
  obtain ⟨m₂, signs₂, pending⟩ := approvalAsked sampleWall sampleNow signs stage sample_pullable rfl "0x99"
  obtain ⟨m₃, signs₃, pending₃⟩ := pullAsked sampleWall sampleNow signs₂ rfl sample_pullable
  obtain ⟨sent, m₄, executes, pending₄⟩ := executed sampleWall sampleNow signs₃ rfl origin "0x98"
  exact ⟨sent, m₄, executes, by rw [pending₄, pending₃, pending]⟩

/-- The allocation the deposit form asks for. -/
def sampleAllocation : Allocation where
  key := "k"
  ref := "r"

/-- The deposit form's allocation, in the air. -/
theorem deposit_sent :
    letI := depositHost
    ∃ id m, Sent depositForm ((depositForm.flight id (some sampleAllocation)).sent sampleNow) m := by
  let _ := depositHost
  obtain ⟨m, typed⟩ := typed sampleWall sampleNow depositForm (by decide) (by decide)
  have askable : Askable (depositForm.flight "" (some sampleAllocation)) sampleNow :=
    ⟨rfl, by decide, by decide⟩
  obtain ⟨flight, m', rfl, sent⟩ := allocated sampleWall typed "k" "r" ⟨by decide, by decide⟩
    (by decide) (by decide) (by decide) askable
  exact ⟨_, m', sent⟩

/-- The deposit quote passes every gate before execution. -/
theorem deposit_passed {id : String} {m : Model} :
    letI := depositHost
    On depositForm m → findFlight m id .api =
        some ((depositForm.flight id (some sampleAllocation)).sent sampleNow) →
      busy m = false → endedStates.contains m.intent.status = false → m.seenDepositAddresses = [] →
      ∃ attested seen, Passed sampleWall m
        ((depositForm.flight id (some sampleAllocation)).sent sampleNow) depositQuote attested seen := by
  let _ := depositHost
  intro on found idle live unseen
  let flight := (depositForm.flight "" (some sampleAllocation)).sent sampleNow
  have gates : quoteRefusal sampleWall depositQuote flight none = none :=
    Option.isNone_iff_eq_none.mp (by decide +kernel)
  have checked : (checkDepositQuote sampleWall (flightRequest flight sampleNow) depositQuote
      depositForm.config.depositAttestationSigner []).isOk = true := by decide +kernel
  have config := on.config
  cases check : checkDepositQuote sampleWall (flightRequest flight sampleNow) depositQuote
      depositForm.config.depositAttestationSigner [] with
  | error e =>
    rw [check] at checked
    cases checked
  | ok verified =>
    have connected : textSet (flightRequest flight sampleNow).wallet = true := by decide
    have precheck : depositPrecheck depositQuote flight.request =
        .ok (flightRequest flight sampleNow) :=
      depositPrecheck_ok (flightRequest flight sampleNow) rfl connected rfl
    refine ⟨some verified.stored, verified.seen, found, idle, live, by rw [config]; exact gates, ?_⟩
    refine .deposit (by decide) precheck ?_
    rw [config, unseen]
    exact check

end XochiSdk.Client
