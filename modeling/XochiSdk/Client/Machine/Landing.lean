import XochiSdk.Client.Machine.TradeKey
import XochiSdk.Client.Machine.Calm
import XochiSdk.Client.Machine.LedgerSteps

/-!
# An answer that lands

An answer that passes the gates is accepted: where the table has a move to `quoted` its quote
is held, and where it has none the intent stays as it was. The rules have nothing to do after
an executable quote lands in time, and never quote by themselves.
-/

namespace XochiSdk.Client

open XochiSdk.Js XochiSdk.Shared XochiSdk.Signer XochiSdk.Library Emits

section

variable [Host] {wall : WallClock} {m m' : Model} {fx : List Effect}

/-- The machine accepts an answer that passes the gates. -/
theorem Passed.accepts {flight : QuoteFlight} {quote : QuoteResponse}
    {attested : Option StoredDepositAttestation} {seen : SeenDepositAddresses}
    (passed : Passed wall m flight quote attested seen) (now : Int) :
    onQuote wall m flight.id (.ok quote) now =
      acceptQuote { withoutFlight m flight.id with seenDepositAddresses := seen } flight quote
        attested now := by
  have idle : quoteBusyStates.contains m.intent.status = false := passed.idle
  have gates : quoteRefusal wall quote flight (withoutFlight m flight.id).config.pullRecipients =
      none := passed.gates
  unfold onQuote
  rw [passed.found]
  dsimp only
  rw [idle, passed.live, Bool.or_self, if_neg (by decide)]
  unfold onServedQuote
  rw [gates]
  dsimp only
  cases passed.verified with
  | intent plain =>
    rw [plain]
    rfl
  | deposit deposit precheck checked =>
    rw [deposit, precheck]
    dsimp only
    rw [show (withoutFlight m flight.id).config.depositAttestationSigner =
      m.config.depositAttestationSigner from rfl, show (withoutFlight m flight.id).seenDepositAddresses =
      m.seenDepositAddresses from rfl, checked]
    rfl

theorem planRefresh_value (m : Model) (flight : QuoteFlight) (quote : QuoteResponse) (now : Int) :
    ∃ refresh, (planRefresh m flight quote now).value = { m with refresh := refresh } := by
  unfold planRefresh
  split
  · split
    · exact ⟨_, rfl⟩
    · exact ⟨_, rfl⟩
  · exact ⟨_, rfl⟩

/-- The model a landed answer leaves. -/
structure Landed (m₁ : Model) (flight : QuoteFlight) (quote : QuoteResponse)
    (attested : Option StoredDepositAttestation) (m : Model) : Prop where
  same : m = { m₁ with
    intent := m.intent, quotedTrade := some (tradeKey flight.ctx), refresh := m.refresh }
  intent : ∃ before : IntentState, before.status = .quoted ∧
    m.intent = quoteState flight quote attested before

namespace Landed

variable {m₁ : Model} {flight : QuoteFlight} {quote : QuoteResponse}
  {attested : Option StoredDepositAttestation}

theorem status (landed : Landed m₁ flight quote attested m) : m.intent.status = .quoted := by
  obtain ⟨before, quoted, same⟩ := landed.intent
  rw [same]
  exact quoted

theorem held (landed : Landed m₁ flight quote attested m) : m.intent.quote = some quote := by
  obtain ⟨before, -, same⟩ := landed.intent
  rw [same]
  rfl

theorem ctx (landed : Landed m₁ flight quote attested m) : m.ctx = m₁.ctx := by
  rw [landed.same]

/-- The account is the flight's. -/
theorem account (landed : Landed m₁ flight quote attested m) (ok : FlightOk m₁ flight) :
    SameAccount m := by
  obtain ⟨before, -, same⟩ := landed.intent
  have terms := tradeKey_terms ok.trade
  refine ⟨?_, .inr ?_⟩
  · rw [same, landed.ctx]
    dsimp only [quoteState]
    split
    · exact .inl rfl
    · rw [terms.address]
      by_cases empty : m₁.ctx.wallet.address.getD "" = ""
      · exact .inl empty
      · exact .inr ⟨empty, rfl⟩
  · rw [same, landed.ctx]
    exact terms.walletChainId.symm

/-- The rules have nothing to do after an executable quote lands, of a deposit or in time. -/
theorem calm {now : Int} (landed : Landed m₁ flight quote attested m) (ok : FlightOk m₁ flight)
    (executable : quote.preview = false)
    (lasts : quote.hasDeposit = true ∨ priceLapsed quote now = false) : Calm now m := by
  refine ⟨.inr (landed.account ok), fun _ other held => ?_⟩
  rw [landed.held] at held
  cases held
  exact ⟨.inl executable, lasts⟩

end Landed

/-- The status an accepted answer finds lets it land. -/
def Lands (status : IntentStatus) : Prop :=
  status = .quoted ∨ canTransitionTo status .quoted = true

theorem acceptQuote_lands (m₁ : Model) (now : Int) {flight : QuoteFlight} {quote : QuoteResponse}
    {attested : Option StoredDepositAttestation} (visible : flight.silent = false)
    (idle : busy m₁ = false) (lands : Lands m₁.intent.status) :
    Landed m₁ flight quote attested (acceptQuote m₁ flight quote attested now).value := by
  have planned {next : Model} (landed : Landed m₁ flight quote attested next) :
      Landed m₁ flight quote attested (planRefresh next flight quote now).value := by
    obtain ⟨refresh, value⟩ := planRefresh_value next flight quote now
    rw [value]
    refine ⟨?_, landed.intent⟩
    rw [landed.same]
  unfold acceptQuote
  dsimp only
  rw [visible]
  split
  · rename_i silent
    cases silent
  · split
    · rename_i quoted
      exact planned ⟨rfl, { m₁.intent with pollExhausted := false }, quoted, rfl⟩
    · rename_i away
      have edge := lands.resolve_left away
      rw [value_bind, (transition_of_edge edge).1, if_pos edge, moved_idle idle rfl]
      exact planned ⟨rfl, { m₁.intent with
        status := .quoted, pollExhausted := false, notSent := false }, rfl, rfl⟩

/-- An answer that finds no way to `quoted` leaves the intent as it was. -/
theorem acceptQuote_stays (m₁ : Model) {flight : QuoteFlight} (quote : QuoteResponse)
    (attested : Option StoredDepositAttestation) (now : Int) (visible : flight.silent = false)
    (stays : ¬Lands m₁.intent.status) :
    (acceptQuote m₁ flight quote attested now).value.intent = m₁.intent := by
  obtain ⟨away, edge⟩ := not_or.mp stays
  unfold acceptQuote
  dsimp only
  rw [visible]
  split
  · rename_i silent
    cases silent
  · rw [value_bind, (transition_of_no_edge (by simpa using edge)).1]
    obtain ⟨refresh, value⟩ := planRefresh_value m₁ flight quote now
    rw [value]

/-- The rules never quote. -/
theorem Settled.unquoted {now : Int} (settled : Settled wall now m fx m')
    (away : m.intent.status ≠ .quoted) : m'.intent.status ≠ .quoted := by
  refine settled.invariant (P := fun m => m.intent.status ≠ .quoted) (fun m fx m' away act => ?_) away
  obtain ⟨change, -⟩ := act.of_rules rfl
  generalize m'.intent = intent at change
  cases change with
  | kept same => rw [same.status]; exact away
  | lapsed quoted same => rw [same.status]; simp
  | reset => simp [initialIntentState]

end

end XochiSdk.Client
