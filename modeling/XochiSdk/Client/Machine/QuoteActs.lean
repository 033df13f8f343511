import XochiSdk.Client.Machine.Acts

/-!
# The quote section as acts

`sendQuote`, `startQuote`, `onSession` and `onQuote`, branch by branch.
-/

namespace XochiSdk.Client

open XochiSdk.Js XochiSdk.Shared XochiSdk.Signer XochiSdk.Library Emits

theorem findFlight_mem {m : Model} {id : String} {stage : FlightStage} {flight : QuoteFlight}
    (found : findFlight m id stage = some flight) :
    flight ∈ m.flights ∧ flight.id = id ∧ flight.stage = stage := by
  have holds := List.find?_some found
  simp only [Bool.and_eq_true, beq_iff_eq] at holds
  exact ⟨List.mem_of_find?_eq_some found, holds⟩

theorem quotable_of_flight {m : Model} {flight : QuoteFlight} (mem : flight ∈ m.flights)
    (idle : busy m = false) : Quotable m :=
  ⟨idle, fun _ _ => List.ne_nil_of_mem mem⟩

section

variable [Host] {wall : WallClock} {cause : Cause} {m : Model}

/-- A move that stays before execution, as a chain of acts to either end. -/
theorem Does.idle {m₁ : Model} {target : IntentStatus} {updates : IntentState → IntentState}
    (idle : busy m₁ = false) (still : quoteBusyStates.contains target = false)
    (lands : canTransitionTo m₁.intent.status target = true →
      Chain (Act wall cause) m [] { m₁ with
        intent := { updates { m₁.intent with status := target } with notSent := false } })
    (refused : Chain (Act wall cause) m [] m₁) :
    Does wall cause m (transition m₁ target updates) := by
  cases edge : canTransitionTo m₁.intent.status target with
  | false => exact .of_parts (transition_of_no_edge edge).1 (transition_of_no_edge edge).2 refused
  | true =>
    have landed : (transition m₁ target updates).value =
          moved m₁ target (updates { m₁.intent with status := target }) ∧
        Quiet (transition m₁ target updates).log := transition_of_edge edge
    rw [moved_idle idle still] at landed
    exact .of_parts landed.1 landed.2 (lands edge)

theorem sendQuote_does {flight : QuoteFlight} (asks : flight.silent = false → Asks cause)
    (quotable : Quotable m) (ready : Ready m flight) :
    Does wall cause m (sendQuote m flight cause.now) := by
  have drops {m₁ : Model} : Act wall cause m₁ [] (withoutFlight m₁ flight.id) := .dropped
  unfold sendQuote
  dsimp only
  split
  · -- the stealth keys are missing: the request is held
    refine .after (endAllocation_quiet _ _) ?_
    split
    · exact .act drops
    · rename_i visible
      have asked := asks (by simpa using visible)
      refine .idle quotable.1 rfl (fun edge => ?_) (.single drops)
      exact .snoc (.single (.requoted asked quotable (.inr rfl) edge)) drops
  · rename_i keys
    split
    · -- validation refused it
      refine .after (report_quiet _ _ _) (.after (endAllocation_quiet _ _) ?_)
      split
      · exact .act drops
      · rename_i visible
        have asked := asks (by simpa using visible)
        exact .step (.unquoted asked quotable (.inl rfl) id) (.act drops)
    · rename_i valid
      have emits {m₁ : Model} (q : Quotable m₁) (r : Ready m₁ flight) :
          Does wall cause m₁ (do
            emit (.api (.quote flight.id (flightRequest flight cause.now) flight.forceRefresh))
            pure (putFlight m₁ (flight.sent cause.now))) :=
        .single (.sent q r ⟨keys, valid⟩)
      by_cases silent : flight.silent = true
      · rw [if_pos silent]
        exact emits quotable ready
      · rw [if_neg silent]
        refine .bind (.idle quotable.1 rfl (fun edge => ?_) (.refl m)) ?_
        · exact .single (.requoted (asks (by simpa using silent)) quotable (.inl rfl) edge)
        · cases edge : canTransitionTo m.intent.status .quoting with
          | false =>
            rw [(transition_of_no_edge edge).1]
            exact emits quotable ready
          | true =>
            rw [(transition_of_edge edge).1, moved_idle quotable.1 rfl]
            refine emits (quotable_quoting rfl) (ready.imp id fun fresh => ?_)
            exact ⟨fresh.id, fresh.ctx, fresh.amount, fresh.origin, fresh.access, fresh.allocates⟩

theorem startQuote_does {opts : QuoteOpts} (asks : opts.silent = false → Asks cause)
    (idle : busy m = false) (amount : opts.amount = m.amount)
    (allocates : opts.allocate.isSome = true →
      opts.silent = false ∧ isChainId m.ctx.fromChainId = false) :
    Does wall cause m (startQuote m cause.now opts) := by
  unfold startQuote
  split
  · exact .after (report_quiet _ _ _) (.after (endAllocation_quiet _ _) .done)
  rename_i unmoved
  have quotable : Quotable m := ⟨idle, fun failed may => absurd ⟨failed, may⟩ unmoved⟩
  dsimp only
  split
  · exact .after (endAllocation_quiet _ _) (.erred _ rfl)
  rename_i access
  let next : Model := { m with seq := m.seq + 1 }
  let preview := quoteAccessDecision (textSet m.ctx.wallet.address) m.ctx.settlementPreference
    (!isChainId m.ctx.fromChainId) opts.allocate.isSome == .preview
  let flight : QuoteFlight :=
    { id := "q" ++ toString (m.seq + 1), stage := .session, amount := opts.amount
      silent := opts.silent, forceRefresh := opts.forceRefresh, allocate := opts.allocate
      ctx := m.ctx, depositOrigin := !isChainId m.ctx.fromChainId, preview := preview
      request := none }
  have fresh : Fresh next flight := by
    refine ⟨rfl, rfl, amount, rfl, ?_, fun asked => ?_⟩
    rotate_left
    · obtain ⟨visible, deposit⟩ := allocates asked
      exact ⟨visible, by simp [flight, deposit]⟩
    change quoteAccessDecision _ _ _ _ = if _ == _ then _ else _
    revert access
    cases quoteAccessDecision (textSet m.ctx.wallet.address) m.ctx.settlementPreference
      (!isChainId m.ctx.fromChainId) opts.allocate.isSome <;> simp
  have noted : Act wall cause m [] next := .noted (Nat.le_succ _)
  have ready : Quotable next := quotable
  refine .step noted ?_
  split
  · split
    · exact .done
    · exact .single (.asked ready fresh rfl)
  · exact sendQuote_does asks ready (.inr fresh)

theorem dropStaleFlight_does (flight : QuoteFlight) :
    Does wall cause m (dropStaleFlight m flight) :=
  .after (report_quiet _ _ _) (.after (endAllocation_quiet _ _) (.act .dropped))

theorem quoteFailed_does (asks : Asks cause) (quotable : Quotable m) (flightId : String) (flight : QuoteFlight)
    (error : ErrorValue) :
    Does wall cause m (pure (quoteFailed (withoutFlight m flightId) flight error)) := by
  have drops {m₁ : Model} : Act wall cause m₁ [] (withoutFlight m₁ flightId) := .dropped
  unfold quoteFailed
  split
  · unfold allocationFailed
    split
    · rename_i allocatable
      exact .step (.allocationFailed asks allocatable) (.act drops)
    · exact .step (.annotated (.inl rfl)) (.act drops)
  · exact .step (.unquoted asks quotable (.inr (.inl rfl)) id) (.act drops)

theorem onSession_does {id : String} {result : SessionResult}
    (body : cause.body = some (.sessionReplied id result)) :
    Does wall cause m (onSession m id result cause.now) := by
  unfold onSession
  split
  · exact .done
  · rename_i flight found
    obtain ⟨mem, rfl, session⟩ := findFlight_mem found
    dsimp only
    split
    · exact dropStaleFlight_does flight
    · rename_i idle
      have quotable := quotable_of_flight mem (by simpa [busy] using idle)
      split
      · exact sendQuote_does (fun _ => ⟨_, body, rfl⟩) quotable (.inl ⟨mem, session⟩)
      · refine .after (endAllocation_quiet _ _) ?_
        split
        · exact .act .dropped
        · exact quoteFailed_does ⟨_, body, rfl⟩ quotable _ _ _

/-! ## Served quotes -/

theorem quoteRefusal_quote {quote : QuoteResponse} {flight : QuoteFlight}
    {pins : Option PinnedPullRecipients} {refusal : QuoteRefusal}
    (refused : quoteRefusal wall quote flight pins = some refusal) :
    refusal.quote = none ∨ (refusal.quote = some quote ∧ quote.canSolve = false) := by
  unfold quoteRefusal at refused
  simp only [Option.orElse_eq_some] at refused
  rcases refused with h | ⟨-, h | ⟨-, h | ⟨-, h | ⟨-, h | ⟨-, h | ⟨-, h⟩⟩⟩⟩⟩⟩
  · unfold declinedRefusal at h
    split at h
    · cases h
      exact .inl rfl
    · split at h
      · rename_i declined
        cases h
        exact .inr ⟨rfl, declined⟩
      · cases h
  · unfold previewRefusal at h
    split at h <;> cases h
    exact .inl rfl
  · obtain ⟨_, -, rfl⟩ := Option.map_eq_some_iff.mp h
    exact .inl rfl
  · obtain ⟨_, -, rfl⟩ := Option.map_eq_some_iff.mp h
    exact .inl rfl
  · unfold payoutRefusal at h
    dsimp only at h
    split at h <;> cases h
    exact .inl rfl
  · unfold depositRefused at h
    split at h <;> cases h
    exact .inl rfl
  · unfold signableRefusal at h
    split at h
    · split at h <;> cases h
      exact .inl rfl
    · cases h

theorem refuseQuote_does (asks : Asks cause) (quotable : Quotable m) (flight : QuoteFlight) (error : String)
    {quote : Option QuoteResponse}
    (shown : quote = none ∨ ∃ id declined, cause.body = some (.quoteReplied id (.ok declined)) ∧
      quote = some declined ∧ declined.canSolve = false) :
    Does wall cause m (refuseQuote (withoutFlight m flight.id) flight error quote) := by
  refine .after (endAllocation_quiet _ _) ?_
  split
  · exact .act .dropped
  · refine .idle quotable.1 rfl (fun _ => ?_) (.single .dropped)
    exact .snoc (.single (.unquoted asks quotable (.inr shown) (by simp))) .dropped

theorem planRefresh_spec (m : Model) (flight : QuoteFlight) (quote : QuoteResponse) (now : Int) :
    Quiet (planRefresh m flight quote now).log ∧
      ∃ refresh, (refresh = m.refresh ∨ refresh = some ⟨flight.amount, quote.hasDeposit⟩) ∧
        (planRefresh m flight quote now).value = { m with refresh := refresh } := by
  unfold planRefresh
  split
  · split
    · exact ⟨by simp, _, .inr rfl, rfl⟩
    · exact ⟨by simp, _, .inl rfl, rfl⟩
  · exact ⟨by simp, _, .inl rfl, rfl⟩

/-- The refresh plan at the end of an answer, after a chain that leaves any plan. -/
theorem planRefresh_does {m₁ : Model} {flight : QuoteFlight} {quote : QuoteResponse} {now : Int}
    (h : ∀ refresh, (refresh = m₁.refresh ∨ refresh = some ⟨flight.amount, quote.hasDeposit⟩) →
      Chain (Act wall cause) m [] { m₁ with refresh := refresh }) :
    Does wall cause m (planRefresh m₁ flight quote now) := by
  obtain ⟨effects, refresh, plan, value⟩ := planRefresh_spec m₁ flight quote now
  exact .of_parts value effects (h refresh plan)

theorem acceptQuote_does {m₁ : Model} {flight : QuoteFlight} {quote : QuoteResponse}
    {attested : Option StoredDepositAttestation} {seen : SeenDepositAddresses}
    (read : m₁ = { withoutFlight m flight.id with seenDepositAddresses := seen })
    (answered : Answered cause m flight quote)
    (gates : quoteRefusal wall quote flight m.config.pullRecipients = none)
    (verified : Verified wall m flight quote attested seen) :
    Does wall cause m (acceptQuote m₁ flight quote attested cause.now) := by
  have intent_eq : m₁.intent = m.intent := by rw [read]; rfl
  have late {refresh : Option RefreshPlan}
      (plan : refresh = m.refresh ∨ refresh = some ⟨flight.amount, quote.hasDeposit⟩) :
      Chain (Act wall cause) m [] { withoutFlight m flight.id with
        seenDepositAddresses := seen, refresh := refresh } :=
    .snoc (.single (.late answered verified plan)) .dropped
  have inPlace (quoted : m.intent.status = .quoted) (pollExhausted : Bool)
      {refresh : Option RefreshPlan}
      (plan : refresh = m.refresh ∨ refresh = some ⟨flight.amount, quote.hasDeposit⟩) :
      Chain (Act wall cause) m [] { withoutFlight m flight.id with
        intent := { quoteState flight quote attested m.intent with pollExhausted := pollExhausted }
        quotedTrade := some (tradeKey flight.ctx)
        seenDepositAddresses := seen, refresh := refresh } := by
    have landed : Act wall cause m [] { withoutFlight m flight.id with
        intent := { quoteState flight quote attested m.intent with
          status := .quoted, pollExhausted := pollExhausted, notSent := m.intent.notSent }
        quotedTrade := some (tradeKey flight.ctx)
        seenDepositAddresses := seen, refresh := refresh } :=
      .accepted answered gates verified plan (.inl quoted) id
    rw [← quoted] at landed
    exact .single landed
  unfold acceptQuote
  dsimp only
  split
  · split
    · rw [read]
      exact late (.inl rfl)
    · rename_i quoted
      rw [intent_eq] at quoted
      refine planRefresh_does fun _ plan => ?_
      subst read
      exact inPlace (not_not.mp quoted) m.intent.pollExhausted plan
  · split
    · rename_i quoted
      rw [intent_eq] at quoted
      refine planRefresh_does fun _ plan => ?_
      subst read
      exact inPlace quoted false plan
    · -- the move to `quoted`: where the table has no edge, the old quote stays
      cases edge : canTransitionTo m₁.intent.status .quoted with
      | false =>
        refine .after (transition_of_no_edge edge).2 ?_
        rw [(transition_of_no_edge edge).1, if_neg (by simp)]
        refine planRefresh_does fun _ plan => ?_
        subst read
        exact late plan
      | true =>
        refine .after (transition_of_edge edge).2 ?_
        have idle : busy m₁ = false := by
          unfold busy
          rw [intent_eq]
          exact answered.idle
        rw [(transition_of_edge edge).1, if_pos rfl, moved_idle idle rfl]
        refine planRefresh_does fun _ plan => ?_
        subst read
        exact .single (.accepted answered gates verified plan (.inr edge) (by simp))

theorem onServedQuote_does {flight : QuoteFlight} {quote : QuoteResponse}
    (answered : Answered cause m flight quote) :
    Does wall cause m (onServedQuote wall (withoutFlight m flight.id) flight quote cause.now) := by
  have asks : Asks cause := ⟨_, answered.body, rfl⟩
  have quotable := quotable_of_flight (findFlight_mem answered.found).1 answered.idle
  have rejected (verdict : DepositRejection) :
      Does wall cause m (attestationRejected (withoutFlight m flight.id) flight verdict) :=
    .after (report_quiet _ _ _) (refuseQuote_does asks quotable flight _ (.inl rfl))
  unfold onServedQuote
  split
  · rename_i refusal refused
    refine .after (report_quiet _ _ _) (refuseQuote_does asks quotable flight _ ?_)
    rcases quoteRefusal_quote refused with hidden | ⟨shown, declined⟩
    · exact .inl hidden
    · exact .inr ⟨_, quote, answered.body, shown, declined⟩
  · rename_i gates
    split
    · rename_i deposit
      exact acceptQuote_does rfl answered gates (.intent (by simpa using deposit))
    · rename_i deposit
      split
      · exact rejected _
      · rename_i request precheck
        split
        · exact rejected _
        · rename_i verified check
          exact acceptQuote_does rfl answered gates
            (.deposit (by simpa using deposit) precheck check)

theorem onQuote_does {id : String} {result : Outcome QuoteResponse}
    (body : cause.body = some (.quoteReplied id result)) :
    Does wall cause m (onQuote wall m id result cause.now) := by
  unfold onQuote
  split
  · exact .done
  · rename_i flight found
    obtain ⟨mem, rfl, -⟩ := findFlight_mem found
    dsimp only
    split
    · exact dropStaleFlight_does flight
    · rename_i idle
      obtain ⟨notBusy, live⟩ : busy m = false ∧ endedStates.contains m.intent.status = false := by
        simpa [busy] using idle
      have quotable := quotable_of_flight mem notBusy
      split
      · -- the request or the proof threw
        refine .after (report_quiet _ _ _) (.after (endAllocation_quiet _ _) ?_)
        split
        · exact .act .dropped
        · exact quoteFailed_does ⟨_, body, rfl⟩ quotable _ _ _
      · exact onServedQuote_does ⟨body, found, notBusy, live⟩

end

end XochiSdk.Client
