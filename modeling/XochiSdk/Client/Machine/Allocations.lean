import XochiSdk.Client.Machine.Progress

/-!
# Allocation events

Along every run a reference is reported at most as often as it is asked for. A report of `ok`
names the quote the update adopted exactly where the accepted answer's move to `quoted` is one
the table has: a refused move keeps the old quote, and reports the new one all the same.
-/

namespace XochiSdk.Client

open XochiSdk.Js XochiSdk.Shared XochiSdk.Signer XochiSdk.Library Emits

/-! ## Numbers -/

section

variable {m m' : Model}

/-- Flights dropped, and numbers counted on. -/
theorem Numbered.subset (numbered : Numbered m) (seq : m.seq ≤ m'.seq)
    (sub : List.Sublist m'.flights m.flights) : Numbered m' where
  distinct := numbered.distinct.sublist (sub.map _)
  bound := by
    intro flight mem
    obtain ⟨n, le, id⟩ := numbered.bound flight (sub.subset mem)
    exact ⟨n, le.trans seq, id⟩

theorem Numbered.put (numbered : Numbered m) {flight : QuoteFlight}
    (id : ∃ n ≤ m.seq, flight.id = "q" ++ toString n) : Numbered (putFlight m flight) where
  distinct := by
    have kept : (m.flights.filter fun f => f.id != flight.id).map (·.id) |>.Nodup :=
      numbered.distinct.sublist (List.filter_sublist.map _)
    unfold Distinct putFlight
    dsimp only
    rw [List.map_append, List.nodup_append]
    refine ⟨kept, by simp, ?_⟩
    intro a ha b hb
    obtain ⟨f, mem, rfl⟩ := List.mem_map.mp ha
    simp only [List.map_cons, List.map_nil, List.mem_singleton] at hb
    rw [hb]
    simpa using (List.mem_filter.mp mem).2
  bound := by
    intro f mem
    rcases List.mem_append.mp mem with h | h
    · exact numbered.bound f (List.mem_filter.mp h).1
    · rw [List.mem_singleton.mp h]
      exact id

theorem moved_numbered (numbered : Numbered m) (target : IntentStatus) (intent : IntentState) :
    Numbered (moved m target intent) := by
  refine numbered.subset (Nat.le_refl _) ?_
  unfold moved
  dsimp only
  split
  · exact List.nil_sublist _
  · exact List.Sublist.refl _

variable [Host] {wall : WallClock} {cause : Cause} {msg : Msg} {fx : List Effect}

theorem Act.numbered (numbered : Numbered m) (act : Act wall cause m fx m') : Numbered m' := by
  cases act
  case asked fresh _ => exact numbered.put ⟨m.seq, Nat.le_refl _, fresh.id⟩
  case sent ready _ =>
    rcases ready with ⟨mem, -⟩ | fresh
    · obtain ⟨n, le, id⟩ := numbered.bound _ mem
      exact numbered.put ⟨n, le, id⟩
    · exact numbered.put ⟨m.seq, Nat.le_refl _, fresh.id⟩
  case executeFailed | executeMoved =>
    refine moved_numbered (numbered.subset ?_ ?_) _ _
    · exact Nat.le_refl _
    · exact List.Sublist.refl _
  case lapsed | returned | revealed | signFailed | delivered | swept =>
    exact moved_numbered numbered _ _
  case contextChanged | amountChanged =>
    refine numbered.subset (Nat.le_refl _) ?_
    dsimp only
    split
    · exact List.Sublist.refl _
    · exact List.nil_sublist _
  case reset | resumed => exact numbered.subset (Nat.le_refl _) (List.nil_sublist _)
  case dropped | accepted => exact numbered.subset (Nat.le_refl _) List.filter_sublist
  case noted le | polled le _ _ => exact numbered.subset le (List.Sublist.refl _)
  all_goals exact numbered.subset (Nat.le_refl _) (List.Sublist.refl _)

theorem Ceremony.numbered (numbered : Numbered m) (h : Ceremony msg m fx m') : Numbered m' := by
  cases h
  case prompted =>
    have signing := moved_numbered numbered .signing
      { m.intent with status := .signing, refusal := none }
    exact signing.subset (Nat.le_succ _) (List.Sublist.refl _)
  case tapped | tapRefused | resent =>
    exact numbered.subset (Nat.le_succ _) (List.Sublist.refl _)
  all_goals exact numbered.subset (Nat.le_refl _) (List.Sublist.refl _)

theorem Chain.numbered (numbered : Numbered m) (chain : Chain (Act wall cause) m fx m') :
    Numbered m' :=
  chain.invariant (fun _ _ _ numbered act => act.numbered numbered) numbered

theorem numbered_law : Law fun _ m => Numbered m where
  init := by
    rintro _ ⟨config, ctx, hidden, rfl⟩
    exact ⟨List.nodup_nil, by simp [init]⟩
  handled := fun _ _ _ _ h => h
  act := fun _ _ _ _ _ _ _ h act => act.numbered h
  ceremony := by
    intro _ _ msg m _ _ _ h ceremony
    have received : Numbered (receive m msg) := ⟨h.distinct, h.bound⟩
    exact ceremony.numbered received

theorem settle_tallied (wall : WallClock) (numbered : Numbered m) (now : Int) :
    Tallied m (settle m now) := by
  have rule (m : Model) (numbered : Numbered m) : ∀ r ∈ settleRules now, Ruled m (r m) := by
    intro r h
    simp only [settleRules, List.mem_cons, List.not_mem_nil, or_false] at h
    rcases h with rfl | rfl | rfl | rfl
    · exact watchWallet_ruled m
    · exact upgradePreview_ruled numbered now
    · exact armExpiry_ruled m now
    · exact armPoll_ruled m now
  have run (rules : List Rule) (sub : ∀ r ∈ rules, r ∈ settleRules now) :
      ∀ m, Numbered m → Refuses m.flights (runRules rules m).log (runRules rules m).value.1.flights ∧
        Numbered (runRules rules m).value.1 := by
    induction rules with
    | nil => exact fun m numbered => ⟨.done, numbered⟩
    | cons r rest ih =>
      intro m numbered
      have mem := sub r (by simp)
      have first := rule m numbered r mem
      have chain := rules_settle wall (rfl : (rulesCause now).body = none) r mem m
      have later := ih fun r hr => sub r (by simp [hr])
      unfold Ruled at first
      unfold Settles at chain
      have numbered' := Chain.numbered numbered chain
      unfold runRules
      rw [value_bind, log_bind]
      cases ruled : (r m).value with
      | none =>
        rw [ruled] at first numbered'
        exact ⟨first.trans (later m numbered').1, (later m numbered').2⟩
      | some next =>
        rw [ruled] at first numbered'
        have := first.trans (later next numbered').1
        exact ⟨by simpa using this, (later next numbered').2⟩
  have passes (n : Nat) : ∀ m, Numbered m → Tallied m (settlePasses now n m) := by
    induction n with
    | zero => exact fun m _ => .pure rfl
    | succ n ih =>
      intro m numbered
      obtain ⟨pass, numbered'⟩ := run (settleRules now) (fun _ h => h) m numbered
      unfold settlePasses Tallied
      rw [value_bind, log_bind]
      refine pass.trans ?_
      revert numbered'
      rcases (runRules (settleRules now) m).value with ⟨next, changed⟩
      intro numbered'
      cases changed with
      | true => exact ih next numbered'
      | false => exact .done
  exact passes 4 m numbered

/-! ## An answer accepted -/

/-- An allocation's flight is visible, and asks for an executable quote of a deposit route. -/
theorem FlightOk.allocated {flight : QuoteFlight} (ok : FlightOk m flight)
    (asked : flight.allocate.isSome = true) :
    flight.silent = false ∧ flight.depositOrigin = true ∧ flight.preview = false := by
  obtain ⟨visible, deposit⟩ := ok.allocates asked
  refine ⟨visible, deposit, ?_⟩
  have access := ok.access
  rw [deposit, asked] at access
  unfold quoteAccessDecision at access
  cases preview : flight.preview with
  | false => rfl
  | true =>
    rw [preview] at access
    split at access
    · split at access <;> cases access
    · simp only [if_true, Bool.not_true, Bool.false_eq_true, if_false] at access
      split at access <;> cases access

/-- What the gates prove of an allocation's quote: it is signable, and pays to a deposit. -/
theorem Passed.allocated {flight : QuoteFlight} {quote : QuoteResponse}
    {attested : Option StoredDepositAttestation} {seen : SeenDepositAddresses}
    (inv : FlightInv m) (passed : Passed wall m flight quote attested seen)
    (asked : flight.allocate.isSome = true) :
    quote.canSolve = true ∧ quote.preview = false ∧ quote.hasDeposit = true := by
  obtain ⟨-, deposit, preview⟩ :=
    (inv.flights flight (findFlight_mem passed.found).1).allocated asked
  have gates := passed.gates
  unfold quoteRefusal at gates
  simp only [Option.orElse_eq_none] at gates
  obtain ⟨declined, previewed, -, -, -, refused, -⟩ := gates
  have solvable : quote.canSolve = true := by
    unfold declinedRefusal at declined
    split at declined
    · cases declined
    · split at declined
      · cases declined
      · rename_i solvable
        simpa using solvable
  have executable : quote.preview = false := by
    unfold previewRefusal at previewed
    split at previewed
    · cases previewed
    · rename_i same
      rw [← preview]
      exact not_not.mp same
  refine ⟨solvable, executable, ?_⟩
  unfold depositRefused depositDisagrees at refused
  rw [executable, deposit] at refused
  cases held : quote.hasDeposit with
  | true => rfl
  | false =>
    rw [held] at refused
    cases refused

theorem planRefresh_verdicts (m : Model) (flight : QuoteFlight) (quote : QuoteResponse) (now : Int) :
    verdicts (planRefresh m flight quote now).log =
      verdicts (endAllocation flight.allocate true).log := by
  unfold planRefresh
  split
  · split
    · simp only [log_bind, setTimer_log, log_pure, List.append_nil]
      rfl
    · simp
  · simp

theorem planRefresh_flights (m : Model) (flight : QuoteFlight) (quote : QuoteResponse) (now : Int) :
    (planRefresh m flight quote now).value.flights = m.flights := by
  obtain ⟨refresh, value⟩ := planRefresh_value m flight quote now
  rw [value]

omit [Host] in
theorem endAllocation_verdicts (allocate : Option Allocation) (ok : Bool) :
    verdicts (endAllocation allocate ok).log = (allocate.map fun a => (a.ref, ok)).toList := by
  cases allocate <;> rfl

/-- An accepted answer reports its allocation as made, whatever became of the quote. -/
theorem acceptQuote_verdicts (m₁ : Model) {flight : QuoteFlight} (quote : QuoteResponse)
    (attested : Option StoredDepositAttestation) (now : Int)
    (visible : flight.allocate.isSome = true → flight.silent = false) :
    verdicts (acceptQuote m₁ flight quote attested now).log =
        (flight.allocate.map fun a => (a.ref, true)).toList ∧
      (acceptQuote m₁ flight quote attested now).value.flights = m₁.flights := by
  rw [← endAllocation_verdicts]
  unfold acceptQuote
  dsimp only
  split
  · rename_i silent
    have plain : flight.allocate = none := by
      cases asked : flight.allocate with
      | none => rfl
      | some allocation =>
        rw [asked, silent] at visible
        cases visible rfl
    split
    · rw [plain]
      exact ⟨rfl, rfl⟩
    · exact ⟨planRefresh_verdicts _ flight quote now, planRefresh_flights _ flight quote now⟩
  · split
    · exact ⟨planRefresh_verdicts _ flight quote now, planRefresh_flights _ flight quote now⟩
    · obtain ⟨mute, kept⟩ := transition_mute m₁ _ (rfl : quoteBusyStates.contains .quoted = false)
      refine ⟨?_, (planRefresh_flights _ flight quote now).trans ?_⟩
      · rw [log_bind, verdicts_append, mute, List.nil_append]
        exact planRefresh_verdicts _ flight quote now
      · split
        · exact kept
        · exact kept

/-! ## A step -/

/-- What a message does to the flights in the air. -/
inductive Flights (wall : WallClock) (msg : Msg) (m : Model) (x : Machine Model) : Prop where
  | opens {key ref : String} (body : msg.body = .allocateRequested key ref)
      (h : Opens m (some ⟨key, ref⟩) x)
  | refuses (other : ∀ key ref, msg.body ≠ .allocateRequested key ref) (h : Tallied m x)
  | accepts {flight : QuoteFlight} {quote : QuoteResponse}
      {attested : Option StoredDepositAttestation} {seen : SeenDepositAddresses}
      (body : msg.body = .quoteReplied flight.id (.ok quote))
      (passed : Passed wall m flight quote attested seen)
      (h : x = acceptQuote { withoutFlight m flight.id with seenDepositAddresses := seen } flight
        quote attested msg.now)

theorem step_flights {x : Machine Model} (numbered : Numbered m) (stepped : step wall m msg = .ok x) :
    Flights wall msg m x := by
  cases body : msg.body with
  | allocateRequested key ref =>
    rw [step, body] at stepped
    cases stepped
    exact .opens body (onAllocateRequested_opens numbered key ref msg.now)
  | quoteReplied id result =>
    rw [step, body] at stepped
    cases stepped
    rcases onQuote_cases numbered.distinct wall id result msg.now with
      tallied | ⟨flight, quote, attested, seen, rfl, rfl, passed, same⟩
    · exact .refuses (by simp [body]) tallied
    · exact .accepts body passed same
  | pullSignRequested =>
    rw [step, body] at stepped
    exact .refuses (by simp [body]) (beginPullSign_tallied stepped)
  | signReplied flow purpose result =>
    rw [step, body] at stepped
    exact .refuses (by simp [body]) (onSigned_tallied stepped)
  | visibilityChanged =>
    rw [step, body] at stepped
    cases stepped
    refine .refuses (by simp [body]) (.ite (fun _ => .pure rfl) fun _ => ?_)
    exact onVisible_tallied numbered msg.now
  | contextChanged ctx =>
    rw [step, body] at stepped
    cases stepped
    exact .refuses (by simp [body]) (onContextChanged_tallied m ctx)
  | quoteRequested amount =>
    rw [step, body] at stepped
    cases stepped
    exact .refuses (by simp [body]) (onQuoteRequested_tallied m amount)
  | refreshRequested =>
    rw [step, body] at stepped
    cases stepped
    exact .refuses (by simp [body]) (requestQuote_tallied numbered msg.now)
  | signRequested =>
    rw [step, body] at stepped
    cases stepped
    exact .refuses (by simp [body]) (beginSign_tallied m msg.now)
  | cancelSignRequested =>
    rw [step, body] at stepped
    cases stepped
    exact .refuses (by simp [body]) (onCancelSign_tallied m)
  | resetRequested =>
    rw [step, body] at stepped
    cases stepped
    exact .refuses (by simp [body]) (onReset_tallied m)
  | resumeRequested =>
    rw [step, body] at stepped
    cases stepped
    exact .refuses (by simp [body]) (onResume_tallied m _ _ _ _ _)
  | streamStatus message =>
    rw [step, body] at stepped
    cases stepped
    exact .refuses (by simp [body]) (onStream_tallied m message)
  | timerFired timer =>
    rw [step, body] at stepped
    cases stepped
    exact .refuses (by simp [body]) (onTimer_tallied numbered timer msg.now)
  | sessionReplied flight result =>
    rw [step, body] at stepped
    cases stepped
    exact .refuses (by simp [body]) (onSession_tallied numbered.distinct _ _ _)
  | approvalReplied flow result =>
    rw [step, body] at stepped
    cases stepped
    exact .refuses (by simp [body]) (onApproval_tallied m _ _)
  | executeReplied flow result =>
    rw [step, body] at stepped
    cases stepped
    exact .refuses (by simp [body]) (onExecuted_tallied m _ _ _)
  | statusReplied gen attempt result =>
    rw [step, body] at stepped
    cases stepped
    exact .refuses (by simp [body]) (onStatus_tallied m _ _ _ _)

/-! ## Over a run -/

/-- The step lands this flight's quote: it is held, and can be confirmed. -/
def Adopts (msg : Msg) (flight : QuoteFlight) (m' : Model) : Prop :=
  ∃ quote, msg.body = .quoteReplied flight.id (.ok quote) ∧ m'.intent.quote = some quote ∧
    canSignQuote m'.intent.status m'.intent.quote = true

/-- The step reports an allocation as made only of the flight it adopts, and as refused
wherever an allocation's flight ends otherwise. -/
structure ReportsExactly (m : Model) (i : Input) (fx : List Effect) (m' : Model) : Prop where
  made : ∀ ref, .emit (.allocation ref true) ∈ fx → ∃ flight ∈ m.flights,
    Allocation.names ref flight.allocate = true ∧ Adopts i.2 flight m'
  told : ∀ flight ∈ m.flights, Airborne m'.flights flight ∨ Adopts i.2 flight m' ∨
    ∀ allocation, flight.allocate = some allocation →
      .emit (.allocation allocation.ref false) ∈ fx

/-- An allocation's answer that passes the gates finds the table open to `quoted`. -/
def LandsAllocated (m : Model) (i : Input) (_ : List Effect) (_ : Model) : Prop :=
  ∀ flight quote attested seen, i.2.body = .quoteReplied flight.id (.ok quote) →
    Passed i.1 (receive m i.2) flight quote attested seen → flight.allocate.isSome = true →
      Lands m.intent.status

/-- The message asks for an allocation under this reference. -/
def MsgBody.asks (ref : String) : MsgBody → Bool
  | .allocateRequested _ asked => asked == ref
  | _ => false

/-- The allocations of a log asked for under a reference. -/
def asks (ref : String) (log : Log) : Nat :=
  log.countP fun
    | .handled _ i => i.2.body.asks ref
    | .emitted _ => false

/-- The allocation events of a log under a reference. -/
def reports (ref : String) (log : Log) : Nat :=
  log.countP fun
    | .handled _ _ => false
    | .emitted e => (e.verdict.map (·.1)) == some ref

omit [Host] in
theorem reports_emitted (ref : String) (fx : List Effect) :
    reports ref (fx.map .emitted) = reported ref fx := by
  unfold reports reported verdicts
  rw [List.countP_map, List.countP_filterMap]
  refine List.countP_congr fun e _ => ?_
  cases told : e.verdict with
  | none => simp [told]
  | some verdict =>
    obtain ⟨named, ok⟩ := verdict
    cases ok <;> simp [told]

omit [Host] in
theorem asks_emitted (ref : String) (fx : List Effect) : asks ref (fx.map .emitted) = 0 := by
  unfold asks
  rw [List.countP_map, List.countP_eq_zero]
  simp

variable {i : Input} {log : Log}

omit [Host] in
theorem asks_step (ref : String) :
    asks ref (log ++ .handled m i :: fx.map .emitted) =
      asks ref log + if i.2.body.asks ref then 1 else 0 := by
  have effects := asks_emitted ref fx
  unfold asks at effects ⊢
  rw [List.countP_append, List.countP_cons, effects, Nat.zero_add]

omit [Host] in
theorem reports_step (ref : String) :
    reports ref (log ++ .handled m i :: fx.map .emitted) = reports ref log + reported ref fx := by
  have effects := reports_emitted ref fx
  unfold reports at effects ⊢
  rw [List.countP_append, List.countP_cons, effects]
  simp

theorem Stepped.numbered (numbered : Numbered m) (stepped : Stepped wall msg m fx m') :
    Numbered m' :=
  stepped.elim (Chain.numbered numbered) fun ceremony => ceremony.numbered numbered

/-- What the rules do to the flights is told of beside the step's. -/
theorem Next.flights (inv : Inv m) (numbered : Numbered m) (next : Next m i fx m') :
    (fx = [] ∧ m' = m ∧ ∀ ref, i.2.body.asks ref = false) ∨
      ∃ x, Flights i.1 i.2 (receive m i.2) x ∧ Tallied x.value (settle x.value i.2.now) ∧
        fx = x.log ++ (settle x.value i.2.now).log ∧ m' = (settle x.value i.2.now).value := by
  have numbered' : Numbered (receive m i.2) := ⟨numbered.distinct, numbered.bound⟩
  cases stepped : step i.1 (receive m i.2) i.2 with
  | error e =>
    left
    unfold Next update at next
    rw [show { m with hidden := i.2.hidden } = receive m i.2 from rfl, stepped] at next
    refine ⟨next.1, next.2, fun ref => ?_⟩
    cases body : i.2.body with
    | allocateRequested key asked =>
      rw [step, body] at stepped
      cases stepped
    | _ => rfl
  | ok x =>
    obtain ⟨rfl, rfl⟩ := next.of_step stepped
    have steps : Stepped i.1 i.2 (receive m i.2) x.log x.value :=
      (step_steps (inv.receive i.1 i.2).coherent stepped).symm
    exact .inr ⟨x, step_flights numbered' stepped,
      settle_tallied i.1 (steps.numbered numbered') i.2.now, rfl, rfl⟩

/-- Each allocation asked for is in the air or reported. -/
theorem Next.tally (inv : Inv m) (numbered : Numbered m) (next : Next m i fx m') (ref : String) :
    reported ref fx + airborne ref m'.flights =
      airborne ref m.flights + if i.2.body.asks ref then 1 else 0 := by
  rcases next.flights inv numbered with ⟨rfl, rfl, silent⟩ | ⟨x, flights, settled, rfl, rfl⟩
  · rw [silent ref]
    simp [reported]
  have rest := settled.tally ref
  rw [reported_append]
  suffices h : reported ref x.log + airborne ref x.value.flights =
      airborne ref m.flights + if i.2.body.asks ref then 1 else 0 by omega
  cases flights with
  | @opens key asked body opens =>
    have sum := opens.tally ref
    rw [body]
    simpa [Allocation.names, MsgBody.asks, receive] using sum
  | refuses other tallied =>
    have sum := tallied.tally ref
    have unasked : i.2.body.asks ref = false := by
      cases body : i.2.body with
      | allocateRequested key asked => exact absurd body (other key asked)
      | _ => rfl
    rw [unasked]
    exact sum
  | @accepts flight quote attested seen body passed same =>
    obtain ⟨mem, -, -⟩ := findFlight_mem passed.found
    have ok := (inv.receive i.1 i.2).flight.flights flight mem
    have sum := airborne_without ref numbered.distinct mem
    obtain ⟨told, gone⟩ := acceptQuote_verdicts
      { withoutFlight (receive m i.2) flight.id with seenDepositAddresses := seen } quote attested
      i.2.now fun asked => (ok.allocates asked).1
    rw [same, body, reported, told, gone]
    have one : List.countP (·.1 == ref) (flight.allocate.map fun a => (a.ref, true)).toList =
        airborne ref [flight] := by
      cases asked : flight.allocate with
      | none => simp [airborne, Allocation.names, asked]
      | some allocation => simp [airborne, Allocation.names, asked, List.countP_cons]
    rw [one]
    simp only [MsgBody.asks, Bool.false_eq_true, if_false, Nat.add_zero]
    rw [← sum, Nat.add_comm]
    rfl

omit [Host] in
/-- A step that reports none as allocated, and tells of those it ends, reports exactly. -/
theorem ReportsExactly.of_told (refused : ∀ ref, (ref, true) ∉ verdicts fx)
    (told : Told m.flights fx m'.flights) : ReportsExactly m i fx m' where
  made := fun ref mem => absurd (mem_verdicts.mpr mem) (refused ref)
  told := fun flight mem => (told flight mem).imp_right fun told =>
    .inr fun allocation asked => mem_verdicts.mp (told allocation asked)

/-- The rules after an answer find nothing to do, or no way to a quote. -/
theorem Passed.answered {flight : QuoteFlight} {quote : QuoteResponse}
    {attested : Option StoredDepositAttestation} {seen : SeenDepositAddresses} (inv : FlightInv m)
    (passed : Passed wall m flight quote attested seen) (asked : flight.allocate.isSome = true)
    (lands : Lands m.intent.status) (now : Int) :
    let x := acceptQuote { withoutFlight m flight.id with seenDepositAddresses := seen } flight
      quote attested now
    (settle x.value now).value.intent.quote = some quote ∧
      canSignQuote (settle x.value now).value.intent.status
        (settle x.value now).value.intent.quote = true := by
  intro x
  obtain ⟨solvable, executable, deposit⟩ := passed.allocated inv asked
  have ok := inv.flights flight (findFlight_mem passed.found).1
  have landed : Landed { withoutFlight m flight.id with seenDepositAddresses := seen } flight quote
      attested x.value :=
    acceptQuote_lands { withoutFlight m flight.id with seenDepositAddresses := seen } now
      (ok.allocated asked).1 passed.idle lands
  have still := settle_still
    (landed.calm (ok.congr rfl rfl) executable (.inl deposit) : Calm now x.value)
  rw [still.intent, landed.held, landed.status]
  exact ⟨rfl, by simp [canSignQuote, solvable, executable]⟩

theorem Next.exactly (inv : Inv m) (numbered : Numbered m) (next : Next m i fx m')
    (lands : LandsAllocated m i fx m') : ReportsExactly m i fx m' := by
  rcases next.flights inv numbered with ⟨rfl, rfl, -⟩ | ⟨x, flights, settled, rfl, rfl⟩
  · exact .of_told (by simp) fun flight mem => .inl ⟨flight, mem, rfl, rfl⟩
  have ruled : ∀ ref, (ref, true) ∉ verdicts (settle x.value i.2.now).log := settled.refused
  have refuses (refused : ∀ ref, (ref, true) ∉ verdicts x.log)
      (told : Told m.flights x.log x.value.flights) :
      ReportsExactly m i (x.log ++ (settle x.value i.2.now).log) (settle x.value i.2.now).value := by
    refine .of_told (fun ref mem => ?_) (told.trans settled.told)
    rw [verdicts_append] at mem
    exact (List.mem_append.mp mem).elim (refused ref) (ruled ref)
  cases flights with
  | opens body opens => exact refuses opens.refused opens.told
  | refuses other tallied => exact refuses tallied.refused tallied.told
  | @accepts flight quote attested seen body passed same =>
    obtain ⟨mem, -, -⟩ := findFlight_mem passed.found
    have flying := (inv.receive i.1 i.2).flight
    have ok := flying.flights flight mem
    obtain ⟨told, gone⟩ := acceptQuote_verdicts
      { withoutFlight (receive m i.2) flight.id with seenDepositAddresses := seen } quote attested
      i.2.now fun asked => (ok.allocates asked).1
    rw [← same] at told gone
    have adopts (asked : flight.allocate.isSome = true) :
        Adopts i.2 flight (settle x.value i.2.now).value := by
      subst same
      exact ⟨quote, body, passed.answered flying asked (lands flight quote attested seen body passed
        asked) i.2.now⟩
    constructor
    · intro ref emitted
      rw [← mem_verdicts, verdicts_append, told] at emitted
      have made := (List.mem_append.mp emitted).resolve_right (ruled ref)
      cases asked : flight.allocate with
      | none =>
        rw [asked] at made
        cases made
      | some allocation =>
        rw [asked] at made
        have named : ref = allocation.ref := by simpa using made
        exact ⟨flight, mem, by simp [Allocation.names, asked, named], adopts (by rw [asked]; rfl)⟩
    · intro f flew
      by_cases own : f.id = flight.id
      · have : f = flight := List.inj_on_of_nodup_map numbered.distinct flew mem own
        subst this
        cases asked : f.allocate with
        | none => exact .inr (.inr fun allocation same => by cases same)
        | some allocation => exact .inr (.inl (adopts (by rw [asked]; rfl)))
      · have flies : f ∈ x.value.flights := by
          rw [gone]
          exact List.mem_filter.mpr ⟨flew, by simpa using own⟩
        refine (settled.told f flies).imp_right fun told => .inr fun allocation asked => ?_
        exact List.mem_append_right _ (mem_verdicts.mp (told allocation asked))

/-- An allocation's answer that is refused the move is reported as made. -/
theorem Next.misreports (next : Next m i fx m') (reports : ReportsExactly m i fx m') (inv : Inv m) :
    LandsAllocated m i fx m' := by
  intro flight quote attested seen body passed asked
  by_contra stays
  have ok := (inv.receive i.1 i.2).flight.flights flight (findFlight_mem passed.found).1
  have visible := (ok.allocated asked).1
  have stepped : step i.1 (receive m i.2) i.2 = .ok (acceptQuote
      { withoutFlight (receive m i.2) flight.id with seenDepositAddresses := seen } flight quote
      attested i.2.now) := by
    rw [step, body, ← passed.accepts]
  obtain ⟨rfl, rfl⟩ := next.of_step stepped
  obtain ⟨told, -⟩ := acceptQuote_verdicts
    { withoutFlight (receive m i.2) flight.id with seenDepositAddresses := seen } quote attested
    i.2.now fun _ => visible
  obtain ⟨allocation, allocates⟩ := Option.isSome_iff_exists.mp asked
  obtain ⟨-, -, -, other, -, held, signs⟩ := reports.made allocation.ref <| by
    rw [← mem_verdicts, verdicts_append, told, allocates]
    simp
  have kept := acceptQuote_stays
    { withoutFlight (receive m i.2) flight.id with seenDepositAddresses := seen } quote attested
    i.2.now visible stays
  have settled : Settled i.1 i.2.now (acceptQuote
      { withoutFlight (receive m i.2) flight.id with seenDepositAddresses := seen } flight quote
      attested i.2.now).value _ _ := settle_does rfl
  refine Settled.unquoted settled ?_ ?_
  · rw [kept]
    exact fun quoted => stays (.inl quoted)
  · rw [held] at signs
    simp only [canSignQuote, Bool.and_eq_true, beq_iff_eq] at signs
    exact signs.1.1

theorem numbered_run (run : MachineRun log m) : Numbered m := numbered_law.run run

/-- Along every run each allocation asked for is in the air or reported, once. -/
theorem run_tally (run : MachineRun log m) (ref : String) :
    reports ref log + airborne ref m.flights = asks ref log := by
  refine Run.invariant (P := fun log m => reports ref log + airborne ref m.flights = asks ref log)
    ?_ (fun log m i fx m' before tally next => ?_) run
  · rintro _ ⟨config, ctx, hidden, rfl⟩
    rfl
  · have sum := next.tally (MachineRun.inv before) (numbered_run before) ref
    rw [reports_step, asks_step]
    omega

/-- Along a run each allocation asked for is in the air or reported, once, and exactly, if and only
if every answer to one that passes the gates finds the table open to `quoted`. -/
theorem run_allocations_iff :
    (Run Initial (Only Next ReportsExactly) log m ∧
      ∀ ref, reports ref log + airborne ref m.flights = asks ref log) ↔
      Run Initial (Only Next LandsAllocated) log m := by
  constructor
  · rintro ⟨run, -⟩
    exact run.only_mono fun _ _ _ _ _ before next reports =>
      next.misreports reports (MachineRun.inv before.of_only)
  · intro run
    refine ⟨run.only_mono fun _ _ _ _ _ before next lands => ?_, fun ref => ?_⟩
    · exact next.exactly (MachineRun.inv before.of_only) (numbered_run before.of_only) lands
    · exact run_tally run.of_only ref

end

/-- A preview beside an allocation fails the intent, and the allocation's answer is reported as
made, though the intent stays failed. -/
theorem failed_preview_misreports :
    letI := depositHost
    ∃ m i, Reachable m ∧ m.intent.status = .failed ∧
      ¬ReportsExactly m i (answer m i).1 (answer m i).2 := by
  let _ := depositHost
  obtain ⟨id, m, sent⟩ := deposit_sent
  have numbered : Numbered m := sent.on.reachable.elim fun _ run => numbered_run run
  have askable : Askable (depositForm.flight "" none) sampleNow :=
    ⟨rfl, by decide, by decide +kernel⟩
  obtain ⟨preview, m₁, rfl, sent₁, kept₁⟩ := refreshed sampleWall sent.on
    (by rw [busy, sent.quoting]; rfl) (by rw [sent.quoting]; decide) (by rw [sent.quoting]; rfl)
    sent.unquoted sent.unseen ⟨by decide, by decide⟩ (by decide) askable
  obtain ⟨m₂, on, failed, unseen, kept₂⟩ := quoteErred sampleWall sampleNow sent₁ rfl rfl promptTimeout
  have other : id ≠ "q" ++ toString (m.seq + 1) :=
    numbered.fresh _ (findFlight_mem sent.found).1
  have found := (kept₂ id other).trans ((kept₁ id other).trans sent.found)
  obtain ⟨attested, seen, passed⟩ := deposit_passed on found (by rw [busy, failed]; rfl)
    (by rw [failed]; rfl) unseen
  let i := told sampleWall sampleNow (.quoteReplied id (.ok depositQuote))
  refine ⟨m₂, i, on.reachable, failed, fun reports => ?_⟩
  have lands := (next_answer m₂ i).misreports reports on.reachable.inv _ _ _ _ rfl
    (passed.receive i.2) rfl
  rw [failed] at lands
  exact absurd lands (by simp [Lands, canTransitionTo, intentStatusTransitions])

end XochiSdk.Client
