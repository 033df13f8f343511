import Mathlib.Data.List.Nodup
import XochiSdk.Library.Numerals
import XochiSdk.Client.Machine.Runs

/-!
# The allocation ledger

Every allocation asked for is in the air or reported, and reported once: each handler of the
machine reports exactly the allocations of the flights it takes out of the air, and none but an
accepted quote's as allocated.
-/

namespace XochiSdk.Client

open XochiSdk.Js XochiSdk.Shared XochiSdk.Signer XochiSdk.Library Emits

/-- The allocation an effect reports, and how it ended. -/
def Effect.verdict : Effect → Option (String × Bool)
  | .emit (.allocation ref ok) => some (ref, ok)
  | _ => none

def verdicts (fx : List Effect) : List (String × Bool) := fx.filterMap Effect.verdict

@[simp] theorem verdicts_nil : verdicts [] = [] := rfl

@[simp] theorem verdicts_append (fx fy : List Effect) :
    verdicts (fx ++ fy) = verdicts fx ++ verdicts fy := List.filterMap_append

theorem mem_verdicts {fx : List Effect} {ref : String} {ok : Bool} :
    (ref, ok) ∈ verdicts fx ↔ .emit (.allocation ref ok) ∈ fx := by
  simp only [verdicts, List.mem_filterMap]
  constructor
  · rintro ⟨e, he, verdict⟩
    unfold Effect.verdict at verdict
    split at verdict
    · cases verdict
      exact he
    · cases verdict
  · exact fun he => ⟨_, he, rfl⟩

/-- The reports of one reference. -/
def reported (ref : String) (fx : List Effect) : Nat := (verdicts fx).countP (·.1 == ref)

@[simp] theorem reported_append (ref : String) (fx fy : List Effect) :
    reported ref (fx ++ fy) = reported ref fx + reported ref fy := by
  simp [reported]

def Allocation.names (ref : String) (allocate : Option Allocation) : Bool :=
  (allocate.map (·.ref)) == some ref

/-- The flights of one reference in the air. -/
def airborne (ref : String) (flights : List QuoteFlight) : Nat :=
  flights.countP fun flight => Allocation.names ref flight.allocate

@[simp] theorem airborne_nil (ref : String) : airborne ref [] = 0 := rfl

@[simp] theorem airborne_append (ref : String) (fs gs : List QuoteFlight) :
    airborne ref (fs ++ gs) = airborne ref fs + airborne ref gs := List.countP_append

/-- A flight is still in the air, with the allocation it had. -/
def Airborne (flights : List QuoteFlight) (flight : QuoteFlight) : Prop :=
  ∃ f ∈ flights, f.id = flight.id ∧ f.allocate = flight.allocate

/-- The flights that are gone are reported, as refused. -/
def Told (flights : List QuoteFlight) (fx : List Effect) (flights' : List QuoteFlight) : Prop :=
  ∀ flight ∈ flights, Airborne flights' flight ∨
    ∀ allocation, flight.allocate = some allocation → (allocation.ref, false) ∈ verdicts fx

theorem Told.kept (flights : List QuoteFlight) (fx : List Effect) : Told flights fx flights :=
  fun flight mem => .inl ⟨flight, mem, rfl, rfl⟩

theorem Told.trans {flights flights' flights'' : List QuoteFlight} {fx fy : List Effect}
    (first : Told flights fx flights') (second : Told flights' fy flights'') :
    Told flights (fx ++ fy) flights'' := by
  intro flight mem
  rw [verdicts_append]
  rcases first flight mem with ⟨f, mem', id, allocate⟩ | told
  · rcases second f mem' with ⟨g, mem'', id', allocate'⟩ | told
    · exact .inl ⟨g, mem'', id'.trans id, allocate'.trans allocate⟩
    · rw [allocate] at told
      exact .inr fun allocation asked => List.mem_append_right _ (told allocation asked)
  · exact .inr fun allocation asked => List.mem_append_left _ (told allocation asked)

/-- What takes the flights in the air to others reports those that are gone, none as
allocated. -/
structure Refuses (flights : List QuoteFlight) (fx : List Effect) (flights' : List QuoteFlight) :
    Prop where
  tally : ∀ ref, reported ref fx + airborne ref flights' = airborne ref flights
  refused : ∀ ref, (ref, true) ∉ verdicts fx
  told : Told flights fx flights'

/-- The effects report no allocation. -/
def Mute (fx : List Effect) : Prop := verdicts fx = []

namespace Refuses

variable {flights flights' flights'' : List QuoteFlight} {fx fy : List Effect}

theorem mute (h : Mute fx) : Refuses flights fx flights where
  tally := fun ref => by rw [reported, h]; simp
  refused := fun ref => by rw [h]; simp
  told := .kept flights fx

theorem done : Refuses flights [] flights := mute rfl

theorem trans (first : Refuses flights fx flights') (second : Refuses flights' fy flights'') :
    Refuses flights (fx ++ fy) flights'' where
  tally := by
    intro ref
    have one := first.tally ref
    have two := second.tally ref
    rw [reported_append]
    omega
  refused := by
    intro ref mem
    rw [verdicts_append] at mem
    rcases List.mem_append.mp mem with h | h
    · exact first.refused ref h
    · exact second.refused ref h
  told := first.told.trans second.told

/-- Effects that report nothing, before. -/
theorem after (h : Mute fx) (rest : Refuses flights fy flights') :
    Refuses flights (fx ++ fy) flights' :=
  (mute h).trans rest

end Refuses

/-- A handler reports the flights it takes out of the air, none as allocated. -/
def Tallied (m : Model) (x : Machine Model) : Prop := Refuses m.flights x.log x.value.flights

namespace Tallied

variable {m m₁ : Model} {x : Machine Model} {α : Type}

/-- The flights stay in the air. -/
theorem pure (same : m₁.flights = m.flights) : Tallied m (Pure.pure m₁) := by
  unfold Tallied
  rw [value_pure, same]
  exact .done

theorem bind {f : Model → Machine Model} (first : Tallied m x) (rest : Tallied x.value (f x.value)) :
    Tallied m (x >>= f) :=
  Refuses.trans first rest

theorem after {y : Machine α} {f : α → Machine Model} (h : Mute y.log)
    (rest : Tallied m (f y.value)) : Tallied m (y >>= f) :=
  Refuses.after h rest

theorem of (h : Tallied m₁ x) (same : m₁.flights = m.flights) : Tallied m x := by
  unfold Tallied at h ⊢
  rwa [← same]

theorem ite {c : Prop} [Decidable c] {y : Machine Model} (yes : c → Tallied m x)
    (no : ¬c → Tallied m y) : Tallied m (if c then x else y) := by
  split
  · exact yes ‹_›
  · exact no ‹_›

end Tallied

@[simp] theorem timer_mute (call : TimerCall) : Mute [.timer call] := rfl

@[simp] theorem log_mute (level : LogLevel) (message : String) (data : List Value) :
    Mute [.emit (.log level message data)] := rfl

@[simp] theorem api_mute (call : ApiCall) : Mute [.api call] := rfl

@[simp] theorem wallet_mute (call : WalletCall) : Mute [.wallet call] := rfl

theorem report_mute (level : LogLevel) (message : String) (data : List Value) :
    Mute (report level message data).log := rfl

/-! ## Flights taken out of the air -/

theorem endAllocation_refuses (flight : QuoteFlight) :
    Refuses [flight] (endAllocation flight.allocate false).log [] := by
  cases asked : flight.allocate with
  | none =>
    refine ⟨fun ref => ?_, fun ref mem => (by cases mem), fun f mem => .inr ?_⟩
    · simp [airborne, Allocation.names, asked, endAllocation, reported]
    · rw [List.mem_singleton.mp mem, asked]
      simp
  | some allocation =>
    refine ⟨fun ref => ?_, fun ref mem => ?_, fun f mem => .inr ?_⟩
    · simp [airborne, Allocation.names, asked, endAllocation, reported, verdicts, Effect.verdict,
        List.countP_cons, List.countP_nil]
    · simp [endAllocation, verdicts, Effect.verdict] at mem
    · rw [List.mem_singleton.mp mem, asked]
      rintro _ ⟨⟩
      simp [endAllocation, verdicts, Effect.verdict]

theorem Refuses.weaken {flights flights' : List QuoteFlight} {fx : List Effect}
    (h : Refuses flights fx flights') (others : List QuoteFlight) :
    Refuses (flights ++ others) fx (flights' ++ others) where
  tally := by
    intro ref
    have := h.tally ref
    rw [airborne_append, airborne_append]
    omega
  refused := h.refused
  told := by
    intro flight mem
    rcases List.mem_append.mp mem with mem | mem
    · refine (h.told flight mem).imp_left fun ⟨f, mem', same⟩ => ⟨f, ?_, same⟩
      exact List.mem_append_left _ mem'
    · exact .inl ⟨flight, List.mem_append_right _ mem, rfl, rfl⟩

theorem Refuses.beside {flights flights' : List QuoteFlight} {fx : List Effect}
    (h : Refuses flights fx flights') (others : List QuoteFlight) :
    Refuses (others ++ flights) fx (others ++ flights') where
  tally := by
    intro ref
    have := h.tally ref
    rw [airborne_append, airborne_append]
    omega
  refused := h.refused
  told := by
    intro flight mem
    rcases List.mem_append.mp mem with mem | mem
    · exact .inl ⟨flight, List.mem_append_left _ mem, rfl, rfl⟩
    · refine (h.told flight mem).imp_left fun ⟨f, mem', same⟩ => ⟨f, ?_, same⟩
      exact List.mem_append_right _ mem'

theorem endAllocations_refuses (flights : List QuoteFlight) :
    Refuses flights (endAllocations flights).log [] := by
  induction flights with
  | nil => exact .done
  | cons flight rest ih => exact ((endAllocation_refuses flight).weaken rest).trans ih

theorem supersedeFlights_tallied (m : Model) : Tallied m (supersedeFlights m) := by
  have dropped := (endAllocations_refuses m.flights).trans .done
  exact dropped

/-- Flights have an id each. -/
def Distinct (flights : List QuoteFlight) : Prop := (flights.map (·.id)).Nodup

/-- One flight out of the air. -/
theorem airborne_without (ref : String) {flights : List QuoteFlight} {flight : QuoteFlight}
    (distinct : Distinct flights) (mem : flight ∈ flights) :
    airborne ref (flights.filter fun f => f.id != flight.id) + airborne ref [flight] =
      airborne ref flights := by
  induction flights with
  | nil => cases mem
  | cons f flights ih =>
    unfold Distinct at distinct
    rw [List.map_cons, List.nodup_cons] at distinct
    have split : airborne ref (f :: flights) = airborne ref [f] + airborne ref flights :=
      airborne_append ref [f] flights
    by_cases same : f.id = flight.id
    · have kept : flights.filter (fun g => g.id != flight.id) = flights := by
        rw [List.filter_eq_self]
        intro g hg
        have : g.id ∈ flights.map (·.id) := List.mem_map_of_mem hg
        simp only [bne_iff_ne, ne_eq]
        intro alike
        rw [alike, ← same] at this
        exact distinct.1 this
      have here : f = flight := by
        rcases List.mem_cons.mp mem with h | h
        · exact h.symm
        · have : flight.id ∈ flights.map (·.id) := List.mem_map_of_mem h
          rw [← same] at this
          exact absurd this distinct.1
      rw [List.filter_cons_of_neg (by simp [same]), kept, split, here]
      omega
    · have rest : flight ∈ flights := by
        rcases List.mem_cons.mp mem with h | h
        · exact absurd (by rw [h]) same
        · exact h
      have := ih distinct.2 rest
      rw [List.filter_cons_of_pos (by simp [same]), split]
      have split' : airborne ref (f :: flights.filter fun g => g.id != flight.id) =
          airborne ref [f] + airborne ref (flights.filter fun g => g.id != flight.id) :=
        airborne_append ref [f] _
      omega

/-- A flight put back with the allocation it had. -/
theorem airborne_putFlight (ref : String) {m : Model} {flight flight' : QuoteFlight}
    (distinct : Distinct m.flights) (mem : flight ∈ m.flights) (id : flight'.id = flight.id)
    (allocate : flight'.allocate = flight.allocate) :
    airborne ref (putFlight m flight').flights = airborne ref m.flights := by
  have := airborne_without ref distinct mem
  have same : airborne ref [flight'] = airborne ref [flight] := by
    simp [airborne, allocate, List.countP_cons]
  unfold putFlight
  dsimp only
  rw [airborne_append, same, id]
  omega

/-! ## The move -/

theorem abandonSign_mute (m : Model) : Mute (abandonSign m).log := by
  unfold abandonSign
  split <;> split <;> rfl

theorem abandonSign_tallied (m : Model) : Tallied m (abandonSign m) := by
  unfold Tallied
  rw [abandonSign_value]
  exact .mute (abandonSign_mute m)

theorem transition_tallied (m : Model) (target : IntentStatus)
    (updates : IntentState → IntentState) : Tallied m (transition m target updates) := by
  have leaves (m₁ : Model) (c : Bool) :
      Tallied m₁ (if c then abandonSign m₁ else pure m₁) :=
    .ite (fun _ => abandonSign_tallied m₁) fun _ => .pure rfl
  unfold transition
  split
  · exact .after (report_mute _ _ _) (.pure rfl)
  · rename_i intent _
    refine Tallied.of (?_ : Tallied { m with intent := { intent with notSent := false } } _) rfl
    dsimp only
    split
    · exact .bind (supersedeFlights_tallied _) (leaves _ _)
    · exact leaves _ _

/-- A move that stays before execution takes no flight out of the air. -/
theorem transition_mute (m : Model) {target : IntentStatus} (updates : IntentState → IntentState)
    (still : quoteBusyStates.contains target = false) :
    Mute (transition m target updates).log ∧
      (transition m target updates).value.flights = m.flights := by
  have leaves (m₁ : Model) (c : Bool) :
      Mute (if c then abandonSign m₁ else pure m₁ : Machine Model).log ∧
        (if c then abandonSign m₁ else pure m₁ : Machine Model).value.flights = m₁.flights := by
    split
    · exact ⟨abandonSign_mute m₁, by rw [abandonSign_value]⟩
    · exact ⟨rfl, rfl⟩
  unfold transition
  split
  · exact ⟨report_mute _ _ _, rfl⟩
  · simp only [still, Bool.false_and]
    exact leaves _ _

/-! ## Quotes -/

/-- A flight that ends short of its answer. -/
theorem dropped_tallied {m : Model} {flight : QuoteFlight} {x : Machine Model} (mute : Mute x.log)
    (flights : x.value.flights = (withoutFlight m flight.id).flights) :
    Tallied (putFlight m flight) (endAllocation flight.allocate false >>= fun _ => x) := by
  have ends : Refuses (putFlight m flight).flights (endAllocation flight.allocate false).log
      ((withoutFlight m flight.id).flights ++ []) :=
    (endAllocation_refuses flight).beside _
  rw [List.append_nil, ← flights] at ends
  exact ends.trans (.mute mute)

section

variable {m : Model}

/-- Flights are numbered as they start. -/
structure Numbered (m : Model) : Prop where
  distinct : Distinct m.flights
  bound : ∀ flight ∈ m.flights, ∃ n ≤ m.seq, flight.id = "q" ++ toString n

/-- The next number is nobody's. -/
theorem Numbered.fresh (numbered : Numbered m) :
    ∀ flight ∈ m.flights, flight.id ≠ "q" ++ toString (m.seq + 1) := by
  intro flight mem same
  obtain ⟨n, le, id⟩ := numbered.bound flight mem
  rw [id] at same
  have := natRepr_injective (String.append_right_inj "q" |>.mp same)
  omega

/-- The allocation a handler is asked for joins those in the air, or is refused. -/
structure Opens (m : Model) (allocate : Option Allocation) (x : Machine Model) : Prop where
  tally : ∀ ref, reported ref x.log + airborne ref x.value.flights =
    airborne ref m.flights + if Allocation.names ref allocate then 1 else 0
  refused : ∀ ref, (ref, true) ∉ verdicts x.log
  told : Told m.flights x.log x.value.flights

theorem Opens.tallied {x : Machine Model} (opens : Opens m none x) : Tallied m x where
  tally := opens.tally
  refused := opens.refused
  told := opens.told

/-- An ask that is refused at once. -/
theorem Opens.refuse {m₁ : Model} {allocate : Option Allocation} (same : m₁.flights = m.flights) :
    Opens m allocate (endAllocation allocate false >>= fun _ => pure m₁) := by
  have kept {told : QuoteFlight → Prop} : ∀ flight ∈ m.flights,
      Airborne (endAllocation allocate false >>= fun _ => pure m₁).value.flights flight ∨
        told flight := by
    intro flight mem
    rw [value_bind, value_pure, same]
    exact .inl ⟨flight, mem, rfl, rfl⟩
  cases allocate with
  | none =>
    refine ⟨fun ref => ?_, fun ref mem => (by cases mem), kept⟩
    simp [endAllocation, reported, same, Allocation.names]
  | some allocation =>
    refine ⟨fun ref => ?_, fun ref mem => ?_, kept⟩
    · simp [endAllocation, reported, verdicts, Effect.verdict, Allocation.names, same,
        List.countP_cons]
      omega
    · simp [endAllocation, verdicts, Effect.verdict] at mem

theorem Opens.after {α : Type} {allocate : Option Allocation} {y : Machine α}
    {f : α → Machine Model} (mute : Mute y.log) (opens : Opens m allocate (f y.value)) :
    Opens m allocate (y >>= f) where
  tally := by
    intro ref
    have := opens.tally ref
    rw [log_bind, value_bind, reported_append, reported, mute]
    simpa using this
  refused := by
    intro ref mem
    rw [log_bind, verdicts_append, mute] at mem
    exact opens.refused ref mem
  told := (Told.kept m.flights y.log).trans opens.told

/-- A new flight joins the others. -/
theorem putFlight_new {flight : QuoteFlight} (new : ∀ f ∈ m.flights, f.id ≠ flight.id) :
    (putFlight m flight).flights = m.flights ++ [flight] := by
  have kept : m.flights.filter (fun f => f.id != flight.id) = m.flights := by
    rw [List.filter_eq_self]
    intro f mem
    simpa using new f mem
  unfold putFlight
  dsimp only
  rw [kept]

theorem Opens.launch {m₁ : Model} (flight : QuoteFlight) {x : Machine Model}
    (same : m₁.flights = m.flights) (new : ∀ f ∈ m.flights, f.id ≠ flight.id)
    (tallied : Tallied (putFlight m₁ flight) x) : Opens m flight.allocate x := by
  unfold Tallied at tallied
  rw [putFlight_new (by rwa [same]), same] at tallied
  refine ⟨fun ref => ?_, tallied.refused, fun f mem => tallied.told f (List.mem_append_left _ mem)⟩
  have sum := tallied.tally ref
  rw [airborne_append] at sum
  have one : airborne ref [flight] = if Allocation.names ref flight.allocate then 1 else 0 := by
    simp [airborne, List.countP_cons]
  omega

/-- A flight that was in the air, taken up again. -/
theorem Tallied.resume {flight : QuoteFlight} {x : Machine Model} (distinct : Distinct m.flights)
    (mem : flight ∈ m.flights) (h : Tallied (putFlight m flight) x) : Tallied m x where
  tally := by
    intro ref
    rw [h.tally ref]
    exact airborne_putFlight ref distinct mem rfl rfl
  refused := h.refused
  told := by
    intro f mem'
    refine h.told f ?_
    unfold putFlight
    rw [List.mem_append]
    by_cases same : f.id = flight.id
    · right
      rw [List.mem_singleton]
      exact List.inj_on_of_nodup_map distinct mem' mem same
    · exact .inl (List.mem_filter.mpr ⟨mem', by simpa using same⟩)

theorem quoteFailed_flights (m : Model) (flight : QuoteFlight) (error : ErrorValue) :
    (quoteFailed m flight error).flights = m.flights := by
  unfold quoteFailed
  split
  · unfold allocationFailed
    split <;> rfl
  · rfl

theorem dropStaleFlight_tallied {flight : QuoteFlight} (distinct : Distinct m.flights)
    (mem : flight ∈ m.flights) : Tallied m (dropStaleFlight m flight) :=
  .resume distinct mem (.after (report_mute _ _ _) (dropped_tallied rfl rfl))

theorem refuseQuote_tallied {flight : QuoteFlight} (error : String) (quote : Option QuoteResponse)
    (distinct : Distinct m.flights) (mem : flight ∈ m.flights) :
    Tallied m (refuseQuote (withoutFlight m flight.id) flight error quote) := by
  refine .resume distinct mem (dropped_tallied ?_ ?_)
  · split
    · rfl
    · exact (transition_mute _ _ rfl).1
  · split
    · rfl
    · exact (transition_mute _ _ rfl).2

theorem quoteThrew_tallied {flight : QuoteFlight} (failure : ErrorReport)
    (distinct : Distinct m.flights) (mem : flight ∈ m.flights) :
    Tallied m (quoteThrew (withoutFlight m flight.id) flight failure) := by
  refine .resume distinct mem (.after (report_mute _ _ _) (dropped_tallied ?_ ?_))
  · split <;> rfl
  · split
    · rfl
    · exact quoteFailed_flights _ _ _

variable [Host]

theorem sendQuote_tallied (m : Model) (flight : QuoteFlight) (now : Int) :
    Tallied (putFlight m flight) (sendQuote m flight now) := by
  have holds : Mute (if flight.silent then pure (withoutFlight m flight.id)
      else transition (withoutFlight m flight.id) .quoting fun intent =>
        { intent with quote := none, error := none } : Machine Model).log ∧
      (if flight.silent then pure (withoutFlight m flight.id)
      else transition (withoutFlight m flight.id) .quoting fun intent =>
        { intent with quote := none, error := none } : Machine Model).value.flights =
        (withoutFlight m flight.id).flights := by
    split
    · exact ⟨rfl, rfl⟩
    · exact transition_mute _ _ rfl
  unfold sendQuote
  dsimp only
  split
  · exact dropped_tallied holds.1 holds.2
  split
  · refine .after (report_mute _ _ _) (dropped_tallied ?_ ?_)
    · split <;> rfl
    · split <;> rfl
  · -- the flight is put back as it was, with its request
    have sent (m₁ : Model) (same : m₁.flights = m.flights) :
        Tallied (putFlight m flight) (do
          emit (.api (.quote flight.id (flightRequest flight now) flight.forceRefresh))
          pure (putFlight m₁ (flight.sent now))) := by
      have kept (ref : String) : airborne ref (putFlight m₁ (flight.sent now)).flights =
          airborne ref (putFlight m flight).flights := by
        unfold putFlight
        dsimp only
        rw [same, airborne_append, airborne_append]
        rfl
      refine ⟨fun ref => ?_, fun ref mem => (by cases mem), fun f mem => .inl ?_⟩
      · have := kept ref
        simp only [log_bind, value_bind, log_pure, value_pure, log_emit, List.append_nil]
        rw [this]
        exact Nat.zero_add _
      · rw [value_bind, value_pure]
        unfold putFlight at mem ⊢
        rcases List.mem_append.mp mem with other | own
        · exact ⟨f, List.mem_append_left _ (by rwa [same]), rfl, rfl⟩
        · rw [List.mem_singleton.mp own]
          exact ⟨flight.sent now, List.mem_append_right _ (by simp), rfl, rfl⟩
    split
    · exact sent m rfl
    · obtain ⟨mute, kept⟩ := transition_mute m id (rfl : quoteBusyStates.contains .quoting = false)
      exact .after mute (sent _ kept)

theorem startQuote_opens (numbered : Numbered m) (now : Int) {opts : QuoteOpts}
    (visible : opts.allocate.isSome = true → opts.silent = false) :
    Opens m opts.allocate (startQuote m now opts) := by
  unfold startQuote
  split
  · exact .after (report_mute _ _ _) (.refuse rfl)
  dsimp only
  split
  · exact .refuse rfl
  let flight : QuoteFlight :=
    { id := "q" ++ toString (m.seq + 1), stage := .session, amount := opts.amount
      silent := opts.silent, forceRefresh := opts.forceRefresh, allocate := opts.allocate
      ctx := m.ctx, depositOrigin := !isChainId m.ctx.fromChainId
      preview := quoteAccessDecision (textSet m.ctx.wallet.address) m.ctx.settlementPreference
        (!isChainId m.ctx.fromChainId) opts.allocate.isSome == .preview
      request := none }
  have opened {x : Machine Model} (tallied : Tallied (putFlight { m with seq := m.seq + 1 } flight) x) :
      Opens m opts.allocate x :=
    .launch (m := m) flight rfl numbered.fresh tallied
  split
  · split
    · rename_i silent
      have plain : opts.allocate = none := by
        cases asked : opts.allocate with
        | none => rfl
        | some allocation =>
          rw [asked] at visible
          rw [visible rfl] at silent
          cases silent
      rw [plain]
      refine ⟨fun ref => ?_, fun ref mem => (by cases mem), fun f mem => .inl ⟨f, mem, rfl, rfl⟩⟩
      simp [reported, nextId, Allocation.names]
    · exact .after (wallet_mute _) (opened (.pure rfl))
  · exact opened (sendQuote_tallied _ flight now)

theorem onSession_tallied (distinct : Distinct m.flights) (id : String) (result : SessionResult)
    (now : Int) : Tallied m (onSession m id result now) := by
  unfold onSession
  split
  · exact .pure rfl
  rename_i flight found
  obtain ⟨mem, rfl, -⟩ := findFlight_mem found
  refine .ite (fun _ => dropStaleFlight_tallied distinct mem) fun _ => ?_
  refine .ite (fun _ => .resume distinct mem (sendQuote_tallied m flight now)) fun _ => ?_
  refine .resume distinct mem (dropped_tallied ?_ ?_)
  · split <;> rfl
  · split
    · rfl
    · exact quoteFailed_flights _ _ _

/-- An answer every gate lets through. -/
structure Passed (wall : WallClock) (m : Model) (flight : QuoteFlight) (quote : QuoteResponse)
    (attested : Option StoredDepositAttestation) (seen : SeenDepositAddresses) : Prop where
  found : findFlight m flight.id .api = some flight
  idle : busy m = false
  live : endedStates.contains m.intent.status = false
  gates : quoteRefusal wall quote flight m.config.pullRecipients = none
  verified : Verified wall m flight quote attested seen

/-- A quote's answer reports its flight refused, or is accepted. -/
theorem onQuote_cases (distinct : Distinct m.flights) (wall : WallClock) (id : String)
    (result : Outcome QuoteResponse) (now : Int) :
    Tallied m (onQuote wall m id result now) ∨
      ∃ flight quote attested seen, id = flight.id ∧ result = .ok quote ∧
        Passed wall m flight quote attested seen ∧
        onQuote wall m id result now = acceptQuote
          { withoutFlight m flight.id with seenDepositAddresses := seen } flight quote attested now := by
  unfold onQuote
  split
  · exact .inl (.pure rfl)
  rename_i flight found
  obtain ⟨mem, rfl, -⟩ := findFlight_mem found
  dsimp only
  split
  · exact .inl (dropStaleFlight_tallied distinct mem)
  rename_i idle
  obtain ⟨idle, live⟩ : busy m = false ∧ endedStates.contains m.intent.status = false := by
    simpa [busy] using idle
  cases result with
  | error failure => exact .inl (quoteThrew_tallied failure distinct mem)
  | ok quote =>
    have rejected (verdict : DepositRejection) :
        Tallied m (attestationRejected (withoutFlight m flight.id) flight verdict) :=
      .after (report_mute _ _ _) (refuseQuote_tallied _ _ distinct mem)
    dsimp only
    unfold onServedQuote
    split
    · exact .inl (.after (report_mute _ _ _) (refuseQuote_tallied _ _ distinct mem))
    rename_i gates
    split
    · rename_i deposit
      exact .inr ⟨flight, quote, none, m.seenDepositAddresses, rfl, rfl,
        ⟨found, idle, live, gates, .intent (by simpa using deposit)⟩, rfl⟩
    rename_i deposit
    split
    · exact .inl (rejected _)
    rename_i request precheck
    split
    · exact .inl (rejected _)
    rename_i verified check
    exact .inr ⟨flight, quote, some verified.stored, verified.seen, rfl, rfl,
      ⟨found, idle, live, gates, .deposit (by simpa using deposit) precheck check⟩, rfl⟩

end

end XochiSdk.Client
