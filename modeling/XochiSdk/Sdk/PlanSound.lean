import XochiSdk.Sdk.Orchestrator
import XochiSdk.Sdk.VenueLaw
import XochiSdk.Js.Hex
import XochiSdk.Library.Keccak
import Mathlib.Tactic.Linarith
import Mathlib.Tactic.FieldSimp
import Mathlib.Tactic.Positivity

/-!
# Soundness of execution plans

What holds of every plan: the sub-trades are the total cut in order, each carries the venue
assigned to it, the gas is within the budget and the times keep their distance inside the window.
-/

namespace XochiSdk.Sdk

open XochiSdk.Js

/-! ## Splitting -/

/-- The sub-trades of a total: they add up to it, are numbered in order, are no more than the cap,
and where they are several none is below the minimum. -/
structure SplitSound (total maxSubTrades minSubTradeSize : Int) (subTrades : List SubTrade) :
    Prop where
  sum : (subTrades.map (·.amount)).sum = total
  indices : subTrades.map (·.index) = (List.range subTrades.length).map Int.ofNat
  nonempty : 0 < subTrades.length
  count : (subTrades.length : Int) ≤ maxSubTrades
  size : 1 < subTrades.length → ∀ st ∈ subTrades, minSubTradeSize ≤ st.amount

theorem whole_sound {total cap least : Int} (room : 1 ≤ cap) :
    SplitSound total cap least [⟨0, total⟩] := by
  constructor
  case sum => simp
  case indices => rfl
  case nonempty => simp
  case count => simpa using room
  case size => simp

theorem cut_sound {total cap least : Int} {n : Nat} (several : 2 ≤ n) (room : (n : Int) ≤ cap)
    (enough : total / n ≥ least) : SplitSound total cap least (cut total n (total / n)) := by
  have length : (cut total n (total / n)).length = n := by
    simp only [cut, List.length_append, List.length_map, List.length_range, List.length_singleton]
    omega
  constructor
  case sum =>
    simp only [cut, List.map_append, List.map_map, List.sum_append]
    simp [Function.comp_def]
    ring
  case indices =>
    rw [length]
    obtain ⟨k, rfl⟩ : ∃ k, n = k + 1 := ⟨n - 1, by omega⟩
    simp [cut, List.range_succ, Function.comp_def]
  case nonempty => omega
  case count => rwa [length]
  case size =>
    intro _ st among
    rcases List.mem_append.mp among with early | last
    · obtain ⟨i, -, rfl⟩ := List.mem_map.mp early
      exact enough
    · rw [List.mem_singleton.mp last]
      have floor : total / n * n ≤ total := Int.ediv_mul_le total (by omega)
      have rest : total / n * ((n - 1 : Nat) : Int) = total / n * n - total / n := by
        push_cast [Nat.cast_sub (show 1 ≤ n by omega)]
        ring
      change least ≤ total - total / n * ((n - 1 : Nat) : Int)
      omega

/-- The loop lowers the count until the base amount is large enough. -/
theorem reduceSplit_sound {total cap least : Int} (two : 1 ≤ cap) (n : Nat)
    (room : (n : Int) ≤ cap) : SplitSound total cap least (reduceSplit total least n) := by
  induction n with
  | zero => exact whole_sound two
  | succ n ih =>
    cases n with
    | zero => exact whole_sound two
    | succ n =>
      unfold reduceSplit
      dsimp only
      split
      case isTrue enough => exact cut_sound (by omega) room enough
      case isFalse => exact ih (by omega)

theorem validateConfig_ok {config : SplitConfig} (h : validateConfig config = .ok ()) :
    minSplitThreshold ≤ config.splitThreshold ∧ 2 ≤ config.maxSubTrades ∧
      config.maxSubTrades ≤ 100 ∧ 0 < config.minSubTradeSize := by
  unfold validateConfig at h
  by_cases threshold : config.splitThreshold < minSplitThreshold
  · rw [if_pos threshold] at h
    cases h
  rw [if_neg threshold] at h
  by_cases cap : config.maxSubTrades < 2 ∨ config.maxSubTrades > 100
  · rw [if_pos cap] at h
    cases h
  rw [if_neg cap] at h
  by_cases least : config.minSubTradeSize ≤ 0
  · rw [if_pos least] at h
    cases h
  omega

theorem initialCount_le {total : Int} {config : SplitConfig} (cap : 2 ≤ config.maxSubTrades) :
    ((initialCount total config).toNat : Int) ≤ config.maxSubTrades := by
  unfold initialCount
  dsimp only
  split_ifs <;> omega

theorem planSplit_ok {coder : TradeIdCoder} {total : Int} {jurisdiction : Nat}
    {submitter : String} {config : SplitOptions} {nonce : List UInt8} {plan : SplitPlan}
    (h : planSplit coder total jurisdiction submitter config nonce = .ok plan) :
    plan.totalAmount = total ∧
      SplitSound total config.resolve.maxSubTrades config.resolve.minSubTradeSize
        plan.subTrades := by
  unfold planSplit at h
  cases valid : validateConfig config.resolve with
  | error message =>
    simp only [valid] at h
    cases h
  | ok =>
    obtain ⟨-, two, -, -⟩ := validateConfig_ok valid
    simp only [valid] at h
    by_cases positive : total ≤ 0
    · simp only [if_pos positive] at h
      cases h
    · simp only [if_neg positive] at h
      cases coded : coder.tradeId total jurisdiction nonce submitter with
      | error message =>
        simp only [coded] at h
        cases h
      | ok id =>
        simp only [coded] at h
        cases h
        refine ⟨rfl, ?_⟩
        dsimp only
        split
        case isTrue => exact whole_sound (by omega)
        case isFalse => exact reduceSplit_sound (by omega) _ (initialCount_le two)

/-- Splitting returns a plan of every total that packs. -/
theorem planSplit_returns {coder : TradeIdCoder} {total : Int} {jurisdiction : Nat}
    {submitter : String} {config : SplitOptions} {nonce : List UInt8} {id : String}
    (valid : validateConfig config.resolve = .ok ()) (positive : 0 < total)
    (coded : coder.tradeId total jurisdiction nonce submitter = .ok id) :
    ∃ plan, planSplit coder total jurisdiction submitter config nonce = .ok plan := by
  unfold planSplit
  simp only [valid, if_neg (not_le.mpr positive), coded]
  exact ⟨_, rfl⟩

/-! ## Venues -/

section
variable {preference : List VenueId} {constraints : VenueConstraints} {budget : Int}

theorem Feasible.permitted {left : Int} {venues : List VenueId}
    (feasible : Feasible preference constraints budget left venues) :
    ∀ venue ∈ venues, Permitted preference constraints venue := by
  induction venues generalizing left with
  | nil => simp
  | cons venue rest ih =>
    intro v among
    rcases List.mem_cons.mp among with rfl | later
    · exact feasible.1
    · exact ih feasible.2.2 v later

/-- The gas of a choice within the budget, whatever the signs of the estimates. -/
theorem Feasible.sum_le {left : Int} (set : budget > 0) (room : 0 ≤ left) {venues : List VenueId}
    (feasible : Feasible preference constraints budget left venues) :
    (venues.map constraints.gasEstimates).sum ≤ left := by
  induction venues generalizing left with
  | nil => simpa using room
  | cons venue rest ih =>
    obtain ⟨-, fits, later⟩ := feasible
    have within := fits set
    unfold spend at later
    rw [if_pos set] at later
    have tail := ih (by omega) later
    simp only [List.map_cons, List.sum_cons]
    omega

theorem zipWith_left {α β γ : Type} (f : α → γ) {as : List α} {bs : List β}
    (length : bs.length = as.length) : as.zipWith (fun a _ => f a) bs = as.map f := by
  induction as generalizing bs with
  | nil => rfl
  | cons a as ih =>
    cases bs with
    | nil => cases length
    | cons b bs => simp [ih (by simpa using length)]

theorem zipWith_right {α β γ : Type} (f : β → γ) {as : List α} {bs : List β}
    (length : bs.length = as.length) : as.zipWith (fun _ b => f b) bs = bs.map f := by
  induction as generalizing bs with
  | nil => simp_all
  | cons a as ih =>
    cases bs with
    | nil => cases length
    | cons b bs => simp [ih (by simpa using length)]

theorem byAmount_perm (trades : List SubTrade) : (byAmount trades).Perm trades :=
  List.perm_insertionSort _ _

theorem byIndex_perm (assignments : List VenueAssignment) :
    (byIndex assignments).Perm assignments :=
  List.perm_insertionSort _ _

theorem range_sorted (n : Nat) :
    ((List.range n).map Int.ofNat).Pairwise (fun a b => a ≤ b) := by
  refine List.Pairwise.map Int.ofNat ?_ List.pairwise_le_range
  intro a b h
  exact Int.ofNat_le.mpr h

/-- Sorted by index, the assignments stand in the order of the trades. -/
theorem assigned_indices (constraints : VenueConstraints) {trades : List SubTrade}
    (indices : trades.map (·.index) = (List.range trades.length).map Int.ofNat)
    {venues : List VenueId} (length : venues.length = trades.length) :
    (byIndex (placed constraints trades venues)).map (·.index) = trades.map (·.index) := by
  have placed_indices : (placed constraints trades venues).map (·.index) =
      (byAmount trades).map (·.index) := by
    unfold placed
    rw [List.map_zipWith]
    exact zipWith_left _ (length.trans (byAmount_length trades).symm)
  have perm : ((byIndex (placed constraints trades venues)).map (·.index)).Perm
      (trades.map (·.index)) := by
    refine ((byIndex_perm _).map _).trans ?_
    rw [placed_indices]
    exact (byAmount_perm trades).map _
  refine @List.Perm.eq_of_pairwise _ (fun a b => a ≤ b) _ _ ?_ ?_ ?_ perm
  · intro a b _ _ hab hba
    exact le_antisymm hab hba
  · have sorted := List.pairwise_insertionSort (fun a b : VenueAssignment => a.index ≤ b.index)
      (placed constraints trades venues)
    exact List.Pairwise.map _ (fun _ _ h => h) sorted
  · rw [indices]
    exact range_sorted _

theorem assigned_venues (constraints : VenueConstraints) {trades : List SubTrade} {venues : List VenueId}
    (length : venues.length = trades.length) :
    ((byIndex (placed constraints trades venues)).map (·.venue)).Perm venues := by
  refine ((byIndex_perm _).map _).trans ?_
  unfold placed
  rw [List.map_zipWith]
  have := @zipWith_right SubTrade _ _ (fun v : VenueId => v) (byAmount trades) _
    (length.trans (byAmount_length trades).symm)
  rw [this, List.map_id']

end

/-! ## Scheduling -/

section
variable {trades : List SubTrade} {venues : List VenueId} (length : venues.length = trades.length)
  (time : Nat → Int)
include length

theorem scheduleAt_index :
    (scheduleAt time trades venues).map (·.index) = trades.map (·.index) := by
  apply List.ext_getElem
  · simp [scheduleAt, length]
  · intro i _ _
    simp [scheduleAt]

theorem scheduleAt_trade :
    (scheduleAt time trades venues).map (fun st => (⟨st.index, st.amount⟩ : SubTrade)) =
      trades := by
  apply List.ext_getElem
  · simp [scheduleAt, length]
  · intro i _ _
    simp [scheduleAt]

theorem scheduleAt_venue : (scheduleAt time trades venues).map (·.venue) = venues := by
  apply List.ext_getElem
  · simp [scheduleAt, length]
  · intro i _ _
    simp [scheduleAt]

theorem scheduleAt_time :
    (scheduleAt time trades venues).map (·.targetTimestamp) =
      (List.range trades.length).map time := by
  apply List.ext_getElem
  · simp [scheduleAt, length]
  · intro i _ _
    simp [scheduleAt]

end

theorem draw_unit (draw : UInt32) : 0 ≤ (draw.toNat : ℚ) / 2 ^ 32 ∧ (draw.toNat : ℚ) / 2 ^ 32 < 1 := by
  have small : (draw.toNat : ℚ) < 2 ^ 32 := by exact_mod_cast draw.toNat_lt
  constructor
  · positivity
  · rw [div_lt_one (by norm_num)]
    exact small

section
variable {slack : Int} (room : 0 ≤ slack) {n : Nat}
include room

/-- The offsets do not fall from one stratum to the next. -/
theorem jitter_mono {i j : Nat} (h : i < j) (draw other : UInt32) :
    jitter slack n i draw ≤ jitter slack n j other := by
  obtain ⟨-, below⟩ := draw_unit draw
  obtain ⟨above, -⟩ := draw_unit other
  have apart : (i : ℚ) + 1 ≤ j := by exact_mod_cast h
  have wide : (0 : ℚ) ≤ slack := by exact_mod_cast room
  unfold jitter
  apply Int.floor_le_floor
  apply div_le_div_of_nonneg_right _ (Nat.cast_nonneg n)
  apply mul_le_mul_of_nonneg_right _ wide
  linarith

theorem jitter_nonneg (i : Nat) (draw : UInt32) : 0 ≤ jitter slack n i draw := by
  obtain ⟨above, -⟩ := draw_unit draw
  have wide : (0 : ℚ) ≤ slack := by exact_mod_cast room
  unfold jitter
  apply Int.floor_nonneg.mpr
  positivity

theorem jitter_le {i : Nat} (h : i < n) (draw : UInt32) : jitter slack n i draw ≤ slack := by
  obtain ⟨-, below⟩ := draw_unit draw
  have wide : (0 : ℚ) ≤ slack := by exact_mod_cast room
  have position : (i : ℚ) + 1 ≤ n := by exact_mod_cast h
  have count : (0 : ℚ) < n := by exact_mod_cast (show 0 < n by omega)
  have scaled : ((i + (draw.toNat : ℚ) / 2 ^ 32) * slack) / n ≤ slack := by
    rw [div_le_iff₀ count, mul_comm (slack : ℚ)]
    exact mul_le_mul_of_nonneg_right (by linarith) wide
  unfold jitter
  have : (⌊((i + (draw.toNat : ℚ) / 2 ^ 32) * slack) / n⌋ : ℚ) ≤ slack :=
    (Int.floor_le _).trans scaled
  exact_mod_cast this

end

section
variable [Host]

/-- The times of a schedule: by position, and with a window set far enough apart inside it. -/
theorem scheduleDiffusion_ok {trades : List SubTrade} (nonempty : 0 < trades.length)
    {venues : List VenueId} {window : Double} {random : Nat → UInt32}
    {scheduled : List ScheduledSubTrade}
    (h : scheduleDiffusion trades venues window random = .ok scheduled) :
    venues.length = trades.length ∧ ∃ w time, window = .finite w ∧
      scheduled = scheduleAt time trades venues ∧
      (0 < w → (∀ i j, i < j → time i + minSpacingSeconds ≤ time j) ∧
        ∀ i < trades.length, 0 ≤ time i ∧ (time i : ℚ) ≤ w) := by
  unfold scheduleDiffusion at h
  rw [if_neg (by omega)] at h
  by_cases unequal : trades.length ≠ venues.length
  · rw [if_pos unequal] at h
    cases h
  rw [if_neg unequal] at h
  refine ⟨(not_not.mp unequal).symm, ?_⟩
  cases window with
  | infinite negative => cases h
  | nan => cases h
  | finite w =>
    dsimp only at h
    by_cases negative : w < 0
    · rw [if_pos negative] at h
      cases h
    rw [if_neg negative] at h
    by_cases unset : w = 0
    · rw [if_pos unset] at h
      cases h
      exact ⟨w, _, rfl, rfl, fun set => absurd unset set.ne'⟩
    rw [if_neg unset] at h
    by_cases short : w < ((trades.length - 1) * minSpacingSeconds : Nat)
    · rw [if_pos short] at h
      cases h
    rw [if_neg short] at h
    cases h
    refine ⟨w, _, rfl, rfl, fun _ => ?_⟩
    have reserved : (((trades.length - 1) * minSpacingSeconds : Nat) : Int) ≤ ⌊w⌋ :=
      Int.le_floor.mpr (by exact_mod_cast not_lt.mp short)
    have room : 0 ≤ ⌊w⌋ - (((trades.length - 1) * minSpacingSeconds : Nat) : Int) := by omega
    constructor
    · intro i j before
      have offsets := jitter_mono room (n := trades.length) before (random i) (random j)
      simp only [minSpacingSeconds] at offsets ⊢
      omega
    · intro i within
      have low := jitter_nonneg room (n := trades.length) i (random i)
      have high := jitter_le room within (random i)
      have position : i * minSpacingSeconds ≤ (trades.length - 1) * minSpacingSeconds :=
        Nat.mul_le_mul_right _ (by omega)
      constructor
      · omega
      · have : jitter (⌊w⌋ - (((trades.length - 1) * minSpacingSeconds : Nat) : Int))
            trades.length i (random i) + i * minSpacingSeconds ≤ ⌊w⌋ := by
          have := Int.ofNat_le.mpr position
          push_cast at this high ⊢
          omega
        exact Int.le_floor.mp this

theorem assignVenues_valid {trades : List SubTrade} {preference : List VenueId}
    {constraints : VenueConstraints} {budget : Int} {assignments : List VenueAssignment}
    (h : assignVenues trades preference constraints budget = .ok assignments) :
    validateConstraints constraints = .ok () ∧ preference ≠ [] := by
  unfold assignVenues at h
  cases valid : validateConstraints constraints with
  | error message =>
    rw [valid] at h
    cases h
  | ok =>
    refine ⟨rfl, ?_⟩
    rintro rfl
    rw [valid] at h
    cases h

/-! ## Plans -/

/-- What holds of a plan: it cuts the total in order, within the cap and above the minimum; each
sub-trade has the venue assigned to it, a permitted one; the gas is within a budget that is set,
and the times are apart and inside a window that is set. -/
structure PlanSound (total : Int) (constraints : VenueConstraints) (config : ExecutionConfig)
    (plan : ExecutionPlan) : Prop where
  sum : (plan.subTrades.map (·.amount)).sum = total
  indices : plan.subTrades.map (·.index) = (List.range plan.subTrades.length).map Int.ofNat
  count : (plan.subTrades.length : Int) ≤ config.splitConfig.maxSubTrades
  size : 1 < plan.subTrades.length →
    ∀ st ∈ plan.subTrades, config.splitConfig.minSubTradeSize ≤ st.amount
  assigned : ∃ assignments,
    assignVenues (plan.subTrades.map fun st => ⟨st.index, st.amount⟩) config.venuePreference
      constraints config.maxGasBudget = .ok assignments ∧
    plan.subTrades.map (fun st => (st.index, st.venue)) =
      assignments.map (fun a => (a.index, a.venue))
  permitted : ∀ st ∈ plan.subTrades, Permitted config.venuePreference constraints st.venue
  gas : 0 < config.maxGasBudget →
    (plan.subTrades.map fun st => constraints.gasEstimates st.venue).sum ≤ config.maxGasBudget
  apart : ∀ w, config.diffusionWindow = .finite w → 0 < w →
    plan.subTrades.Pairwise (fun a b => a.targetTimestamp + (minSpacingSeconds : Int) ≤ b.targetTimestamp)
  inside : ∀ w, config.diffusionWindow = .finite w → 0 < w →
    ∀ st ∈ plan.subTrades, 0 ≤ st.targetTimestamp ∧ (st.targetTimestamp : ℚ) ≤ w

omit [Host] in
theorem options_resolve (config : SplitConfig) : config.options.resolve = config := rfl

/-- The steps of a plan that is returned. -/
theorem planExecution_ok {coder : TradeIdCoder} {total : Int} {jurisdiction : Nat}
    {submitter : String} {constraints : VenueConstraints} {config : ExecutionOptions}
    {draws : PlanDraws} {plan : ExecutionPlan}
    (h : planExecution coder total jurisdiction submitter constraints config draws = .ok plan) :
    validateExecutionConfig config.resolve = .ok () ∧
    ∃ split assignments,
      planSplit coder total jurisdiction submitter config.resolve.splitConfig.options
        draws.nonce = .ok split ∧
      assignVenues split.subTrades config.resolve.venuePreference constraints
        config.resolve.maxGasBudget = .ok assignments ∧
      scheduleDiffusion split.subTrades (assignments.map (·.venue))
        config.resolve.diffusionWindow draws.random = .ok plan.subTrades := by
  simp only [planExecution, Signer.bind_ok] at h
  obtain ⟨_, valid, split, cutting, assignments, assigning, scheduled, scheduling, built⟩ := h
  cases built
  exact ⟨valid, split, assignments, cutting, assigning, scheduling⟩

theorem plan_sound {coder : TradeIdCoder} {total : Int} {jurisdiction : Nat} {submitter : String}
    {constraints : VenueConstraints} {config : ExecutionOptions} {draws : PlanDraws}
    {plan : ExecutionPlan}
    (h : planExecution coder total jurisdiction submitter constraints config draws = .ok plan) :
    PlanSound total constraints config.resolve plan := by
  obtain ⟨valid, split, assignments, cutting, assigning, scheduling⟩ := planExecution_ok h
  have cutSound := (planSplit_ok cutting).2
  rw [options_resolve] at cutSound
  obtain ⟨constrained, preferred⟩ := assignVenues_valid assigning
  obtain ⟨venues, length, feasible, -, rfl⟩ :=
    (assignVenues_ok constrained preferred).mp assigning
  obtain ⟨counted, w, time, windowed, scheduled, spaced⟩ :=
    scheduleDiffusion_ok cutSound.nonempty scheduling
  have indices : plan.subTrades.map (·.index) = split.subTrades.map (·.index) := by
    rw [scheduled, scheduleAt_index counted]
  have amounts : plan.subTrades.map (fun st => (⟨st.index, st.amount⟩ : SubTrade)) =
      split.subTrades := by
    rw [scheduled, scheduleAt_trade counted]
  have placedVenues : plan.subTrades.map (·.venue) =
      (byIndex (placed constraints split.subTrades venues)).map (·.venue) := by
    rw [scheduled, scheduleAt_venue counted]
  have times : plan.subTrades.map (·.targetTimestamp) =
      (List.range split.subTrades.length).map time := by
    rw [scheduled, scheduleAt_time counted]
  have size : plan.subTrades.length = split.subTrades.length := by
    simpa using congrArg List.length indices
  have perm := assigned_venues constraints length
  rw [← placedVenues] at perm
  constructor
  case sum =>
    rw [← cutSound.sum, ← amounts, List.map_map]
    rfl
  case indices => rw [indices, cutSound.indices, size]
  case count =>
    rw [size]
    exact cutSound.count
  case size =>
    intro several st among
    have here : (⟨st.index, st.amount⟩ : SubTrade) ∈ split.subTrades := by
      rw [← amounts]
      exact List.mem_map.mpr ⟨st, among, rfl⟩
    exact cutSound.size (by omega) _ here
  case assigned =>
    refine ⟨_, by rw [amounts]; exact assigning, ?_⟩
    have aligned := assigned_indices constraints cutSound.indices length
    rw [← indices] at aligned
    rw [← List.zip_map', ← List.zip_map', ← placedVenues, aligned]
  case permitted =>
    intro st among
    exact feasible.permitted _ (perm.subset (List.mem_map.mpr ⟨st, among, rfl⟩))
  case gas =>
    intro set
    have total_gas := feasible.sum_le set set.le
    have same := (perm.map constraints.gasEstimates).sum_eq
    rw [List.map_map] at same
    rw [← same] at total_gas
    exact total_gas
  case apart =>
    intro w' windowed' set
    rw [windowed'] at windowed
    cases windowed
    have sorted : (plan.subTrades.map (·.targetTimestamp)).Pairwise
        (fun a b => a + (minSpacingSeconds : Int) ≤ b) := by
      rw [times]
      refine List.Pairwise.map time ?_ List.pairwise_lt_range
      intro i j before
      exact (spaced set).1 i j before
    exact List.pairwise_map.mp sorted
  case inside =>
    intro w' windowed' set st among
    rw [windowed'] at windowed
    cases windowed
    have timed : st.targetTimestamp ∈ (List.range split.subTrades.length).map time := by
      rw [← times]
      exact List.mem_map.mpr ⟨st, among, rfl⟩
    obtain ⟨i, within, same⟩ := List.mem_map.mp timed
    rw [← same]
    exact (spaced set).2 i (List.mem_range.mp within)

omit [Host] in
/-- A total past 256 bits is not split. -/
theorem planSplit_wide (coder : TradeIdCoder) {total : Int} (wide : 2 ^ 256 ≤ total)
    (jurisdiction : Nat) (submitter : String) (config : SplitOptions) (nonce : List UInt8) :
    ∃ message, planSplit coder total jurisdiction submitter config nonce = .error message := by
  obtain ⟨refusal, refused⟩ := @coder.wide total jurisdiction nonce submitter wide
  have positive : ¬total ≤ 0 := by omega
  unfold planSplit
  cases valid : validateConfig config.resolve with
  | error message =>
    simp only [valid]
    exact ⟨message, rfl⟩
  | ok _ =>
    simp only [valid, if_neg positive, refused]
    exact ⟨refusal, rfl⟩

/-- Nor is one executed. -/
theorem planExecution_wide (coder : TradeIdCoder) {total : Int} (wide : 2 ^ 256 ≤ total)
    (jurisdiction : Nat) (submitter : String) (constraints : VenueConstraints)
    (config : ExecutionOptions) (draws : PlanDraws) :
    ∃ message, planExecution coder total jurisdiction submitter constraints config draws =
      .error message := by
  obtain ⟨refusal, refused⟩ := planSplit_wide coder wide jurisdiction submitter
    config.resolve.splitConfig.options draws.nonce
  unfold planExecution
  cases valid : validateExecutionConfig config.resolve with
  | error message =>
    simp only [valid]
    exact ⟨message, rfl⟩
  | ok _ =>
    simp only [valid, refused]
    exact ⟨refusal, rfl⟩

/-- Execution plans are sound; splitting returns a plan of every positive total that a `uint256`
holds, under a valid configuration and for a jurisdiction and submitter that pack; and a total that
it does not hold is refused. -/
theorem plans_sound (coder : TradeIdCoder) (total : Int) (jurisdiction : Nat)
    (submitter : String) :
    (∀ constraints config draws plan,
      planExecution coder total jurisdiction submitter constraints config draws = .ok plan →
      PlanSound total constraints config.resolve plan) ∧
    (∀ (config : SplitOptions) nonce other id, validateConfig config.resolve = .ok () →
      0 < total → total < 2 ^ 256 → coder.tradeId other jurisdiction nonce submitter = .ok id →
      ∃ plan, planSplit coder total jurisdiction submitter config nonce = .ok plan) ∧
    (2 ^ 256 ≤ total →
      (∀ config nonce, ∃ message,
        planSplit coder total jurisdiction submitter config nonce = .error message) ∧
      ∀ constraints config draws, ∃ message,
        planExecution coder total jurisdiction submitter constraints config draws =
          .error message) := by
  refine ⟨?_, ?_, ?_⟩
  · intro constraints config draws plan
    exact plan_sound
  · intro config nonce other id valid positive packed coded
    obtain ⟨own, coded⟩ := coder.narrow positive.le packed coded
    exact planSplit_returns valid positive coded
  · intro wide
    refine ⟨?_, ?_⟩
    · intro config nonce
      exact planSplit_wide coder wide jurisdiction submitter config nonce
    · intro constraints config draws
      exact planExecution_wide coder wide jurisdiction submitter constraints config draws

end

/-! ## A sample -/

/-- The packing of the four arguments and its hash, as the library's. The nonce of a plan has 32
bytes, so its padding is empty. -/
def packedTradeId (total : Int) (jurisdiction : Nat) (nonce : List UInt8) (submitter : String) :
    Except String String :=
  if total < 0 ∨ 2 ^ 256 ≤ total then
    .error s!"Number {total} is not in safe 256-bit unsigned integer range"
  else if 256 ≤ jurisdiction then
    .error s!"Number {jurisdiction} is not in safe 8-bit unsigned integer range"
  else if 32 < nonce.length then .error "Size of bytes exceeds given size"
  else match hexBytes 20 submitter with
    | none => .error s!"Address {submitter} is invalid"
    | some address =>
      .ok (hexlify (Library.keccak256 (Library.toBytes 32 total.toNat ++ [UInt8.ofNat jurisdiction] ++
        (nonce ++ List.replicate (32 - nonce.length) 0) ++ address.bytes)).bytes)

def packedCoder : TradeIdCoder where
  tradeId := packedTradeId
  wide := by
    intro total jurisdiction nonce submitter wide
    exact ⟨_, if_pos (.inr wide)⟩
  narrow := by
    intro total other jurisdiction nonce submitter id nonneg small coded
    have fits : ¬ (total < 0 ∨ 2 ^ 256 ≤ total) := by omega
    unfold packedTradeId at coded ⊢
    rw [if_neg fits]
    by_cases outside : other < 0 ∨ 2 ^ 256 ≤ other
    · rw [if_pos outside] at coded
      cases coded
    rw [if_neg outside] at coded
    by_cases wide : 256 ≤ jurisdiction
    · rw [if_pos wide] at coded
      cases coded
    rw [if_neg wide] at coded ⊢
    by_cases long : 32 < nonce.length
    · rw [if_pos long] at coded
      cases coded
    rw [if_neg long] at coded ⊢
    cases address : hexBytes 20 submitter with
    | none =>
      rw [address] at coded
      cases coded
    | some bytes => exact ⟨_, rfl⟩

def sampleSubmitter : String := "0x1111111111111111111111111111111111111111"

def sampleDraws : PlanDraws := ⟨List.replicate 32 7, fun _ => 0⟩

/-- 250 ETH inside a minute, on a budget of a million. -/
def sampleOptions : ExecutionOptions where
  maxGasBudget := some 1000000
  diffusionWindow := some (60 : Nat)
  venuePreference := some [.shielded, .public]

/-- A total past 256 bits is refused under the default configuration. -/
theorem wide_total_refused : validateConfig defaultSplitConfig = .ok () ∧
    planSplit packedCoder (2 ^ 256) 0 sampleSubmitter {} sampleDraws.nonce =
      .error s!"Number {(2 ^ 256 : Int)} is not in safe 256-bit unsigned integer range" := by
  exact ⟨by decide, rfl⟩

theorem sample_planned : ∃ plan, @planExecution Signer.asciiHost packedCoder (250 * 10 ^ 18) 0
    sampleSubmitter sampleConstraints sampleOptions sampleDraws = .ok plan :=
  ⟨_, rfl⟩

theorem plans_sound_sample :
    (∃ plan, @planExecution Signer.asciiHost packedCoder (250 * 10 ^ 18) 0 sampleSubmitter
      sampleConstraints sampleOptions sampleDraws = .ok plan ∧
      @PlanSound Signer.asciiHost (250 * 10 ^ 18) sampleConstraints sampleOptions.resolve plan) ∧
    ∃ plan, planSplit packedCoder (250 * 10 ^ 18) 0 sampleSubmitter {} sampleDraws.nonce =
      .ok plan := by
  have sound := @plans_sound Signer.asciiHost packedCoder (250 * 10 ^ 18) 0 sampleSubmitter
  obtain ⟨plan, planned⟩ := sample_planned
  exact ⟨⟨plan, planned, sound.1 _ _ _ _ planned⟩,
    sound.2.1 {} sampleDraws.nonce 1 _ (by decide) (by decide) (by decide) rfl⟩

end XochiSdk.Sdk
