import XochiSdk.Sdk.VenueRouter
import XochiSdk.Signer.AttestationText
import Mathlib.Algebra.BigOperators.Group.List.Basic

/-!
# What the venue assignment refuses

The assignment as a choice of venues for the trades taken largest first. It is the one choice
within the budget that gives no trade a less private venue than one that still fits there, and it
refuses exactly where there is none: a larger trade never gives up privacy for a smaller one.
-/

namespace XochiSdk.Sdk

open XochiSdk.Js

/-- From the least private to the most. -/
def VenueId.privacy : VenueId → Nat
  | .public => 0
  | .stealth => 1
  | .shielded => 2

section
variable (preference : List VenueId) (constraints : VenueConstraints) (budget : Int)

/-- A preferred venue whose gate the trust score passes. -/
def Permitted (venue : VenueId) : Prop := venue ∈ preference ∧ constraints.admits venue = true

/-- The venue's gas is within what is left, where a budget is set. -/
def Fits (left : Int) (venue : VenueId) : Prop :=
  budget > 0 → constraints.gasEstimates venue ≤ left

/-- What is left after a venue. -/
def spend (left : Int) (venue : VenueId) : Int :=
  if budget > 0 then left - constraints.gasEstimates venue else left

/-- Permitted venues for the trades in turn, each within what those before it left. -/
def Feasible : Int → List VenueId → Prop
  | _, [] => True
  | left, venue :: rest =>
    Permitted preference constraints venue ∧ Fits constraints budget left venue ∧
      Feasible (spend constraints budget left venue) rest

/-- Some trade is given a less private venue than a permitted one that fits there. -/
def Yields : Int → List VenueId → Prop
  | _, [] => False
  | left, venue :: rest =>
    (∃ better : VenueId, venue.privacy < better.privacy ∧
      Permitted preference constraints better ∧ Fits constraints budget left better) ∨
      Yields (spend constraints budget left venue) rest

/-- The assignments of the trades, largest first, to venues by position. -/
def placed (trades : List SubTrade) (venues : List VenueId) : List VenueAssignment :=
  (byAmount trades).zipWith (fun trade venue => ⟨trade.index, venue, constraints.gasEstimates venue⟩)
    venues

end

theorem mem_privacyOrder (venue : VenueId) : venue ∈ privacyOrder := by
  cases venue <;> decide

/-- The order runs from the most private down. -/
theorem privacyOrder_sorted : privacyOrder.Pairwise (fun a b => b.privacy < a.privacy) := by
  decide

section
variable {preference : List VenueId} {constraints : VenueConstraints} {budget : Int}

/-- A venue of the order that the loop takes. -/
theorem taken_iff {left : Int} {venue : VenueId} :
    (constraints.admits venue &&
      !(decide (budget > 0) && decide (constraints.gasEstimates venue > left))) = true ↔
    constraints.admits venue = true ∧ Fits constraints budget left venue := by
  unfold Fits
  simp only [Bool.and_eq_true, Bool.not_eq_true', Bool.and_eq_false_iff, decide_eq_false_iff_not,
    gt_iff_lt, not_lt]
  constructor
  · rintro ⟨admitted, unset | fits⟩
    · exact ⟨admitted, fun set => absurd set (not_lt.mpr unset)⟩
    · exact ⟨admitted, fun _ => fits⟩
  · rintro ⟨admitted, fits⟩
    refine ⟨admitted, ?_⟩
    by_cases set : 0 < budget
    · exact .inr (fits set)
    · exact .inl (not_lt.mp set)

theorem mem_orderPreference {venue : VenueId} :
    venue ∈ orderPreference preference ↔ venue ∈ preference := by
  unfold orderPreference
  rw [List.mem_filter]
  simp [mem_privacyOrder]

theorem pickVenue_none {left : Int} :
    pickVenue constraints budget left (orderPreference preference) = none ↔
      ∀ venue, Permitted preference constraints venue → ¬ Fits constraints budget left venue := by
  unfold pickVenue
  rw [List.find?_eq_none]
  constructor
  · rintro none_taken venue ⟨preferred, admitted⟩ fits
    exact none_taken venue (mem_orderPreference.mpr preferred) (taken_iff.mpr ⟨admitted, fits⟩)
  · intro none_fits venue among taken
    obtain ⟨admitted, fits⟩ := taken_iff.mp taken
    exact none_fits venue ⟨mem_orderPreference.mp among, admitted⟩ fits

/-- The venue the loop takes is permitted and fits, and no more private one does both. -/
theorem pickVenue_some {left : Int} {venue : VenueId} :
    pickVenue constraints budget left (orderPreference preference) = some venue ↔
      Permitted preference constraints venue ∧ Fits constraints budget left venue ∧
        ¬ ∃ better : VenueId, venue.privacy < better.privacy ∧
          Permitted preference constraints better ∧ Fits constraints budget left better := by
  have sorted : (orderPreference preference).Pairwise (fun a b => b.privacy < a.privacy) :=
    privacyOrder_sorted.filter _
  unfold pickVenue
  constructor
  · intro found
    obtain ⟨taken, before, after, split, refused⟩ := List.find?_eq_some_iff_append.mp found
    obtain ⟨admitted, fits⟩ := taken_iff.mp taken
    have preferred : venue ∈ preference := mem_orderPreference.mp (by rw [split]; simp)
    refine ⟨⟨preferred, admitted⟩, fits, ?_⟩
    rintro ⟨better, higher, permitted, betters⟩
    have among := mem_orderPreference.mpr permitted.1
    rw [split] at among sorted
    rcases List.mem_append.mp among with early | late
    · have not_taken := refused better early
      rw [taken_iff.mpr ⟨permitted.2, betters⟩] at not_taken
      exact absurd not_taken (by decide)
    · rcases List.mem_cons.mp late with rfl | later
      · exact lt_irrefl _ higher
      · have lower := (List.pairwise_cons.mp (List.pairwise_append.mp sorted).2.1).1 better later
        omega
  · rintro ⟨permitted, fits, best⟩
    cases found : (orderPreference preference).find? fun v => constraints.admits v &&
        !(decide (budget > 0) && decide (constraints.gasEstimates v > left)) with
    | none =>
      exact absurd fits (pickVenue_none.mp found venue permitted)
    | some first =>
      have taken := List.find?_some found
      obtain ⟨admitted, within⟩ := taken_iff.mp taken
      have preferred := mem_orderPreference.mp (List.mem_of_find?_eq_some found)
      obtain ⟨-, before, after, split, refused⟩ := List.find?_eq_some_iff_append.mp found
      have among := mem_orderPreference.mpr permitted.1
      rw [split] at among sorted
      rcases List.mem_append.mp among with early | late
      · have not_taken := refused venue early
        rw [taken_iff.mpr ⟨permitted.2, fits⟩] at not_taken
        exact absurd not_taken (by decide)
      · rcases List.mem_cons.mp late with rfl | later
        · rfl
        · have lower := (List.pairwise_cons.mp (List.pairwise_append.mp sorted).2.1).1 venue later
          exact absurd ⟨first, lower, ⟨preferred, admitted⟩, within⟩ best

/-- The loop returns the venues that are within the budget and yield nothing. -/
theorem assignEach_ok {trades : List SubTrade} {left : Int} {assignments : List VenueAssignment} :
    assignEach constraints budget (orderPreference preference) left trades = .ok assignments ↔
      ∃ venues : List VenueId, venues.length = trades.length ∧
        Feasible preference constraints budget left venues ∧
        ¬ Yields preference constraints budget left venues ∧
        assignments = trades.zipWith
          (fun trade venue => ⟨trade.index, venue, constraints.gasEstimates venue⟩) venues := by
  induction trades generalizing left assignments with
  | nil =>
    constructor
    · intro h
      cases h
      exact ⟨[], rfl, trivial, id, rfl⟩
    · rintro ⟨venues, length, -, -, rfl⟩
      rfl
  | cons trade rest ih =>
    unfold assignEach
    cases picked : pickVenue constraints budget left (orderPreference preference) with
    | none =>
      constructor
      · intro h
        cases h
      · rintro ⟨venues, length, feasible, -, -⟩
        cases venues with
        | nil => cases length
        | cons venue others =>
          exact absurd feasible.2.1 (pickVenue_none.mp picked venue feasible.1)
    | some venue =>
      obtain ⟨permitted, fits, best⟩ := pickVenue_some.mp picked
      dsimp only
      constructor
      · intro h
        cases tail : assignEach constraints budget (orderPreference preference)
            (spend constraints budget left venue) rest with
        | error message =>
          change (assignEach constraints budget _ (spend constraints budget left venue) rest >>= _) =
            _ at h
          rw [tail] at h
          cases h
        | ok others =>
          change (assignEach constraints budget _ (spend constraints budget left venue) rest >>= _) =
            _ at h
          rw [tail] at h
          cases h
          obtain ⟨venues, length, feasible, firm, rfl⟩ := ih.mp tail
          refine ⟨venue :: venues, by simp [length], ⟨permitted, fits, feasible⟩, ?_, rfl⟩
          rintro (better | later)
          · exact best better
          · exact firm later
      · rintro ⟨venues, length, feasible, firm, rfl⟩
        cases venues with
        | nil => cases length
        | cons first others =>
          have same : first = venue := by
            have := pickVenue_some.mpr ⟨feasible.1, feasible.2.1, fun better => firm (.inl better)⟩
            rw [picked] at this
            exact (Option.some_inj.mp this).symm
          subst same
          have tail := ih.mpr ⟨others, by simpa using length, feasible.2.2,
            fun later => firm (.inr later), rfl⟩
          change (assignEach constraints budget _ (spend constraints budget left first) rest >>= _) =
            _
          rw [tail]
          rfl

/-- The loop throws for lack of a venue, and for nothing else. -/
theorem assignEach_cases (trades : List SubTrade) (left : Int) :
    (∃ assignments,
      assignEach constraints budget (orderPreference preference) left trades = .ok assignments) ∨
    ∃ index, assignEach constraints budget (orderPreference preference) left trades =
      .error (cannotAssign index) := by
  induction trades generalizing left with
  | nil => exact .inl ⟨[], rfl⟩
  | cons trade rest ih =>
    unfold assignEach
    cases pickVenue constraints budget left (orderPreference preference) with
    | none => exact .inr ⟨trade.index, rfl⟩
    | some venue =>
      rcases ih (spend constraints budget left venue) with ⟨assignments, tail⟩ | ⟨index, tail⟩
      · left
        refine ⟨⟨trade.index, venue, constraints.gasEstimates venue⟩ :: assignments, ?_⟩
        change (assignEach constraints budget _ (spend constraints budget _ venue) rest >>= _) = _
        rw [tail]
        rfl
      · right
        refine ⟨index, ?_⟩
        change (assignEach constraints budget _ (spend constraints budget _ venue) rest >>= _) = _
        rw [tail]
        rfl

/-- A larger budget takes every choice a smaller one took. -/
theorem Feasible.more {more left upper : Int} (set : 0 < budget) (larger : 0 < more)
    (h : left ≤ upper) {venues : List VenueId}
    (feasible : Feasible preference constraints budget left venues) :
    Feasible preference constraints more upper venues := by
  induction venues generalizing left upper with
  | nil => trivial
  | cons venue rest ih =>
    obtain ⟨permitted, fits, later⟩ := feasible
    refine ⟨permitted, fun _ => (fits set).trans h, ?_⟩
    unfold spend at later ⊢
    rw [if_pos set] at later
    rw [if_pos larger]
    exact ih (by omega) later

/-- With estimates that are not negative, the choices within the budget are those whose summed
gas is. -/
theorem feasible_iff_sum (nonneg : ∀ venue, 0 ≤ constraints.gasEstimates venue) {left : Int}
    (room : 0 ≤ left) {venues : List VenueId} :
    Feasible preference constraints budget left venues ↔
      (∀ venue ∈ venues, Permitted preference constraints venue) ∧
        (budget > 0 → (venues.map constraints.gasEstimates).sum ≤ left) := by
  induction venues generalizing left with
  | nil => simp [Feasible, room]
  | cons venue rest ih =>
    have rest_nonneg : 0 ≤ (rest.map constraints.gasEstimates).sum := by
      apply List.sum_nonneg
      intro gas among
      obtain ⟨v, -, rfl⟩ := List.mem_map.mp among
      exact nonneg v
    have own := nonneg venue
    simp only [Feasible, Fits, List.mem_cons, forall_eq_or_imp, List.map_cons, List.sum_cons]
    unfold spend
    by_cases set : budget > 0
    · rw [if_pos set]
      constructor
      · rintro ⟨permitted, fits, later⟩
        have := fits set
        obtain ⟨others, total⟩ := (ih (by omega)).mp later
        have := total set
        exact ⟨⟨permitted, others⟩, fun _ => by omega⟩
      · rintro ⟨⟨permitted, others⟩, total⟩
        have := total set
        exact ⟨permitted, fun _ => by omega, (ih (by omega)).mpr ⟨others, fun _ => by omega⟩⟩
    · rw [if_neg set, ih room]
      tauto

end

theorem byAmount_length (trades : List SubTrade) : (byAmount trades).length = trades.length :=
  List.length_insertionSort _ _

theorem assignVenues_eq [Host] {preference : List VenueId} {constraints : VenueConstraints}
    (valid : validateConstraints constraints = .ok ()) (nonempty : preference ≠ [])
    (trades : List SubTrade) (budget : Int) :
    assignVenues trades preference constraints budget =
      (assignEach constraints budget (orderPreference preference) budget (byAmount trades)).map
        byIndex := by
  have chosen : validatePreference preference = .ok () := by
    unfold validatePreference
    rw [if_neg]
    exact fun empty => nonempty (List.length_eq_zero_iff.mp empty)
  unfold assignVenues
  rw [valid, chosen]
  by_cases empty : trades.length = 0
  · rw [List.length_eq_zero_iff.mp empty]
    rfl
  · simp only [if_neg empty]
    rfl

/-- Of valid inputs, the assignment returns the venues within the budget that yield nothing. -/
theorem assignVenues_ok [Host] {preference : List VenueId} {constraints : VenueConstraints}
    (valid : validateConstraints constraints = .ok ()) (nonempty : preference ≠ [])
    {trades : List SubTrade} {budget : Int} {assignments : List VenueAssignment} :
    assignVenues trades preference constraints budget = .ok assignments ↔
      ∃ venues : List VenueId, venues.length = trades.length ∧
        Feasible preference constraints budget budget venues ∧
        ¬ Yields preference constraints budget budget venues ∧
        assignments = byIndex (placed constraints trades venues) := by
  rw [assignVenues_eq valid nonempty]
  constructor
  · intro h
    cases assigned : assignEach constraints budget (orderPreference preference) budget
        (byAmount trades) with
    | error message =>
      rw [assigned] at h
      cases h
    | ok inOrder =>
      rw [assigned] at h
      cases h
      obtain ⟨venues, length, feasible, firm, rfl⟩ := assignEach_ok.mp assigned
      exact ⟨venues, length.trans (byAmount_length trades), feasible, firm, rfl⟩
  · rintro ⟨venues, length, feasible, firm, rfl⟩
    rw [assignEach_ok.mpr
      ⟨venues, length.trans (byAmount_length trades).symm, feasible, firm, rfl⟩]
    rfl

/-- It returns or throws for lack of a venue. -/
theorem assignVenues_cases [Host] {preference : List VenueId} {constraints : VenueConstraints}
    (valid : validateConstraints constraints = .ok ()) (nonempty : preference ≠ [])
    (trades : List SubTrade) (budget : Int) :
    (∃ assignments, assignVenues trades preference constraints budget = .ok assignments) ∨
      ∃ index, assignVenues trades preference constraints budget =
        .error (cannotAssign index) := by
  rw [assignVenues_eq valid nonempty]
  have either := @assignEach_cases preference constraints budget (byAmount trades) budget
  rcases either with ⟨assignments, assigned⟩ | ⟨index, refused⟩
  · exact .inl ⟨byIndex assignments, by rw [assigned]; rfl⟩
  · exact .inr ⟨index, by rw [refused]; rfl⟩

/-- Of valid inputs, the assignment returns the venues within the budget that yield nothing, and
refuses for lack of a venue exactly where every choice within the budget yields: it gives some
trade a less private venue than a permitted one that still fits once the larger trades have
theirs. A larger budget takes every choice a smaller one took. With estimates that are not
negative, a choice is within the budget when its summed gas is. -/
theorem assignVenues_refuses_iff [Host] {preference : List VenueId} {constraints : VenueConstraints}
    (valid : validateConstraints constraints = .ok ()) (nonempty : preference ≠ [])
    (trades : List SubTrade) (budget : Int) :
    ((∃ index, assignVenues trades preference constraints budget =
        .error (cannotAssign index)) ↔
      ∀ venues : List VenueId, venues.length = trades.length →
        Feasible preference constraints budget budget venues →
        Yields preference constraints budget budget venues) ∧
    (∀ assignments, assignVenues trades preference constraints budget = .ok assignments ↔
      ∃ venues : List VenueId, venues.length = trades.length ∧
        Feasible preference constraints budget budget venues ∧
        ¬ Yields preference constraints budget budget venues ∧
        assignments = byIndex (placed constraints trades venues)) ∧
    (∀ more, 0 < budget → budget ≤ more → ∀ venues,
      Feasible preference constraints budget budget venues →
      Feasible preference constraints more more venues) ∧
    ((∀ venue, 0 ≤ constraints.gasEstimates venue) → 0 ≤ budget → ∀ venues,
      Feasible preference constraints budget budget venues ↔
        (∀ venue ∈ venues, Permitted preference constraints venue) ∧
          (budget > 0 → (venues.map constraints.gasEstimates).sum ≤ budget)) := by
  refine ⟨?_, fun _ => assignVenues_ok valid nonempty, ?_, ?_⟩
  · constructor
    · rintro ⟨index, refused⟩ venues length feasible
      by_contra firm
      rw [(assignVenues_ok valid nonempty).mpr ⟨venues, length, feasible, firm, rfl⟩] at refused
      cases refused
    · intro all_yield
      rcases assignVenues_cases valid nonempty trades budget with ⟨assignments, assigned⟩ | refused
      · obtain ⟨venues, length, feasible, firm, -⟩ := (assignVenues_ok valid nonempty).mp assigned
        exact absurd (all_yield venues length feasible) firm
      · exact refused
  · intro more set larger venues
    exact Feasible.more set (by omega) larger
  · intro nonneg room venues
    exact feasible_iff_sum nonneg room

/-- Three trades of a Verified user, over the default estimates. -/
def sampleTrades : List SubTrade := [⟨0, 3⟩, ⟨1, 2⟩, ⟨2, 1⟩]

def sampleConstraints : VenueConstraints := ⟨(60 : Nat), defaultGasEstimates⟩

theorem sampleTrades_refused :
    @assignVenues Signer.asciiHost sampleTrades [.shielded, .public] sampleConstraints 500000 =
      .error (cannotAssign 2) := by
  decide

/-- At a budget of 500000 the largest trade takes shielded and the smallest is left without a
venue, though public for all three costs 195000; at 390000 all three are assigned. -/
theorem larger_budget_refuses :
    @assignVenues Signer.asciiHost sampleTrades [.shielded, .public] sampleConstraints 500000 =
      .error (cannotAssign 2) ∧
    Feasible [.shielded, .public] sampleConstraints 500000 500000 [.public, .public, .public] ∧
    @assignVenues Signer.asciiHost sampleTrades [.shielded, .public] sampleConstraints 390000 =
      .ok [⟨0, .public, 65000⟩, ⟨1, .public, 65000⟩, ⟨2, .public, 65000⟩] := by
  refine ⟨sampleTrades_refused, ?_, by decide⟩
  simp only [Feasible, Permitted, Fits, spend]
  decide

theorem assignVenues_refuses_iff_sample :
    @validateConstraints Signer.asciiHost sampleConstraints = .ok () ∧
      ∀ venues : List VenueId, venues.length = 3 →
        Feasible [.shielded, .public] sampleConstraints 500000 500000 venues →
        Yields [.shielded, .public] sampleConstraints 500000 500000 venues :=
  ⟨by decide, (@assignVenues_refuses_iff Signer.asciiHost [.shielded, .public] sampleConstraints
    (by decide) (by decide) sampleTrades 500000).1.mp ⟨2, sampleTrades_refused⟩⟩

end XochiSdk.Sdk
