import XochiSdk.Sdk.Split
import XochiSdk.Sdk.Tiers
import Mathlib.Data.List.Sort

/-!
# Venues of the sub-trades

`venue-router.ts`: each sub-trade, largest first, takes the most private preferred venue that the
trust score and the gas left admit.
-/

namespace XochiSdk.Sdk

open XochiSdk.Js

inductive VenueId where
  | «public»
  | stealth
  | shielded
  deriving DecidableEq, Repr

structure VenueAssignment where
  index : Int
  venue : VenueId
  estimatedGas : Int
  deriving DecidableEq, Repr

structure VenueConstraints where
  trustScore : Double
  gasEstimates : VenueId → Int

def defaultGasEstimates : VenueId → Int
  | .public => 65000
  | .stealth => 150000
  | .shielded => 400000

/-- Minimum trust score per venue. -/
def venueMinScores : VenueId → Nat
  | .public => (getPrivacyLevel .public).minTrustScore
  | .stealth => (getPrivacyLevel .stealth).minTrustScore
  | .shielded => shieldedMinScore

def validateConstraints [Host] (constraints : VenueConstraints) : Except String Unit :=
  if !constraints.trustScore.isFinite || constraints.trustScore.lt (0 : Nat) then
    .error s!"trustScore must be a finite number >= 0, got {constraints.trustScore.text}"
  else .ok ()

/-- The type of a preference leaves no unknown venue to refuse. -/
def validatePreference (venuePreference : List VenueId) : Except String Unit :=
  if venuePreference.length = 0 then .error "venuePreference must not be empty" else .ok ()

/-- From the most private to the least. -/
def privacyOrder : List VenueId := [.shielded, .stealth, .public]

/-- The trust gate of a venue, which a score below its minimum does not pass. -/
def VenueConstraints.admits (constraints : VenueConstraints) (venue : VenueId) : Bool :=
  !constraints.trustScore.lt (venueMinScores venue)

/-- The venues in order that pass the gate and fit; a budget of 0 is unlimited. -/
def pickVenue (constraints : VenueConstraints) (maxGasBudget gasRemaining : Int)
    (orderedPreference : List VenueId) : Option VenueId :=
  orderedPreference.find? fun venue =>
    constraints.admits venue &&
      !(decide (maxGasBudget > 0) && decide (constraints.gasEstimates venue > gasRemaining))

def cannotAssign (index : Int) : String :=
  s!"Cannot assign venue to sub-trade {index}: " ++
    "no venue in preference list fits gas budget or trust score requirements"

/-- The loop of the sub-trades, over the gas that is left. -/
def assignEach (constraints : VenueConstraints) (maxGasBudget : Int)
    (orderedPreference : List VenueId) : Int → List SubTrade → Except String (List VenueAssignment)
  | _, [] => .ok []
  | gasRemaining, subTrade :: rest =>
    match pickVenue constraints maxGasBudget gasRemaining orderedPreference with
    | none => .error (cannotAssign subTrade.index)
    | some venue => do
      let gas := constraints.gasEstimates venue
      let left := if maxGasBudget > 0 then gasRemaining - gas else gasRemaining
      let assigned ← assignEach constraints maxGasBudget orderedPreference left rest
      return ⟨subTrade.index, venue, gas⟩ :: assigned

/-- By amount, largest first; the sort is stable. -/
def byAmount (subTrades : List SubTrade) : List SubTrade :=
  subTrades.insertionSort (fun a b => b.amount ≤ a.amount)

/-- By index; the sort is stable. -/
def byIndex (assignments : List VenueAssignment) : List VenueAssignment :=
  assignments.insertionSort (fun a b => a.index ≤ b.index)

def orderPreference (venuePreference : List VenueId) : List VenueId :=
  privacyOrder.filter (venuePreference.contains ·)

def assignVenues [Host] (subTrades : List SubTrade) (venuePreference : List VenueId)
    (constraints : VenueConstraints) (maxGasBudget : Int) :
    Except String (List VenueAssignment) := do
  validateConstraints constraints
  validatePreference venuePreference
  if subTrades.length = 0 then return []
  let orderedPreference := orderPreference venuePreference
  let assignments ← assignEach constraints maxGasBudget orderedPreference maxGasBudget
    (byAmount subTrades)
  return byIndex assignments

end XochiSdk.Sdk
