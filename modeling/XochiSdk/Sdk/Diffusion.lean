import XochiSdk.Sdk.VenueRouter

/-!
# Scheduling sub-trades in time

`diffusion-scheduler.ts`: the sub-trades of a plan spread over a window of seconds. The random
draws are an argument, and the offsets are computed in exact arithmetic.
-/

namespace XochiSdk.Sdk

open XochiSdk.Js

/-- A sub-trade with its venue and its second relative to the start. -/
structure ScheduledSubTrade where
  index : Int
  amount : Int
  venue : VenueId
  targetTimestamp : Int
  deriving DecidableEq, Repr

def minSpacingSeconds : Nat := 12

/-- `Math.floor(((i + uniform) * slack) / n)`, where the draw is below `2^32`. -/
def jitter (slack : Int) (n i : Nat) (draw : UInt32) : Int :=
  ⌊((i + (draw.toNat : ℚ) / 2 ^ 32) * slack) / n⌋

/-- The sub-trades with their venues by position, at the second each position is given. -/
def scheduleAt (time : Nat → Int) (subTrades : List SubTrade) (venues : List VenueId) :
    List ScheduledSubTrade :=
  (subTrades.zip venues).mapIdx fun i st => ⟨st.1.index, st.1.amount, st.2, time i⟩

variable [Host]

def scheduleDiffusion (subTrades : List SubTrade) (venues : List VenueId)
    (diffusionWindow : Double) (random : Nat → UInt32) :
    Except String (List ScheduledSubTrade) :=
  if subTrades.length = 0 then .ok []
  else if subTrades.length ≠ venues.length then
    .error s!"subTrades length ({subTrades.length}) must equal venues length ({venues.length})"
  else match diffusionWindow with
    | .finite window =>
      let n := subTrades.length
      let minWindow := (n - 1) * minSpacingSeconds
      if window < 0 then
        .error s!"diffusionWindow must be a finite number >= 0, got {diffusionWindow.text}"
      else if window = 0 then .ok (scheduleAt (fun _ => 0) subTrades venues)
      else if window < minWindow then
        .error (s!"diffusionWindow ({diffusionWindow.text}s) too short for {n} sub-trades " ++
          s!"with {minSpacingSeconds}s minimum spacing (need >= {minWindow}s)")
      else
        let slack := ⌊window⌋ - minWindow
        .ok (scheduleAt (fun i => jitter slack n i (random i) + i * minSpacingSeconds)
          subTrades venues)
    | _ => .error s!"diffusionWindow must be a finite number >= 0, got {diffusionWindow.text}"

end XochiSdk.Sdk
