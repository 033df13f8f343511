import XochiSdk.Js.Double
import XochiSdk.Js.Value
import XochiSdk.Library.Floors
import XochiSdk.Signer.IntentVerify
import XochiSdk.Signer.Uint

/-!
# Layered fees

`packages/client/src/fee.ts`: the schedule, the reference computation of a breakdown, and the
check of a served one. Every layer is floored by itself; basis points are numbers of the
language and amounts are of any size.
-/

namespace XochiSdk.Client

open XochiSdk.Js XochiSdk.Library

inductive FeeTier where
  | standard
  | trusted
  | verified
  | premium
  | institutional
  deriving DecidableEq

inductive AssetClass where
  | stable
  | volatile
  deriving DecidableEq

inductive AttestationType where
  | compliance
  | non_membership
  deriving DecidableEq

/-! ## `FEE_SCHEDULE` -/

def surplusSharePct : Nat := 15

/-- `tier_boundaries`, highest first. -/
def tierBoundaries : List (Nat × FeeTier) :=
  [(100, .institutional), (75, .premium), (50, .verified), (25, .trusted), (0, .standard)]

def solverBaseBps : AssetClass → Nat
  | .stable => 8
  | .volatile => 18

def venueBps : FeeTier → AssetClass → Nat
  | .standard, .stable => 6
  | .standard, .volatile => 10
  | .trusted, .stable => 5
  | .trusted, .volatile => 8
  | .verified, .stable => 3
  | .verified, .volatile => 5
  | .premium, .stable => 2
  | .premium, .volatile => 3
  | .institutional, .stable => 1
  | .institutional, .volatile => 2

def routingBps : FeeTier → AssetClass → Nat
  | .standard, .stable => 8
  | .standard, .volatile => 12
  | .trusted, .stable => 6
  | .trusted, .volatile => 9
  | .verified, .stable => 4
  | .verified, .volatile => 6
  | .premium, .stable => 2
  | .premium, .volatile => 4
  | .institutional, .stable => 1
  | .institutional, .volatile => 2

/-- `price_impact.k`. -/
def priceImpactK : Nat := 50

/-- `price_impact.cap_bps`. -/
def priceImpactCapBps : Nat := 150

def tierAttestationRequirements : FeeTier → List AttestationType
  | .standard | .trusted => []
  | .verified => [.compliance]
  | .premium | .institutional => [.compliance, .non_membership]

def bpsDenominator : Nat := 10000

def tierGateOrder : List FeeTier := [.institutional, .premium, .verified, .trusted, .standard]

/-! ## The reference computation -/

/-- The tier of a trust score; one that is no integer, or negative, is `standard`. -/
def scoreToTier (score : Double) : FeeTier :=
  if score.toInteger.isNone || score.lt (0 : Nat) then .standard
  else
    match tierBoundaries.find? fun boundary => Double.le (boundary.1 : Nat) score with
    | some (_, tier) => tier
    | none => .standard

def isSubset (required provided : List AttestationType) : Bool :=
  required.all fun r => provided.contains r

/-- The highest tier whose attestation requirements are met. -/
def gateTier (rawTier : FeeTier) (provided : List AttestationType) : FeeTier :=
  if isSubset (tierAttestationRequirements rawTier) provided then rawTier
  else
    (tierGateOrder.find? fun tier => isSubset (tierAttestationRequirements tier) provided).getD
      .standard

/-- Price impact in basis points; none where the depth is unknown or not positive. -/
def priceImpactBps (fillUsd : Double) (liquidityUsd : Option Double) : Double :=
  match liquidityUsd with
  | none => (0 : Nat)
  | some liquidityUsd =>
    if !fillUsd.isFinite || !liquidityUsd.isFinite || liquidityUsd.le (0 : Nat) then (0 : Nat)
    else
      let impact := (Double.mul (priceImpactK : Nat) fillUsd).div liquidityUsd
      (Double.mathMin (priceImpactCapBps : Nat) (Double.mathMax (0 : Nat) impact)).mathRound

/-- `input_amount`: base units, as a text or a bigint. -/
inductive FeeAmount where
  | text (s : String)
  | bigint (n : Int)

structure FeeComputeParams where
  inputAmount : FeeAmount
  assetClass : Option AssetClass
  trustScore : Option Double
  tier : Option FeeTier
  attestations : Option (List AttestationType)
  acpOrigin : Bool
  fillUsd : Option Double
  availableLiquidityUsd : Option Double

/-- The reconciliation fields of a breakdown. -/
structure FeeReconcilable where
  solverFeeBps : Double
  priceImpactBps : Double
  venueFeeBps : Double
  routingFeeBps : Double
  totalBps : Double
  solverFee : String
  priceImpact : String
  venueFee : String
  routingFee : String
  totalFee : String

/-- The deterministic core of a breakdown. -/
structure FeeBreakdownCore extends FeeReconcilable where
  tier : FeeTier
  assetClass : AssetClass
  surplusSharePct : Nat

section

variable [Host]

/-- `BigInt(x)` of a number: an integer's own value. -/
def bigIntOfNumber (x : Double) : Except String Int :=
  match x.toInteger with
  | some n => .ok n
  | none => .error (s!"The number {x.text} cannot be converted to a BigInt because it is not " ++
      "an integer")

/-- `BigInt(s)` of a text. -/
def bigIntOfText (s : String) : Except String Int :=
  match bigInt s with
  | some n => .ok n
  | none => .error (Host.bigIntError s)

/-- One layer's amount: its share of the base, floored by itself. -/
def layerAmount (base : Int) (bps : Double) : Except String Int :=
  if base ≤ 0 ∨ bps.le (0 : Nat) = true then .ok 0
  else do
    let bps ← bigIntOfNumber bps
    pure ((base * bps).tdiv bpsDenominator)

def parseBaseAmount : FeeAmount → Except String Int
  | .bigint n =>
    if n < 0 then .error s!"fee: input_amount must be non-negative, got {n}" else .ok n
  | .text s =>
    if isDecimal s then bigIntOfText s
    else .error ("fee: input_amount must be a non-negative integer string, got " ++ jsonString s)

/-- The basis points of the layers: solver, impact, venue, routing. -/
def feeLayersBps (params : FeeComputeParams) (tier : FeeTier) (assetClass : AssetClass) :
    Double × Double × Double × Double :=
  ((solverBaseBps assetClass : Nat),
    priceImpactBps (params.fillUsd.getD (0 : Nat)) params.availableLiquidityUsd,
    (venueBps tier assetClass : Nat),
    if params.acpOrigin then (0 : Nat) else (routingBps tier assetClass : Nat))

/-- The reference computation. -/
def computeFeeBreakdown (params : FeeComputeParams) : Except String FeeBreakdownCore := do
  let assetClass := params.assetClass.getD .stable
  let tier := params.tier.getD
    (gateTier (scoreToTier (params.trustScore.getD (0 : Nat))) (params.attestations.getD []))
  let (solverBps, impactBps, venueBps, routingBps) := feeLayersBps params tier assetClass
  let totalBps :=
    (((solverBps.add venueBps).add routingBps).add impactBps).mathMax solverBps
  let base ← parseBaseAmount params.inputAmount
  let solverFee ← layerAmount base solverBps
  let impactFee ← layerAmount base impactBps
  let venueFee ← layerAmount base venueBps
  let routingFee ← layerAmount base routingBps
  let totalFee := solverFee + impactFee + venueFee + routingFee
  pure {
    tier := tier
    assetClass := assetClass
    solverFeeBps := solverBps
    solverFee := toString solverFee
    priceImpactBps := impactBps
    priceImpact := toString impactFee
    venueFeeBps := venueBps
    venueFee := toString venueFee
    routingFeeBps := routingBps
    routingFee := toString routingFee
    totalBps := totalBps
    totalFee := toString totalFee
    surplusSharePct := surplusSharePct }

/-! ## The check of a served breakdown -/

def throwIf (bad : Bool) (message : String) : Except String Unit :=
  if bad then .error message else .ok ()

/-- A layer's served amount against its own floor. -/
def checkLayer (base : Int) (name : String) (amount : Int) (bps : Double) : Except String Unit := do
  let expected ← layerAmount base bps
  throwIf (amount != expected) (s!"fee_breakdown: {name} {amount} != floor({base} * {bps.text} " ++
    s!"/ 10000) = {expected}")

/-- The layers sum to the total, in basis points and in amounts; with the origin amount, each
layer is its own floor. -/
def assertFeeBreakdownInvariants (fb : FeeReconcilable) (inputAmount : Option FeeAmount) :
    Except String Unit := do
  let bpsSum :=
    ((fb.solverFeeBps.add fb.priceImpactBps).add fb.venueFeeBps).add fb.routingFeeBps
  let expectedTotalBps := bpsSum.mathMax fb.solverFeeBps
  throwIf (!fb.totalBps.strictEq expectedTotalBps)
    (s!"fee_breakdown: total_bps {fb.totalBps.text} != clamped layer sum " ++
      s!"{expectedTotalBps.text} (solver {fb.solverFeeBps.text} + impact " ++
      s!"{fb.priceImpactBps.text} + venue {fb.venueFeeBps.text} + routing " ++
      s!"{fb.routingFeeBps.text})")
  throwIf (fb.totalBps.lt fb.solverFeeBps)
    (s!"fee_breakdown: total_bps {fb.totalBps.text} below solver floor " ++
      s!"{fb.solverFeeBps.text}")
  let solver ← bigIntOfText fb.solverFee
  let impact ← bigIntOfText fb.priceImpact
  let venue ← bigIntOfText fb.venueFee
  let routing ← bigIntOfText fb.routingFee
  let feeSum := solver + impact + venue + routing
  let totalFee ← bigIntOfText fb.totalFee
  throwIf (feeSum != totalFee)
    s!"fee_breakdown: layer amounts sum to {feeSum} but total_fee is {totalFee}"
  match inputAmount with
  | none => pure ()
  | some inputAmount => do
    let base ← parseBaseAmount inputAmount
    checkLayer base "solver_fee" solver fb.solverFeeBps
    checkLayer base "price_impact" impact fb.priceImpactBps
    checkLayer base "venue_fee" venue fb.venueFeeBps
    checkLayer base "routing_fee" routing fb.routingFeeBps

end

end XochiSdk.Client
