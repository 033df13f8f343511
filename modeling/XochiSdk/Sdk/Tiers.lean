import XochiSdk.Js.Double

/-!
# Trust tiers, privacy levels and the fee schedule

The tables of `tiers.ts` and the functions that read a trust score through them. A score is any
number the language has: the readers here take fractions, negative numbers, infinities and `NaN`.
-/

namespace XochiSdk.Sdk

open XochiSdk.Js

inductive TierName where
  | standard
  | trusted
  | verified
  | premium
  | institutional
  deriving DecidableEq, Repr

inductive AssetClass where
  | stable
  | volatile
  deriving DecidableEq, Repr

/-- Per-quote fee layers, in basis points. -/
structure FeeLayers where
  solverBps : Nat
  venueBps : Nat
  routingBps : Nat
  deriving DecidableEq, Repr

structure TierInfo where
  name : TierName
  min : Double
  max : Double
  rate : Double

inductive PrivacyLevelName where
  | «open»
  | «public»
  | standard
  | stealth
  | «private»
  | sovereign
  deriving DecidableEq, Repr

inductive Settlement where
  | «public»
  | erc5564
  | aztec
  deriving DecidableEq, Repr

structure PrivacyLevel where
  name : PrivacyLevelName
  minTrustScore : Nat
  settlement : Settlement
  deriving DecidableEq, Repr

/-- `FEE_SCHEDULE`. -/
def feeSchedule : TierName → AssetClass → FeeLayers
  | .standard, .stable => ⟨8, 6, 8⟩
  | .standard, .volatile => ⟨18, 10, 12⟩
  | .trusted, .stable => ⟨8, 5, 6⟩
  | .trusted, .volatile => ⟨18, 8, 9⟩
  | .verified, .stable => ⟨8, 3, 4⟩
  | .verified, .volatile => ⟨18, 5, 6⟩
  | .premium, .stable => ⟨8, 2, 2⟩
  | .premium, .volatile => ⟨18, 3, 4⟩
  | .institutional, .stable => ⟨8, 1, 1⟩
  | .institutional, .volatile => ⟨18, 2, 2⟩

/-- Sum of the three layers, in bps. -/
def headlineBps (layers : FeeLayers) : Nat :=
  layers.solverBps + layers.venueBps + layers.routingBps

/-- `TRUST_THRESHOLDS`. -/
structure TrustThresholds where
  trusted : Nat
  verified : Nat
  premium : Nat
  institutional : Nat

def trustThresholds : TrustThresholds := ⟨25, 50, 75, 100⟩

def tierOrder : List TierName := [.standard, .trusted, .verified, .premium, .institutional]

def tierMins : List Nat :=
  [0, trustThresholds.trusted, trustThresholds.verified, trustThresholds.premium,
    trustThresholds.institutional]

/-- `TIERS`: each tier spans `[min, next.min - 1]`, the top one is open-ended. -/
def tiers : List TierInfo :=
  tierOrder.mapIdx fun i name =>
    { name
      min := (tierMins.getD i 0 : Nat)
      max := if i < tierOrder.length - 1 then (tierMins.getD (i + 1) 0 - 1 : Nat)
        else .infinite false
      rate := Double.div (headlineBps (feeSchedule name .stable)) (100 : Nat) }

/-- `SHIELDED_MIN_SCORE`. -/
def shieldedMinScore : Nat := 50

/-- `PRIVACY_LEVELS`. -/
def privacyLevels : List PrivacyLevel :=
  [⟨.open, 0, .public⟩, ⟨.public, 0, .public⟩, ⟨.standard, 0, .public⟩, ⟨.stealth, 0, .erc5564⟩,
    ⟨.private, trustThresholds.verified, .aztec⟩, ⟨.sovereign, trustThresholds.premium, .aztec⟩]

def sanitizeScore (score : Double) : Double :=
  if !score.isFinite || score.lt (0 : Nat) then (0 : Nat) else score

def getTierName (score : Double) : TierName :=
  let s := sanitizeScore score
  if Double.le trustThresholds.institutional s then .institutional
  else if Double.le trustThresholds.premium s then .premium
  else if Double.le trustThresholds.verified s then .verified
  else if Double.le trustThresholds.trusted s then .trusted
  else .standard

/-- The three fee layers for a score on a given asset class. -/
def getFeeSchedule (score : Double) (assetClass : AssetClass) : FeeLayers :=
  feeSchedule (getTierName score) assetClass

/-- Headline fee in basis points. -/
def getFeeBps (score : Double) (assetClass : AssetClass) : Nat :=
  headlineBps (getFeeSchedule score assetClass)

/-- Headline fee as a percentage. -/
def getFeeRate (score : Double) (assetClass : AssetClass) : Double :=
  Double.div (getFeeBps score assetClass) (100 : Nat)

/-- `s >= t.min && s <= t.max`. -/
def TierInfo.spans (t : TierInfo) (s : Double) : Bool := Double.le t.min s && Double.le s t.max

/-- `TIERS[0]`. -/
def firstTier : TierInfo := tiers.get ⟨0, by decide⟩

def getTierFromScore (score : Double) : TierInfo :=
  let s := sanitizeScore score
  (tiers.find? (·.spans s)).getD firstTier

/-- The tier after the one that spans the score; `findIndex` answers -1 where none does. -/
def getNextTier (score : Double) : Option TierInfo :=
  let currentIndex : Int := (tiers.findIdx? (·.spans score)).elim (-1) Int.ofNat
  if currentIndex < tiers.length - 1 then tiers[(currentIndex + 1).toNat]? else none

def getMaxPrivacyLevel (score : Double) : PrivacyLevelName :=
  let s := sanitizeScore score
  if Double.le trustThresholds.premium s then .sovereign
  else if Double.le trustThresholds.verified s then .private
  else .stealth

def getPrivacyLevel (name : PrivacyLevelName) : PrivacyLevel :=
  (privacyLevels.find? (·.name = name)).getD (privacyLevels.get ⟨2, by decide⟩)

def isPrivacyLevelAllowed (level : PrivacyLevelName) (score : Double) : Bool :=
  Double.le (getPrivacyLevel level).minTrustScore (sanitizeScore score)

end XochiSdk.Sdk
