import XochiSdk.Sdk.Tiers
import XochiSdk.Sdk.Inputs.Validate

/-!
# Tier proofs

`tier-proofs.ts`: which tier a score proves. The dating of a proof and its proving are taken
together as one step that the witness is handed to.
-/

namespace XochiSdk.Sdk

open XochiSdk.Js Inputs

/-- What the witness takes from the score, the tier and the caller; the rest of it is fixed. -/
structure TierWitness where
  signal : Double
  boundLower : Nat
  submitter : String

structure TierProof (Proof : Type) where
  threshold : Nat
  tierName : TierName
  proof : Proof

/-- Thresholds a tier proof can attest, highest first. -/
def provableThresholds : List Nat := [100, 75, 50, 25]

def tierBoundLower (threshold : Nat) : Nat := threshold * 100 - 1

variable [Host]

def assertScore (score : Double) : Except String Unit :=
  refuseIf (!score.isFinite || score.lt (0 : Nat))
    s!"Score must be a finite non-negative number, got {score.text}"

/-- The check of `createScoreCommitment`, the last that a proof passes. -/
def checkCommittedScore (score : Double) : Except String Unit :=
  refuseIf (!isSafeInteger score || score.lt (0 : Nat))
    s!"score must be a non-negative integer, got {score.text}"

variable {Proof : Type} (prove : TierWitness → Except String Proof)

def generateTierProof (score : Double) (threshold : Nat) (submitter : String) :
    Except String (TierProof Proof) := do
  assertScore score
  refuseIf (!provableThresholds.contains threshold)
    (if threshold = 0 then
      "Standard (threshold 0) is the default tier and has no proof; the Oracle rejects a " ++
        "'score > 0' claim as TrivialRiskBound"
    else s!"Invalid tier threshold {threshold}: expected 25, 50, 75 or 100")
  validateSubmitter submitter
  let signal := Double.mathMin (Double.mathFloor score) (100 : Nat)
  let boundLower := tierBoundLower threshold
  refuseIf (Double.le (Double.mul signal (100 : Nat)) boundLower)
    s!"Score {score.text} does not meet threshold {threshold}"
  let proof ← prove ⟨signal, boundLower, submitter⟩
  checkCommittedScore (Double.mathFloor score)
  return ⟨threshold, getTierName threshold, proof⟩

/-- The proof of the highest tier the score qualifies for; none below Trusted. -/
def generateHighestTierProof (score : Double) (submitter : String) :
    Except String (Option (TierProof Proof)) := do
  assertScore score
  match provableThresholds.find? (fun t : Nat => Double.le t score) with
  | none => return none
  | some threshold => return some (← generateTierProof prove score threshold submitter)

end XochiSdk.Sdk
