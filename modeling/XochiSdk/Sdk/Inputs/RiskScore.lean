import XochiSdk.Sdk.Inputs.Validate
import XochiSdk.Js.Hex

/-!
# Witnesses of the risk-score circuits

`inputs/providers.ts`, `inputs/risk-score.ts` and `inputs/risk-score-signed.ts`: the provider arrays
padded to eight slots and the claim about their weighted score. A number the witness prints is kept
as the number; `Number(text)` of a timestamp is an argument.
-/

namespace XochiSdk.Sdk.Inputs

open XochiSdk.Js

def maxProviders : Nat := 8

def maxRiskScoreBps : Nat := 10000

inductive ProviderInput where
  | signals (signals weights : List Double) (providerIds : List String)
  | score (score : Double)

/-- Provider arrays padded to eight slots. -/
structure ResolvedProviders where
  signals : List Double
  weights : List Double
  weightSum : Double
  providerIds : List String
  numProviders : Nat

/-- `values.reduce((a, b) => a + b, 0)`. -/
def sumOf (values : List Double) : Double := values.foldl Double.add (0 : Nat)

/-- `while (values.length < 8) values.push(filler)`. -/
def padTo {α : Type} (width : Nat) (filler : α) (values : List α) : List α :=
  values ++ List.replicate (width - values.length) filler

def resolveProviders : ProviderInput → Except String ResolvedProviders
  | .signals signals weights providerIds =>
    let n := signals.length
    if n = 0 ∨ n > maxProviders then
      .error s!"Provider count must be 1-{maxProviders}, got {n}"
    else if weights.length ≠ n ∨ providerIds.length ≠ n then
      .error "signals, weights, and providerIds must have equal length"
    else
      .ok
        { signals := padTo maxProviders (0 : Nat) signals
          weights := padTo maxProviders (0 : Nat) weights
          weightSum := sumOf weights
          providerIds := padTo maxProviders "0" providerIds
          numProviders := n }
  | .score score =>
    .ok
      { signals := padTo maxProviders (0 : Nat) [score]
        weights := padTo maxProviders (0 : Nat) [((100 : Nat) : Double)]
        weightSum := (100 : Nat)
        providerIds := padTo maxProviders "0" ["1"]
        numProviders := 1 }

/-- Weighted score of the active providers, in basis points. -/
def computeScoreBps (p : ResolvedProviders) : Double :=
  let sum := sumOf (((p.signals.zip p.weights).take p.numProviders).map fun e =>
    Double.mul e.1 e.2)
  Double.mathFloor (Double.div (Double.mul sum (100 : Nat)) p.weightSum)

/-- What the proof is to show of the score. -/
inductive RiskClaim where
  | threshold (threshold : Double) (gt : Bool)
  | range (lowerBound upperBound : Double)

variable [Host]

def validateActiveProviders (p : ResolvedProviders) : Except String Unit := do
  (List.range 8).forM fun i => do
    let active := decide (i < p.numProviders)
    validateSignal (p.signals.getD i .nan) i
    validateWeight (p.weights.getD i .nan) i active
    validateProviderId (p.providerIds.getD i "undefined") i active
  refuseIf (Double.le (sumOf (p.weights.take p.numProviders)) (0 : Nat)) "Weight sum must be > 0"

/-- The bounds of a claim, and the score against it. The two builders word the refusal of a trivial
threshold differently. -/
def checkClaim (label : String) (scoreBps : Double) : RiskClaim → Except String Unit
  | .threshold threshold gt => do
    if gt then
      refuseIf (threshold.strictEq (0 : Nat) || Double.le maxRiskScoreBps threshold)
        s!"Trivial threshold/GT bound: {label}{threshold.text} (must be 1..{maxRiskScoreBps - 1})"
    else
      refuseIf (threshold.strictEq (0 : Nat) || Double.lt maxRiskScoreBps threshold)
        s!"Trivial threshold/LT bound: {label}{threshold.text} (must be 1..{maxRiskScoreBps})"
    let passes := if gt then threshold.lt scoreBps else scoreBps.lt threshold
    let direction := if gt then "gt" else "lt"
    refuseIf (!passes)
      s!"Score {scoreBps.text} bps does not satisfy {direction} {threshold.text} bps"
  | .range lowerBound upperBound => do
    refuseIf (Double.le upperBound lowerBound)
      s!"Invalid range: lowerBound ({lowerBound.text}) must be < upperBound ({upperBound.text})"
    refuseIf (Double.lt maxRiskScoreBps upperBound)
      (s!"Range upperBound ({upperBound.text}) exceeds MAX_RISK_SCORE_BPS " ++
        s!"({maxRiskScoreBps})")
    refuseIf (lowerBound.strictEq (0 : Nat) && upperBound.strictEq maxRiskScoreBps)
      "Trivial full-domain range [0, 10000] is rejected (any score satisfies)"
    let passes := Double.le lowerBound scoreBps && Double.le scoreBps upperBound
    refuseIf (!passes)
      s!"Score {scoreBps.text} bps not in range [{lowerBound.text}, {upperBound.text}]"

/-- The part of the witness the two circuits share. -/
structure RiskInputs where
  signals : List Double
  weights : List Double
  weightSum : Double
  providerIds : List String
  numProviders : Nat
  proofType : String
  direction : String
  boundLower : Double
  boundUpper : Double
  result : String
  configHash : String
  providerSetHash : String
  timestamp : String
  submitter : String

def riskInputs (p : ResolvedProviders) (claim : RiskClaim)
    (configHash providerSetHash timestamp submitter : String) : RiskInputs where
  signals := p.signals
  weights := p.weights
  weightSum := p.weightSum
  providerIds := p.providerIds
  numProviders := p.numProviders
  proofType := match claim with
    | .threshold .. => "1"
    | .range .. => "2"
  direction := match claim with
    | .threshold _ gt => if gt then "1" else "2"
    | .range .. => "0"
  boundLower := match claim with
    | .threshold threshold _ => threshold
    | .range lowerBound _ => lowerBound
  boundUpper := match claim with
    | .threshold .. => (0 : Nat)
    | .range _ upperBound => upperBound
  result := "1"
  configHash := configHash
  providerSetHash := providerSetHash
  timestamp := timestamp
  submitter := submitter

def defaultConfigHash : String :=
  "0x18574f427f33c6c77af53be06544bd749c9a1db855599d950af61ea613df8405"

structure RiskScoreInput where
  claim : RiskClaim
  providers : ProviderInput
  providerSetHash : String
  configHash : Option String
  timestamp : Option String
  submitter : String

variable (numberOf : String → Double)

/-- `buildRiskScoreInputs`; `now` is the local clock's second as a text. -/
def buildRiskScoreInputs (now : String) (opts : RiskScoreInput) : Except String RiskInputs := do
  let configHash := opts.configHash.getD defaultConfigHash
  let timestamp := opts.timestamp.getD now
  validateTimestamp (numberOf timestamp)
  validateSubmitter opts.submitter
  let p ← resolveProviders opts.providers
  validateActiveProviders p
  checkClaim "bound_lower=" (computeScoreBps p) opts.claim
  return riskInputs p opts.claim configHash opts.providerSetHash timestamp opts.submitter

structure SignedSignalsBundle where
  signature : List UInt8
  pubkeyX : List UInt8
  pubkeyY : List UInt8
  signerPubkeyHash : List UInt8

inductive ChainIdValue where
  | big (n : Int)
  | text (s : String)
  | num (x : Double)

/-- `BigInt(chainId).toString()`. -/
def chainIdText : ChainIdValue → Except String String
  | .big n => .ok (toString n)
  | .text s => (bigInt s).elim (.error s!"Cannot convert {s} to a BigInt") (.ok ∘ toString)
  | .num x => x.toInteger.elim
      (.error s!"The number {x.text} cannot be converted to a BigInt because it is not an integer")
      (.ok ∘ toString)

inductive SignedTimestamp where
  | text (s : String)
  | big (n : Int)

def SignedTimestamp.printed : SignedTimestamp → String
  | .text s => s
  | .big n => toString n

omit [Host] in
/-- The bytes as decimal witness strings, of a given length. -/
def bytesToNumStrings (bytes : List UInt8) (expected : Nat) (label : String) :
    Except String (List String) :=
  if bytes.length ≠ expected then
    .error s!"{label} must be {expected} bytes; got {bytes.length}"
  else .ok (bytes.map fun b => toString b.toNat)

omit [Host] in
def bytesToHexField (bytes : List UInt8) : Except String String :=
  if bytes.length ≠ 32 then .error s!"field must be 32 bytes; got {bytes.length}"
  else .ok (hexlify bytes)

structure RiskScoreSignedInput where
  claim : RiskClaim
  providers : ProviderInput
  providerSetHash : String
  configHash : Option String
  submitter : String
  signedBundle : SignedSignalsBundle
  signedTimestamp : SignedTimestamp
  chainId : ChainIdValue
  oracleAddress : String

structure RiskSignedInputs where
  risk : RiskInputs
  signature : List String
  pubkeyX : List String
  pubkeyY : List String
  signerPubkeyHash : String
  chainId : String
  oracleAddress : String

/-- `buildRiskScoreSignedInputs`. -/
def buildRiskScoreSignedInputs (opts : RiskScoreSignedInput) :
    Except String RiskSignedInputs := do
  let configHash := opts.configHash.getD defaultConfigHash
  validateSubmitter opts.submitter
  let p ← resolveProviders opts.providers
  validateActiveProviders p
  let scoreBps := computeScoreBps p
  let signedTimestamp := opts.signedTimestamp.printed
  validateTimestamp (numberOf signedTimestamp)
  let signature ← bytesToNumStrings opts.signedBundle.signature 64 "signature"
  let pubkeyX ← bytesToNumStrings opts.signedBundle.pubkeyX 32 "pubkey_x"
  let pubkeyY ← bytesToNumStrings opts.signedBundle.pubkeyY 32 "pubkey_y"
  let signerPubkeyHash ← bytesToHexField opts.signedBundle.signerPubkeyHash
  let chainId ← chainIdText opts.chainId
  checkClaim "" scoreBps opts.claim
  let risk :=
    riskInputs p opts.claim configHash opts.providerSetHash signedTimestamp opts.submitter
  return ⟨risk, signature, pubkeyX, pubkeyY, signerPubkeyHash, chainId, opts.oracleAddress⟩

end XochiSdk.Sdk.Inputs
