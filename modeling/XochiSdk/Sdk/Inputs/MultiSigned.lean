import XochiSdk.Sdk.Inputs.RiskScore

/-!
# Witness of the multi-signed compliance circuit

`inputs/compliance-multi-signed.ts`: five slots, each the artifacts of one signer or padding, and
what the signing daemon's `parseSignalFields` takes as the signals and weights of a request
(`packages/provider/daemon/src/handlers.ts`).
-/

namespace XochiSdk.Sdk.Inputs

open XochiSdk.Js

def signalsPerSlot : Nat := 8

def maxProvidersMulti : Nat := 5

/-- `"0x" + "0".repeat(64)`. -/
def zeroFieldHex : String := String.ofList ('0' :: 'x' :: List.replicate 64 '0')

/-- Thresholds floor by jurisdiction. -/
def minMultiProviderThresholds : Nat → Option Nat
  | 0 => some 1
  | 1 => some 2
  | 2 => some 1
  | 3 => some 2
  | 4 => some 2
  | _ => none

structure MultiSignedSlot where
  signals : List Double
  weights : List Double
  pubkeyX : List UInt8
  pubkeyY : List UInt8
  signature : List UInt8
  signerPubkeyHash : List UInt8

structure ComplianceMultiSignedInput where
  jurisdictionId : Nat
  thresholdM : Double
  providerSetHash : String
  configHash : Option String
  timestamp : Option String
  submitter : String
  chainId : ChainIdValue
  oracleAddress : String
  slots : List (Option MultiSignedSlot)

structure SlotWitness where
  signals : List Double
  weights : List Double
  weightSum : Double
  pubkeyX : List String
  pubkeyY : List String
  signature : List String
  signerPubkeyHash : String

/-- 32 bytes, most significant first. -/
def fieldToBytes (value : Nat) : List UInt8 :=
  (List.range 32).map fun i => UInt8.ofNat (value / 256 ^ (31 - i))

def numStrings (bytes : List UInt8) : List String := bytes.map fun b => toString b.toNat

def paddingPubkeyX : List UInt8 :=
  fieldToBytes 0xc6047f9441ed7d6d3045406e95c07cd85c778e4b8cef3ca7abac09b95c709ee5

def paddingPubkeyY : List UInt8 :=
  fieldToBytes 0x1ae168fea63dc339a3c58419466ceaeef7f632653266d0e1236431a950cfe52a

def paddingSignature : List UInt8 := fieldToBytes 1 ++ fieldToBytes 1

def paddingSlotWitness : SlotWitness where
  signals := List.replicate signalsPerSlot (0 : Nat)
  weights := (1 : Nat) :: List.replicate (signalsPerSlot - 1) (0 : Nat)
  weightSum := (1 : Nat)
  pubkeyX := numStrings paddingPubkeyX
  pubkeyY := numStrings paddingPubkeyY
  signature := numStrings paddingSignature
  signerPubkeyHash := zeroFieldHex

def ensureLen (bytes : List UInt8) (expected : Nat) (label : String) : Except String Unit :=
  refuseIf (bytes.length != expected) s!"{label} must be {expected} bytes; got {bytes.length}"

variable [Host]

/-- The body of the loop over one slot's providers. -/
def checkSlotEntry (slot : MultiSignedSlot) (slotIndex i : Nat) : Except String Unit := do
  let s := slot.signals.getD i .nan
  refuseIf (!isInteger s || s.lt (0 : Nat) || Double.lt (100 : Nat) s)
    s!"slot {slotIndex}: signals[{i}] must be an integer in [0, 100]; got {s.text}"
  let w := slot.weights.getD i .nan
  refuseIf (!isInteger w || w.lt (0 : Nat))
    s!"slot {slotIndex}: weights[{i}] must be a non-negative integer; got {w.text}"

def activeSlotWitness (slot : MultiSignedSlot) (slotIndex : Nat) : Except String SlotWitness := do
  refuseIf (slot.signals.length != signalsPerSlot)
    (s!"slot {slotIndex}: signals must be length {signalsPerSlot}; " ++
      s!"got {slot.signals.length}")
  refuseIf (slot.weights.length != signalsPerSlot)
    (s!"slot {slotIndex}: weights must be length {signalsPerSlot}; " ++
      s!"got {slot.weights.length}")
  (List.range signalsPerSlot).forM (checkSlotEntry slot slotIndex)
  let weightSum := sumOf slot.weights
  refuseIf (weightSum.le (0 : Nat)) s!"slot {slotIndex}: weight_sum must be > 0"
  ensureLen slot.pubkeyX 32 s!"slot {slotIndex} pubkeyX"
  ensureLen slot.pubkeyY 32 s!"slot {slotIndex} pubkeyY"
  ensureLen slot.signature 64 s!"slot {slotIndex} signature"
  ensureLen slot.signerPubkeyHash 32 s!"slot {slotIndex} signerPubkeyHash"
  refuseIf (slot.signerPubkeyHash.all (· == 0))
    s!"slot {slotIndex}: active slot signerPubkeyHash is zero (zero = inactive convention)"
  let signerPubkeyHash ← bytesToHexField slot.signerPubkeyHash
  return ⟨slot.signals, slot.weights, weightSum, numStrings slot.pubkeyX,
    numStrings slot.pubkeyY, numStrings slot.signature, signerPubkeyHash⟩

def slotWitness (slotIndex : Nat) : Option MultiSignedSlot → Except String SlotWitness
  | none => .ok paddingSlotWitness
  | some slot => activeSlotWitness slot slotIndex

/-- `opts.slots.map((slot, i) => …)`, from a position on. -/
def slotWitnesses : Nat → List (Option MultiSignedSlot) → Except String (List SlotWitness)
  | _, [] => .ok []
  | i, slot :: rest => do
    let witness ← slotWitness i slot
    let others ← slotWitnesses (i + 1) rest
    return witness :: others

structure MultiSignedInputs where
  slots : List SlotWitness
  jurisdictionId : Nat
  providerSetHash : String
  configHash : String
  timestamp : Double
  meetsThreshold : String
  thresholdM : Double
  chainId : String
  oracleAddress : String
  submitter : String

omit [Host] in
/-- The first active slot whose signer stands in an earlier slot. -/
def duplicateIndex (witnesses : List SlotWitness) : Option Nat :=
  witnesses.zipIdx.findSome? fun (w, i) =>
    if w.signerPubkeyHash ≠ zeroFieldHex ∧
        witnesses.findIdx (·.signerPubkeyHash == w.signerPubkeyHash) ≠ i then some i
    else none

omit [Host] in
def activeCount (witnesses : List SlotWitness) : Nat :=
  witnesses.countP (·.signerPubkeyHash != zeroFieldHex)

/-- `buildComplianceMultiSignedInputs`. -/
def buildComplianceMultiSignedInputs (numberOf : String → Double) (now : String)
    (opts : ComplianceMultiSignedInput) : Except String MultiSignedInputs := do
  refuseIf (opts.slots.length != maxProvidersMulti)
    s!"slots must have length {maxProvidersMulti}; got {opts.slots.length}"
  refuseIf (!isInteger opts.thresholdM || opts.thresholdM.lt (1 : Nat) ||
      Double.lt maxProvidersMulti opts.thresholdM)
    (s!"thresholdM must be an integer in [1, {maxProvidersMulti}]; " ++
      s!"got {opts.thresholdM.text}")
  let floor ← (minMultiProviderThresholds opts.jurisdictionId).elim
    (.error s!"Unknown jurisdiction ID: {opts.jurisdictionId}") .ok
  refuseIf (opts.thresholdM.lt floor)
    (s!"thresholdM={opts.thresholdM.text} below jurisdiction {opts.jurisdictionId} " ++
      s!"floor={floor}")
  let ts := numberOf (opts.timestamp.getD now)
  validateTimestamp ts
  validateSubmitter opts.submitter
  let witnesses ← slotWitnesses 0 opts.slots
  let dupIdx := duplicateIndex witnesses
  let duplicated := dupIdx.bind fun i => witnesses[i]?.map (·.signerPubkeyHash)
  refuseIf dupIdx.isSome
    (s!"slot {dupIdx.getD 0}: duplicate signerPubkeyHash {duplicated.getD zeroFieldHex} " ++
      "across active slots")
  refuseIf (Double.lt (activeCount witnesses) opts.thresholdM)
    s!"Active slots={activeCount witnesses} below thresholdM={opts.thresholdM.text}"
  let chainId ← chainIdText opts.chainId
  return ⟨witnesses, opts.jurisdictionId, opts.providerSetHash,
    opts.configHash.getD defaultConfigHash, ts, "1", opts.thresholdM, chainId,
    opts.oracleAddress, opts.submitter⟩

/-- `asNumber` of a request's number; what it returns is the number. -/
def asNumber (value : Double) (label : String) (max : Nat) : Except String Unit := do
  refuseIf (!isSafeInteger value || value.lt (0 : Nat))
    s!"{label} must be a non-negative integer; got {value.text}"
  refuseIf (Double.lt max value)
    s!"{label} must be an integer in [0, {max}]; got {value.text}"

/-- What `parseSignalFields` checks of the signals and weights of a request. -/
def parseSignals (contiguous : Bool) (signals weights : List Double) : Except String Unit := do
  refuseIf (signals.length != 8) "signals must be an array of length 8"
  refuseIf (weights.length != 8) "weights must be an array of length 8"
  (List.range 8).forM fun i => asNumber (signals.getD i .nan) s!"signals[{i}]" 100
  (List.range 8).forM fun i => asNumber (weights.getD i .nan) s!"weights[{i}]" maxWeight
  let active i := Double.lt (0 : Nat) (weights.getD i .nan)
  refuseIf (!(List.range 8).any active) "at least one weight must be positive"
  (List.range 8).forM fun i =>
    refuseIf (!active i && !(signals.getD i .nan).strictEq (0 : Nat))
      s!"signals[{i}] must be 0 when weights[{i}] is 0"
  refuseIf (contiguous && (List.range 8).any fun i => active i && decide (0 < i) && !active (i - 1))
    "active provider slots must be contiguous from index 0"

end XochiSdk.Sdk.Inputs
