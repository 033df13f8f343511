import XochiSdk.Js.Double
import XochiSdk.Js.Text

/-!
# Checks shared by the input builders

`inputs/validate.ts`: the circuits' own assertions, made before proving so that a refusal says
what is wrong. A number is any number the language has; what a check throws is its message.
-/

namespace XochiSdk.Sdk.Inputs

open XochiSdk.Js

variable [Host]

def minTimestamp : Nat := 1609459200
def maxTimestamp : Nat := 1099511627776
def maxReportingThreshold : Int := 204962515653461695
def maxWeight : Nat := 10000

/-- `Number.isInteger(x)`. -/
def isInteger (x : Double) : Bool := x.toInteger.isSome

/-- `Number.isSafeInteger(x)`. -/
def isSafeInteger (x : Double) : Bool := x.toInteger.any (·.natAbs < 2 ^ 53)

/-- `if (broken) throw new Error(message)`. -/
def refuseIf (broken : Bool) (message : String) : Except String Unit :=
  if broken then .error message else .ok ()

def validateSignal (signal : Double) (index : Nat) : Except String Unit :=
  refuseIf (!isInteger signal || signal.lt (0 : Nat) || Double.lt (100 : Nat) signal)
    s!"Signal[{index}] must be 0-100, got {signal.text}"

def validateWeight (weight : Double) (index : Nat) (active : Bool) : Except String Unit := do
  refuseIf (!isInteger weight || weight.lt (0 : Nat) || Double.lt maxWeight weight)
    s!"Weight[{index}] must be an integer in [0, {maxWeight}], got {weight.text}"
  refuseIf (active && weight.strictEq (0 : Nat))
    s!"Weight[{index}] must be > 0 for active provider, got {weight.text}"
  refuseIf (!active && !weight.strictEq (0 : Nat))
    s!"Weight[{index}] must be 0 for inactive provider, got {weight.text}"

omit [Host] in
def validateProviderId (id : String) (index : Nat) (active : Bool) : Except String Unit := do
  refuseIf (active && (id == "0" || id == ""))
    s!"Provider ID[{index}] must be non-zero for active provider"
  refuseIf (!active && id != "0")
    s!"Provider ID[{index}] must be \"0\" for inactive provider, got \"{id}\""

def validateTimestamp (ts : Double) : Except String Unit :=
  refuseIf (!isSafeInteger ts || ts.lt minTimestamp || Double.le maxTimestamp ts)
    s!"Timestamp must be an integer in [{minTimestamp}, {maxTimestamp}), got {ts.text}"

def validateReportingThreshold (threshold : Double) : Except String Unit := do
  refuseIf (!isInteger threshold || threshold.lt (0 : Nat))
    s!"Reporting threshold must be a non-negative integer, got {threshold.text}"
  refuseIf (threshold.toInteger.any (maxReportingThreshold < ·))
    s!"Reporting threshold must be <= {maxReportingThreshold}, got {threshold.text}"

/-- A 20-byte address, or its 32-byte form padded on the left:
`/^0x([0-9a-fA-F]{40}|0{24}[0-9a-fA-F]{40})$/`. -/
def isSubmitter (submitter : String) : Bool :=
  isHexOfLength 40 submitter ||
    (isHexOfLength 64 submitter && (submitter.toList.drop 2).take 24 == List.replicate 24 '0')

def validateSubmitter (submitter : String) : Except String Unit := do
  refuseIf (!isSubmitter submitter)
    ("submitter must be a 0x-prefixed 20-byte address (or its 32-byte left-padded form), " ++
      s!"got {submitter}")
  refuseIf (bigInt submitter == some 0) "submitter cannot be the zero address"

end XochiSdk.Sdk.Inputs
