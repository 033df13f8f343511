import XochiSdk.Sdk.Inputs.RiskScore

/-!
# Witness of the pattern circuit

`inputs/pattern.ts`: up to sixteen transactions in a window that ends at the proof's stamp. An
entry past the end of an array reads as `undefined`, which compares and subtracts as `NaN` does.
-/

namespace XochiSdk.Sdk.Inputs

open XochiSdk.Js

def patternTimeWindowMin : Nat := 86400

def patternTimeWindowMax : Nat := 7776000

structure PatternInput where
  amounts : List Double
  timestamps : List Double
  numTransactions : Double
  analysisType : Double
  reportingThreshold : Double
  timeWindow : Double
  txSetHash : String
  submitter : String
  settlementRoot : String
  timestamp : Option String
  notBefore : Option SignedTimestamp

/-- A stamp as the witness prints it and as `Number` reads it. -/
structure Stamp where
  printed : String
  value : Double

structure PatternInputs where
  amounts : List Double
  timestamps : List Double
  numTransactions : Double
  analysisType : Double
  result : String
  reportingThreshold : Double
  timeWindow : Double
  txSetHash : String
  submitter : String
  settlementRoot : String
  timestamp : Stamp

/-- `i` after `i` steps of `i++`, which stands still at 2^53. -/
def counter (i : Nat) : Nat := min i (2 ^ 53)

variable [Host] (numberOf : String → Double)

omit [Host] in
/-- `Number(notBefore)`. -/
def SignedTimestamp.number : SignedTimestamp → Double
  | .text s => numberOf s
  | .big n => .ofRat n

def parseNotBefore : Option SignedTimestamp → Except String (Option Double)
  | none => .ok none
  | some notBefore => do
    validateTimestamp (notBefore.number numberOf)
    return some (notBefore.number numberOf)

/-- The stamp of a proof: the explicit one, refused below `notBefore`, else the later of the
default and `notBefore`. -/
def resolvePatternTimestamp (timestamp : Option String) (notBefore : Option SignedTimestamp)
    (defaultStamp : String) : Except String Stamp := do
  let earliest ← parseNotBefore numberOf notBefore
  match timestamp with
  | some text =>
    validateTimestamp (numberOf text)
    refuseIf (earliest.any (numberOf text).lt)
      (s!"PATTERN proof timestamp {(numberOf text).text} predates notBefore " ++
        s!"{(earliest.getD .nan).text}: finalizeTrade would revert PatternProofPredatesTrade. " ++
        "Date it at or after the trade's createdAt, or omit timestamp to stamp " ++
        "max(default, notBefore).")
    return ⟨text, numberOf text⟩
  | none =>
    validateTimestamp (numberOf defaultStamp)
    match earliest with
    | some notBefore =>
      if (numberOf defaultStamp).lt notBefore then return ⟨notBefore.text, notBefore⟩
      else return ⟨defaultStamp, numberOf defaultStamp⟩
    | none => return ⟨defaultStamp, numberOf defaultStamp⟩

/-- The body of the loop over the transactions. -/
def checkTransaction (opts : PatternInput) (stamp : Stamp) (i : Nat) : Except String Unit := do
  let amount := opts.amounts.getD i .nan
  let timestamp := opts.timestamps.getD i .nan
  refuseIf (amount.le (0 : Nat)) s!"Amount[{i}] must be > 0 for active transaction"
  refuseIf (timestamp.le (0 : Nat)) s!"Timestamp[{i}] must be > 0 for active transaction"
  refuseIf (stamp.value.lt timestamp)
    s!"Timestamp[{i}] {timestamp.text} is after the proof timestamp {stamp.printed}"
  refuseIf (opts.timeWindow.lt (stamp.value.sub timestamp))
    (s!"Timestamp[{i}] {timestamp.text} is outside the {opts.timeWindow.text}s window " ++
      s!"ending at {stamp.printed}")

/-- `for (let i = 0; i < opts.numTransactions; i++)`; `none` where it has not ended. -/
def checkTransactions (opts : PatternInput) (stamp : Stamp) :
    Nat → Nat → Option (Except String Unit)
  | fuel, i =>
    if (counter i : Double).lt opts.numTransactions then
      match fuel with
      | 0 => none
      | fuel + 1 =>
        match checkTransaction opts stamp (counter i) with
        | .error e => some (.error e)
        | .ok () => checkTransactions opts stamp fuel (i + 1)
    else some (.ok ())

/-- What `buildPatternInputs` does before its loop. -/
def preparePattern (now : String) (opts : PatternInput) : Except String Stamp := do
  refuseIf (decide (opts.amounts.length > 16) || decide (opts.timestamps.length > 16))
    "Max 16 transactions supported"
  refuseIf (!opts.analysisType.strictEq (1 : Nat) && !opts.analysisType.strictEq (2 : Nat) &&
      !opts.analysisType.strictEq (3 : Nat))
    (s!"Invalid analysisType {opts.analysisType.text}; must be 1 (STRUCTURING), " ++
      "2 (VELOCITY), or 3 (ROUND_AMOUNT)")
  validateReportingThreshold opts.reportingThreshold
  validateSubmitter opts.submitter
  let stamp ← resolvePatternTimestamp numberOf opts.timestamp opts.notBefore now
  refuseIf (opts.timeWindow.lt patternTimeWindowMin)
    s!"time_window {opts.timeWindow.text} below minimum {patternTimeWindowMin}s (24h)"
  refuseIf (Double.lt patternTimeWindowMax opts.timeWindow)
    s!"time_window {opts.timeWindow.text} exceeds maximum {patternTimeWindowMax}s (90d)"
  return stamp

omit [Host] in
def patternInputs (opts : PatternInput) (stamp : Stamp) : PatternInputs where
  amounts := padTo 16 (0 : Nat) opts.amounts
  timestamps := padTo 16 (0 : Nat) opts.timestamps
  numTransactions := opts.numTransactions
  analysisType := opts.analysisType
  result := "1"
  reportingThreshold := opts.reportingThreshold
  timeWindow := opts.timeWindow
  txSetHash := opts.txSetHash
  submitter := opts.submitter
  settlementRoot := opts.settlementRoot
  timestamp := stamp

/-- `buildPatternInputs`, the loop cut off after `fuel` rounds. -/
def buildPatternInputs (now : String) (fuel : Nat) (opts : PatternInput) :
    Option (Except String PatternInputs) :=
  match preparePattern numberOf now opts with
  | .error e => some (.error e)
  | .ok stamp =>
    match checkTransactions opts stamp fuel 0 with
    | none => none
    | some (.error e) => some (.error e)
    | some (.ok ()) => some (.ok (patternInputs opts stamp))

end XochiSdk.Sdk.Inputs
