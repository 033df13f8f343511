import XochiSdk.Js.Double
import XochiSdk.Js.Hex
import XochiSdk.Sdk.Inputs.Validate
import Mathlib.Data.Nat.Digits.Defs

/-!
# The oracle client without a library

`oracle-lite.ts` and the codec of `encoding.ts`: calls of the Oracle encoded and its answers decoded
by hand. What the node answers to a call is an argument; a hex text is read by its digits.
-/

namespace XochiSdk.Sdk

open XochiSdk.Js Inputs

/-! ## Hex texts -/

/-- `value.startsWith("0x") ? value.slice(2) : value`. -/
def unprefixed (value : String) : List Char :=
  match value.toList with
  | '0' :: 'x' :: rest => rest
  | cs => cs

/-- `/^([0-9a-fA-F]{n})*$/`. -/
def isHexRuns (n : Nat) (cs : List Char) : Bool := cs.length % n == 0 && cs.all isHexDigit

/-- `padStart(width, "0")`. -/
def padStart (width : Nat) (cs : List Char) : List Char :=
  List.replicate (width - cs.length) '0' ++ cs

/-- `padEnd(width, "0")`. -/
def padEnd (width : Nat) (cs : List Char) : List Char :=
  cs ++ List.replicate (width - cs.length) '0'

/-- `value.toString(16)`. -/
def hexText (value : Nat) : List Char :=
  if value = 0 then ['0'] else (Nat.digits 16 value).reverse.map hexDigit

def wordHex : Nat := 64

def uintWord (value : Nat) : List Char := padStart wordHex (hexText value)

/-- The runs `hex.slice(i, i + 64)` of a text of whole words. -/
def wordRuns (cs : List Char) : List (List Char) :=
  (List.range (cs.length / wordHex)).map fun i => (cs.drop (i * wordHex)).take wordHex

def stripHex (value name : String) : Except String (List Char) :=
  let hex := unprefixed value
  if isHexRuns 2 hex then .ok hex
  else .error s!"{name} must be even-length hex, got {String.ofList (value.toList.take 20)}..."

/-- Public inputs as 32-byte words, or `none` where they are not word-aligned hex. -/
def splitWords (publicInputs : String) : Option (List String) :=
  let hex := unprefixed publicInputs
  if isHexRuns wordHex hex then
    some ((wordRuns hex).map fun word => String.ofList ('0' :: 'x' :: word.map asciiLowerChar))
  else none

/-- One public input as a word; the index is for the refusal. -/
def encodePublicInput (i : Nat) (input : String) : Except String (List Char) :=
  let hex := unprefixed input
  if 1 ≤ hex.length ∧ hex.length ≤ 64 ∧ hex.all isHexDigit then .ok (padStart wordHex hex)
  else
    let shown := if utf16Length input > 70 then String.ofList (input.toList.take 70) ++ "..."
      else input
    .error s!"Public input {i} must be 1-32 bytes of hex, got {shown}"

def encodePublicInputs (inputs : List String) : Except String String := do
  let words ← (inputs.zipIdx).mapM fun e => encodePublicInput e.2 e.1
  return String.ofList ('0' :: 'x' :: words.flatten)

/-- `String(a / b)`. -/
def ratioText [Host] (a b : Nat) : String := (Double.div (a : Double) b).text

def decodePublicInputs [Host] (hex : String) : Except String (List String) :=
  let clean := unprefixed hex
  if isHexRuns wordHex clean then
    .ok ((wordRuns clean).map fun word => String.ofList ('0' :: 'x' :: word))
  else
    let bytes := ratioText (utf16Length (String.ofList clean)) 2
    .error s!"Public inputs must be a whole number of 32-byte hex words, got {bytes} bytes"

/-- `submitCompliance(uint8,uint8,bytes,bytes,bytes32)`. -/
def selectorSubmitCompliance : String := "0xf33bc62b"

/-- `checkCompliance(address,uint8)`. -/
def selectorCheckCompliance : String := "0xd1e8eba9"

/-- `checkComplianceByType(address,uint8,uint8)`. -/
def selectorCheckComplianceByType : String := "0x0916d812"

/-- The calldata of `submitCompliance`: a head of five words, the proof padded to whole words, and
the public inputs. -/
def encodeSubmitCompliance (jurisdictionId proofType : Nat)
    (proof publicInputs providerSetHash : String) : Except String String := do
  let proofHex ← stripHex proof "proof"
  let piHex ← stripHex publicInputs "publicInputs"
  if piHex.length % wordHex ≠ 0 then
    throw s!"publicInputs must be a whole number of 32-byte words, got {piHex.length / 2} bytes"
  let hashHex ← stripHex providerSetHash "providerSetHash"
  if hashHex.length ≠ wordHex then
    throw s!"providerSetHash must be 32 bytes, got {hashHex.length / 2}"
  let headSize := 5 * 32
  let proofBytes := proofHex.length / 2
  let proofPadded := padEnd ((proofHex.length + (wordHex - 1)) / wordHex * wordHex) proofHex
  let piBytes := piHex.length / 2
  let proofOffset := headSize
  let piOffset := proofOffset + 32 + proofPadded.length / 2
  let head := uintWord jurisdictionId ++ uintWord proofType ++ uintWord proofOffset ++
    uintWord piOffset ++ hashHex
  let tail := uintWord proofBytes ++ proofPadded ++ uintWord piBytes ++ piHex
  return String.ofList (selectorSubmitCompliance.toList ++ head ++ tail)

/-! ## Answers -/

structure ComplianceAttestationLite where
  subject : String
  jurisdictionId : Double
  proofType : Double
  meetsThreshold : Bool
  timestamp : Nat
  expiresAt : Nat
  proofHash : String
  providerSetHash : String
  publicInputsHash : String
  verifierUsed : String

/-- The word `i` of an answer. -/
def answerWord (hex : List Char) (i : Nat) : List Char := (hex.drop (i * wordHex)).take wordHex

/-- `BigInt("0x...")` of a run of hex digits. -/
def hexNumber (cs : List Char) : Nat := readDigits 16 cs

/-- `Number(n)` of a bigint, which rounds. -/
def numberOfBigInt (n : Nat) : Double := Double.ofRat n

/-- The ten words of the attestation tuple. -/
def decodeAttestation (hex : List Char) : ComplianceAttestationLite where
  subject := String.ofList ('0' :: 'x' :: (answerWord hex 0).drop 24)
  jurisdictionId := numberOfBigInt (hexNumber (answerWord hex 1))
  proofType := numberOfBigInt (hexNumber (answerWord hex 2))
  meetsThreshold := hexNumber (answerWord hex 3) != 0
  timestamp := hexNumber (answerWord hex 4)
  expiresAt := hexNumber (answerWord hex 5)
  proofHash := String.ofList ('0' :: 'x' :: answerWord hex 6)
  providerSetHash := String.ofList ('0' :: 'x' :: answerWord hex 7)
  publicInputsHash := String.ofList ('0' :: 'x' :: answerWord hex 8)
  verifierUsed := String.ofList ('0' :: 'x' :: (answerWord hex 9).drop 24)

/-- The `result` member of an answer. -/
inductive CallResult where
  | absent
  | text (s : String)
  | other (shown : String)

/-- What comes of one `eth_call`. -/
inductive RpcReply where
  | failed (message : String)
  | status (code : Nat)
  | error (message data : Option String)
  | result (result : CallResult)

structure EthCall where
  sender : Option String
  target : String
  data : String
  blockTag : String

/-- The node: what it answers to each call of a run, by the call's place. -/
abbrev Node := Nat → EthCall → RpcReply

structure OracleLite where
  address : String
  verifyBlockTag : String

structure ComplianceCheckResult where
  valid : Bool
  attestation : Option ComplianceAttestationLite

structure ProofVerificationResult where
  valid : Bool
  attestation : Option ComplianceAttestationLite
  publicInputs : Option (List String)
  error : Option String

/-- `ethCall`: the hex text of the answer, `none` where it holds no data. -/
def readReply : RpcReply → Except String (Option String)
  | .failed message => .error message
  | .status code => .error s!"RPC HTTP {code}"
  | .error message data =>
    .error (message.getD "RPC error" ++ data.elim "" fun d => s!" (data: {d})")
  | .result .absent => .ok none
  | .result (.other shown) => .error s!"RPC returned a non-hex eth_call result: {shown}"
  | .result (.text s) =>
    if s = "0x" then .ok none
    else if s.startsWith "0x" && isHexRuns 2 (unprefixed s) then .ok (some s)
    else .error s!"RPC returned a non-hex eth_call result: {s}"

def attestationWords : Nat := 10

/-- `/^0x[0-9a-fA-F]{40}$/`. -/
def assertAddress (value name : String) : Except String Unit :=
  refuseIf (!isHexOfLength 40 value)
    s!"OracleLite: {name} must be a 0x-prefixed 20-byte hex address, got {value}"

variable [Host]

/-- The integer of a number in `[0, 255]`. -/
def assertUint8 (value : Double) (name : String) : Except String Nat :=
  match value.toInteger with
  | some n =>
    if n < 0 ∨ n > 255 then
      .error s!"OracleLite: {name} must be an integer in [0, 255], got {value.text}"
    else .ok n.toNat
  | none => .error s!"OracleLite: {name} must be an integer in [0, 255], got {value.text}"

/-- How an attestation fails to bind to the request; `none` where it binds. Both texts compared
are ASCII. -/
def bindingMismatch (attestation : ComplianceAttestationLite) (wallet : String)
    (jurisdictionId : Double) (proofType : Option Double) : Option String :=
  if asciiLower attestation.subject ≠ asciiLower wallet then
    some s!"attestation subject {attestation.subject} does not match wallet {wallet}"
  else if !attestation.jurisdictionId.strictEq jurisdictionId then
    some (s!"attestation jurisdiction {attestation.jurisdictionId.text} does not match requested " ++
      jurisdictionId.text)
  else match proofType with
    | some expected =>
      if !attestation.proofType.strictEq expected then
        some (s!"attestation proofType {attestation.proofType.text} does not match requested " ++
          expected.text)
      else none
    | none => none

/-- The shared call and decoding of the two checks: whether the Oracle says valid, and its latest
attestation of the wallet. -/
def queryAttestation (oracle : OracleLite) (reply : EthCall → RpcReply) (method selector : String)
    (wallet : String) (jurisdictionId : Double) (proofType : Option Nat) :
    Except String (Option (Bool × Option ComplianceAttestationLite)) := do
  assertAddress wallet "wallet"
  let jurisdiction ← assertUint8 jurisdictionId "jurisdictionId"
  let words := padStart wordHex ((wallet.toList.drop 2).map asciiLowerChar) ++
    uintWord jurisdiction ++ proofType.elim [] uintWord
  let answer ← readReply (reply
    ⟨none, oracle.address, selector ++ String.ofList words, "latest"⟩)
  match answer with
  | none => return none
  | some result =>
    let hex := result.toList.drop 2
    if hex.length ≠ wordHex * (1 + attestationWords) then
      throw (s!"OracleLite.{method}: malformed response, expected {1 + attestationWords} words, " ++
        s!"got {ratioText hex.length wordHex}")
    let onChainValid := hexNumber (hex.take wordHex) != 0
    let attestation := decodeAttestation (hex.drop wordHex)
    if attestation.timestamp = 0 then
      if onChainValid then
        throw s!"OracleLite.{method}: Oracle reported valid with no attestation"
      return some (false, none)
    match bindingMismatch attestation wallet jurisdictionId none with
    | some mismatch => throw s!"OracleLite.{method}: {mismatch}"
    | none => return some (onChainValid, some attestation)

def checkComplianceByType (oracle : OracleLite) (reply : EthCall → RpcReply) (wallet : String)
    (jurisdictionId proofType : Double) : Except String (Option ComplianceCheckResult) := do
  let type ← assertUint8 proofType "proofType"
  let result ← queryAttestation oracle reply "checkComplianceByType"
    selectorCheckComplianceByType wallet jurisdictionId (some type)
  match result with
  | none => return none
  | some (onChainValid, attestation) =>
    let valid := onChainValid && attestation.any (·.proofType.strictEq proofType)
    return some ⟨valid, attestation⟩

/-- `COMPLIANCE_PROOF_TYPES`. -/
def complianceProofTypes : List Double := [(1 : Nat), (7 : Nat), (9 : Nat)]

/-- The loop over the accepted types that have a slot of their own; each asks in its turn. -/
def checkEachType (oracle : OracleLite) (node : Node) (wallet : String)
    (jurisdictionId : Double) : Nat → List Double → Except String (Option ComplianceCheckResult)
  | _, [] => .ok none
  | i, proofType :: rest =>
    if complianceProofTypes.any (·.strictEq proofType) then
      checkEachType oracle node wallet jurisdictionId (i + 1) rest
    else do
      match ← checkComplianceByType oracle (node i) wallet jurisdictionId proofType with
      | some byType =>
        if byType.valid then return some byType
        else checkEachType oracle node wallet jurisdictionId (i + 1) rest
      | none => checkEachType oracle node wallet jurisdictionId (i + 1) rest

def checkCompliance (oracle : OracleLite) (node : Node) (wallet : String)
    (jurisdictionId : Double) (acceptedProofTypes : Option (List Double)) :
    Except String (Option ComplianceCheckResult) := do
  let accepted := acceptedProofTypes.getD complianceProofTypes
  if accepted.length = 0 then
    throw "OracleLite.checkCompliance: acceptedProofTypes must not be empty"
  let result ← queryAttestation oracle (node 0) "checkCompliance" selectorCheckCompliance wallet
    jurisdictionId none
  match result with
  | none => return none
  | some (onChainValid, attestation) =>
    if onChainValid && attestation.any (fun a => accepted.any (a.proofType.strictEq ·)) then
      return some ⟨true, attestation⟩
    match ← checkEachType oracle node wallet jurisdictionId 1 accepted with
    | some byType => return some byType
    | none => return some ⟨false, attestation⟩

/-- `verifyProof`: what the evidence itself fails by is an answer, not a throw. -/
def verifyProof (oracle : OracleLite) (reply : EthCall → RpcReply) (wallet : String)
    (proofType : Double) (proof publicInputs providerSetHash : String)
    (jurisdictionId : Double) : Except String ProofVerificationResult := do
  assertAddress wallet "wallet"
  let type ← assertUint8 proofType "proofType"
  let jurisdiction ← assertUint8 jurisdictionId "jurisdictionId"
  let decodedInputs := splitWords publicInputs
  match encodeSubmitCompliance jurisdiction type proof publicInputs providerSetHash with
  | .error message => return ⟨false, none, decodedInputs, some message⟩
  | .ok data =>
    match readReply (reply ⟨some wallet, oracle.address, data, oracle.verifyBlockTag⟩) with
    | .error message => return ⟨false, none, decodedInputs, some message⟩
    | .ok none => return ⟨false, none, decodedInputs, some "Empty result from oracle"⟩
    | .ok (some result) =>
      let hex := result.toList.drop 2
      if hex.length ≠ wordHex * attestationWords then
        return ⟨false, none, decodedInputs,
          some (s!"Malformed submitCompliance result: expected {attestationWords} words, " ++
            s!"got {ratioText hex.length wordHex}")⟩
      let attestation := decodeAttestation hex
      match bindingMismatch attestation wallet jurisdictionId (some proofType) with
      | some mismatch => return ⟨false, some attestation, decodedInputs, some mismatch⟩
      | none => return ⟨true, some attestation, decodedInputs, none⟩

end XochiSdk.Sdk
