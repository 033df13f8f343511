import XochiSdk.Js.Host
import XochiSdk.Library.Utf16
import XochiSdk.Signer.Shielded

/-!
# Sealed bids

`packages/solver-sdk/src/bid.ts`: what a bid signs over, the signer, and the verifier with its
five answers. The ids are UTF-16 texts, since an unpaired surrogate in them is refused.
-/

namespace XochiSdk.Solver

open XochiSdk.Js XochiSdk.Library XochiSdk.Signer

/-- The wallet of a solver key, and `verifyTypedData` over the digest and the signature's bytes:
the recovered address, or the message of what it threw. -/
class BidKeys where
  Key : Type
  address : Key → Bytes 20
  sign : Key → Word → Bytes 65
  recover : Word → Bytes 65 → Except String (Bytes 20)

/-! ## The signed struct -/

structure SolverBidMessage where
  orderId : String
  auctionId : List UInt16
  intentId : List UInt16
  output : String
  validUntilMs : JsNumber
  minExclusiveMs : JsNumber

/-- A bid on the wire. -/
structure Bid extends SolverBidMessage where
  solverId : String
  signature : String

/-- What a solver answers an announcement with. -/
structure BidDraft where
  output : String
  validUntilMs : JsNumber
  minExclusiveMs : JsNumber

/-- The members of an announcement that a bid repeats. -/
structure IntentAnnouncement where
  orderId : String
  auctionId : List UInt16
  intentId : List UInt16

def solverBidDomainType : String := "EIP712Domain(string name,string version)"
def solverBidDomainName : String := "RiddlerSolver"
def solverBidDomainVersion : String := "2"

def solverBidType : String :=
  "SolverBid(bytes32 orderId,string auctionId,string intentId,uint256 output," ++
  "uint64 validUntilMs,uint64 minExclusiveMs)"

/-- `MAX_BID_MS`. -/
def maxBidMs : Nat := 2 ^ 53 - 1

/-- `[0-9a-f]`. -/
def isLowerHexDigit (c : Char) : Bool := Js.isDigit c || ('a' ≤ c && c ≤ 'f')

/-- `/^0x[0-9a-f]{n}$/`. -/
def isLowerHexOfLength (n : Nat) (s : String) : Bool :=
  match s.toList with
  | '0' :: 'x' :: rest => rest.length == n && rest.all isLowerHexDigit
  | _ => false

/-- `LONE_SURROGATE.test(s)`. -/
def loneSurrogate (s : List UInt16) : Bool := Utf16.hasLoneSurrogate false s

/-- `typeof v !== "number" || !Number.isInteger(v) || v < 0 || v > MAX_BID_MS`, denied. -/
def isBidMs (v : JsNumber) : Bool :=
  v.toInteger.any fun n : Int => decide (0 ≤ n) && decide (n ≤ maxBidMs)

def checkMs (label : String) (v : JsNumber) : Except String Unit :=
  if isBidMs v then .ok ()
  else .error ("bid " ++ label ++ " must be an integer in 0..9007199254740991 (2^53-1), got " ++
    v.text)

/-- The integer of a run of digits. -/
def decimalValue (s : String) : Nat := readDigits 10 s.toList

/-- `bidTypedData`: the message of the typed data, once it is checked. -/
def bidTypedData (fields : SolverBidMessage) : Except String SolverBidMessage :=
  if !isLowerHexOfLength 64 fields.orderId then
    .error ("bid orderId must be 0x + 64 lowercase hex, got " ++ jsonString fields.orderId)
  else if loneSurrogate fields.auctionId then
    .error "bid auctionId has an unpaired surrogate; not UTF-8 encodable"
  else if loneSurrogate fields.intentId then
    .error "bid intentId has an unpaired surrogate; not UTF-8 encodable"
  else if !isCanonicalDecimal fields.output then
    .error ("bid output must be a canonical decimal uint256 string, got " ++
      jsonString fields.output)
  else if uint256Max < decimalValue fields.output then
    .error ("bid output " ++ fields.output ++ " exceeds uint256")
  else do
    checkMs "validUntilMs" fields.validUntilMs
    checkMs "minExclusiveMs" fields.minExclusiveMs
    pure fields

section Digest

variable [Ethers]

def solverBidSeparatorWords : List Word :=
  [ethersId solverBidDomainType, ethersId solverBidDomainName, ethersId solverBidDomainVersion]

/-- The words of a message, if the encoder can read its members. -/
def solverBidWords (m : SolverBidMessage) : Option (List Word) := do
  let orderId ← hexBytes 32 m.orderId
  let auctionId ← Utf16.decode m.auctionId
  let intentId ← Utf16.decode m.intentId
  let validUntilMs ← m.validUntilMs.toInteger
  let minExclusiveMs ← m.minExclusiveMs.toInteger
  pure [ethersId solverBidType, orderId, ethersId (String.ofList auctionId),
    ethersId (String.ofList intentId), uintWord (decimalValue m.output),
    uintWord validUntilMs.toNat, uintWord minExclusiveMs.toNat]

/-- `TypedDataEncoder.hash`. -/
def solverBidHash (m : SolverBidMessage) : Option Word := do
  let words ← solverBidWords m
  pure (typedDigest (hashWords solverBidSeparatorWords) (hashWords words))

/-- What the encoder throws for a member it cannot read. -/
def unreadable : String := "invalid value"

/-- `bidDigest`. -/
def bidDigest (fields : SolverBidMessage) : Except String Word := do
  let message ← bidTypedData fields
  match solverBidHash message with
  | some digest => pure digest
  | none => .error unreadable

end Digest

section Verifier

variable [Ethers] [BidKeys]

/-- The fields that a bid signs: the order is the announcement's. -/
def bidFields (announcement : IntentAnnouncement) (draft : BidDraft) : SolverBidMessage where
  orderId := announcement.orderId
  auctionId := announcement.auctionId
  intentId := announcement.intentId
  output := draft.output
  validUntilMs := draft.validUntilMs
  minExclusiveMs := draft.minExclusiveMs

/-- `signBid`. -/
def signBid (wallet : BidKeys.Key) (announcement : IntentAnnouncement) (draft : BidDraft) :
    Except String Bid := do
  let digest ← bidDigest (bidFields announcement draft)
  pure { bidFields announcement draft with
    solverId := Ethers.checksum (BidKeys.address wallet)
    signature := hexlify (BidKeys.sign wallet digest).bytes }

/-- Why a bid did not verify, or who signed it. -/
inductive BidVerification where
  | verified (signer : String)
  | unencodable (detail : String)
  | badSignature (detail : String)
  | signerMismatch (signer detail : String)
  | nonCanonical (signer detail : String)
  deriving DecidableEq

/-- `CANONICAL_BID_SIGNATURE`. -/
def isCanonicalBidSignature (s : String) : Bool := isLowerHexOfLength 130 s

/-- The shape of a signature in another spelling. -/
def signatureShape (s : String) : String :=
  if isHexOfLength 128 s then "is 64 bytes, the EIP-2098 compact form"
  else if isHexOfLength 130 s then "is not lowercase"
  else "is " ++ toString (utf16Length s) ++ " characters"

/-- `ethers.verifyTypedData`: the recovered address, checksummed. -/
def verifyTypedData (message : SolverBidMessage) (signature : String) : Except String String :=
  match solverBidHash message, hexBytes 65 signature with
  | some digest, some bytes => (BidKeys.recover digest bytes).map Ethers.checksum
  | _, _ => .error unreadable

/-- `BigInt(bid.output).toString()`. -/
def canonicalOutput (output : String) : String := (decimalValue output).repr

variable [Host]

/-- `verifyBidDetailed`. -/
def verifyBidDetailed (bid : Bid) : BidVerification :=
  if !isDecimal bid.output then
    .unencodable ("output " ++ jsonString bid.output ++ " is not a decimal integer string")
  else
    match bidTypedData { bid.toSolverBidMessage with output := canonicalOutput bid.output } with
    | .error message => .unencodable message
    | .ok typedData =>
      if !isCanonicalBidSignature bid.signature then
        .badSignature ("signature " ++ signatureShape bid.signature ++
          "; this protocol admits only 0x followed by 130 lowercase hex digits " ++
          "(65-byte r||s||v, RFC §5.1). Refused rather than normalized: one seal has one " ++
          "admissible spelling, so re-serialize the signature at the source")
      else
        match verifyTypedData typedData bid.signature with
        | .error message => .badSignature message
        | .ok recovered =>
          if Host.toLowerCase recovered != Host.toLowerCase bid.solverId then
            .signerMismatch recovered ("signature recovers to " ++ recovered ++ ", bid claims " ++
              bid.solverId)
          else if !isCanonicalDecimal bid.output then
            .nonCanonical recovered ("output " ++ jsonString bid.output ++
              " is not canonical decimal; it hashes as " ++ canonicalOutput bid.output ++
              ", which is the number the signature commits to")
          else .verified recovered

/-- `verifyBid`. -/
def verifyBid (bid : Bid) : Bool := (verifyBidDetailed bid) matches .verified _

end Verifier

end XochiSdk.Solver
