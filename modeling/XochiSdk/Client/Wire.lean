import XochiSdk.Js.Value
import XochiSdk.Shared.Eip712
import XochiSdk.Shared.Intents

/-!
# Wire shapes and the status decoder

`packages/client/src/machine/wire.ts`: the requests and replies as the machine holds them.
A reply keeps the members some function of the machine reads; an optional flag the machine
only compares with `true` is a `Bool`.
-/

namespace XochiSdk.Client

open XochiSdk.Js XochiSdk.Shared

structure StealthMetaAddress where
  spendingPubKey : String
  viewingPubKey : String
  chainId : Int
  deriving DecidableEq

structure QuoteRequest where
  wallet : Option String
  preview : Bool
  allocationKey : Option String
  fromChainId : Int
  toChainId : Int
  fromToken : String
  toToken : String
  fromAmount : String
  deadline : Int
  slippageBps : ℚ
  trustScore : ℚ
  settlementPreference : SettlementType
  recipientAddress : Option String
  refundAddress : Option String
  stealthMetaAddress : Option StealthMetaAddress
  ref : Option String
  promo : Option String
  deriving DecidableEq

structure ClaimInfo where
  factoryAddress : Option String
  salt : Option Int
  deriving DecidableEq

structure QuoteResponse where
  success : Bool
  intentId : String
  quoteId : String
  canSolve : Bool
  preview : Bool
  toAmount : String
  minToAmount : String
  expiry : String
  eip712Data : Option Eip712TypedData
  pullAuthorization : Option Eip712TypedData
  depositAddress : Option String
  depositAttestation : Option String
  depositDeadline : Option Int
  settlementType : Option SettlementType
  escrow : Value
  recipientAddress : Option String
  claimInfo : Option ClaimInfo
  error : Option String

/-- `!!text` of an optional string. -/
def textSet (s : Option String) : Bool := s.getD "" != ""

/-- `text || undefined`. -/
def textOrNone (s : Option String) : Option String := if textSet s then s else none

/-- The deposit address a quote shows, if any: an empty one is none. -/
def QuoteResponse.hasDeposit (quote : QuoteResponse) : Bool := textSet quote.depositAddress

structure ExecuteRequest where
  intentId : String
  quoteId : String
  signature : String
  nonce : Int
  pullSignature : Option String
  deriving DecidableEq

/-- A status a reply names: one of the union's, or (`decodeWireStatus`) a member every
object inherits, which no transition accepts. -/
inductive WireStatus where
  | known (status : IntentStatus)
  | inherited (printed : String)
  deriving DecidableEq

def WireStatus.text : WireStatus → String
  | .known status => status.text
  | .inherited printed => printed

structure ExecuteResponse where
  success : Bool
  intentId : String
  status : WireStatus
  txHash : Option String
  receivingTxHash : Option String
  settlementTxHash : Option String
  settlementChainId : Option JsNumber
  reconciling : Option Bool
  error : Option String
  substatus : Option String

/-- `IntentWebSocketMessage`: one status update, from the poll or the stream. -/
structure StatusMessage where
  intentId : String
  status : IntentStatus
  txHash : Option String
  receivingTxHash : Option String
  settlementTxHash : Option String
  settlementChainId : Option JsNumber
  reconciling : Option Bool
  substatus : Option String
  error : Option String
  refundReason : Option String

structure IntentStatusData where
  intentId : Option String
  status : IntentStatus
  unmapped : Bool
  txHash : Option String
  receivingTxHash : Option String
  settlementTxHash : Option String
  settlementChainId : Option JsNumber
  error : Option String
  refundReason : Option String
  substatus : Option String
  terminal : Bool
  legsWithheld : Bool
  settlementConfirmed : Bool

/-- A status poll's answer: a row, a definitive 404, or a transient failure. -/
inductive IntentStatusResult where
  | data (row : IntentStatusData)
  | notFound
  | transient

/-- `GRANULAR_WIRE_STATUS`. -/
def granularWireStatus : List (String × IntentStatus) :=
  [("pulling", .executing), ("pulled", .executing), ("filling", .settling),
    ("filled", .completed), ("refunding", .settling), ("pull_failed", .failed),
    ("fill_failed", .failed), ("refund_failed", .failed)]

/-- A raw status, decoded. `mapped` is one this build models; any other text is `unmapped`
and buckets to `executing`. -/
inductive DecodedWireStatus where
  | mapped (status : WireStatus)
  | unmapped (raw : String)
  | absent

def DecodedWireStatus.status : DecodedWireStatus → WireStatus
  | .mapped status => status
  | .unmapped _ | .absent => .known .executing

def DecodedWireStatus.isUnmapped : DecodedWireStatus → Bool
  | .unmapped _ => true
  | _ => false

def decodeWireStatus (raw : Value) : DecodedWireStatus :=
  match raw with
  | .str s =>
    match readIntentStatus s with
    | some status => .mapped (.known status)
    | none =>
      match granularWireStatus.lookup s with
      | some bucket => .mapped (.known bucket)
      | none =>
        -- The table is a plain object: a key it does not own reads what it inherits.
        match inheritedMember s with
        | some printed => .mapped (.inherited printed)
        | none => .unmapped s
  | _ => .absent

def isTerminalIntentStatus (status : IntentStatus) : Bool :=
  [.completed, .failed, .expired, .refunded].contains status

/-- Whether an anonymous read's `settlement_confirmed` counts as a delivered fill. -/
def withheldSettlementConfirmed (status : Value) (legsWithheld settlementConfirmed : Bool) :
    Bool :=
  if !legsWithheld || !settlementConfirmed then false
  else
    match status, decodeWireStatus status with
    | .str raw, .mapped decoded =>
      if "refund".toList.isPrefixOf raw.toList then false
      else
        match decoded with
        | .known decoded => !(isTerminalIntentStatus decoded && decoded != .completed)
        | .inherited _ => true
    | _, _ => false

end XochiSdk.Client
