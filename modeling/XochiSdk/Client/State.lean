import XochiSdk.Client.Wire
import XochiSdk.Signer.DepositVerify

/-!
# The intent's state

`packages/client/src/machine/state.ts`, and the stored deposit binding it carries
(`deposit.ts`).
-/

namespace XochiSdk.Client

open XochiSdk.Js XochiSdk.Shared XochiSdk.Signer

structure StructuredError where
  message : String
  code : Option JsNumber
  retryAfter : Option JsNumber
  reason : Option String

/-- What `intent.error` holds: a message, or the structured form of an API failure. -/
inductive ErrorValue where
  | text (message : String)
  | structured (error : StructuredError)

/-- `report.value === message`. -/
def ErrorValue.isText (value : ErrorValue) (message : String) : Bool :=
  match value with
  | .text s => s == message
  | .structured _ => false

/-- Why a sign ceremony stopped before the signature that moves funds. -/
inductive SignRefusal where
  | wrong_chain (chainId : Int)
  | wallet_changed
  | payout_mismatch
  | pull_unpinned
  | approval_required
  deriving DecidableEq

/-- A verified deposit binding and the signature over it. -/
structure StoredDepositAttestation where
  attested : DepositAttestationFields
  attestation : String

structure IntentState where
  status : IntentStatus := .idle
  intentId : Option String := none
  quoteId : Option String := none
  quote : Option QuoteResponse := none
  error : Option ErrorValue := none
  txHash : Option String := none
  receivingTxHash : Option String := none
  settlementTxHash : Option String := none
  settlementChainId : Option JsNumber := none
  substatus : Option String := none
  legsWithheld : Option Bool := none
  reconciling : Bool := false
  refundReason : Option String := none
  quotedAddress : Option String := none
  quotedChainId : Option Int := none
  quotedFromAmount : Option String := none
  quotedSettlement : Option SettlementType := none
  depositDeadline : Option Int := none
  attestedDeposit : Option StoredDepositAttestation := none
  pollExhausted : Bool := false
  mayHaveMoved : Bool := false
  notSent : Bool := false
  refusal : Option SignRefusal := none

/-- `INITIAL_INTENT_STATE`. -/
def initialIntentState : IntentState := {}

end XochiSdk.Client
