import Mathlib.Data.List.Basic

/-!
# Intent statuses and transitions

`packages/client/src/shared/intents.ts`, the market-order half, with the resend and poll
bounds of `schemas.ts` that the client's machine reads.
-/

namespace XochiSdk.Shared

inductive SettlementType where
  | «public»
  | shielded
  | stealth
  deriving DecidableEq, Repr

def SettlementType.text : SettlementType → String
  | .public => "public"
  | .shielded => "shielded"
  | .stealth => "stealth"

inductive IntentStatus where
  | idle
  | pending
  | quoting
  | quoted
  | signing
  | awaiting_deposit
  | executing
  | bridging
  | settling
  | completed
  | refunded
  | failed
  | expired
  deriving DecidableEq, Repr

namespace IntentStatus

/-- The wire spelling. -/
def text : IntentStatus → String
  | idle => "idle"
  | pending => "pending"
  | quoting => "quoting"
  | quoted => "quoted"
  | signing => "signing"
  | awaiting_deposit => "awaiting_deposit"
  | executing => "executing"
  | bridging => "bridging"
  | settling => "settling"
  | completed => "completed"
  | refunded => "refunded"
  | failed => "failed"
  | expired => "expired"

/-- `INTENT_STATUSES`. -/
def all : List IntentStatus :=
  [idle, pending, quoting, quoted, signing, awaiting_deposit, executing, bridging, settling,
    completed, refunded, failed, expired]

end IntentStatus

/-- The status a string names (`isIntentStatus`). -/
def readIntentStatus (s : String) : Option IntentStatus :=
  IntentStatus.all.find? fun status => status.text == s

/-- The `substatus` the worker puts on a `failed` it wrote knowing nothing moved. -/
def notExecutedSubstatus : String := "not_executed"

/-- `INTENT_STATUS_TRANSITIONS`. -/
def intentStatusTransitions : IntentStatus → List IntentStatus
  | .idle => [.quoting, .pending]
  | .pending => [.quoting, .failed]
  | .quoting => [.quoted, .failed, .idle, .quoting]
  | .quoted =>
    [.signing, .awaiting_deposit, .executing, .completed, .expired, .quoting, .failed, .idle]
  | .signing => [.executing, .completed, .failed, .quoted]
  | .awaiting_deposit =>
    [.executing, .bridging, .settling, .completed, .refunded, .failed, .expired, .quoting, .idle]
  | .executing => [.bridging, .settling, .completed, .refunded, .failed]
  | .bridging => [.settling, .completed, .refunded, .failed]
  | .settling => [.completed, .refunded, .failed]
  | .completed => [.idle, .quoting]
  | .refunded => [.idle, .quoting]
  | .failed => [.idle, .quoting]
  | .expired => [.quoting, .idle]

def canTransitionTo (source target : IntentStatus) : Bool :=
  (intentStatusTransitions source).contains target

def getRefundReasonLabel (code : Option String) : String :=
  match code with
  | some "quote_expired" => "The quote expired before your deposit arrived, so it was sent back."
  | some "wrong_token" => "A different token arrived than the quote was for, so it was sent back."
  | some "deposit_shortfall" => "The deposit was smaller than the quote, so it was sent back."
  | some "duplicate_deposit" =>
    "This looked like a repeat of a deposit already handled, so it was sent back."
  | _ => "Your deposit was sent back to you."

/-- Automatic resends of one execute after its not-accepted answer. -/
def maxExecuteResends : Nat := 3

/-- A resend must reach the Worker this many seconds before the earliest signed deadline. -/
def executeResendMarginSecs : Int := 5

/-- Seconds past an unexecuted intent's signed deadline before the Worker ends it. -/
def quotedExpiryGraceSecs : Int := 60

end XochiSdk.Shared
