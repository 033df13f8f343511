import XochiSdk.Library.Emits
import XochiSdk.Client.Decisions
import XochiSdk.Client.QuoteChecks
import XochiSdk.Client.SolverPin
import XochiSdk.Client.ValidateRequest

/-!
# The machine's model, messages and effects

`packages/client/src/machine/machine.ts`, down to `init`. Everything here is plain data: the
machine asks for an effect, and a host answers with a message.
-/

namespace XochiSdk.Client

open XochiSdk.Js XochiSdk.Shared XochiSdk.Signer XochiSdk.Library

/-! ## Configuration -/

def quoteDebounceMs : Int := 500

def quoteRefreshBufferMs : Int := 5000

/-- `Math.ceil(90_000 / STATUS_POLL_MS)`. -/
def reconcileAfterAttempts : Nat := 23

def signPromptTimeoutMs : Int := 90000

def quoteDeadlineSecs : Int := 3600

def notSentSweptError : String := "This order expired without being sent. Nothing moved."

/-! ## Context -/

structure WalletContext where
  address : Option String
  chainId : Option Int
  stepwise : Bool

/-- The trade the host's form describes, plus the wallet it is connected with. -/
structure Context where
  fromChainId : Int
  toChainId : Int
  fromToken : String
  toToken : String
  settlementPreference : SettlementType
  trustScore : ℚ
  slippageBps : ℚ
  recipientAddress : Option String
  refundAddress : Option String
  stealthMetaAddress : Option StealthMetaAddress
  ref : Option String
  promo : Option String
  paused : Bool
  wallet : WalletContext

structure MachineConfig where
  solverPin : SolverPinConfig
  pullRecipients : Option PinnedPullRecipients
  depositAttestationSigner : Option String

/-! ## Effects -/

inductive TimerName where
  | debounce
  | refresh
  | expiry
  | poll
  | signPrompt
  | execute
  deriving DecidableEq, Repr

inductive ApiCall where
  | quote (flight : String) (request : QuoteRequest) (forceRefresh : Bool)
  | execute (flow : String) (request : ExecuteRequest)
  | status (intentId : String) (gen attempt : Nat)

inductive Purpose where
  | intent
  | pull
  deriving DecidableEq, Repr

inductive WalletCall where
  | ensureSession (flight : String) (interactive : Bool)
  | signTypedData (flow : String) (purpose : Purpose) (typedData : Eip712TypedData)
      (chainId : Option Int)
  | ensureApproval (flow : String) (amount : String)
  | resetApproval

inductive TimerCall where
  | set (timer : TimerName) (ms : ℚ) (repeats : Bool)
  | clear (timer : TimerName)

inductive LogLevel where
  | debug
  | warn
  | error
  deriving DecidableEq

inductive MachineEvent where
  | log (level : LogLevel) (message : String) (data : List Value)
  /-- The outcome of one explicit deposit-route allocation. -/
  | allocation (ref : String) (ok : Bool)

inductive Effect where
  | api (call : ApiCall)
  | wallet (call : WalletCall)
  | timer (call : TimerCall)
  | emit (event : MachineEvent)

/-! ## Messages -/

/-- A failure the host observed, already classified. -/
structure ErrorReport where
  rejected : Bool
  value : Option ErrorValue
  detail : String
  notAccepted : Option Bool

/-- `Outcome<T>`. -/
abbrev Outcome (α : Type) := Except ErrorReport α

inductive SessionResult where
  | ok
  | refused
  | skipped
  deriving DecidableEq

/-- An execute's outcome as a host may actually relay it: the response is checked, never
trusted, and a result in neither shape is `malformed`. -/
inductive ExecuteResult where
  | reply (response : Value)
  | error (report : ErrorReport)
  | malformed

inductive MsgBody where
  | contextChanged (ctx : Context)
  | quoteRequested (amount : String)
  | allocateRequested (key ref : String)
  | refreshRequested
  | signRequested
  | pullSignRequested
  | cancelSignRequested
  | resetRequested
  | resumeRequested (intentId : String) (status : IntentStatus) (owner : String)
      (depositDeadline : Option Int) (substatus : Option String)
  | visibilityChanged
  | streamStatus (message : StatusMessage)
  | timerFired (timer : TimerName)
  | sessionReplied (flight : String) (result : SessionResult)
  | quoteReplied (flight : String) (result : Outcome QuoteResponse)
  | signReplied (flow : String) (purpose : Purpose) (result : Outcome String)
  | approvalReplied (flow : String) (result : Outcome Bool)
  | executeReplied (flow : String) (result : ExecuteResult)
  | statusReplied (gen attempt : Nat) (result : Outcome IntentStatusResult)

/-- Every message carries the clock and tab visibility it was observed under. -/
structure Msg where
  body : MsgBody
  now : Int
  hidden : Bool

/-! ## Model -/

inductive FlightStage where
  | session
  | api
  deriving DecidableEq

structure Allocation where
  key : String
  ref : String

structure QuoteFlight where
  id : String
  stage : FlightStage
  amount : String
  silent : Bool
  forceRefresh : Bool
  allocate : Option Allocation
  ctx : Context
  depositOrigin : Bool
  preview : Bool
  request : Option QuoteRequest

inductive SignOrigin where
  | sign
  | pull
  deriving DecidableEq

inductive SignStage where
  | intent
  | approval
  | pull
  | execute
  deriving DecidableEq

/-- The stage a wallet reply answers. -/
def Purpose.stage : Purpose → SignStage
  | .intent => .intent
  | .pull => .pull

/-- The execute of a sign flow; `resendAt` is set only while waiting for a resend. -/
structure ExecuteAttempt where
  request : ExecuteRequest
  resends : Nat
  resendAt : Option ℚ
  error : Option ErrorValue

structure SignFlow where
  id : String
  origin : SignOrigin
  stage : SignStage
  intentSignature : Option String
  execute : Option ExecuteAttempt

structure PollState where
  key : String
  intentId : String
  gen : Nat
  polls : Nat
  answered : Nat
  spent : Nat
  max : Int
  stopped : Bool

structure RefreshPlan where
  amount : String
  hasAllocatedDeposit : Bool

/-- Last-evaluated keys of the reactive rules in `settle`. -/
structure Watched where
  wallet : String
  upgrade : String
  expiry : Option String

/-- The countdown's seconds; `unknown` is the `NaN` of an expiry that is no date. -/
inductive Countdown where
  | secs (n : Int)
  | unknown

structure Model where
  config : MachineConfig
  ctx : Context
  hidden : Bool
  intent : IntentState
  amount : String
  allocationKey : Option String
  awaitingPull : Bool
  isSigningPull : Bool
  pendingIntentSig : Option String
  quoteExpiresIn : Option Countdown
  submittedAt : Option Int
  clientFillMs : Option Int
  notFoundReported : Option String
  seq : Nat
  flights : List QuoteFlight
  sign : Option SignFlow
  poll : Option PollState
  refresh : Option RefreshPlan
  quotedTrade : Option String
  seenDepositAddresses : SeenDepositAddresses
  watched : Watched

def init (config : MachineConfig) (ctx : Context) (hidden : Bool) : Model where
  config := config
  ctx := ctx
  hidden := hidden
  intent := initialIntentState
  amount := ""
  allocationKey := none
  awaitingPull := false
  isSigningPull := false
  pendingIntentSig := none
  quoteExpiresIn := none
  submittedAt := none
  clientFillMs := none
  notFoundReported := none
  seq := 0
  flights := []
  sign := none
  poll := none
  refresh := none
  quotedTrade := none
  seenDepositAddresses := []
  watched := { wallet := "", upgrade := "", expiry := none }

end XochiSdk.Client
