import XochiSdk.Client.State
import XochiSdk.Shared.Chains

/-!
# The checks a served quote meets at ingest

`claimInfo.ts`, `recipientEcho.ts`, `quoteChecks.ts` and `deposit.ts` of
`packages/client/src/machine`: the machine's own gates, and its adapters over the signer's.
-/

namespace XochiSdk.Client

open XochiSdk.Js XochiSdk.Shared XochiSdk.Signer

inductive EchoError where
  | recipient_unconfirmed
  | recipient_mismatch
  deriving DecidableEq

def EchoError.text : EchoError → String
  | recipient_unconfirmed => "recipient_unconfirmed"
  | recipient_mismatch => "recipient_mismatch"

/-- A solvable quote must echo exactly the recipient that was asked for. -/
def recipientEchoError (requested quoted : Option String) : Option EchoError :=
  if !textSet requested then none
  else if !textSet quoted then some .recipient_unconfirmed
  else if requested = quoted then none
  else some .recipient_mismatch

inductive ClaimInfoCode where
  | untrusted_factory
  | unexpected_salt
  deriving DecidableEq

def ClaimInfoCode.text : ClaimInfoCode → String
  | untrusted_factory => "untrusted_factory"
  | unexpected_salt => "unexpected_salt"

structure ClaimInfoRejection where
  code : ClaimInfoCode
  message : String

/-- Why a served `claim_info` cannot be acted on: a factory this build does not ship, a salt
other than the documented one, or nothing at all on a stealth request. -/
def claimInfoError [Host] (claimInfo : Option ClaimInfo) (chainId : Int)
    (requestedSettlement : SettlementType) : Option ClaimInfoRejection :=
  match claimInfo with
  | none =>
    if requestedSettlement ≠ .stealth then none
    else some ⟨.untrusted_factory, "This private quote names no account factory to check"⟩
  | some info =>
    if !isTrustedStealthFactory info.factoryAddress (some chainId) then
      some ⟨.untrusted_factory,
        "This quote settles through an account factory this app does not recognize"⟩
    else if info.salt.isSome && info.salt != some stealthAccountSalt then
      some ⟨.unexpected_salt, "This quote settles to an unexpected account slot"⟩
    else none

/-- The request in the signer's snake_case parameter spelling. -/
def quoteRequestParams (request : QuoteRequest) : Obj :=
  [("wallet", .ofText request.wallet),
    ("from_chain_id", .ofInt request.fromChainId),
    ("to_chain_id", .ofInt request.toChainId),
    ("from_token", .str request.fromToken),
    ("to_token", .str request.toToken),
    ("from_amount", .str request.fromAmount),
    ("swap_kind", .str "exact_input"),
    ("settlement_preference", .str request.settlementPreference.text),
    ("recipient_address", .ofText request.recipientAddress),
    ("refund_address", .ofText request.refundAddress),
    ("stealth_spending_pub_key", .ofText (request.stealthMetaAddress.map (·.spendingPubKey))),
    ("stealth_viewing_pub_key", .ofText (request.stealthMetaAddress.map (·.viewingPubKey)))]

/-- The wire spelling the signer reads. -/
def servedQuote (quote : QuoteResponse) : ServedQuote where
  eip712 := quote.eip712Data
  pull_authorization := quote.pullAuthorization
  escrow := quote.escrow

inductive SignableKind where
  | intent_mismatch
  | pull_mismatch
  deriving DecidableEq

def SignableKind.text : SignableKind → String
  | intent_mismatch => "intent_mismatch"
  | pull_mismatch => "pull_mismatch"

/-- The signer's own message for its mismatch class; anything else is labelled. -/
def refusalReason : SignerError → String
  | .mismatch message => message
  | .quoteMismatch message | .unexpected message => "verification failed unexpectedly: " ++ message

/-- Run both signer checks over a quote that carries an intent to sign. -/
def checkSignableQuote (wall : WallClock) (request : QuoteRequest) (quote : QuoteResponse)
    (pullRecipients : Option PinnedPullRecipients) : Except (SignableKind × String) Unit :=
  match assertIntentMatchesRequest wall.intentCheck (quoteRequestParams request)
      (servedQuote quote) with
  | .error e => .error (.intent_mismatch, refusalReason e)
  | .ok () =>
    match assertPullMatchesIntent wall.pullCheck (servedQuote quote)
        { expectedPullRecipients := pullRecipients
          advertisedPullDeadlineBufferSeconds := .undefined
          expectedEscrows := .undefined } with
    | .error e => .error (.pull_mismatch, refusalReason e)
    | .ok () => .ok ()

inductive DepositRejectionKind where
  | unavailable
  | addressReuse
  deriving DecidableEq

def DepositRejectionKind.text : DepositRejectionKind → String
  | unavailable => "unavailable"
  | addressReuse => "addressReuse"

structure DepositRejection where
  kind : DepositRejectionKind
  reason : String

/-- Map the signer's error classes onto the machine's refusal shape. -/
def depositRefusal : SignerError → DepositRejection
  | .mismatch reason | .quoteMismatch reason => ⟨.unavailable, reason⟩
  | .unexpected reason => ⟨.unavailable, "deposit verification failed unexpectedly: " ++ reason⟩

/-- `SIGNATURE_RE`: the 65-byte form and nothing else. -/
def isSignature (s : String) : Bool := isHexOfLength 130 s

/-- The quote half of the attested message, with the requested amount. -/
def servedDeposit (request : QuoteRequest) (quote : QuoteResponse) : ServedDeposit where
  intent_id := quote.intentId
  quote_id := quote.quoteId
  from_amount := request.fromAmount
  deposit_address := quote.depositAddress
  deposit_deadline := quote.depositDeadline
  to_amount := quote.toAmount
  min_to_amount := quote.minToAmount

/-- What `checkDepositQuote` proves: the attested binding, and the addresses seen. -/
structure VerifiedDeposit where
  stored : StoredDepositAttestation
  seen : SeenDepositAddresses

/-- The checks over the attested fields, in the signer's order. -/
def attestDeposit [Host] (wall : WallClock) (request : QuoteRequest) (quote : QuoteResponse)
    (signer : Option String) : Except SignerError DepositAttestationFields := do
  let params := quoteRequestParams request
  let fields ← depositAttestationFields (servedDeposit request quote) params
  verifyDepositAttestation fields quote.depositAttestation signer
  assertDepositQuoteMatchesRequest wall.depositCheck params fields quote.recipientAddress
    quote.escrow
  pure fields

/-- Verify a served deposit route against the request that produced it; the address is
recorded only after the signature verifies. -/
def checkDepositQuote [Host] (wall : WallClock) (request : QuoteRequest) (quote : QuoteResponse)
    (signer : Option String) (seen : SeenDepositAddresses) :
    Except DepositRejection VerifiedDeposit :=
  if textSet quote.depositAttestation && !isSignature (quote.depositAttestation.getD "") then
    .error ⟨.unavailable, "malformed deposit attestation signature"⟩
  else
    match attestDeposit wall request quote signer with
    | .error e => .error (depositRefusal e)
    | .ok fields =>
      match recordDepositAddress seen fields.deposit_address fields.intent_id with
      | .error (.quoteMismatch reason) => .error ⟨.addressReuse, reason⟩
      | .error e => .error (depositRefusal e)
      | .ok seen => .ok ⟨⟨fields, quote.depositAttestation.getD ""⟩, seen⟩

end XochiSdk.Client
