import XochiSdk.Client.State
import XochiSdk.Js.Host
import XochiSdk.Js.Search

/-!
# What went wrong with a trade

`packages/client/src/machine/failure.ts`: a served or thrown error, read into one typed kind.
The declined quote's category decides first, then the HTTP code, then the prose. `parseJson`
is `JSON.parse`, `none` where it throws; every result is for all of them.
-/

namespace XochiSdk.Client

open XochiSdk.Js XochiSdk.Shared

/-- The kinds of failure, with the served words a host shows. -/
inductive FailureDetail where
  | auth
  | in_doubt
  | no_liquidity
  | wallet_rejected
  | insufficient_funds
  | network
  | busy
  | pricing_unavailable
  | solver_timeout
  | request_rejected (field : Option String)
  | quote_expired
  | token_unresolved
  | pair_unsupported (advice : String)
  | route_unsupported
  | settlement_unavailable
  | amount_too_large (limit : String)
  | amount_too_small (advice : Option String)
  | slippage
  | rate_limited
  | verification_unavailable
  | http (status : JsNumber)
  | declined (message : String)
  | unrecognized (message : String)

/-- A failure, and whether asking again can succeed. -/
structure Failure where
  detail : FailureDetail
  retryable : Bool

def pairDeclineMarker : String := "pick a different pair"

/-- Categories that are transient saturation. -/
def busyCategories : List String :=
  ["gas_floor_unpriced", "inventory_unverified", "quote_holds_exhausted",
    "idempotency_key_in_flight", "idempotency_unavailable"]

def notRetryableStatuses : List ℚ := [400, 403, 404]

def retryableOf : FailureDetail → Bool
  | .in_doubt | .insufficient_funds | .request_rejected _ | .pair_unsupported _
  | .route_unsupported | .settlement_unavailable | .amount_too_large _ | .amount_too_small _
  | .declined _ => false
  | .http status => !notRetryableStatuses.any fun n => status.value == some n
  | _ => true

def failure (detail : FailureDetail) : Failure := ⟨detail, retryableOf detail⟩

def byStatus (status : JsNumber) : FailureDetail :=
  if status.value = some 401 then .auth
  else if status.value = some 429 then .rate_limited
  else .http status

/-- The text after `HTTP 503:` at the head of a message. -/
def bodyOf503 (message : String) : Option String :=
  match (afterLiteralFolded "http 503:" (skipSpace message.toList)).map skipSpace with
  | none | some [] => none
  | some rest => some (String.ofList rest)

/-- The 503 body can name a more precise transient cause; any other reads as the plain 503. -/
def structured503 (parseJson : String → Option Value) (message : String) : Option FailureDetail :=
  match (bodyOf503 message).bind parseJson with
  | some (.obj body) =>
    if (Obj.get body "error_category").strictEq (.str "conversion_unavailable") then
      some .pricing_unavailable
    else if (Obj.get body "detail").strictEq (.str "request timed out") then some .solver_timeout
    else none
  | _ => none

section

variable [Host]

def pairDecline (message : String) : Option FailureDetail :=
  if includes (Host.toLowerCase message) pairDeclineMarker then
    some (.pair_unsupported (trim (withoutLeadingSentence "that pair is not supported" message)))
  else none

/-- The field a raw `validation_failed` reason names. -/
def rejectedField (message : String) : Option String :=
  if includes (Host.toLowerCase message) "validation_failed" then
    textOrNone (some (trim (withoutLeadingLabel "request validation failed"
      (withoutLeadingLabel "validation_failed" message))))
  else none

/-- The cap sentence, minus the advice the kind already implies. -/
def limitOf (message : String) : String := withoutClosingSentence "try a smaller amount" message

/-- The served minimum advice, minus a leading restatement of the kind. -/
def minimumAdviceOf (message : String) : Option String :=
  textOrNone (some (trim (withoutLeadingSentence "amount too small" message)))

end

/-- `re-?submit` at the head. -/
def startsResubmit (cs : List Char) : Bool :=
  "resubmit".toList.isPrefixOf cs || "re-submit".toList.isPrefixOf cs

/-- `\s+re-?submit` at the head. -/
def startsGapResubmit : List Char → Bool
  | [] => false
  | c :: rest => isWhiteSpace c && startsResubmit (skipSpace rest)

/-- `do(?:n't| not)\s+re-?submit` at the head. -/
def startsDoNotResubmit (cs : List Char) : Bool :=
  ["don't", "do not"].any fun negation =>
    match afterLiteral negation cs with
    | none => false
    | some rest => startsGapResubmit rest

/-- `/do(?:n't| not)\s+re-?submit/.test(lower)`. -/
def saysDoNotResubmit (lower : String) : Bool := searchChars startsDoNotResubmit lower.toList

/-- The words of a refused credential. -/
def credentialWords : List String :=
  ["unauthorized", "authentication required", "authorization failed", "invalid or expired token",
    "http 401"]

def includesAny (lower : String) (words : List String) : Bool := words.any (includes lower)

section

variable [Host]

/-- The prose rules, in their order. -/
def byMessage (error : String) : FailureDetail :=
  let lower := Host.toLowerCase error
  if includesAny lower credentialWords then .auth
  else if saysDoNotResubmit lower then .in_doubt
  else if includesAny lower ["liquidity", "no route"] then .no_liquidity
  else if includesAny lower ["rejected", "denied", "cancelled"] then .wallet_rejected
  else if includesAny lower ["insufficient", "not enough"] then .insufficient_funds
  else if includesAny lower ["network", "connection", "timeout", "load failed", "fetch"] then
    .network
  else if includesAny lower ["temporarily unavailable", "service unavailable", "http 503"] then
    .busy
  else if includesAny lower ["validation_failed", "invalid_request",
      "could not accept this request"] && !includes lower "expired" then
    .request_rejected (rejectedField error)
  else if includesAny lower ["expired", "quote"] then .quote_expired
  else if includesAny lower ["unsupported_origin_token", "unsupported_destination_token"] then
    .token_unresolved
  else
    match pairDecline error with
    | some pair => pair
    | none =>
      if includesAny lower ["unsupported", "not supported"] then .route_unsupported
      else if includes lower "above the maximum" then .amount_too_large (limitOf error)
      else if includesAny lower ["unprofitable", "below min", "minimum", "too small"] then
        .amount_too_small (minimumAdviceOf error)
      else if includes lower "slippage" then .slippage
      else if includesAny lower ["rate", "too many"] then .rate_limited
      else if includesAny lower ["proof", "verification unavailable"] then
        .verification_unavailable
      else .unrecognized error

/-- What a declined quote's category says of it. -/
def byCategory (category message : String) : Failure :=
  if busyCategories.contains category then failure .busy
  else
    match category with
    | "conversion_unavailable" => failure .pricing_unavailable
    | "no_liquidity" => failure .no_liquidity
    | "auth" => failure .auth
    | "settlement_type_unavailable" => failure .settlement_unavailable
    | "invalid_request" => failure (.request_rejected (rejectedField message))
    | "amount_too_large" => failure (.amount_too_large (limitOf message))
    | "amount_too_small" => failure (.amount_too_small (minimumAdviceOf message))
    | "route_unsupported" => failure ((pairDecline message).getD .route_unsupported)
    | "unknown" =>
      -- The prose may still carry a known cause; unrecognized prose stays final.
      match byMessage message with
      | .unrecognized _ => failure (.declined message)
      | detail => failure detail
    | _ => failure (.declined message)

/-- The served or thrown words of an error. -/
def ErrorValue.message : ErrorValue → String
  | .text message => message
  | .structured error => error.message

omit [Host] in
@[simp] theorem ErrorValue.message_text (message : String) :
    (ErrorValue.text message).message = message := rfl

/-- The HTTP code of an error, where it carries one: zero and `NaN` are none. -/
def ErrorValue.httpCode : ErrorValue → Option JsNumber
  | .text _ => none
  | .structured error => error.code.filter fun code => (Value.num code).truthy

omit [Host] in
@[simp] theorem ErrorValue.httpCode_text (message : String) :
    (ErrorValue.text message).httpCode = none := rfl

variable (parseJson : String → Option Value)

/-- One failure, typed. -/
def classifyFailure (error : ErrorValue) (errorCategory : Option String) : Failure :=
  if textSet errorCategory then byCategory (errorCategory.getD "") error.message
  else
    match error.httpCode with
    | some code =>
      if code.value = some 503 then
        failure ((structured503 parseJson error.message).getD .busy)
      else failure (byStatus code)
    | none => failure (byMessage error.message)

inductive SettlementFallback where
  | route_unsupported
  | request_rejected
  deriving DecidableEq

/-- The switch a failure's kind offers. -/
def switchOf : FailureDetail → Option SettlementFallback
  | .route_unsupported | .pair_unsupported _ | .token_unresolved | .settlement_unavailable =>
    some .route_unsupported
  | .request_rejected _ => some .request_rejected
  | _ => none

/-- `!error` of a text or a structured error. -/
def ErrorValue.isEmpty : ErrorValue → Bool
  | .text message => message == ""
  | .structured _ => false

/-- Why a failed non-public trade should offer the switch to Public. -/
def settlementFallback (settlement : SettlementType) (status : IntentStatus)
    (error : Option ErrorValue) (errorCategory : Option String) : Option SettlementFallback :=
  if settlement = .public ∨ status ≠ .failed then none
  else
    match error with
    | none => none
    | some error =>
      if error.isEmpty then none
      else
        -- The served reason alone, whatever its HTTP code.
        switchOf (classifyFailure parseJson (.text error.message) errorCategory).detail

end

end XochiSdk.Client
