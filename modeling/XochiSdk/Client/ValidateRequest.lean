import XochiSdk.Client.Wire
import XochiSdk.Shared.Chains
import XochiSdk.Shared.Validators

/-!
# Quote request validation

`packages/client/src/machine/validateRequest.ts`. A validator answers its error, `none` when
the value passes; `chain` stops at the first.
-/

namespace XochiSdk.Client

open XochiSdk.Js XochiSdk.Shared

abbrev Validator (α : Type) := α → Option String

/-- The first error of a list of validators. -/
def chain {α : Type} (validators : List (Validator α)) : Validator α := fun value =>
  validators.findSome? fun v => v value

def notEmpty : Validator String := fun s =>
  if s != "" && trim s != "" then none else some "Required"

def hexPrefixed : Validator String := fun s =>
  if startsWithHex s then none else some "Must start with 0x"

def hasCorrectLength : Validator String := fun s =>
  if utf16Length s == ethAddressLength then none
  else some s!"Must be {ethAddressLength} characters"

def hasValidHexChars : Validator String := fun s =>
  if isEthAddress s then none else some "Contains invalid characters"

def notEqual (forbidden message : String) : Validator String := fun s =>
  if s != forbidden then none else some message

def validateAddress : Validator String :=
  chain [notEmpty, hexPrefixed, hasCorrectLength, hasValidHexChars,
    notEqual zeroAddress "Zero address is not allowed"]

def validateTokenAddress : Validator String :=
  chain [validateAddress, notEqual zeroAddress "Use wrapped token address (WETH)"]

def validateWallet (wallet : Option String) : List String :=
  match wallet with
  | none | some "" => ["Wallet is required"]
  | some wallet =>
    match validateAddress wallet with
    | none => []
    | some error => [s!"Wallet: {error}"]

/-- A chain the client knows, EVM or Tron. -/
def validateChain (message : String) (chainId : Int) : List String :=
  if !isChainId chainId && !isTronChainId chainId then [message] else []

def validateFromChain (chainId : Int) : List String := validateChain "Invalid source chain" chainId

def validateToChain (chainId : Int) : List String :=
  validateChain "Invalid destination chain" chainId

/-- A token address: EVM, or a Tron TRC-20 contract. -/
def validateToken [Host] (label token : String) : List String :=
  if token == "" then [s!"{label} token is required"]
  else
    match validateTokenAddress token with
    | none => []
    | some error => if isValidTronAddress token then [] else [s!"{label} token: {error}"]

def validateFromToken [Host] (token : String) : List String := validateToken "Source" token

def validateToToken [Host] (token : String) : List String := validateToken "Destination" token

def validateFromAmount (amount : String) : List String :=
  if amount == "" then ["Amount is required"]
  else
    match bigInt amount with
    | none => ["Invalid amount format"]
    | some n => if n > 0 then [] else ["Amount must be greater than 0"]

def maxDeadlineOffsetSec : Int := 3600

def validateDeadline (deadline nowMs : Int) : List String :=
  let now := nowMs / 1000
  if deadline ≤ now then ["Deadline must be in the future"]
  else if deadline > now + maxDeadlineOffsetSec then ["Deadline cannot exceed 1 hour"]
  else []

def maxSlippageBps : ℚ := 5000

def validateSlippageBps (bps : ℚ) : List String :=
  if bps < 1 then ["Slippage must be at least 0.01%"]
  else if bps > maxSlippageBps then ["Slippage cannot exceed 50%"]
  else []

def maxQuoteCodeLength : Nat := 64

def validateCode (code : Option String) (name : String) : List String :=
  match code with
  | none => []
  | some code =>
    if utf16Length code ≤ maxQuoteCodeLength then []
    else [s!"Invalid {name} code: at most {maxQuoteCodeLength} characters"]

def validateSameToken [Host] (p : QuoteRequest) : List String :=
  if p.fromToken != "" && p.toToken != "" && p.fromChainId == p.toChainId
      && Host.toLowerCase p.fromToken == Host.toLowerCase p.toToken then
    ["Cannot swap token to itself"]
  else []

/-- Every reason a request is not sendable, judged at `nowMs`. The settlement preference is
of the closed vocabulary by its type. -/
def validateSwapParams [Host] (params : QuoteRequest) (nowMs : Int) : List String :=
  (if params.preview then [] else validateWallet params.wallet)
    ++ validateFromChain params.fromChainId
    ++ validateToChain params.toChainId
    ++ validateFromToken params.fromToken
    ++ validateToToken params.toToken
    ++ validateFromAmount params.fromAmount
    ++ validateDeadline params.deadline nowMs
    ++ validateSlippageBps params.slippageBps
    ++ validateSameToken params
    ++ validateCode params.ref "referral"
    ++ validateCode params.promo "promo"

end XochiSdk.Client
