import XochiSdk.Client.Wire
import XochiSdk.Signer.IntentVerify

/-!
# The solver and payout pins

`packages/client/src/machine/solverPin.ts`: who may collect an origin pull and how much, and
what the intent pays out and to whom, both against values the server does not choose.
-/

namespace XochiSdk.Client

open XochiSdk.Js XochiSdk.Shared XochiSdk.Signer

structure SolverPinConfig where
  /-- Lowercased addresses valid as an ERC-3009 pull `to`. -/
  erc3009Allowlist : List String
  /-- Lowercased addresses valid as a Permit2 `spender`. -/
  permit2Allowlist : List String
  /-- When true, ERC-3009 also requires a pin (Permit2 always does). -/
  requirePin : Bool

inductive SolverPinField where
  | pull_to
  | pull_spender
  | pull_type
  | pull_amount
  | payout_amount
  | payout_recipient
  deriving DecidableEq

def SolverPinField.text : SolverPinField → String
  | pull_to => "pull_to"
  | pull_spender => "pull_spender"
  | pull_type => "pull_type"
  | pull_amount => "pull_amount"
  | payout_amount => "payout_amount"
  | payout_recipient => "payout_recipient"

structure SolverPinRejection where
  field : SolverPinField
  reason : String

/-- A pin's answer: `ok none` when the wallet may sign. The error is the `TypeError` of a
reason that prints a value no conversion reads. -/
abbrev SolverPinResult := Except SignerError (Option SolverPinRejection)

def pinRejected (field : SolverPinField) (reason : String) : SolverPinResult :=
  .ok (some ⟨field, reason⟩)

def erc3009Type : String := "ReceiveWithAuthorization"

def permit2Type : String := "PermitWitnessTransferFrom"

def checkRecipient [Host] (field : SolverPinField) (recipient : Value) (kind : PullKind)
    (allowlist : List String) (config : SolverPinConfig) : SolverPinResult :=
  if allowlist.isEmpty then
    if kind = .erc3009 ∧ config.requirePin = false then .ok none
    else
      pinRejected field <| match kind with
        | .permit2 => "permit2 origin pull requires a pinned spender address"
        | .erc3009 => "solver pin required but no allowlist is configured"
  else
    let allowed :=
      match recipient with
      | .str s => allowlist.contains (Host.toLowerCase s)
      | _ => false
    if allowed then .ok none
    else do
      let shown ← stringOf recipient
      pinRejected field s!"origin-pull {field.text} {shown} is not an allowed solver address"

/-- Bind the pull's collected amount to the intended input. -/
def checkAmount (pull : Eip712TypedData) (expectedAmount : Int) : Option SolverPinRejection :=
  match extractPullAmount pull with
  | none => some ⟨.pull_amount, "origin-pull amount is missing or unparseable"⟩
  | some amount =>
    if amount ≠ expectedAmount then
      some ⟨.pull_amount,
        s!"origin-pull amount {amount} does not match the intended input {expectedAmount}"⟩
    else none

/-- Validate a served origin pull against the solver pin, dispatching on `primaryType`. -/
def validateSolverPin [Host] (pull : Eip712TypedData) (config : SolverPinConfig)
    (expectedAmount : Int) : SolverPinResult :=
  if pull.primaryType = erc3009Type then do
    match ← checkRecipient .pull_to (pull.message.get "to") .erc3009 config.erc3009Allowlist
        config with
    | some rejection => pure (some rejection)
    | none => pure (checkAmount pull expectedAmount)
  else if pull.primaryType = permit2Type then
    let contract := pull.domain.verifyingContract
    let shown := contract.getD "undefined"
    if !sameAddressish (contract.getD "") permit2Address then
      pinRejected .pull_type
        s!"Permit2 pull domain names {shown}, not the canonical Permit2 {permit2Address}"
    else do
      match ← checkRecipient .pull_spender (pull.message.get "spender") .permit2
          config.permit2Allowlist config with
      | some rejection => pure (some rejection)
      | none => pure (checkAmount pull expectedAmount)
  else pinRejected .pull_type s!"unsupported origin-pull authorization type: {pull.primaryType}"

/-- `BigInt(x)` of a text or a number. -/
def readUnits (x : Value) : Option Int :=
  match x with
  | .num n => n.toInteger
  | .str s => bigInt s
  | _ => none

/-- Two smallest-unit amounts by value; verbatim when either does not read. -/
def sameAmount (served : Value) (expected : String) : Bool :=
  match readUnits served, bigInt expected with
  | some a, some b => a == b
  | _, _ => served.text == some expected

/-- Two recipients per address family: `0x` folds case, anything else is verbatim. -/
def sameRecipient [Host] (a b : String) : Bool :=
  if startsWithHex a && startsWithHex b then Host.toLowerCase a == Host.toLowerCase b else a == b

/-- Bind the destination leg of the intent to what the client rendered; `none` when the
wallet may sign. -/
def validatePayoutPin [Host] (intent : Eip712TypedData) (toAmount : String)
    (recipient : Option String) : Option SolverPinRejection :=
  let servedAmount := intent.message.get "toAmount"
  let shown := servedAmount.text.getD ""
  let readable := match servedAmount with
    | .str _ | .num _ => true
    | _ => false
  if !readable then some ⟨.payout_amount, "intent payout amount is missing or unparseable"⟩
  else if !sameAmount servedAmount toAmount then
    some ⟨.payout_amount,
      s!"intent payout {shown} does not match the quoted output {toAmount}"⟩
  else if !textSet recipient then
    some ⟨.payout_recipient, "no expected recipient to check the payout against"⟩
  else
    match intent.message.get "recipient" with
    | .str served =>
      if served == "" then
        some ⟨.payout_recipient, "intent payout recipient is missing or unparseable"⟩
      else if !sameRecipient served (recipient.getD "") then
        some ⟨.payout_recipient,
          s!"intent payout recipient {served} is not the address this quote was for"⟩
      else none
    | _ => some ⟨.payout_recipient, "intent payout recipient is missing or unparseable"⟩

end XochiSdk.Client
