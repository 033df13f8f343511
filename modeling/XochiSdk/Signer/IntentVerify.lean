import XochiSdk.Js.Host
import XochiSdk.Shared.Eip712
import XochiSdk.Signer.Compare

/-!
# The intent and pull checks

`packages/signer/src/intent-verify.ts` and the escrow pin it reads (`escrow-pin.ts`): the
values of a served XochiIntent held to the caller's request, and its origin pull held to
that intent. Message members are `unknown` off the wire, so each is read through the
language's conversions exactly where the source reads it.
-/

namespace XochiSdk.Signer

open XochiSdk.Js XochiSdk.Shared

/-- The wire members of a quote that the checks read. -/
structure ServedQuote where
  eip712 : Option Eip712TypedData
  pull_authorization : Option Eip712TypedData
  escrow : Value

def refuse {α : Type} (message : String) : Except SignerError α := .error (.mismatch message)

def refuseIf (bad : Bool) (message : String) : Except SignerError Unit :=
  if bad then refuse message else .ok ()

@[simp] theorem refuseIf_ok {bad : Bool} {message : String} :
    refuseIf bad message = .ok () ↔ bad = false := by
  cases bad <;> simp [refuseIf, refuse]

theorem bind_ok {ε α β : Type} {x : Except ε α} {f : α → Except ε β} {b : β} :
    (x >>= f) = .ok b ↔ ∃ a, x = .ok a ∧ f a = .ok b := by
  cases x <;> simp [bind, Except.bind]

/-! ## The escrow envelope -/

def assertNoEscrowEnvelope (escrow : Value) : Except SignerError Unit :=
  if escrow.isNullish then .ok ()
  else
    let orderId := (escrow.member "order_id").orElse (escrow.member "orderId")
    let named := if orderId.truthy then " (order_id " ++ jsonShown orderId ++ ")" else ""
    refuse <| "quote carries an escrow envelope" ++ named ++ ", and this " ++
      "SDK does not run the escrow binding (SPEC.md §2.3: recompute orderId and destCommitment, held to a " ++
      "caller-pinned escrow for the origin chain). Without it the pull's orderId -- which decides who the " ++
      "escrow pays -- is unchecked, and a recipient pin naming the escrow address does not bind it. " ++
      "Refusing to sign."

/-! ## The wall-clock bound -/

def maxIntentDeadlineAheadOfNowSeconds : Int := 3600

/-- A coarse human span for error messages. -/
def humanSpan (seconds : Int) : String :=
  let s := seconds.natAbs
  if s < 120 then toString s ++ "s"
  else if s < 7200 then toString (s / 60) ++ " minutes"
  else if s < 172800 then toString (s / 3600) ++ " hours"
  else if s < 63072000 then toString (s / 86400) ++ " days"
  else toString (s / 31536000) ++ " years"

/-- Bounds a served intent deadline against the local wall clock; no lower bound, and an
absent deadline passes (it cannot be encoded, so it cannot be signed). -/
def assertDeadlineWithinWallClockBound (wall : TimeValue) (deadline : Value) :
    Except SignerError Unit :=
  if deadline.isNullish then .ok ()
  else
    match deadline.asBigInt with
    | none =>
      refuse <| "intent deadline " ++ jsonShown deadline ++ " is not an integer unix timestamp -- " ++
        "cannot bound how long this signature stays live. Refusing to sign."
    | some value =>
      let now := wall.secs
      let ahead := value - now
      refuseIf (ahead > maxIntentDeadlineAheadOfNowSeconds) <|
        s!"intent deadline {value} is {humanSpan ahead} ahead of now ({now}), past the " ++
          s!"{maxIntentDeadlineAheadOfNowSeconds}s ceiling -- a quote lives ~5 minutes, and this " ++
          "signature would stay spendable for that whole span. Refusing to sign. " ++
          "(If the quote is honest, check the local clock: a clock running slow rejects good quotes.)"

/-! ## The intent against the request -/

def intentMismatch (field : String) (got want : Value) : String :=
  s!"intent {field} is {jsonShown got} but {jsonShown want} was requested -- " ++
    "the server is asking for a signature over different terms. Refusing to sign."

/-- An address-like member of the intent against the value it must name. -/
def checkIntentAddress (message : Obj) (field : String) (want : Value) :
    Except SignerError Unit := do
  let got ← stringOf ((message.get field).orElse (.str ""))
  let wanted ← stringOf want
  refuseIf (!sameAddressish got wanted) (intentMismatch field (message.get field) want)

/-- A member checked only where the caller supplied the value. -/
def whenSupplied (want : Value) (check : Except SignerError Unit) : Except SignerError Unit :=
  if want.isNullish then .ok () else check

/-- A numeric member of the intent against the value the caller supplied, if any. -/
def checkIntentNumber (message : Obj) (field : String) (want : Value) :
    Except SignerError Unit :=
  whenSupplied want <|
    refuseIf (!sameNumeric (message.get field) want) (intentMismatch field (message.get field) want)

/-- The caller's ceiling on an origin amount the server chose. -/
def assertFromAmountWithinMax (params : Obj) (fromAmount : Value) (label : String) :
    Except SignerError Unit :=
  let max := pick params "max_from_amount" "maxFromAmount"
  if max.isNullish then
    refuse <| s!"swap_kind=exact_output requires max_from_amount: the server chooses {label} from_amount " ++
      s!"(got {jsonShown fromAmount}) and without a ceiling there is nothing to hold it to. " ++
      "Pass the most origin base units you are willing to spend."
  else
    match fromAmount.asBigInt, max.asBigInt with
    | some got, some ceiling =>
      refuseIf (got > ceiling) <|
        s!"{label} from_amount {got} exceeds max_from_amount {ceiling} -- the server priced this " ++
          "exact_output swap above the ceiling you set. Refusing to proceed."
    | _, _ =>
      refuse <| s!"cannot compare {label} from_amount {jsonShown fromAmount} against " ++
        s!"max_from_amount {jsonShown max} -- both must be integer base units. Refusing to proceed."

/-- The amount the caller chose: the input, or on `exact_output` the output and a ceiling on
the input. -/
def checkIntentAmount (params : Obj) (message : Obj) : Except SignerError Unit :=
  let swapKind := (pick params "swap_kind" "swapKind").orElse (.str "exact_input")
  if swapKind.strictEq (.str "exact_output") then do
    checkIntentNumber message "toAmount" (pick params "output_amount" "outputAmount")
    assertFromAmountWithinMax params (message.get "fromAmount") "intent"
  else checkIntentNumber message "fromAmount" (pick params "from_amount" "fromAmount")

/-- Asserts the intent the server wants signed is the one that was requested. -/
def assertIntentMatchesRequest (wall : TimeValue) (params : Obj) (quote : ServedQuote) :
    Except SignerError Unit :=
  match quote.eip712 with
  | none => refuse "quote has no eip712.message to verify before signing"
  | some eip712 => do
    let message := eip712.message
    let wallet := params.get "wallet"
    if wallet.truthy then checkIntentAddress message "wallet" wallet
    checkIntentNumber message "fromChainId" (pick params "from_chain_id" "fromChainId")
    checkIntentNumber message "toChainId" (pick params "to_chain_id" "toChainId")
    let fromToken := pick params "from_token" "fromToken"
    whenSupplied fromToken (checkIntentAddress message "fromToken" fromToken)
    let toToken := pick params "to_token" "toToken"
    whenSupplied toToken (checkIntentAddress message "toToken" toToken)
    let wantRecipient := (pick params "recipient_address" "recipientAddress").orElse wallet
    whenSupplied wantRecipient (checkIntentAddress message "recipient" wantRecipient)
    let settlement :=
      (pick params "settlement_preference" "settlementPreference").orElse (.str "public")
    refuseIf (!(message.get "settlementPreference").strictEq settlement)
      (intentMismatch "settlementPreference" (message.get "settlementPreference") settlement)
    assertDeadlineWithinWallClockBound wall (message.get "deadline")
    checkIntentAmount params message

/-! ## The origin pull against the intent -/

def maxPullExpiryAfterIntentSeconds : Int := 3600

/-- The tighter of the solver's advertised buffer and the local ceiling. -/
def pullExpiryBoundSeconds (advertised : Value) : Int :=
  match advertised with
  | .num n =>
    match n.toInteger with
    | some seconds =>
      if seconds < 0 then maxPullExpiryAfterIntentSeconds
      else min seconds maxPullExpiryAfterIntentSeconds
    | none => maxPullExpiryAfterIntentSeconds
  | _ => maxPullExpiryAfterIntentSeconds

inductive PullKind where
  | erc3009
  | permit2
  deriving DecidableEq, Repr

namespace PullKind

def text : PullKind → String
  | erc3009 => "erc3009"
  | permit2 => "permit2"

/-- The member that names who may collect. -/
def recipientField : PullKind → String
  | erc3009 => "to"
  | permit2 => "spender"

end PullKind

/-- Which of the two pull dialects a signable is, by its type list. -/
def pullKind (pull : Eip712TypedData) : Except SignerError PullKind :=
  if (pull.types.lookup "ReceiveWithAuthorization").isSome then .ok .erc3009
  else if (pull.types.lookup "PermitWitnessTransferFrom").isSome then .ok .permit2
  else
    let names := ", ".intercalate (pull.types.map Prod.fst)
    let named := if names == "" then "none" else names
    refuse <| "pull_authorization is neither an ERC-3009 ReceiveWithAuthorization nor a Permit2 " ++
      s!"PermitWitnessTransferFrom (types: {named}) -- " ++
      "refusing to treat an unknown struct as an origin pull."

/-- One entry of a pin: per chain and per method, one value or several. -/
structure MethodPin where
  erc3009 : Value
  permit2 : Value

def MethodPin.forKind (pin : MethodPin) : PullKind → Value
  | .erc3009 => pin.erc3009
  | .permit2 => pin.permit2

abbrev PinnedPullRecipients := List (Int × MethodPin)

/-- The chain a pin is keyed on, from the intent and only from the intent. -/
def requireIntentChainId (intent : Obj) (what : String) : Except SignerError Int :=
  let stated := intent.get "fromChainId"
  if stated.isNullish then
    refuse <| s!"{what} were pinned, but the intent states no fromChainId to key them on -- the pull's " ++
      "own domain cannot stand in for it, because that is the value under the server's control. " ++
      "Refusing to sign."
  else
    match stated.toNumber.toInteger with
    | some chainId =>
      if chainId ≤ 0 then refuse (notAChainId stated) else .ok chainId
    | none => refuse (notAChainId stated)
where
  notAChainId (stated : Value) : String :=
    s!"{what} were pinned, but the intent's fromChainId {jsonShown stated} " ++
      "is not a positive integer chain id, so the pin cannot be looked up. Refusing to sign."

/-- One value of a pin: trimmed text, never blank. -/
def readPinEntry (kind : PullKind) (noun : String) (chainId : Int) (entry : Value) :
    Except SignerError String :=
  match entry with
  | .str s =>
    let value := trim s
    if value == "" then
      refuse <| s!"the pinned {kind.text} {noun} for chain {chainId} is empty -- a blank pin is a misconfiguration, " ++
        "not an instruction to skip the check. Refusing to sign."
    else .ok value
  | other =>
    refuse <| s!"the pinned {kind.text} {noun} for chain {chainId} lists {jsonShown other}, which is " ++
      "not an address. Refusing to sign rather than compare against a value that cannot match."

/-- The pinned values for this pull's chain and method; `none` where the caller pinned
nothing for the chain. A pinned chain without the method in use refuses. -/
def pinnedFor (intent : Obj) (kind : PullKind) (pinned : Option (List (Int × MethodPin)))
    (plural noun : String) : Except SignerError (Option (List String)) :=
  match pinned with
  | none => .ok none
  | some [] =>
    refuse <| s!"{plural} were pinned as an empty object, naming no chain at all -- a blank pin is a " ++
      "misconfiguration, not an instruction to skip the check. Refusing to sign."
  | some pins => do
    let chainId ← requireIntentChainId intent plural
    match pins.lookup chainId with
    | none => pure none
    | some forChain =>
      let raw := forChain.forKind kind
      if raw.isNullish then
        let other := match kind with
          | .erc3009 => PullKind.permit2
          | .permit2 => PullKind.erc3009
        refuse <| s!"chain {chainId} is pinned but names no {kind.text} {noun}, and this pull is {kind.text}-shaped -- " ++
          "the method comes from the server's own pull.types, so accepting it unchecked would let the " ++
          s!"server serve {kind.text} to dodge your {other.text} pin. Pin both methods for a chain you pin at all, " ++
          "or drop the chain. Refusing to sign."
      else
        let listed := match raw with
          | .arr xs => xs
          | x => [x]
        if listed.isEmpty then
          refuse <| s!"the pinned {kind.text} {noun} for chain {chainId} is an empty list, accepting nothing -- a " ++
            "blank pin is a misconfiguration, not an instruction to skip the check. Refusing to sign."
        else
          let accepted ← listed.mapM (readPinEntry kind noun chainId)
          pure (some accepted)

/-- Whether a served address matches a pin. -/
def pinAccepts (accepted : List String) (served : String) : Bool :=
  accepted.any fun value => sameAddressish served value

/-- A pin in an error message: one value bare, several as a list. -/
def describePin (accepted : List String) : String :=
  match accepted.map jsonString with
  | [one] => one
  | quoted => "any of [" ++ ", ".intercalate quoted ++ "]"

/-- What the caller pinned, and what its solver advertised. -/
structure AssertPullOptions where
  expectedPullRecipients : Option PinnedPullRecipients
  advertisedPullDeadlineBufferSeconds : Value
  expectedEscrows : Value

/-- The chain an escrow pin's key names (`CHAIN_KEY`). -/
def chainIdOfKey (key : String) : Option Int :=
  let trimmed := trim key
  if isDecimal trimmed || isHexText trimmed then
    (bigInt trimmed).bind fun id => if id > 0 then some id else none
  else none

/-- One value of an escrow pin: a trimmed, nonzero EVM address. -/
def readPinnedEscrow (chain : Int) (value : Value) : Except String String :=
  match value with
  | .str s =>
    let v := trim s
    if isHexOfLength 40 v && !(v.toList.drop 2).all (· == '0') then .ok v
    else .error (notAnAddress value)
  | _ => .error (notAnAddress value)
where
  notAnAddress (value : Value) : String :=
    s!"pinned escrow for origin chain {chain} is not a non-zero EVM address: {jsonShown value}"

/-- The values of an escrow pin's keys that name the chain; a key that names none refuses
the whole pin. -/
def pinnedEscrowValues (chain : Int) : List (String × Value) → Except String (List Value)
  | [] => .ok []
  | (key, value) :: rest =>
    match chainIdOfKey key with
    | none =>
      .error s!"expectedEscrows key {jsonString key} is not a positive chain id (decimal or 0x hex)"
    | some id => do
      let values ← pinnedEscrowValues chain rest
      pure (if id == chain then value :: values else values)

/-- The escrow pinned for a chain, `none` when no key names it. -/
def resolvePinnedEscrow (pin : List (String × Value)) (chain : Int) :
    Except String (Option String) := do
  let values ← pinnedEscrowValues chain pin
  let trimmed ← values.mapM (readPinnedEscrow chain)
  match trimmed with
  | [] => pure none
  | first :: _ =>
    if trimmed.any fun v => asciiLower v != asciiLower first then
      .error (s!"expectedEscrows names origin chain {chain} under {values.length} keys with different " ++
        s!"escrows ({jsonShown (.arr values)}); refusing to pick one")
    else pure (some first)

/-- A pull whose recipient is the escrow the caller pinned for its origin chain is refused. -/
def assertPullNotToPinnedEscrow (intent : Obj) (kind : PullKind) (m : Obj) (pins : Value) :
    Except SignerError Unit :=
  if pins.isNullish then .ok ()
  else
    match pins with
    | .obj entries => do
      let chainKey ← requireIntentChainId intent "expectedEscrows"
      match resolvePinnedEscrow entries chainKey with
      | .error message =>
        refuse <| message ++ " -- the escrow pin cannot be compared against. Refusing to sign."
      | .ok none => pure ()
      | .ok (some pinned) =>
        let served := m.get kind.recipientField
        if served.isNullish then pure ()
        else
          let shown ← stringOf served
          refuseIf (sameAddressish shown pinned) <|
            s!"pull_authorization {kind.recipientField} is the escrow you pinned for chain " ++
              s!"{chainKey} ({pinned}), so this pull is escrow-bearing even though the quote carries no usable " ++
              "escrow envelope, and this SDK does not run the escrow binding (SPEC.md §2.3, §6). Refusing to sign."
    | other =>
      refuse <| "expectedEscrows must map origin chain ids to escrow addresses, got " ++
        jsonShown other ++ ". Refusing to sign."

def permit2Address : String := "0x000000000022D473030F116dDEE9F6B43aC78BA3"

def pullMismatch (what : String) (got want : Value) : String :=
  s!"pull_authorization {what} is {jsonShown got} but the intent says {jsonShown want} -- " ++
    "refusing to sign an authorization that does not move this intent's funds."

/-- The amount the pull moves, read by its kind. -/
def pulledAmount (kind : PullKind) (m : Obj) : Value :=
  match kind with
  | .erc3009 => m.get "value"
  | .permit2 => (m.get "permitted").member "amount"

/-- Equal to the intent's amount, where both state one. -/
def checkPulledAmount (intent : Obj) (pulled : Value) : Except SignerError Unit :=
  let intentAmount := intent.get "fromAmount"
  if !intentAmount.isUndefined && !pulled.isUndefined && !sameNumeric pulled intentAmount then do
    let moves ← stringOf pulled
    let settles ← stringOf intentAmount
    refuse <| s!"pull_authorization moves {moves} but the intent settles {settles} -- " ++
      "refusing to sign an authorization for an amount the intent does not account for."
  else .ok ()

/-- The token the pull drains: an ERC-3009 domain's contract, a Permit2 `permitted.token`. -/
def checkPulledToken (intent : Obj) (kind : PullKind) (pull : Eip712TypedData) :
    Except SignerError Unit :=
  let intentToken := intent.get "fromToken"
  if intentToken.isUndefined then .ok ()
  else
    match kind with
    | .erc3009 => do
      let want ← stringOf intentToken
      refuseIf (!sameAddressish (pull.domain.verifyingContract.getD "") want) <|
        pullMismatch "domain.verifyingContract (the token being pulled)"
          (.ofText pull.domain.verifyingContract) intentToken
    | .permit2 => do
      let token := (pull.message.get "permitted").member "token"
      let got ← stringOf (token.orElse (.str ""))
      let want ← stringOf intentToken
      refuseIf (!sameAddressish got want) (pullMismatch "permitted.token" token intentToken)

/-- Who collects, held to the caller's pin where one applies. -/
def checkPulledRecipient (intent : Obj) (kind : PullKind) (pull : Eip712TypedData)
    (pinned : Option PinnedPullRecipients) : Except SignerError Unit := do
  match ← pinnedFor intent kind pinned "pull recipients" "recipient" with
  | none => pure ()
  | some accepted =>
    let field := kind.recipientField
    let served := pull.message.get field
    let chain := (intent.get "fromChainId").orElse (.num pull.domain.chainId)
    if served.isNullish then
      let shown ← stringOf chain
      refuse <| s!"pull_authorization names no {field}, but one was pinned for " ++
        s!"chain {shown} -- refusing to sign an authorization whose " ++
        "recipient cannot be checked."
    else
      let name ← stringOf served
      if pinAccepts accepted name then pure ()
      else
        let what := match kind with
          | .erc3009 => "this is the address your origin funds are paid to"
          | .permit2 =>
            "this is the address authorised to pull your origin funds (it chooses the destination itself)"
        let shown ← stringOf chain
        refuse <| s!"pull_authorization {field} is {jsonShown served} but " ++
          s!"{describePin accepted} was pinned for {kind.text} on chain " ++
          s!"{shown} -- {what}. Refusing to sign."

/-- The member a pull expires at. -/
def pullExpiry (kind : PullKind) (m : Obj) : Value :=
  match kind with
  | .erc3009 => m.get "validBefore"
  | .permit2 => m.get "deadline"

/-- A pull may not outlive the intent by more than the bound. -/
def checkPullExpiry (intent : Obj) (kind : PullKind) (m : Obj) (advertised : Value) :
    Except SignerError Unit :=
  let expiry := pullExpiry kind m
  let deadline := intent.get "deadline"
  if expiry.isUndefined || deadline.isUndefined then .ok ()
  else
    let bound := pullExpiryBoundSeconds advertised
    match deadline.asBigInt, expiry.asBigInt with
    | some d, some e =>
      let source :=
        if bound == maxPullExpiryAfterIntentSeconds then s!"{bound}s (this SDK's ceiling)"
        else s!"{bound}s (the solver's advertised pull_deadline_buffer_seconds, tighter than " ++
          s!"this SDK's {maxPullExpiryAfterIntentSeconds}s ceiling)"
      refuseIf (e > d + bound) <|
        s!"pull_authorization expires at {(expiry.text).getD default}, more than {source} after the intent deadline " ++
          s!"{(deadline.text).getD default} -- refusing to sign an authorization that outlives the quote."
    | _, _ =>
      refuse <| s!"pull_authorization expiry {jsonShown expiry} or intent deadline " ++
        s!"{jsonShown deadline} is not an integer timestamp -- cannot bound the " ++
        "authorization's lifetime. Refusing to sign."

/-- Asserts the origin pull moves the intent's funds, on the intent's chain, in its token,
to a pinned recipient, for no longer than the intent lives. -/
def assertPullMatchesIntent (wall : TimeValue) (quote : ServedQuote) (opts : AssertPullOptions) :
    Except SignerError Unit := do
  assertNoEscrowEnvelope quote.escrow
  match quote.pull_authorization, quote.eip712 with
  | none, _ => pure ()
  | some _, none =>
    refuse <| "quote carries a pull_authorization but no eip712.message to anchor it to -- " ++
      "there is nothing to check the pull against. Refusing to sign."
  | some pull, some eip712 =>
    let intent := eip712.message
    let kind ← pullKind pull
    checkPulledAmount intent (pulledAmount kind pull.message)
    refuseIf (!sameNumeric (.num pull.domain.chainId) (intent.get "fromChainId"))
      (pullMismatch "domain.chainId" (.num pull.domain.chainId) (intent.get "fromChainId"))
    checkPulledToken intent kind pull
    refuseIf (kind == .permit2 &&
        !sameAddressish (pull.domain.verifyingContract.getD "") permit2Address) <|
      s!"pull_authorization domain.verifyingContract is {jsonShown (.ofText pull.domain.verifyingContract)} but " ++
        s!"Permit2 is {permit2Address} on every EVM chain -- refusing to sign a Permit2-shaped " ++
        "authorization aimed at some other contract."
    assertPullNotToPinnedEscrow intent kind pull.message opts.expectedEscrows
    checkPulledRecipient intent kind pull opts.expectedPullRecipients
    assertDeadlineWithinWallClockBound wall (intent.get "deadline")
    checkPullExpiry intent kind pull.message opts.advertisedPullDeadlineBufferSeconds

end XochiSdk.Signer
