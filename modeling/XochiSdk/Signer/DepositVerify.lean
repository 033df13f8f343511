import XochiSdk.Signer.IntentVerify

/-!
# Deposit attestations

`packages/signer/src/deposit-verify.ts`: the signed message rebuilt from the request and the
quote, its recovery against the pinned signer, and the checks over the attested fields.
-/

namespace XochiSdk.Signer

open XochiSdk.Js XochiSdk.Shared

/-- The fields the attestation is signed over, in signing order. -/
structure DepositAttestationFields where
  intent_id : String
  quote_id : String
  wallet : String
  from_chain_id : JsNumber
  from_token : String
  from_amount : String
  deposit_address : String
  deposit_deadline : Option Int
  refund_address : Option String
  to_chain_id : JsNumber
  to_token : String
  to_amount : String
  min_to_amount : String
  recipient : String
  stealth_spending_pub_key : Option String
  stealth_viewing_pub_key : Option String
  settlement_preference : String

/-- The quote half of the message. -/
structure ServedDeposit where
  intent_id : String
  quote_id : String
  from_amount : String
  deposit_address : Option String
  deposit_deadline : Option Int
  to_amount : String
  min_to_amount : String

def quoteRefuse {α : Type} (message : String) : Except SignerError α :=
  .error (.quoteMismatch message)

def quoteRefuseIf (bad : Bool) (message : String) : Except SignerError Unit :=
  if bad then quoteRefuse message else .ok ()

@[simp] theorem quoteRefuseIf_ok {bad : Bool} {message : String} :
    quoteRefuseIf bad message = .ok () ↔ bad = false := by
  cases bad <;> simp [quoteRefuseIf, quoteRefuse]

def depositAttestationVersion : String := "xochi-deposit-attestation:v3"

def attestedFieldOrder : List String :=
  ["version", "intent_id", "quote_id", "wallet", "from_chain_id", "from_token", "from_amount",
    "deposit_address", "deposit_deadline", "refund_address", "to_chain_id", "to_token",
    "to_amount", "min_to_amount", "recipient", "stealth_spending_pub_key",
    "stealth_viewing_pub_key", "settlement_preference"]

def depositMinWindowSeconds : Int := 60

/-- `0x`-prefixed text lowercased, anything else left alone. -/
def normalizeAddress [Host] (address : String) : String :=
  if startsWithHex address then Host.toLowerCase address else address

/-- `/^0x[0-9a-fA-F]+$/`. -/
def isPrefixedHex (s : String) : Bool := startsWithHex s && isHexText s

/-- `0x` and hex lowercased, anything else left alone: the fields that can hold a party id. -/
def normalizePartyCapable (address : String) : String :=
  if isPrefixedHex address then asciiLower address else address

/-- True when the payout address is the destination token contract. -/
def recipientIsDestinationToken (recipient toToken : String) : Bool :=
  if recipient == "" || toToken == "" then false
  else normalizePartyCapable recipient == normalizePartyCapable toToken

/-- Deposit address to the intent it was issued for, by normalized address. -/
abbrev SeenDepositAddresses := List (String × String)

/-- `next[key]` of a plain object: an own member, else an inherited one. -/
def SeenDepositAddresses.get (seen : SeenDepositAddresses) (key : String) : Option String :=
  match seen.lookup key with
  | some intentId => some intentId
  | none => inheritedMember key

def SeenDepositAddresses.set (seen : SeenDepositAddresses) (key intentId : String) :
    SeenDepositAddresses :=
  (key, intentId) :: seen.filter fun entry => entry.1 != key

/-- Records a deposit address against its intent, or refuses one issued for another. -/
def recordDepositAddress [Host] (store : SeenDepositAddresses) (depositAddress intentId : String) :
    Except SignerError SeenDepositAddresses :=
  let key := normalizeAddress depositAddress
  match store.get key with
  | none => .ok (store.set key intentId)
  | some previous =>
    if previous != intentId then
      quoteRefuse <|
        s!"deposit address {depositAddress} was already issued for intent {previous}, and this quote " ++
          s!"is intent {intentId} -- the per-intent binding the attestation rests on did not hold for " ++
          "this client. Both attestations can be individually genuine, so this is either the server " ++
          "re-issuing an address (Riddler#853) or a benign re-quote this check cannot tell apart. " ++
          "Do NOT send funds until you know which."
    else .ok (store.set key intentId)

/-- An absent optional is an empty line. -/
def optionalText [Host] (value : Option String) : String := (value.map normalizeAddress).getD ""

/-- The byte-exact signed message: eighteen lines, none of which may hold a newline. -/
def buildDepositAttestationMessage [Host] (fields : DepositAttestationFields) :
    Except SignerError String :=
  let parts := [depositAttestationVersion, fields.intent_id, fields.quote_id,
    normalizeAddress fields.wallet, fields.from_chain_id.text, normalizeAddress fields.from_token,
    fields.from_amount, normalizeAddress fields.deposit_address,
    (fields.deposit_deadline.map toString).getD "", optionalText fields.refund_address,
    fields.to_chain_id.text, normalizePartyCapable fields.to_token, fields.to_amount,
    fields.min_to_amount, normalizePartyCapable fields.recipient,
    optionalText fields.stealth_spending_pub_key, optionalText fields.stealth_viewing_pub_key,
    fields.settlement_preference]
  match parts.findIdx? fun p => p.toList.contains '\n' with
  | some injected =>
    refuse <| (attestedFieldOrder.getD injected "") ++ " contains a newline, which is the attestation's field " ++
      "delimiter -- refusing to build a message whose field boundaries are ambiguous"
  | none => .ok ("\n".intercalate parts)

/-- The attesting address, lowercased; an error carries what was thrown. -/
def recoverDepositAttestationSigner [Host] (fields : DepositAttestationFields)
    (attestation : String) : Except String String :=
  match buildDepositAttestationMessage fields with
  | .error (.mismatch message) | .error (.quoteMismatch message) | .error (.unexpected message) =>
    .error message
  | .ok message => (Host.verifyMessage message attestation).map Host.toLowerCase

/-- Fail-closed: the attestation was produced by the pinned signer over these fields. -/
def verifyDepositAttestation [Host] (fields : DepositAttestationFields)
    (attestation expectedSigner : Option String) : Except SignerError Unit :=
  let signature := attestation.getD ""
  let expected := expectedSigner.getD ""
  if signature == "" then
    refuse "quote has no deposit_attestation -- refusing to send funds to an unattested address"
  else if expected == "" then
    refuse "no deposit_attestation_signer to pin against -- fetch it from GET /xochi/capabilities first"
  else if fields.deposit_address == "" then refuse "quote has no deposit_address to verify"
  else
    match recoverDepositAttestationSigner fields signature with
    | .error thrown => refuse s!"deposit_attestation is not a recoverable signature: {thrown}"
    | .ok recovered =>
      refuseIf (recovered != Host.toLowerCase expected) <|
        s!"deposit_attestation recovered to {recovered}, expected {Host.toLowerCase expected} -- " ++
          "either the quote was tampered with in transit, or the server signed a different deal " ++
          "than the one requested (the message is rebuilt from your own request parameters, so a " ++
          "quote issued for another chain, token, wallet or recipient will not recover). " ++
          "Do NOT send funds."

/-- A request param under either spelling; nullish reads as absent. -/
def requestedParam (params : Obj) (snakeKey camelKey : String) : Value :=
  let snake := params.get snakeKey
  let camel := params.get camelKey
  if !snake.isNullish then snake else if camel.isNullish then .undefined else camel

/-- The params a message cannot be rebuilt without. -/
def requiredDepositParams : List (String × String) :=
  [("wallet", "wallet"), ("from_chain_id", "fromChainId"), ("from_token", "fromToken"),
    ("to_chain_id", "toChainId"), ("to_token", "toToken")]

def requireDepositParams (params : Obj) : List (String × String) → Except SignerError Unit
  | [] => .ok ()
  | (snake, camel) :: rest => do
    refuseIf (requestedParam params snake camel).isUndefined <|
      s!"{snake} is required to verify a deposit attestation: the quote response does not echo " ++
        "it, so the signed message is rebuilt from your request. Without it there is nothing to " ++
        "verify against. Do NOT send funds."
    requireDepositParams params rest

/-- `x ?? null` of a member whose type is text. -/
def textOrNull (x : Value) : Except SignerError (Option String) :=
  if x.isNullish then .ok none else do
    let s ← stringOf x
    pure (some s)

/-- Assembles the attested field set: the caller's half from the request, the server's from
the quote. -/
def depositAttestationFields (quote : ServedDeposit) (params : Obj) :
    Except SignerError DepositAttestationFields := do
  requireDepositParams params requiredDepositParams
  let wallet ← stringOf (requestedParam params "wallet" "wallet")
  let recipient := requestedParam params "recipient_address" "recipientAddress"
  let fromToken ← stringOf ((requestedParam params "from_token" "fromToken").orElse (.str ""))
  let toToken ← stringOf ((requestedParam params "to_token" "toToken").orElse (.str ""))
  let recipientText ← if recipient.isUndefined then pure wallet else stringOf recipient
  let refundAddress ← textOrNull (requestedParam params "refund_address" "refundAddress")
  let spending ←
    textOrNull (requestedParam params "stealth_spending_pub_key" "stealthSpendingPubKey")
  let viewing ←
    textOrNull (requestedParam params "stealth_viewing_pub_key" "stealthViewingPubKey")
  let settlement ← stringOf
    ((requestedParam params "settlement_preference" "settlementPreference").orElse (.str "public"))
  pure {
    intent_id := quote.intent_id
    quote_id := quote.quote_id
    wallet := wallet
    from_chain_id := (requestedParam params "from_chain_id" "fromChainId").toNumber
    from_token := fromToken
    from_amount := quote.from_amount
    deposit_address := quote.deposit_address.getD ""
    deposit_deadline := quote.deposit_deadline
    refund_address := refundAddress
    to_chain_id := (requestedParam params "to_chain_id" "toChainId").toNumber
    to_token := toToken
    to_amount := quote.to_amount
    min_to_amount := quote.min_to_amount
    recipient := recipientText
    stealth_spending_pub_key := spending
    stealth_viewing_pub_key := viewing
    settlement_preference := settlement }

/-- Base-unit amounts compared as integers when both are digit strings. -/
def sameBaseUnits (a b : String) : Bool :=
  if isDecimal a && isDecimal b then bigInt a == bigInt b else a == b

/-- Refuses a party that starts `0x` without being `0x` and hex. -/
def checkCaseBindable (name : String) (value : Option String) : Except SignerError Unit :=
  let s := value.getD ""
  quoteRefuseIf (startsWithHex s && !isPrefixedHex s) <|
    s!"{name} {jsonString s} starts with 0x but is not hex, and this attestation " ++
      "version does not guarantee the server binds its case: a deploy that lowercases it cannot " ++
      "tell it from a differently-cased party id (axol-io/Riddler#1254). This client refuses " ++
      "such a value until a version bump says the attestation binds its case. Do NOT send funds."

def assertDepositPartiesCaseBindable (recipient wallet : String) (refundAddress : Option String) :
    Except SignerError Unit := do
  checkCaseBindable "recipient" recipient
  checkCaseBindable "wallet" wallet
  checkCaseBindable "refund_address" refundAddress

/-- The attested amount against the request: equal to it, or on `exact_output` under the
caller's ceiling. -/
def checkDepositAmount (params : Obj) (fields : DepositAttestationFields) :
    Except SignerError Unit :=
  let swapKind := (requestedParam params "swap_kind" "swapKind").orElse (.str "exact_input")
  let wantAmount := requestedParam params "from_amount" "fromAmount"
  if swapKind.strictEq (.str "exact_output") then
    match assertFromAmountWithinMax params (.str fields.from_amount) "attested" with
    | .ok () => .ok ()
    | .error (.mismatch message) | .error (.quoteMismatch message) | .error (.unexpected message) =>
      quoteRefuse s!"{message} Do NOT send funds."
  else if wantAmount.isUndefined then .ok ()
  else do
    let want ← stringOf wantAmount
    quoteRefuseIf (!sameBaseUnits want fields.from_amount) <|
      s!"attested from_amount {fields.from_amount} != requested {want} -- " ++
        "sending the attested amount would fund a different intent. Do NOT send funds."

/-- The recipient the quote displays, where it displays one. -/
def checkShownRecipient (shown : Option String) (recipient : String) : Except SignerError Unit :=
  match shown with
  | none => .ok ()
  | some shown =>
    let same := if isHexText shown && isHexText recipient then asciiLower shown == asciiLower recipient
      else shown == recipient
    quoteRefuseIf (!same) <|
      s!"quote recipient {shown} != attested {recipient} -- the address shown is " ++
        "not the one this quote was signed for. Do NOT send funds."

/-- The attested deposit window against the wall clock. -/
def checkDepositWindow (wall : TimeValue) (deadline : Option Int) : Except SignerError Unit :=
  match deadline with
  | none =>
    quoteRefuse <|
      "deposit quote carries no attested deadline -- Riddler always sets one on a deposit route, so " ++
        "this quote is malformed. Do NOT send funds."
  | some deadline =>
    let secondsLeft := deadline - wall.secs
    let left :=
      if secondsLeft ≤ 0 then s!"the attested deposit window closed {-secondsLeft}s ago"
      else s!"the attested deposit window closes in {secondsLeft}s, under the " ++
        s!"{depositMinWindowSeconds}s minimum"
    quoteRefuseIf (secondsLeft < depositMinWindowSeconds) <|
      left ++ " -- a deposit that arrives after it is refunded rather than filled. Do NOT send funds."

/-- Asserts the server-chosen fields describe the deal the caller asked for. -/
def assertDepositQuoteMatchesRequest (wall : TimeValue) (params : Obj)
    (fields : DepositAttestationFields) (shownRecipient : Option String) (escrow : Value) :
    Except SignerError Unit := do
  quoteRefuseIf (!escrow.isNullish) <|
    "deposit quote carries an escrow envelope, and this SDK does not run the escrow binding " ++
      "(SPEC.md §2.3: recompute orderId and destCommitment against a caller-pinned escrow) -- who " ++
      "the escrow pays is unchecked. Do NOT send funds."
  checkDepositAmount params fields
  assertDepositPartiesCaseBindable fields.recipient fields.wallet fields.refund_address
  checkShownRecipient shownRecipient fields.recipient
  quoteRefuseIf (recipientIsDestinationToken fields.recipient fields.to_token) <|
    s!"the payout recipient is the destination token contract ({fields.to_token}) -- funds sent " ++
      "there are unspendable, and the settlement would still be reported completed (raxol#869). " ++
      "Do NOT send funds."
  checkDepositWindow wall fields.deposit_deadline

end XochiSdk.Signer
