import XochiSdk.Signer.IntentVerify
import XochiSdk.Signer.Xsp

/-!
# Escrow orders

`packages/signer/src/escrow.ts`: the destination commitment, the order id and the check that
holds a quoted order and its pull to the caller's intent. Errors are those of the two modules
the hashes are built on.
-/

namespace XochiSdk.Signer

open XochiSdk.Js XochiSdk.Library

/-- The destination side of an order. -/
structure DestOpening where
  recipient : String
  toToken : String
  toAmount : UintLike
  blinding : String
  intentId : String

/-- The origin-side terms the escrow locks under. -/
structure OrderTerms where
  depositor : String
  fromChainId : UintLike
  fromToken : String
  fromAmount : UintLike
  toChainId : UintLike
  fillDeadline : UintLike
  escrow : String
  destCommitment : String

def destTypeString : String :=
  "RiddlerDestCommitment(bytes32 recipientKey,bytes32 toTokenKey,uint256 toAmount," ++
  "bytes32 blinding,bytes32 intentIdHash)"

def orderTypeString : String :=
  "RiddlerOrder(address depositor,uint256 fromChainId,address fromToken,uint256 fromAmount," ++
  "uint256 toChainId,uint256 fillDeadline,address escrow,bytes32 destCommitment)"

def xspRefuseIf (bad : Bool) (message : String) : Xsp Unit :=
  if bad then .error (.error message) else .ok ()

/-! ## Values -/

/-- Every integer of an order: leading zeros allowed, within `uint256`. -/
def toUint (label : String) (v : UintLike) : Xsp Nat :=
  match uintSpelling true v with
  | none =>
    .error (.error (label ++ " must be a base-10 uint256, got " ++ jsonString v.shown))
  | some n =>
    if n < 0 ∨ (uint256Max : Int) < n then
      .error (.error (label ++ " is out of uint256 range: " ++ toString n))
    else .ok n.toNat

def assertBlinding (blinding : String) : Xsp Unit :=
  if isHexOfLength 64 blinding then
    xspRefuseIf (bigInt blinding == some 0) "blinding must be non-zero"
  else .error (.error ("blinding must be 32 bytes (0x + 64 hex), got " ++ blinding))

/-- The text with `0x` before it, where it does not start so. -/
def withHexMark (v : String) : String := if startsWithHex v then v else "0x" ++ v

/-- `normalizeBytes32`, as the bytes its lower-case text spells. -/
def normalizeBytes32 (label v : String) : Xsp Word :=
  match hexBytes 32 (withHexMark v) with
  | some w => .ok w
  | none => .error (.error (label ++ " must be 32 bytes (0x + 64 hex), got " ++ v))

/-- Equal in lower case. A text beyond ASCII lowers to no hex text, and one side of each
comparison is one. -/
def eqAddr (a b : String) : Bool := asciiLower a == asciiLower b

section Hashes

variable [Ethers]

/-- An EVM address is its padded word, any other text the hash of its bytes. -/
def canonicalKey (s : String) : Xsp Word :=
  if s = "" then .error (.error "canonicalKey: empty string is not a valid key")
  else
    match hexBytes 20 s with
    | some a => .ok (addressWord a)
    | none => .ok (keccak256 (utf8 s))

def computeIntentIdHash (intentId : String) : Xsp Word :=
  if intentId = "" then .error (.error "intentId must be a non-empty string")
  else .ok (keccak256 (utf8 intentId))

def destWords (opening : DestOpening) : Xsp (List Word) := do
  assertBlinding opening.blinding
  let recipientKey ← canonicalKey opening.recipient
  let toTokenKey ← canonicalKey opening.toToken
  let toAmount ← toUint "toAmount" opening.toAmount
  let intentIdHash ← computeIntentIdHash opening.intentId
  let blinding ← xspBytes32 opening.blinding
  pure [ethersId destTypeString, recipientKey, toTokenKey, uintWord toAmount, blinding,
    intentIdHash]

def computeDestCommitment (opening : DestOpening) : Xsp Word := do
  pure (hashWords (← destWords opening))

variable [AddressCoder]

def orderWords (terms : OrderTerms) : Xsp (List Word) := do
  let fromChainId ← toUint "fromChainId" terms.fromChainId
  let fromAmount ← toUint "fromAmount" terms.fromAmount
  let toChainId ← toUint "toChainId" terms.toChainId
  let fillDeadline ← toUint "fillDeadline" terms.fillDeadline
  let depositor ← xspAddress (asciiLower terms.depositor)
  let fromToken ← xspAddress (asciiLower terms.fromToken)
  let escrow ← xspAddress (asciiLower terms.escrow)
  let destCommitment ← xspBytes32 terms.destCommitment
  pure [ethersId orderTypeString, depositor, uintWord fromChainId, fromToken,
    uintWord fromAmount, uintWord toChainId, uintWord fillDeadline, escrow, destCommitment]

def computeOrderId (terms : OrderTerms) : Xsp Word := do
  pure (hashWords (← orderWords terms))

end Hashes

/-! ## The binding check -/

/-- The pull about to be signed. A witness that is no text is `none`. -/
inductive EscrowPullAuth where
  | erc3009 (to_ token : String) (amount : UintLike) (nonce : String)
  | permit2 (spender token : String) (amount : UintLike) (witnessOrderId : Option String)

namespace EscrowPullAuth

/-- Who may collect. -/
def spender : EscrowPullAuth → String
  | .erc3009 to_ _ _ _ => to_
  | .permit2 spender _ _ _ => spender

def token : EscrowPullAuth → String
  | .erc3009 _ token _ _ | .permit2 _ token _ _ => token

def amount : EscrowPullAuth → UintLike
  | .erc3009 _ _ amount _ | .permit2 _ _ amount _ => amount

end EscrowPullAuth

/-- The caller's intent, the quote and the pull. A destination chain left out is `none`. -/
structure EscrowBinding where
  signer : String
  recipient : String
  toToken : String
  toChainId : Option UintLike
  minOut : UintLike
  terms : OrderTerms
  opening : DestOpening
  quotedOrderId : String
  pullAuth : EscrowPullAuth
  expectedEscrows : Value

/-- An absent pin, an uncovered chain and a malformed entry all refuse. -/
def pinnedEscrowFor (pin : Value) (fromChainId : UintLike) : Xsp String :=
  match pin with
  | .obj entries => do
    let chain ← toUint "terms.fromChainId" fromChainId
    match resolvePinnedEscrow entries chain with
    | .error message => .error (.error message)
    | .ok none =>
      .error (.error s!"no pinned escrow for origin chain {chain}; refusing to sign")
    | .ok (some escrow) => .ok escrow
  | _ =>
    .error (.error ("expectedEscrows is required: the escrow must be a caller-pinned value, " ++
      "never the quote's"))

section Checks

variable [Ethers]

/-- The opening pays the caller's recipient in the caller's token, and enough of it. -/
def assertOpeningBinds (b : EscrowBinding) : Xsp Unit := do
  let openedRecipient ← canonicalKey b.opening.recipient
  let recipient ← canonicalKey b.recipient
  xspRefuseIf (openedRecipient != recipient)
    (s!"opening.recipient ({b.opening.recipient}) is not the intent recipient " ++
      s!"({b.recipient})")
  let openedToken ← canonicalKey b.opening.toToken
  let toToken ← canonicalKey b.toToken
  xspRefuseIf (openedToken != toToken)
    s!"opening.toToken ({b.opening.toToken}) is not the intent toToken ({b.toToken})"
  let toAmount ← toUint "opening.toAmount" b.opening.toAmount
  let minOut ← toUint "minOut" b.minOut
  xspRefuseIf (toAmount < minOut)
    s!"opening.toAmount ({b.opening.toAmount.shown}) is below minOut ({b.minOut.shown})"
  assertBlinding b.opening.blinding

def wrongChain (terms : OrderTerms) (asked : String) : String :=
  s!"OrderTerms.toChainId ({terms.toChainId.shown}) is not the intent toChainId ({asked})"

/-- The destination chain is outside the commitment. -/
def assertChainBinds (b : EscrowBinding) : Xsp Unit :=
  match b.toChainId with
  | none => .error (.error (wrongChain b.terms "undefined"))
  | some asked => do
    let stated ← toUint "terms.toChainId" b.terms.toChainId
    let wanted ← toUint "toChainId" asked
    xspRefuseIf (stated != wanted) (wrongChain b.terms asked.shown)

variable [AddressCoder]

/-- The order id, with the commitment and the id that are quoted held to it. -/
def recomputedOrderId (b : EscrowBinding) : Xsp Word := do
  let commitment ← computeDestCommitment b.opening
  let stated ← normalizeBytes32 "terms.destCommitment" b.terms.destCommitment
  xspRefuseIf (stated != commitment)
    (s!"destCommitment mismatch: recomputed {hexlify commitment.bytes}, terms carry " ++
      b.terms.destCommitment)
  let orderId ← computeOrderId b.terms
  let quoted ← normalizeBytes32 "quotedOrderId" b.quotedOrderId
  xspRefuseIf (quoted != orderId)
    (s!"orderId mismatch: recomputed {hexlify orderId.bytes} from OrderTerms, quote witness is " ++
      b.quotedOrderId)
  pure orderId

/-- The pull carries the order id in its own place. -/
def assertPullNames (pullAuth : EscrowPullAuth) (orderId : Word) : Xsp Unit :=
  match pullAuth with
  | .erc3009 _ _ _ nonce => do
    let named ← normalizeBytes32 "erc3009 nonce" nonce
    xspRefuseIf (named != orderId)
      s!"erc3009 nonce ({nonce}) is not the orderId ({hexlify orderId.bytes})"
  | .permit2 _ _ _ none =>
    .error (.error
      s!"permit2 witness orderId (undefined) is not the orderId ({hexlify orderId.bytes})")
  | .permit2 _ _ _ (some witnessOrderId) => do
    let named ← normalizeBytes32 "permit2 witness orderId" witnessOrderId
    xspRefuseIf (named != orderId)
      s!"permit2 witness orderId ({witnessOrderId}) is not the orderId ({hexlify orderId.bytes})"

/-- The terms and the pull against the pinned escrow, the signer and one another. -/
def assertPullBinds (b : EscrowBinding) (escrow : String) (orderId : Word) : Xsp Unit := do
  xspRefuseIf (!eqAddr b.terms.escrow escrow)
    (s!"OrderTerms.escrow ({b.terms.escrow}) is not the pinned escrow for chain " ++
      s!"{b.terms.fromChainId.shown} ({escrow})")
  xspRefuseIf (!eqAddr b.pullAuth.spender escrow)
    (s!"pull-auth spender/to ({b.pullAuth.spender}) is not the pinned escrow ({escrow}); " ++
      "refusing to sign")
  xspRefuseIf (!eqAddr b.terms.depositor b.signer)
    s!"OrderTerms.depositor ({b.terms.depositor}) is not the signer ({b.signer})"
  xspRefuseIf (!eqAddr b.terms.fromToken b.pullAuth.token)
    (s!"OrderTerms.fromToken ({b.terms.fromToken}) is not the pull-auth token " ++
      s!"({b.pullAuth.token})")
  let fromAmount ← toUint "terms.fromAmount" b.terms.fromAmount
  let amount ← toUint "pull-auth amount" b.pullAuth.amount
  xspRefuseIf (fromAmount != amount)
    (s!"OrderTerms.fromAmount ({b.terms.fromAmount.shown}) is not the pull-auth amount " ++
      s!"({b.pullAuth.amount.shown})")
  assertPullNames b.pullAuth orderId

/-- The guard before an escrow pull is signed, and the order id it verified. -/
def assertEscrowBinding (b : EscrowBinding) : Xsp Word := do
  let escrow ← pinnedEscrowFor b.expectedEscrows b.terms.fromChainId
  assertOpeningBinds b
  assertChainBinds b
  let orderId ← recomputedOrderId b
  assertPullBinds b escrow orderId
  pure orderId

end Checks

end XochiSdk.Signer
