import XochiSdk.Library.Outcome
import XochiSdk.Signer.EscrowSigned
import XochiSdk.Solver.Types

/-!
# The checks on an award

`packages/solver-sdk/src/escrow-verify.ts`: whether the lock that repays a fill commits to the
fill that an award asks for. Nothing here reads a chain.
-/

namespace XochiSdk.EscrowVerify

open XochiSdk.Js XochiSdk.Library XochiSdk.Signer

/-- What is thrown: an `EscrowRefusalError`, or an `Error`. -/
inductive AwardError where
  | refusal (code : Solver.EscrowRefusal) (message : String) (orderId : Option String)
  | error (message : String)
  deriving DecidableEq

abbrev AwardCheck (α : Type) := Except AwardError α

/-- What the coder says of a text that it does not read. -/
class CoderTexts where
  invalidArgument : String → String

/-! ## The award -/

structure AwardDestOpening where
  recipient : String
  toToken : String
  toAmount : String
  blinding : String
  intentId : String

structure AwardFillAuth where
  fillId : Option String
  filler : Option String
  to_ : Option String
  token : Option String
  amount : Option String
  deadline : Option String
  chainId : Option String
  fillerContract : Option String
  signature : Option String

/-- The venue's own origin terms, as far as they are read. -/
structure AwardOrderTerms where
  destCommitment : String

structure AwardEscrow where
  address : String
  intentRef : String
  fillId : Option String
  destOpening : Option AwardDestOpening
  fillAuth : Option AwardFillAuth
  orderTerms : Option AwardOrderTerms
  payee : Option String
  acceptBy : Option String

structure Award where
  auctionId : String
  intentId : String
  output : String
  escrow : Option AwardEscrow

/-- The RFQ this solver bid on. -/
structure IntentAnnouncement where
  intentId : String
  auctionId : String
  orderId : String
  fromChainId : JsNumber
  toChainId : JsNumber
  fromToken : String
  toToken : String
  fromAmount : Option String

/-- A `fillAuth` with every field. -/
structure FillableAuth where
  fillId : String
  filler : String
  to_ : String
  token : String
  amount : String
  deadline : String
  chainId : String
  fillerContract : String
  signature : String

/-- An envelope that carries everything a fill needs. -/
structure FillableEscrow where
  address : String
  intentRef : String
  fillId : String
  destOpening : AwardDestOpening
  fillAuth : FillableAuth
  orderTerms : Option AwardOrderTerms
  payee : Option String
  acceptBy : String

/-- The origin half of `OrderTerms`, less the commitment. -/
structure OriginTerms where
  depositor : String
  fromChainId : UintLike
  fromToken : String
  fromAmount : UintLike
  toChainId : UintLike
  fillDeadline : UintLike
  escrow : String

/-- What a solver trusts out of band. -/
structure AwardExpectations where
  solver : String
  originChainId : UintLike
  escrow : String
  destinationChainId : UintLike
  fillerContract : String
  originTerms : OriginTerms
  announcement : Option IntentAnnouncement
  bidOutput : UintLike

structure VerifiedAward where
  orderId : Word
  fillId : String
  opening : DestOpening
  terms : OrderTerms
  fillAuth : FillAuth
  fillAuthSignature : String
  fillAuthDomain : EscrowContractDomain
  payee : String
  acceptBy : Int

namespace AwardFillAuth

/-- `FILL_AUTH_FIELDS` that are not there. -/
def missing (a : AwardFillAuth) : List String :=
  [("fillId", a.fillId), ("filler", a.filler), ("to", a.to_), ("token", a.token),
    ("amount", a.amount), ("deadline", a.deadline), ("chainId", a.chainId),
    ("fillerContract", a.fillerContract), ("signature", a.signature)].filterMap
      fun (name, value) => if value.isNone then some ("fillAuth." ++ name) else none

def fillable (a : AwardFillAuth) : Option FillableAuth := do
  pure {
    fillId := ← a.fillId, filler := ← a.filler, to_ := ← a.to_, token := ← a.token
    amount := ← a.amount, deadline := ← a.deadline, chainId := ← a.chainId
    fillerContract := ← a.fillerContract, signature := ← a.signature }

end AwardFillAuth

namespace AwardEscrow

def missing (e : AwardEscrow) : List String :=
  (if e.fillId.isNone then ["fillId"] else []) ++
    (if e.destOpening.isNone then ["destOpening"] else []) ++
    (if e.fillAuth.isNone then ["fillAuth"] else []) ++
    (if e.acceptBy.isNone then ["acceptBy"] else []) ++
    e.fillAuth.elim [] AwardFillAuth.missing

def fillable (e : AwardEscrow) : Option FillableEscrow := do
  let fillAuth ← e.fillAuth
  pure {
    address := e.address, intentRef := e.intentRef, fillId := ← e.fillId
    destOpening := ← e.destOpening, fillAuth := ← fillAuth.fillable, orderTerms := e.orderTerms
    payee := e.payee, acceptBy := ← e.acceptBy }

end AwardEscrow

/-- An award that lacks a field of a fill is refused. -/
def requireFillableEscrow (award : Award) : AwardCheck FillableEscrow :=
  match award.escrow with
  | none => .error (.refusal .malformed_award
      s!"award {award.auctionId} carries no escrow envelope" none)
  | some e =>
    match e.fillable with
    | some env => .ok env
    | none => .error (.refusal .malformed_award
        (s!"award {award.auctionId} escrow envelope lacks " ++ ", ".intercalate e.missing ++
          "; it cannot be filled") (some e.intentRef))

/-! ## Values -/

def refuseIf (bad : Bool) (code : Solver.EscrowRefusal) (message : String)
    (orderId : Option String) : AwardCheck Unit :=
  if bad then .error (.refusal code message orderId) else .ok ()

/-- `parseUint`, leading zeros allowed. -/
def parseUint (value : UintLike) (field : String) : AwardCheck Nat :=
  match uintSpelling true value with
  | some n =>
    if n < 0 then .error (.error (field ++ " must be a non-negative base-10 integer, got " ++
      jsonString value.shown))
    else .ok n.toNat
  | none => .error (.error (field ++ " must be a non-negative base-10 integer, got " ++
      jsonString value.shown))

def sameUint (a b : UintLike) (field : String) : AwardCheck Bool := do
  let x ← parseUint a field
  let y ← parseUint b field
  pure (x == y)

/-- `BigInt(x)`; `none` is its throw. -/
def asBigInt : UintLike → Option Int
  | .bigint n => some n
  | .number x => x.toInteger
  | .text s => bigInt s

/-- `BigInt(x)`, where a throw leaves the check. -/
def readBigInt (value : UintLike) : AwardCheck Int :=
  match asBigInt value with
  | some n => .ok n
  | none => .error (.error (match value with
    | .number x =>
      s!"The number {x.text} cannot be converted to a BigInt because it is not an integer"
    | _ => s!"Cannot convert {value.shown} to a BigInt"))

/-- `(err as Error).message`. -/
def coderMessage [CoderTexts] : XspError → String
  | .error message => message
  | .invalidArgument value => CoderTexts.invalidArgument value

/-- An error of the hash modules, thrown on. -/
def thrown [CoderTexts] {α : Type} : Xsp α → AwardCheck α
  | .ok a => .ok a
  | .error e => .error (.error (coderMessage e))

/-! ## The checks -/

section Checks

variable [CoderTexts] [Ethers] [AddressCoder]

/-- The lock holds the amount that was announced, where one was. -/
def checkAnnouncedAmount (terms : OrderTerms) (orderId : String) : Option String → AwardCheck Unit
  | none => .ok ()
  | some announced => do
    let amount ← sameUint terms.fromAmount (.text announced) "fromAmount"
    refuseIf (!amount) .announcement_mismatch
      s!"lock amount {terms.fromAmount.shown}, announced {announced}" (some orderId)

/-- The RFQ this solver priced is for this lock. -/
def checkAnnouncement (award : Award) (terms : OrderTerms) (opening : DestOpening)
    (ann : IntentAnnouncement) (orderId : String) : AwardCheck Unit := do
  let fail (bad : Bool) (why : String) : AwardCheck Unit :=
    refuseIf bad .announcement_mismatch why (some orderId)
  fail (ann.auctionId != award.auctionId)
    s!"award auction {award.auctionId} is not announcement {ann.auctionId}"
  fail (asciiLower ann.orderId != asciiLower orderId)
    s!"lock order {orderId}, announced {ann.orderId}"
  fail (ann.intentId != opening.intentId)
    s!"the lock commits to intent {opening.intentId}, announced {ann.intentId}"
  let origin ← sameUint terms.fromChainId (.number ann.fromChainId) "fromChainId"
  fail (!origin) s!"lock origin {terms.fromChainId.shown}, announced {ann.fromChainId.text}"
  let destination ← sameUint terms.toChainId (.number ann.toChainId) "toChainId"
  fail (!destination) s!"lock destination {terms.toChainId.shown}, announced {ann.toChainId.text}"
  fail (!eqAddr terms.fromToken ann.fromToken)
    s!"lock token {terms.fromToken}, announced {ann.fromToken}"
  checkAnnouncedAmount terms orderId ann.fromAmount
  let opened ← thrown (canonicalKey opening.toToken)
  let announced ← thrown (canonicalKey ann.toToken)
  fail (opened != announced) s!"opening token {opening.toToken}, announced {ann.toToken}"

/-- The lock's terms are the trusted escrow's, between the expected chains. -/
def checkOrigin (env : FillableEscrow) (x : AwardExpectations) : AwardCheck Unit := do
  let t := x.originTerms
  let fail (bad : Bool) (code : Solver.EscrowRefusal) (why : String) : AwardCheck Unit :=
    refuseIf bad code why (some env.intentRef)
  fail (!eqAddr env.address x.escrow) .wrong_escrow
    s!"award names escrow {env.address}, expected {x.escrow}"
  fail (!eqAddr t.escrow x.escrow) .wrong_escrow
    s!"order terms name escrow {t.escrow}, expected {x.escrow}"
  let origin ← sameUint t.fromChainId x.originChainId "originChainId"
  fail (!origin) .wrong_chain
    s!"order origin is chain {t.fromChainId.shown}, expected {x.originChainId.shown}"
  let destination ← sameUint t.toChainId x.destinationChainId "destinationChainId"
  fail (!destination) .wrong_chain
    s!"order destination is chain {t.toChainId.shown}, expected {x.destinationChainId.shown}"

def AwardDestOpening.opening (o : AwardDestOpening) : DestOpening where
  recipient := o.recipient
  toToken := o.toToken
  toAmount := .text o.toAmount
  blinding := o.blinding
  intentId := o.intentId

def OriginTerms.withCommitment (t : OriginTerms) (destCommitment : String) : OrderTerms where
  depositor := t.depositor
  fromChainId := t.fromChainId
  fromToken := t.fromToken
  fromAmount := t.fromAmount
  toChainId := t.toChainId
  fillDeadline := t.fillDeadline
  escrow := t.escrow
  destCommitment := destCommitment

/-- The opening encodes, to the commitment that the venue's own terms carry. -/
def openedCommitment (env : FillableEscrow) : AwardCheck Word :=
  match computeDestCommitment env.destOpening.opening with
  | .error e => .error (.refusal .malformed_award
      ("destOpening does not encode: " ++ coderMessage e) (some env.intentRef))
  | .ok commitment => do
    let shown := hexlify commitment.bytes
    match env.orderTerms with
    | none => pure ()
    | some carried =>
      refuseIf (asciiLower carried.destCommitment != shown) .order_id_mismatch
        s!"destOpening commits to {shown}, award orderTerms carry {carried.destCommitment}"
        (some env.intentRef)
    pure commitment

/-- The authorization is for the committed fill, by this solver, through the trusted filler. -/
def checkFillAuth (env : FillableEscrow) (x : AwardExpectations) (orderId : String) :
    AwardCheck Unit := do
  let a := env.fillAuth
  let opening := env.destOpening
  let fail (bad : Bool) (why : String) : AwardCheck Unit :=
    refuseIf bad .fill_auth_mismatch why (some orderId)
  fail (asciiLower a.fillId != asciiLower env.fillId)
    s!"fillAuth.fillId {a.fillId} is not the award fillId {env.fillId}"
  fail (!eqAddr a.filler x.solver)
    s!"fillAuth names filler {a.filler}, not this solver {x.solver}"
  fail (!eqAddr a.fillerContract x.fillerContract)
    s!"fillAuth targets RiddlerFiller {a.fillerContract}, expected {x.fillerContract}"
  let chain ← sameUint (.text a.chainId) x.destinationChainId "fillAuth.chainId"
  fail (!chain) s!"fillAuth is for chain {a.chainId}, expected {x.destinationChainId.shown}"
  fail (!eqAddr a.to_ opening.recipient)
    s!"fillAuth pays {a.to_}, the lock commits to {opening.recipient}"
  fail (!eqAddr a.token opening.toToken)
    s!"fillAuth pays token {a.token}, the lock commits to {opening.toToken}"

/-- The amount is within the venue's echo of what was bid. -/
def checkAwarded (award : Award) (a : FillableAuth) (amount : Int) (orderId : String) :
    AwardCheck Unit :=
  match asBigInt (.text award.output) with
  | none => .error (.refusal .malformed_award
      s!"award output {award.output} is not an integer" (some orderId))
  | some awarded =>
    refuseIf (awarded < amount) .fill_auth_mismatch
      s!"fillAuth amount {a.amount} exceeds the awarded output {award.output}" (some orderId)

/-- The amount is within what this solver signed. -/
def checkBidOutput (x : AwardExpectations) (a : FillableAuth) (amount : Int) (orderId : String) :
    AwardCheck Unit :=
  match asBigInt x.bidOutput with
  | none => .error (.error s!"verifyAward: bid output {x.bidOutput.shown} is not an integer")
  | some bidOutput =>
    refuseIf (bidOutput < amount) .fill_auth_mismatch
      (s!"fillAuth amount {a.amount} exceeds this solver's signed bid output " ++
        x.bidOutput.shown) (some orderId)

/-- A payee that the envelope names is the filler. -/
def checkPayee (env : FillableEscrow) (orderId : String) : AwardCheck Unit :=
  match env.payee with
  | none => .ok ()
  | some payee =>
    refuseIf (!eqAddr payee env.fillAuth.filler) .fill_auth_mismatch
      (s!"award names payee {payee}, but the venue attests the filler " ++ env.fillAuth.filler)
      (some orderId)

/-- The amount is between the committed floor and what this solver agreed to pay. -/
def checkAmount (award : Award) (env : FillableEscrow) (x : AwardExpectations)
    (orderId : String) : AwardCheck Unit := do
  let a := env.fillAuth
  let amount ← readBigInt (.text a.amount)
  let floor ← readBigInt (.text env.destOpening.toAmount)
  refuseIf (amount < floor) .fill_auth_mismatch
    s!"fillAuth amount {a.amount} is below the committed floor {env.destOpening.toAmount}"
    (some orderId)
  checkAwarded award a amount orderId
  checkBidOutput x a amount orderId
  checkPayee env orderId

/-- What `fill` needs of the award. -/
def verifiedOf (env : FillableEscrow) (terms : OrderTerms) (orderId : Word) :
    AwardCheck VerifiedAward := do
  let a := env.fillAuth
  let chainId ← readBigInt (.text a.chainId)
  let acceptBy ← readBigInt (.text env.acceptBy)
  pure {
    orderId, fillId := asciiLower a.fillId, opening := env.destOpening.opening, terms
    fillAuth := {
      fillId := a.fillId, filler := a.filler, to_ := a.to_, token := a.token
      amount := .text a.amount, deadline := .text a.deadline }
    fillAuthSignature := a.signature
    fillAuthDomain := { chainId := .bigint chainId, verifyingContract := a.fillerContract }
    payee := a.filler, acceptBy }

/-- The award is for the RFQ this solver bid on, where it holds that. -/
def checkAnnounced (award : Award) (x : AwardExpectations) (terms : OrderTerms)
    (opening : DestOpening) (orderId : String) : AwardCheck Unit :=
  match x.announcement with
  | none => .ok ()
  | some ann => checkAnnouncement award terms opening ann orderId

/-- Recompute the commitment and the order id from the award's plaintext and the origin terms,
and require the authorized fill to be exactly the committed one. -/
def verifyAward (award : Award) (x : AwardExpectations) : AwardCheck VerifiedAward := do
  let env ← requireFillableEscrow award
  checkOrigin env x
  let commitment ← openedCommitment env
  let terms := x.originTerms.withCommitment (hexlify commitment.bytes)
  let order ← thrown (computeOrderId terms)
  let orderId := hexlify order.bytes
  refuseIf (orderId != asciiLower env.intentRef) .order_id_mismatch
    (s!"recomputed orderId {orderId} from the opening and origin terms, award names " ++
      env.intentRef) (some env.intentRef)
  let opening := env.destOpening.opening
  refuseIf (opening.intentId != award.intentId) .order_id_mismatch
    s!"the lock commits to intent {opening.intentId}, the award is for intent {award.intentId}"
    (some orderId)
  checkAnnounced award x terms opening orderId
  refuseIf (!isEvmAddress opening.recipient || !isEvmAddress opening.toToken) .not_evm_fillable
    (s!"opening pays {opening.recipient} in {opening.toToken}; RiddlerFiller needs EVM " ++
      "addresses") (some orderId)
  checkFillAuth env x orderId
  checkAmount award env x orderId
  verifiedOf env terms order

end Checks

/-! ## The lock -/

/-- The fields of `Opened`. -/
structure OpenedLock where
  orderId : String
  depositor : String
  token : String
  amount : Int
  toChainId : Int
  refundableAt : Int

/-- The lock at finality is the one the terms describe. -/
def checkLockMatchesTerms (lock : OpenedLock) (terms : OrderTerms) : AwardCheck Unit := do
  let fail (bad : Bool) (why : String) : AwardCheck Unit :=
    refuseIf bad .opened_mismatch why (some lock.orderId)
  fail (!eqAddr lock.token terms.fromToken)
    s!"Opened token {lock.token}, terms {terms.fromToken}"
  let fromAmount ← readBigInt terms.fromAmount
  fail (lock.amount != fromAmount)
    s!"Opened amount {lock.amount}, terms {terms.fromAmount.shown}"
  fail (!eqAddr lock.depositor terms.depositor)
    s!"Opened depositor {lock.depositor}, terms {terms.depositor}"
  let toChainId ← readBigInt terms.toChainId
  fail (lock.toChainId != toChainId)
    s!"Opened toChainId {lock.toChainId}, terms {terms.toChainId.shown}"
  let fillDeadline ← readBigInt terms.fillDeadline
  fail (lock.refundableAt < fillDeadline)
    (s!"Opened refundableAt {lock.refundableAt} precedes fillDeadline " ++
      terms.fillDeadline.shown)

end XochiSdk.EscrowVerify
