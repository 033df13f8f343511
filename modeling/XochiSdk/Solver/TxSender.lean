import Mathlib.Data.List.Infix
import XochiSdk.Solver.Types

/-!
# The transaction sender

`packages/solver-sdk/src/tx-sender.ts`: one nonce slot per send, followed by observation when
its outcome is in doubt. Loops run on fuel: out of it, a call never comes back.
-/

namespace XochiSdk.Solver

open XochiSdk.Js XochiSdk.Library

/-! ## Node answers and fees -/

/-- `DEFINITE_REJECTIONS`. -/
def definiteRejections : List String :=
  ["INSUFFICIENT_FUNDS", "NONCE_EXPIRED", "REPLACEMENT_UNDERPRICED"]

/-- A pattern of letters and blanks, tested in any case. -/
def mentions (pattern text : String) : Bool :=
  decide (pattern.toList <:+: (asciiLower text).toList)

/-- `INTRINSIC_GAS_TOO_LOW`. -/
def intrinsicGasTooLow (message : String) : Bool := mentions "intrinsic gas too low" message

/-- `ALREADY_HELD`. -/
def alreadyHeld (message : String) : Bool :=
  mentions "already known" message || mentions "known transaction" message ||
    mentions "alreadyknown" message

/-- The broadcast failed with one of those codes or answers: the bytes are in no mempool. -/
def definitelyRejected (err : Thrown) : Bool :=
  (err.code.any fun code => definiteRejections.contains code) || intrinsicGasTooLow err.nodeMessage

/-- `paid` raised by one eighth (by at least 1 wei), and at least `floor`. -/
def bumpFee (paid floor : Int) : Int :=
  let raised := (paid * 9 + 7) / 8
  let atLeast := if raised > paid then raised else paid + 1
  if atLeast > floor then atLeast else floor

/-- Whether `r` is priced out of inclusion at a block with `baseFee`, against the market. -/
def belowInclusion (r : TransactionLike) (baseFee : Option Int) (fees : FeeData) : Bool :=
  match r.maxFeePerGas with
  | some maxFee =>
    let tip := r.maxPriorityFeePerGas.getD 0
    (baseFee.any fun baseFee => decide (maxFee < baseFee + tip)) ||
      fees.maxPriorityFeePerGas.any fun market => decide (tip < market)
  | none => fees.gasPrice.any fun market => decide (r.gasPrice.getD 0 < market)

/-- The fees of a signing that replaces `r` at its nonce, the fee itself given. -/
def bumpedRequest (r : TransactionLike) (fee : Int) (fees : FeeData) : TransactionLike :=
  if r.maxFeePerGas.isSome then
    let tip := bumpFee (r.maxPriorityFeePerGas.getD 0) (fees.maxPriorityFeePerGas.getD 0)
    { r with
      maxFeePerGas := some fee
      maxPriorityFeePerGas := some (if tip < fee then tip else fee) }
  else { r with gasPrice := some fee }

def receiptOutcome (txHash : String) (receipt : TransactionReceipt) : TxOutcome :=
  if receipt.succeeded then .confirmed txHash receipt.blockNumber
  else .reverted txHash receipt.blockNumber

/-! ## Shared records -/

/-- `await`. -/
def ask (q : Ask) : Code q.Answer := Async.await q

def Gateway.slotState (s : Gateway) (slot : Slot) : Option SlotState := s.slots[slot.id]?

def Gateway.setSlot (s : Gateway) (slot : Slot) (change : SlotState → SlotState) : Gateway :=
  { s with slots := s.slots.modify slot.id change }

/-- The slot's assigned part, which every slot has. -/
def slotState (slot : Slot) : Code SlotState :=
  Async.get.bind fun s =>
    match s.slotState slot with
    | some state => .pure state
    | none => .stuck

/-- The clock, in milliseconds. -/
def now : Code Int := Async.get.bind fun s => .pure s.clock

/-- `recordBroadcast`: the key's last broadcast, unless a later nonce is recorded there. -/
def Gateway.recordBroadcast (receiptTimeoutMs : Int) (slot : Slot) (hash raw : String)
    (landBy : Option Int) (s : Gateway) : Gateway :=
  let prior := s.lastNonce.get slot.key
  if prior.any fun prior => decide (slot.nonce < prior.nonce) then s
  else
    { s with
      lastNonce := s.lastNonce.set slot.key
        { nonce := slot.nonce, hash := hash, raw := raw, landBy := landBy
          expiresAtMs := (prior.map (·.expiresAtMs)).getD (s.clock + receiptTimeoutMs) } }

/-- A new promise, unsettled. -/
def Gateway.promise (s : Gateway) : Gateway := { s with promises := s.promises ++ [false] }

def Gateway.settle (promise : Nat) (s : Gateway) : Gateway :=
  { s with promises := s.promises.set promise true }

/-- `queued`: run after every earlier run queued under the key has settled. -/
def queued {α : Type} (key : Queue) (run : Code α) : Code α := do
  let s ← Async.get
  let tail := s.promises.length
  Async.modify fun s => { s.promise with queues := s.queues.set key tail }
  ask (.settled (s.queues.get key))
  run.always (Async.modify fun s =>
    let s := s.settle tail
    if s.queues.get key = some tail then { s with queues := s.queues.delete key } else s)

section

variable (opts : Options)

def Options.receiptTimeout : Int := opts.receiptTimeoutMs.getD 120000

def Options.receiptPoll : Int := opts.receiptPollMs.getD 2000

/-- `nowSec`, over the blocks the providers answer. -/
def latestSec : List Signer → Int → Code Int
  | [], latest => .pure latest
  | provider :: rest, latest => do
    let head ← ask (.latestBlock provider)
    latestSec rest (match head with
      | some head => if head.timestamp > latest then head.timestamp else latest
      | none => latest)

/-- The later of the chains' latest block times and, unless `withLocal` is false, the local
clock. -/
def nowSec (providers : List Signer) (withLocal : Bool) : Code Int := do
  let clock ← now
  latestSec providers (if withLocal then clock / 1000 else 0)

def recordBroadcast (slot : Slot) (hash raw : String) (landBy : Option Int) : Code Unit :=
  Async.modify (·.recordBroadcast opts.receiptTimeout slot hash raw landBy)

/-- `receiptOf`: the first of the hashes a receipt is served for. -/
def receiptOf (provider : Signer) : List String → Code (Option TxOutcome)
  | [] => .pure none
  | hash :: rest => do
    let receipt ← ask (.transactionReceipt provider hash)
    match receipt with
    | some receipt => .pure (some (receiptOutcome hash receipt))
    | none => receiptOf provider rest

/-- `txState`. -/
def txState (provider : Signer) (hash : String) : Code (Option TxState) :=
  ask (.transactionByHash provider hash)

/-- The last of a list that is not empty, or an empty text. -/
def lastHash (hashes : List String) : String := hashes.getLast?.getD ""

/-- `resolveSlot`. -/
def resolveSlot (provider : Signer) (hashes : List String) (slot : Option (String × Nat))
    (effect : Option (Nat → Code Bool)) : Code TxOutcome := do
  let txHash := lastHash hashes
  let pending (reason : String) : TxOutcome := .in_doubt txHash hashes slot reason
  -- The nonce is read at a fixed block first, then the receipts.
  let consumedBy : Option Nat ← match slot with
    | none => pure none
    | some (sender, nonce) => do
      let block ← ask (.blockNumber provider)
      let count ← ask (.transactionCount provider sender block)
      pure (if count > nonce then some block else none)
  let landed ← receiptOf provider hashes
  match landed, consumedBy, slot, effect with
  | some landed, _, _, _ => pure landed
  | none, none, _, _ | none, _, none, _ => pure (pending "no receipt yet")
  | none, some block, some (sender, nonce), effect =>
    let consumed := s!"nonce {nonce} of {sender} was consumed by block {block} and no receipt for " ++
      ", ".intercalate hashes ++ " is served"
    match effect with
    | none =>
      pure (pending (consumed ++ "; without an effect check that does not prove it never landed"))
    | some effect => do
      let done ← effect block
      if done then
        pure (pending (consumed ++ ", but its effect is on chain at that block: it landed"))
      else do
        -- One more look: the receipt may have been indexed since the first read.
        let again ← receiptOf provider hashes
        pure (again.getD (.not_sent txHash
          (consumed ++ " and its effect is absent at that block; it can never land")))

end

section

variable (opts : Options) [Ethers]

/-- `rebroadcast`: the slot's latest signing, same bytes, same hash. -/
def rebroadcast (slot : Slot) : Code String := do
  let state ← slotState slot
  let hash := lastHash state.hashes
  let sent ← (ask (.broadcast slot.signer state.raw)).attempt
  match sent with
  | .error err => pure s!"re-broadcast {hash}: {err.described}"
  | .ok _ => do
    recordBroadcast opts slot hash state.raw slot.landBy
    pure s!"re-broadcast {hash}"

/-- The signing that a replacement adds to its slot. -/
def SlotState.adopt (next : TransactionLike) (raw hash : String) (state : SlotState) : SlotState :=
  { state with request := next, raw := raw, hashes := state.hashes ++ [hash], passes := 0 }

/-- A transaction of an action, signed: its hash. -/
def signed (request : TransactionLike) (raw : String) : Code String := do
  let hash := Ethers.keccak256 raw
  Async.doing id [.signed request.call request.nonce hash]
  pure hash

/-- What a slot's action was sent, in its nonce. -/
def outDeeds (request : TransactionLike) : List Deed :=
  match request.call.action with
  | some action => [.out action request.nonce]
  | none => []

/-- The fee a transaction offers: its max fee, or its gas price where it has none. -/
def TransactionLike.offered (r : TransactionLike) : Int :=
  (if r.maxFeePerGas.isSome then r.maxFeePerGas else r.gasPrice).getD 0

/-- The market's fee of the kind a transaction offers. -/
def FeeData.market (fees : FeeData) (r : TransactionLike) : Int :=
  (if r.maxFeePerGas.isSome then fees.maxFeePerGas else fees.gasPrice).getD 0

/-- The rest of `replaceAtSameNonce`, once the market is read and the slot's latest signing looked
up. -/
def resignAt (prior : Slot) (fees : FeeData) (r : TransactionLike) : Code (Bool × String) := do
  let offered := r.offered
  let market := fees.market r
  let fee := bumpFee offered market
  let cap := 4 * (if prior.originalFee > market then prior.originalFee else market)
  if fee > cap then
    pure (false, s!"replacement at nonce {prior.nonce} would offer {fee}, over the cap {cap}")
  else do
    let next := bumpedRequest r fee fees
    let raw ← ask (.signTransaction prior.signer next)
    let hash ← signed next raw
    let note := s!"replaced at nonce {prior.nonce} by {hash} offering {fee} (was {offered})"
    let sent ← (ask (.broadcast prior.signer raw)).attempt
    match sent with
    | .error err =>
      if definitelyRejected err then
        pure (false, s!"replacement at nonce {prior.nonce} refused: {err.described}")
      else do
        -- Ambiguous: it may be in a mempool, so it is followed like the original.
        Async.doing (·.setSlot prior (·.adopt next raw hash)) (outDeeds next)
        pure (true, s!"{note}, broadcast ambiguous: {err.described}")
    | .ok _ => do
      Async.doing (·.setSlot prior (·.adopt next raw hash)) (outDeeds next)
      recordBroadcast opts prior hash raw prior.landBy
      pure (true, note)

/-- `replaceAtSameNonce`. -/
def replaceAtSameNonce (prior : Slot) (given : Option FeeData) : Code (Bool × String) := do
  let fees ← match given with
    | some fees => pure fees
    | none => ask (.feeData prior.signer)
  let state ← slotState prior
  resignAt opts prior fees state.request

/-- The self-transfer that frees a slot's nonce, for the slot's latest request. -/
def cancelRequest (slot : Slot) (r : TransactionLike) (fees : FeeData) (estimate : Int) :
    TransactionLike :=
  let padded := estimate + estimate / 5
  let base : TransactionLike :=
    { call := .transfer slot.sender, nonce := slot.nonce
      gasLimit := if padded > 21000 then padded else 21000
      maxFeePerGas := none, maxPriorityFeePerGas := none, gasPrice := none }
  match r.maxFeePerGas with
  | some maxFee =>
    let fee := bumpFee maxFee (fees.maxFeePerGas.getD 0)
    let tip := bumpFee (r.maxPriorityFeePerGas.getD 0) (fees.maxPriorityFeePerGas.getD 0)
    { base with
      maxFeePerGas := some fee
      maxPriorityFeePerGas := some (if tip < fee then tip else fee) }
  | none => { base with gasPrice := some (bumpFee (r.gasPrice.getD 0) (fees.gasPrice.getD 0)) }

/-- The first part of `releaseSlot`: the self-transfer is signed once. -/
def signCancel (slot : Slot) : Code Unit := do
  let state ← slotState slot
  if state.cancel.isSome then pure ()
  else do
    let fees ← ask (.feeData slot.signer)
    let estimate ← ask (.estimateTransfer slot.signer slot.sender)
    let state ← slotState slot
    let cancel := cancelRequest slot state.request fees estimate
    let raw ← ask (.signTransaction slot.signer cancel)
    let hash ← signed cancel raw
    Async.modify (·.setSlot slot fun state =>
      { state with cancel := some (state.cancel.getD (hash, raw)) })

/-- The second part: the self-transfer is broadcast, and answered for only once a node is shown
to hold it. -/
def broadcastCancel (slot : Slot) (past : String) : Code (Option String × String) := do
  let state ← slotState slot
  match state.cancel with
  -- The first part has set it.
  | none => .stuck
  | some (hash, raw) => do
    let sent ← (ask (.broadcast slot.signer raw)).attempt
    match sent with
    | .ok _ => do
      recordBroadcast opts slot hash raw none
      pure (some hash, s!"{past}; freeing nonce {slot.nonce} with self-transfer {hash}")
    | .error err =>
      if err.code = some "NONCE_EXPIRED" then do
        Async.modify (·.setSlot slot fun state => { state with released := true })
        pure (none, s!"{past}; nonce {slot.nonce} is already consumed")
      else if definitelyRejected err then do
        Async.modify (·.setSlot slot fun state => { state with cancel := none })
        pure (none,
          s!"{past}; self-transfer {hash} to free nonce {slot.nonce} refused: {err.described}")
      else do
        let held ← (txState slot.signer hash).attempt
        match held with
        | .error readErr => pure (none, s!"{past}; self-transfer {hash} to free nonce {slot.nonce} " ++
            s!"unconfirmed ({err.described}; {readErr.described})")
        | .ok none => pure (none, s!"{past}; no node is shown to hold self-transfer {hash} to free " ++
            s!"nonce {slot.nonce}: {err.described}")
        | .ok (some held) => do
          recordBroadcast opts slot hash raw none
          let shown := match held with
            | .mined => "mined"
            | .pending => "pending"
          pure (some hash, s!"{past}; freeing nonce {slot.nonce} with self-transfer {hash} ({shown}): " ++
            err.described)

/-- `releaseSlot`: past `landBy`, free the nonce with a self-transfer. -/
def releaseSlot (slot : Slot) (landBy : Int) : Code (Option String × String) := do
  let past := s!"past {landBy}, when it could last land"
  let signed ← (signCancel slot).attempt
  match signed with
  | .error err => pure (none, s!"{past}; could not sign a self-transfer to free nonce {slot.nonce}: " ++
      err.described)
  | .ok _ => broadcastCancel opts slot past

/-- The slots of a key that are past their `landBy`, freed one by one. -/
def releaseEach (nowSec : Int) : List Slot → Code Unit
  | [] => .pure ()
  | slot :: rest =>
    match slot.landBy with
    | none => releaseEach nowSec rest
    | some landBy =>
      if nowSec < landBy then releaseEach nowSec rest
      else do
        let _ ← releaseSlot opts slot landBy
        releaseEach nowSec rest

/-- The in-doubt slots of a key that may still hold its nonces. -/
def Gateway.deadSlots (s : Gateway) (key : Nat × String) : List Slot :=
  (s.inDoubt.entries.map (·.2)).filter fun slot =>
    decide (slot.key = key) && slot.landBy.isSome &&
      (s.slotState slot).all fun state => !state.released

/-- `releaseDeadSlots`. -/
def releaseDeadSlots (key : Nat × String) (provider : Signer) : Code Unit := do
  let slots := (← Async.get).deadSlots key
  if slots.isEmpty then pure ()
  else do
    let sec ← nowSec [provider] false
    releaseEach opts sec slots

/-- The rest of `assignNonce`, once it is known whether the last send has expired, for what
dropping it does. -/
def afterLast (drop : Code Nat) (provider : Signer) (last : NonceRecord) (held : Option TxState)
    (expired : Bool) : Code Nat :=
  if expired then drop
  else if held = some .pending then pure (last.nonce + 1)
  else do
    let sent ← (ask (.broadcast provider last.raw)).attempt
    match sent with
    | .ok _ => pure (last.nonce + 1)
    | .error err =>
      if err.code = some "NONCE_EXPIRED" ∨ err.code = some "REPLACEMENT_UNDERPRICED" ∨
          alreadyHeld err.nodeMessage then
        pure (last.nonce + 1)
      else if definitelyRejected err then drop
      else do
        let again ← txState provider last.hash
        if again.isSome then pure (last.nonce + 1) else drop

/-- `assignNonce`: the node's pending count, or one past the last nonce broadcast from the key
while the count does not yet show it. -/
def assignNonce (key : Nat × String) (provider : Signer) (sender : String) : Code Nat := do
  let pending ← ask (.pendingCount provider sender)
  let drop : Code Nat := do
    Async.modify fun s => { s with lastNonce := s.lastNonce.delete key }
    pure pending
  match (← Async.get).lastNonce.get key with
  | none => drop
  | some last =>
    if pending > last.nonce then drop
    else do
      let held ← txState provider last.hash
      if held = some .mined then pure (last.nonce + 1)
      else do
        let late := decide ((← now) > last.expiresAtMs)
        let expired ← match late, last.landBy with
          | false, some landBy => do
            let sec ← nowSec [provider] false
            pure (decide (sec ≥ landBy))
          | late, _ => pure late
        afterLast drop provider last held expired

/-- What a receipt wait keeps from one pass to the next. -/
structure Wait where
  lastError : String
  lastHead : Option Nat
  missed : Nat

/-- What a pass saw of the head: the wait after it, and the base fee of a block that left the
slot out. -/
def Wait.head (w : Wait) (head : Head) : Wait × Option (Option Int) :=
  match w.lastHead with
  | none => ({ w with lastHead := some head.number }, none)
  | some last =>
    if head.number > last then
      ({ w with lastHead := some head.number, missed := w.missed + (head.number - last) },
        some head.baseFeePerGas)
    else (w, none)

/-- The head a pass reads, for a slot that has a last moment. -/
def waitHead (slot : Slot) (w : Wait) : Code (Option Head × Wait) :=
  match slot.landBy with
  | none => pure (none, w)
  | some _ => do
    let head ← (ask (.latestBlock slot.signer)).attempt
    match head with
    | .ok head => pure (head, w)
    | .error err => pure (none, { w with lastError := ": " ++ err.described })

/-- The receipts a pass reads. -/
def waitReceipt (slot : Slot) (w : Wait) : Code (Option TxOutcome × Wait) := do
  let state ← slotState slot
  let landed ← (receiptOf slot.signer state.hashes).attempt
  match landed with
  | .ok landed => pure (landed, w)
  | .error err => pure (none, { w with lastError := ": " ++ err.described })

/-- The rest of a pass where no replacement was adopted: a slot no node holds is broadcast
again. -/
def nudgeHeld (slot : Slot) (w : Wait) : Code Wait := do
  let state ← slotState slot
  let held ← txState slot.signer (lastHash state.hashes)
  match held with
  | some _ => pure w
  | none => do
    let _ ← rebroadcast opts slot
    pure w

/-- What a pass does after its pause: re-sign a slot that new blocks leave out, or re-broadcast
what the node does not hold. -/
def nudge (slot : Slot) (newBlock : Option (Option Int)) (w : Wait) : Code Wait := do
  let adopted ← match newBlock with
    | none => pure false
    | some headBaseFee => do
      let fees ← ask (.feeData slot.signer)
      let state ← slotState slot
      if belowInclusion state.request headBaseFee fees ||
          decide (w.missed ≥ opts.replaceInDoubtAfterBlocks.getD 3) then do
        let replaced ← replaceAtSameNonce opts slot (some fees)
        pure replaced.1
      else pure false
  if adopted then pure { w with missed := 0 } else nudgeHeld opts slot w

/-- The rest of a pass that saw nothing land: the deadline, or a pause and a nudge. -/
def passOn (method : String) (slot : Slot) (deadline : Int) (followed : String → TxOutcome)
    (newBlock : Option (Option Int)) (w : Wait) : Code (TxOutcome ⊕ Wait) := do
  if (← now) ≥ deadline then
    pure (.inl (followed s!"no receipt for {method} within {opts.receiptTimeout}ms{w.lastError}"))
  else do
    ask (.pause opts.receiptPoll)
    let nudged ← (nudge opts slot newBlock w).attempt
    match nudged with
    | .ok w => pure (.inr w)
    | .error err => pure (.inr { w with lastError := ": " ++ err.described })

/-- Past its last moment: the slot is freed. -/
def passLast (method : String) (slot : Slot) (hashes : List String) (landBy : Int) :
    Code TxOutcome := do
  let released ← releaseSlot opts slot landBy
  let reason := s!"no receipt for {method}; {released.2}"
  match released.1 with
  | some cancelTxHash =>
    pure (.cancelled (lastHash hashes) hashes cancelTxHash reason slot.sender slot.nonce)
  | none => pure (.in_doubt (lastHash hashes) hashes (some (slot.sender, slot.nonce)) reason)

/-- One pass of a receipt wait: its outcome, or the wait after it. -/
def receiptPass (method : String) (slot : Slot) (deadline : Int) (w : Wait) :
    Code (TxOutcome ⊕ Wait) := do
  -- The head is read before the receipts: what decides `landBy` is seen as landed.
  let (head, w) ← waitHead slot w
  let (landed, w) ← waitReceipt slot w
  match landed with
  | some landed => pure (.inl landed)
  | none => do
    let hashes := (← slotState slot).hashes
    let followed (reason : String) : TxOutcome :=
      .in_doubt (lastHash hashes) hashes (some (slot.sender, slot.nonce)) reason
    match head, slot.landBy with
    | some head, some landBy =>
      if head.timestamp ≥ landBy then do
        let outcome ← passLast opts method slot hashes landBy
        pure (.inl outcome)
      else passOn opts method slot deadline followed (w.head head).2 (w.head head).1
    | _, _ => passOn opts method slot deadline followed none w

/-- `awaitReceipt`, from a pass on. -/
def awaitReceipt (method : String) (slot : Slot) (deadline : Int) : Nat → Wait → Code TxOutcome
  | 0, _ => .stuck
  | fuel + 1, w => do
    let pass ← receiptPass opts method slot deadline w
    match pass with
    | .inl outcome => pure outcome
    | .inr w => awaitReceipt method slot deadline fuel w

/-- `serialized`: run after every earlier send from the same `${chainId}:${address}` has left
the queue. -/
def serialized {α : Type} (signer : Signer) (run : Nat × String → Code α) : Code α := do
  let chainId ← ask (.network signer)
  let address ← ask (.address signer)
  let key := (chainId, asciiLower address)
  queued (.send key) (run key)

/-- `SendPlan`, of a fill or a claim. -/
structure SendPlan where
  signer : Signer
  call : ContractCall
  inDoubtKey : Action
  orderId : String
  landBy : Int
  recheck : Code Unit

/-- The slot of a first signing. -/
def newSlot (plan : SendPlan) (key : Nat × String) (sender : String) (request : TransactionLike)
    (raw hash : String) : Code Slot := do
  let s ← Async.get
  let slot : Slot :=
    { id := s.slots.length, key := key, signer := plan.signer, sender := sender
      nonce := request.nonce
      originalFee := (request.maxFeePerGas <|> request.gasPrice).getD 0
      landBy := some plan.landBy, orderId := some plan.orderId }
  let state : SlotState :=
    { request := request, raw := raw, hashes := [hash], passes := 0, cancel := none
      released := false }
  Async.modify fun s => { s with slots := s.slots ++ [state] }
  pure slot

/-- What `send` does inside its queue: simulate, sign and broadcast. The slot, its first hash,
and what a failed broadcast threw. -/
def sendQueued (plan : SendPlan) (key : Nat × String) : Code (Slot × String × Option Thrown) := do
  plan.recheck
  let simulated ← (ask (.staticCall plan.signer plan.call)).attempt
  match simulated with
  | .error err => .throw (.refusal .simulation_failed
      s!"{plan.call.method} would revert: {err.described}" none)
  | .ok _ => do
    releaseDeadSlots opts key plan.signer
    let sender ← ask (.address plan.signer)
    let nonce ← assignNonce key plan.signer sender
    let filled ← ask (.populate plan.signer plan.call nonce)
    let request : TransactionLike :=
      { call := plan.call, nonce := nonce, gasLimit := filled.gasLimit
        maxFeePerGas := filled.maxFeePerGas
        maxPriorityFeePerGas := filled.maxPriorityFeePerGas, gasPrice := filled.gasPrice }
    let raw ← ask (.signTransaction plan.signer request)
    let hash ← signed request raw
    let slot ← newSlot plan key sender request raw hash
    let sent ← (ask (.broadcast plan.signer raw)).attempt
    match sent with
    | .error err => do
      Async.doing id (if definitelyRejected err then [] else outDeeds request)
      pure (slot, hash, some err)
    | .ok _ => do
      -- The node holds it: the next send from this key goes after it.
      Async.doing (·.recordBroadcast opts.receiptTimeout slot hash raw slot.landBy)
        (outDeeds request)
      pure (slot, hash, none)

/-- What a receipt wait's outcome leaves behind: an unresolved slot is kept under its key. -/
def keepOutcome (action : Action) (slot : Slot) (outcome : TxOutcome) : Code Unit :=
  match outcome with
  | .in_doubt .. | .cancelled .. =>
    Async.modify fun s => { s with inDoubt := s.inDoubt.set action slot }
  | .confirmed .. => Async.doing id [.saw action]
  | .reverted .. => Async.doing id [.resolved action slot.nonce]
  | .not_sent .. => pure ()

/-- `send`. -/
def send (fuel : Nat) (plan : SendPlan) : Code TxOutcome := do
  let (slot, hash, error) ← serialized plan.signer (sendQueued opts plan)
  let reason := match error with
    | some err => s!"broadcast of {plan.call.method} failed: {err.described}"
    | none => ""
  if error.any definitelyRejected then pure (.not_sent hash reason)
  else do
    -- An ambiguous broadcast is followed like an accepted one.
    let deadline := (← now) + opts.receiptTimeout
    let wait : Wait :=
      { lastError := if reason = "" then "" else ": " ++ reason, lastHead := none, missed := 0 }
    let outcome ← awaitReceipt opts plan.call.method slot deadline fuel wait
    keepOutcome plan.inDoubtKey slot outcome
    pure outcome

/-- `rescue`: keep an unresolved slot moving without ever leaving it. -/
def rescue (prior : Slot) (landBy : Int) : Code String := do
  let sec ← nowSec [prior.signer] false
  if sec ≥ landBy then do
    let released ← releaseSlot opts prior landBy
    pure released.2
  else do
    Async.modify (·.setSlot prior fun state => { state with passes := state.passes + 1 })
    let state ← slotState prior
    let due := decide (state.passes ≥ opts.replaceInDoubtAfterPasses.getD 3) ||
      decide (landBy - sec ≤ opts.replaceInDoubtWithinSec.getD 300)
    if due then do
      let replaced ← replaceAtSameNonce opts prior none
      if replaced.1 then pure replaced.2
      else do
        let again ← rebroadcast opts prior
        pure s!"{replaced.2}; {again}"
    else rebroadcast opts prior

/-- `guardInDoubt`: an earlier in-doubt send of the action is followed by observation before a
second one. -/
def guardInDoubt (key : Action) (doneCode : EscrowRefusal) (orderId : String)
    (isDone : Option Nat → Code Bool) (landBy : Int) : Code Unit := do
  match (← Async.get).inDoubt.get key with
  | none => pure ()
  | some prior => do
    let state ← slotState prior
    let resolved ← resolveSlot prior.signer state.hashes (some (prior.sender, prior.nonce))
      (some fun block => isDone (some block))
    match resolved with
    | .confirmed txHash blockNumber => do
      Async.doing (fun s => { s with inDoubt := s.inDoubt.delete key }) [.saw key]
      .throw (.refusal doneCode
        s!"earlier {key.text} {txHash} confirmed in block {blockNumber}" (some orderId))
    | .in_doubt txHash .. => do
      let done ← isDone none
      if done then do
        Async.doing (fun s => { s with inDoubt := s.inDoubt.delete key }) [.saw key]
        .throw (.refusal doneCode
          s!"earlier {key.text} {txHash} has no receipt, but the chain shows it done" (some orderId))
      else do
        let rescued ← rescue opts prior landBy
        .throw (.refusal .in_doubt
          s!"earlier {key.text} at nonce {prior.nonce} is unresolved; {rescued}" (some orderId))
    | _ =>
      Async.doing (fun s => { s with inDoubt := s.inDoubt.delete key }) [.resolved key prior.nonce]

end

end XochiSdk.Solver
