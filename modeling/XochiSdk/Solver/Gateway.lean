import XochiSdk.Solver.TxSender

/-!
# The escrow gateway

`packages/solver-sdk/src/escrow-gateway.ts`: accepting an award, filling it, and claiming what
the fill is repaid by. What only prints (`warn`, `onEvent`) and what only reports (the venue's
answer to an acceptance) is left out.
-/

namespace XochiSdk.Solver

open XochiSdk.Js XochiSdk.Library

/-! ## Digests -/

section

variable [Ethers]

/-- `typedDigest`. -/
def typedDigest (domainSeparator structHash : String) : String :=
  Ethers.keccak256 (Ethers.concat ["0x1901", domainSeparator, structHash])

/-- `fillAuthStructHash`. -/
def fillAuthStructHash (a : FillAuth) : String :=
  Ethers.keccak256 (Ethers.abiEncode
    [Ethers.keccak256 "FillAuth(bytes32 fillId,address filler,address to,address token,uint256 amount,uint256 deadline)",
      a.fillId, asciiLower a.filler, asciiLower a.recipient, asciiLower a.token, toString a.amount,
      toString a.deadline])

/-- `fillAuthDigest`. -/
def fillAuthDigest (domain : EscrowContractDomain) (a : FillAuth) : String :=
  typedDigest (Ethers.hashDomain "RiddlerFiller" "1" domain.chainId domain.verifyingContract)
    (fillAuthStructHash a)

/-- `fillAcceptanceStructHash`. -/
def fillAcceptanceStructHash (a : FillAcceptance) : String :=
  Ethers.keccak256 (Ethers.abiEncode
    [Ethers.keccak256 "FillAcceptance(bytes32 orderId,uint256 originChainId,address escrow,address filler,uint256 deadline,bytes32 fillAuth)",
      asciiLower a.orderId, toString a.originChainId, asciiLower a.escrow, asciiLower a.filler,
      toString a.deadline, asciiLower a.fillAuth])

/-- `fillAcceptanceDigest`. -/
def fillAcceptanceDigest (domain : EscrowContractDomain) (a : FillAcceptance) : String :=
  typedDigest (Ethers.hashDomain "RiddlerSolverBond" "2" domain.chainId domain.verifyingContract)
    (fillAcceptanceStructHash a)

/-- The digest of a prepared fill's FillAuth. -/
def PreparedFill.digest (prepared : PreparedFill) : String :=
  fillAuthDigest prepared.fillAuthDomain prepared.fillAuth

/-- `fillAcceptanceFor`. -/
def fillAcceptanceFor (v : PreparedFill) : FillAcceptance where
  orderId := v.orderId.text
  originChainId := v.fromChainId
  escrow := v.escrow
  filler := v.fillAuth.filler
  deadline := v.fillAuth.deadline
  fillAuth := v.digest

/-! ## Refusals -/

/-- A refusal that names its order. -/
def refuse {α : Type} (code : EscrowRefusal) (message : String) (prepared : PreparedFill) : Code α :=
  .throw (.refusal code message (some prepared.orderId.text))

/-- `requireOwnFillAuth`: the FillAuth names this signer and asks no more than it bid. -/
def requireOwnFillAuth (prepared : PreparedFill) (self : String) : Code Unit :=
  if asciiLower self ≠ asciiLower prepared.fillAuth.filler then
    refuse .fill_auth_mismatch
      s!"FillAuth names filler {prepared.fillAuth.filler}, this signer is {self}" prepared
  else if prepared.fillAuth.amount > prepared.bidOutput then
    refuse .fill_auth_mismatch (s!"FillAuth amount {prepared.fillAuth.amount} exceeds this " ++
      s!"solver's bid output {prepared.bidOutput}") prepared
  else pure ()

/-- `requireOneFillPerOrder`: an order accepted under one fillId is never accepted or filled
under another. -/
def requireOneFillPerOrder (prepared : PreparedFill) (s : Gateway) : Code Unit :=
  match s.acceptedOrders.get (asciiLower prepared.orderId.text) with
  | some prior =>
    if asciiLower prior.fillId ≠ asciiLower prepared.fillId.text then
      refuse .fill_auth_mismatch (s!"order {prepared.orderId.text} is already accepted under " ++
        s!"fillId {prior.fillId} (FillAuth {prior.fillAuthDigest}); fillId " ++
        s!"{prepared.fillId.text} would be a second fill the lock never repays") prepared
    else pure ()
  | none => pure ()

/-- `requireAcceptedFillAuth`: the very FillAuth the sent acceptance commits to, within this
solver's own bid. -/
def requireAcceptedFillAuth (prepared : PreparedFill) (accepted : FillAcceptance) : Code Unit :=
  if prepared.digest ≠ asciiLower accepted.fillAuth then
    refuse .fill_auth_mismatch (s!"FillAuth {prepared.digest} for fillId {prepared.fillId.text} is " ++
      s!"not the one this solver accepted ({accepted.fillAuth})") prepared
  else if prepared.fillAuth.amount > prepared.bidOutput then
    refuse .fill_auth_mismatch (s!"FillAuth amount {prepared.fillAuth.amount} exceeds this " ++
      s!"solver's bid output {prepared.bidOutput}") prepared
  else pure ()

/-- The acceptance in progress for the order is not this one's. -/
def requireSameAccepting (prepared : PreparedFill) (inFlight : Accepting) : Code Unit :=
  if asciiLower inFlight.fillId ≠ asciiLower prepared.fillId.text ∨
      inFlight.digest ≠ prepared.digest then
    refuse .fill_auth_mismatch (s!"FillAuth {prepared.digest} for fillId {prepared.fillId.text} " ++
      s!"while this gateway is accepting {inFlight.digest} for fillId {inFlight.fillId} of order " ++
      prepared.orderId.text) prepared
  else pure ()

end

/-- `checkFillWindow`, with the attester's and the claim's budget given. -/
def checkFillWindow (nowSec refundableAt fillAuthDeadline fillInclusionSec : Int) : Code Unit :=
  let landsBy := nowSec + fillInclusionSec
  let needed := landsBy + 120 + 300
  if needed ≥ refundableAt then
    .throw (.refusal .window_closed (s!"now {nowSec} + fill + attestation + margin = {needed} is " ++
      s!"not before refundableAt {refundableAt}") none)
  else if landsBy > fillAuthDeadline then
    .throw (.refusal .auth_expired
      s!"fill would land at {landsBy}, after the FillAuth deadline {fillAuthDeadline}" none)
  else pure ()

section

variable (opts : Options)

/-- `origin`. -/
def origin (chainId : Nat) (prepared : PreparedFill) : Code OriginChainConfig :=
  match opts.origins chainId with
  | some config => pure config
  | none => refuse .wrong_chain s!"origin chain {chainId} is not configured" prepared

/-- `destination`. -/
def destination (chainId : Nat) (prepared : PreparedFill) : Code DestinationChainConfig :=
  match opts.destinations chainId with
  | some config => pure config
  | none => refuse .wrong_chain s!"destination chain {chainId} is not configured" prepared

def Options.fillInclusion : Int := opts.fillInclusionSec.getD 60

def Options.claimInclusion : Int := opts.claimInclusionSec.getD 60

/-- The exact fill of a prepared award. -/
def PreparedFill.call (prepared : PreparedFill) (dest : DestinationChainConfig) : ContractCall :=
  .fill dest.fillerContract prepared.fillId.text prepared.fillAuth.recipient prepared.fillAuth.token
    prepared.fillAuth.amount prepared.fillAuth.deadline prepared.fillAuthSignature

/-- `isFilled`. -/
def isFilled (prepared : PreparedFill) (blockTag : Option Nat) : Code Bool := do
  let dest ← destination opts prepared.destinationChainId prepared
  ask (.filled dest.signer dest.fillerContract prepared.fillId.text blockTag)

/-- `lockStatus`. -/
def lockStatus (prepared : PreparedFill) (blockTag : Option Nat) : Code LockStatus := do
  let origin ← origin opts prepared.originChainId prepared
  ask (.locks origin.signer origin.escrow prepared.orderId.text blockTag)

/-- The loop of `owedInventory`. -/
def owedEach (dest : DestinationChainConfig) (sec : Int) : List (String × OwedFill) → Int → Code Int
  | [], owed => .pure owed
  | (fillId, f) :: rest, owed =>
    if sec > f.deadline then do
      Async.modify fun s => { s with owedFills := s.owedFills.delete fillId }
      owedEach dest sec rest owed
    else do
      let filled ← ask (.filled dest.signer dest.fillerContract fillId none)
      if filled then do
        Async.doing (fun s => { s with owedFills := s.owedFills.delete fillId })
          [.saw (.fill fillId)]
        owedEach dest sec rest owed
      else owedEach dest sec rest (owed + f.amount)

/-- `owedInventory`: what other accepted fills of the token still owe. -/
def owedInventory (prepared : PreparedFill) (dest : DestinationChainConfig) : Code Int := do
  let s ← Async.get
  let candidates := s.owedFills.entries.filter fun (fillId, f) =>
    decide (fillId ≠ prepared.fillId.text) && decide (f.chainId = prepared.destinationChainId) &&
      decide (f.token = asciiLower prepared.fillAuth.token) && !s.landed.has fillId
  if candidates.isEmpty then pure 0
  else do
    let sec ← nowSec [dest.signer] false
    owedEach dest sec candidates 0

/-- `fillPreflight`: what must hold for `fill` to land, read on the destination. -/
def fillPreflight (prepared : PreparedFill) (dest : DestinationChainConfig) (reserveOwed : Bool) :
    Code Unit := do
  let a := prepared.fillAuth
  let filled ← ask (.filled dest.signer dest.fillerContract prepared.fillId.text none)
  if filled then do
    Async.doing id [.saw (.fill prepared.fillId.text)]
    refuse .already_filled s!"fillId {prepared.fillId.text} is already filled" prepared
  else do
    let self ← ask (.address dest.signer)
    let owed ← if reserveOwed then owedInventory prepared dest else pure 0
    let balance ← ask (.balanceOf dest.signer a.token self)
    if balance < a.amount + owed then
      let on := if owed > 0 then s!" on top of {owed} owed to fills already accepted" else ""
      refuse .insufficient_inventory
        s!"holds {balance} of {a.token}, fill needs {a.amount}{on}" prepared
    else do
      let allowance ← ask (.allowance dest.signer a.token self dest.fillerContract)
      if allowance < a.amount then
        refuse .insufficient_allowance (s!"RiddlerFiller may spend {allowance} of {a.token}, fill " ++
          s!"needs {a.amount}; call ensureAllowance first") prepared
      else do
        let simulated ← (ask (.staticCall dest.signer (prepared.call dest))).attempt
        match simulated with
        | .error err => refuse .simulation_failed s!"fill would revert: {err.described}" prepared
        | .ok _ => pure ()

/-- `claimReadiness`: what must hold on the origin for the fill to be repaid. -/
def claimReadiness (prepared : PreparedFill) : Code (Option (EscrowRefusal × String)) := do
  let origin ← origin opts prepared.originChainId prepared
  let paused ← ask (.claimsPaused origin.signer origin.escrow)
  if paused then
    pure (some (.claims_paused, s!"RiddlerEscrow {origin.escrow} has claims paused"))
  else do
    let claimer ← ask (.address origin.signer)
    let gasBalance ← ask (.getBalance origin.signer claimer)
    let fees ← ask (.feeData origin.signer)
    match fees.maxFeePerGas <|> fees.gasPrice with
    | none => pure (some (.insufficient_claim_gas,
        s!"origin chain {prepared.originChainId} serves no fee data to budget the claim"))
    | some maxFee =>
      let claimCost := opts.claimGasBudget.getD 300000 * maxFee
      if gasBalance < claimCost then
        pure (some (.insufficient_claim_gas, s!"claim signer {claimer} holds {gasBalance} wei on " ++
          s!"chain {prepared.originChainId}, the claim budgets {claimCost}"))
      else pure none

end

section

variable (opts : Options) [Ethers]

/-! ## Accepting -/

/-- `recordOwedFill`. -/
def Gateway.recordOwedFill (prepared : PreparedFill) (s : Gateway) : Gateway :=
  { s with
    owedFills := s.owedFills.set prepared.fillId.text
      { chainId := prepared.destinationChainId, token := asciiLower prepared.fillAuth.token
        amount := prepared.fillAuth.amount, deadline := prepared.fillAuth.deadline } }

/-- An acceptance, recorded under its fillId and its order. -/
def Gateway.recordAccepted (prepared : PreparedFill) (signature : Option String) (s : Gateway) :
    Gateway :=
  let acceptance := fillAcceptanceFor prepared
  { s.recordOwedFill prepared with
    accepted := s.accepted.set prepared.fillId.text
      { acceptance := acceptance, digest := fillAcceptanceDigest prepared.bondDomain acceptance
        signature := signature }
    acceptedOrders := s.acceptedOrders.set (asciiLower prepared.orderId.text)
      { fillId := prepared.fillId.text, fillAuthDigest := prepared.digest } }

/-- `sign`, inside `signAcceptance`: recorded before the POST. -/
def sign (prepared : PreparedFill) (dest : DestinationChainConfig) : Code SignedAcceptance := do
  let acceptance := fillAcceptanceFor prepared
  let signature ← ask (.signFillAcceptance dest.signer prepared.bondDomain acceptance)
  Async.doing (·.recordAccepted prepared (some (asciiLower signature)))
    [.acceptanceSigned prepared acceptance]
  pure { acceptance := acceptance, digest := fillAcceptanceDigest prepared.bondDomain acceptance
         signature := asciiLower signature }

/-- What refuses a fresh acceptance, inside its token's queue. -/
def acceptChecks (prepared : PreparedFill) (dest : DestinationChainConfig) : Code Unit := do
  let acceptBudgetSec := opts.acceptBudgetSec.getD 15
  let origin ← origin opts prepared.originChainId prepared
  let sec ← nowSec [origin.signer, dest.signer] true
  if sec + acceptBudgetSec > prepared.acceptBy then
    refuse .accept_window_closed (s!"now {sec} + accept budget {acceptBudgetSec}s passes the " ++
      s!"venue's acceptBy {prepared.acceptBy}") prepared
  else do
    checkFillWindow sec prepared.lock.refundableAt prepared.fillAuth.deadline
      (opts.fillInclusion + acceptBudgetSec)
    fillPreflight prepared dest true
    let unclaimable ← claimReadiness opts prepared
    match unclaimable with
    | some (code, message) => refuse code s!"{message}; not accepting" prepared
    | none => pure ()

/-- `onSigned`, where it is given, and the POST, whose outcome is telemetry. -/
def handOver (prepared : PreparedFill) (o : AcceptOptions) (signed : SignedAcceptance) :
    Code SignedAcceptance := do
  if o.onSigned then ask (.onSigned signed.acceptance signed.digest signed.signature)
  let _ ← (ask (.acceptAward prepared.auctionId prepared.orderId.text signed.signature)).attempt
  pure signed

/-- `signAcceptance`: refuse or sign, then post. -/
def signAcceptance (prepared : PreparedFill) (o : AcceptOptions) : Code SignedAcceptance := do
  let dest ← destination opts prepared.destinationChainId prepared
  let self ← ask (.address dest.signer)
  requireOwnFillAuth prepared self
  let signed ← if o.resume then sign prepared dest
    else queued (.accept prepared.destinationChainId (asciiLower prepared.fillAuth.token)) do
      acceptChecks opts prepared dest
      sign prepared dest
  handOver prepared o signed

/-- The order's acceptance is registered before anything is awaited, and until it is done. -/
def startAccept (prepared : PreparedFill) (o : AcceptOptions) : Code SignedAcceptance := do
  let order := asciiLower prepared.orderId.text
  let done := (← Async.get).promises.length
  Async.modify fun s =>
    { s.promise with
      accepting := s.accepting.set order
        { fillId := prepared.fillId.text, digest := prepared.digest, done := done } }
  (signAcceptance opts prepared o).always (Async.modify fun s =>
    { s.settle done with accepting := s.accepting.delete order })

/-- `accept`. -/
def accept (prepared : PreparedFill) (o : AcceptOptions) : Nat → Code SignedAcceptance
  | 0 => .stuck
  | fuel + 1 => do
    if !opts.hasAcceptances then
      .throw (.error "escrow gateway: no acceptance transport configured")
    else do
      let s ← Async.get
      match s.accepting.get (asciiLower prepared.orderId.text) with
      | some inFlight => do
        requireSameAccepting prepared inFlight
        ask (.settled (some inFlight.done))
        accept prepared o fuel
      | none => do
        requireOneFillPerOrder prepared s
        match s.accepted.get prepared.fillId.text with
        | none => startAccept opts prepared o
        | some sent => do
          requireAcceptedFillAuth prepared sent.acceptance
          match sent.signature with
          | some signature =>
            handOver prepared o
              { acceptance := sent.acceptance, digest := sent.digest, signature := signature }
          -- Restored without its signature: already owed, so it is re-signed.
          | none => startAccept opts prepared { o with resume := true }

/-- `restoreAcceptance`: an acceptance this solver already sent, signing and posting nothing. -/
def restoreAcceptance (prepared : PreparedFill) : Code Unit := do
  let dest ← destination opts prepared.destinationChainId prepared
  let self ← ask (.address dest.signer)
  requireOwnFillAuth prepared self
  -- Synchronous from here, so no `accept` interleaves with the checks.
  let s ← Async.get
  match s.accepting.get (asciiLower prepared.orderId.text) with
  | some inFlight => requireSameAccepting prepared inFlight
  | none => pure ()
  requireOneFillPerOrder prepared s
  match s.accepted.get prepared.fillId.text with
  | some sent => requireAcceptedFillAuth prepared sent.acceptance
  | none =>
    Async.doing (·.recordAccepted prepared none)
      [.acceptanceRestored prepared (fillAcceptanceFor prepared)]

/-! ## Filling -/

/-- The deadline, read inside the send queue. -/
def recheckFill (prepared : PreparedFill) (dest : DestinationChainConfig) : Code Unit := do
  let sec ← nowSec [dest.signer] false
  if sec > prepared.fillAuth.deadline then
    refuse .auth_expired (s!"destination time {sec} passed the FillAuth deadline " ++
      s!"{prepared.fillAuth.deadline} while the fill waited to send") prepared
  else pure ()

/-- `sendFill`. -/
def sendFill (fuel : Nat) (prepared : PreparedFill) : Code TxOutcome := do
  let dest ← destination opts prepared.destinationChainId prepared
  let a := prepared.fillAuth
  guardInDoubt opts (.fill prepared.fillId.text) .already_filled prepared.orderId.text
    (isFilled opts prepared) (a.deadline + 1)
  let destNow ← nowSec [dest.signer] false
  if destNow > a.deadline then
    refuse .auth_expired
      s!"destination time {destNow} is past the FillAuth deadline {a.deadline}" prepared
  else do
    -- Advisory only: what the origin's time and the claim path read only warns.
    let _ ← (do
      let origin ← origin opts prepared.originChainId prepared
      nowSec [origin.signer] true : Code Int).attempt
    fillPreflight prepared dest false
    let _ ← (claimReadiness opts prepared).attempt
    send opts fuel
      { signer := dest.signer, call := prepared.call dest
        inDoubtKey := .fill prepared.fillId.text, orderId := prepared.orderId.text
        landBy := a.deadline + 1, recheck := recheckFill prepared dest }

/-- A fill that is under way: what its outcome leaves behind. -/
def fillUnderWay (fuel : Nat) (prepared : PreparedFill) : Code TxOutcome := do
  let outcome ← sendFill opts fuel prepared
  match outcome with
  | .confirmed txHash blockNumber => Async.modify fun s =>
      { s with
        landed := s.landed.set prepared.fillId.text { txHash := txHash, blockNumber := blockNumber }
        owedFills := s.owedFills.delete prepared.fillId.text }
  | _ => pure ()
  pure outcome

/-- `fill`. -/
def fill (fuel : Nat) (prepared : PreparedFill) : Code TxOutcome := do
  let s ← Async.get
  requireOneFillPerOrder prepared s
  match s.accepted.get prepared.fillId.text with
  | none =>
    refuse .not_accepted
      s!"fillId {prepared.fillId.text} was never accepted; call accept first" prepared
  | some sent => do
    -- An accepted fillId is not a licence to send another FillAuth for it.
    requireAcceptedFillAuth prepared sent.acceptance
    match s.landed.get prepared.fillId.text with
    | some landed =>
      refuse .already_filled (s!"this gateway's fill {landed.txHash} of fillId " ++
        s!"{prepared.fillId.text} confirmed in block {landed.blockNumber}") prepared
    | none =>
      if s.filling.has prepared.fillId.text then
        refuse .in_doubt (s!"a fill of fillId {prepared.fillId.text} is already in progress in " ++
          "this gateway; follow it, never send a second") prepared
      else do
        Async.doing (fun s => { s with filling := s.filling.set prepared.fillId.text () })
          [.began (.fill prepared.fillId.text)]
        (fillUnderWay opts fuel prepared).always (Async.doing
          (fun s => { s with filling := s.filling.delete prepared.fillId.text })
          [.ended (.fill prepared.fillId.text)])

/-! ## Claiming -/

/-- `guardInDoubtClaim`. -/
def guardInDoubtClaim (prepared : PreparedFill) : Code Unit :=
  guardInDoubt opts (.claim prepared.orderId.text) .already_claimed prepared.orderId.text
    (fun blockTag => do
      let status ← lockStatus opts prepared blockTag
      pure (decide (status = .claimed)))
    prepared.lock.refundableAt

/-- The latest lock status; a claimed one is seen. -/
def seeLock (prepared : PreparedFill) : Code LockStatus := do
  let status ← lockStatus opts prepared none
  if status = .claimed then Async.doing id [.saw (.claim prepared.orderId.text)]
  pure status

/-- `checkWindow`, inside `claim`. -/
def checkClaimWindow (prepared : PreparedFill) (origin : OriginChainConfig) : Code Unit := do
  let sec ← nowSec [origin.signer] true
  let landsBy := sec + opts.claimInclusion
  if landsBy ≥ prepared.lock.refundableAt then
    refuse .window_closed (s!"claim would land at {landsBy}, not before refundableAt " ++
      s!"{prepared.lock.refundableAt}") prepared
  else pure ()

/-- `claim`. -/
def claim (fuel : Nat) (prepared : PreparedFill) (attestation : VerifiedAttestation) :
    Code TxOutcome := do
  let origin ← origin opts prepared.originChainId prepared
  guardInDoubtClaim opts prepared
  let status ← seeLock opts prepared
  if status = .claimed then
    refuse .already_claimed s!"lock {prepared.orderId.text} is already claimed" prepared
  else if status ≠ .opened then
    refuse .lock_not_open s!"lock {prepared.orderId.text} has status {status.text}" prepared
  else do
    checkClaimWindow opts prepared origin
    let call : ContractCall := .claim origin.escrow prepared.orderId.text attestation.proof
    let simulated ← (ask (.staticCall origin.signer call)).attempt
    match simulated with
    | .error err => refuse .simulation_failed s!"claim would revert: {err.described}" prepared
    | .ok payee =>
      if asciiLower payee ≠ asciiLower prepared.payee then
        refuse .attestation_mismatch s!"claim would pay {payee}, expected {prepared.payee}" prepared
      else
        send opts fuel
          { signer := origin.signer, call := call, inDoubtKey := .claim prepared.orderId.text
            orderId := prepared.orderId.text, landBy := prepared.lock.refundableAt
            recheck := checkClaimWindow opts prepared origin }

/-- The first `Claimed` log of a range that names who was paid. -/
def paidIn (prepared : PreparedFill) : List ClaimedLog → Option ClaimLoopResult
  | [] => none
  | log :: rest =>
    if log.removed then paidIn prepared rest
    else
      match log.payee with
      | none => paidIn prepared rest
      | some payee => some (if asciiLower payee = asciiLower prepared.payee then
          .claimed log.transactionHash else .claimed_by_other payee log.transactionHash)

/-- The scan of `whoClaimed`. -/
def scanClaimed (prepared : PreparedFill) (origin : OriginChainConfig) (head : Nat) :
    Nat → Nat → Code ClaimLoopResult
  | 0, _ => .stuck
  | fuel + 1, fromBlock =>
    if fromBlock ≤ head then do
      let maxRange := origin.maxLogRange.getD 2000
      let logs ← ask (.claimedLogs origin.signer origin.escrow prepared.orderId.text fromBlock
        (min head (fromBlock + maxRange - 1)))
      match paidIn prepared logs with
      | some result => pure result
      | none => scanClaimed prepared origin head fuel (fromBlock + maxRange)
    else .throw (.error (s!"lock {prepared.orderId.text} reads Claimed but no Claimed event is " ++
      s!"visible in blocks {prepared.lock.blockNumber}..{head}"))

/-- `whoClaimed`. -/
def whoClaimed (fuel : Nat) (prepared : PreparedFill) : Code ClaimLoopResult := do
  let origin ← origin opts prepared.originChainId prepared
  let head ← ask (.blockNumber origin.signer)
  scanClaimed prepared origin head fuel prepared.lock.blockNumber

/-- `afterWindow`. -/
def afterWindow (fuel : Nat) (prepared : PreparedFill) : Code ClaimLoopResult := do
  let closed : ClaimLoopResult :=
    .window_closed s!"no claim landed before refundableAt {prepared.lock.refundableAt}"
  let status ← (seeLock opts prepared).attempt
  match status with
  | .ok .refunded => pure (.lock_not_open .refunded)
  | .ok .claimed => do
    let who ← (whoClaimed opts fuel prepared).attempt
    match who with
    | .ok result => pure result
    | .error err => pure (.claimed_unverified s!"lock reads Claimed, but {err.described}")
  | _ => pure closed

/-- What the claim loop keeps from one pass to the next. -/
structure ClaimLoop where
  backoff : Int
  aheadMs : Int
  verified : Option VerifiedAttestation

/-- How a claim loop's pass ends: with a result, or with what it threw, if it did, and the loop
after it. -/
inductive PassEnd where
  | done (result : ClaimLoopResult)
  | again (threw : Option Thrown) (loop : ClaimLoop)

/-- The delay after a pass, and the loop with its next backoff: the `catch` of the pass. -/
def ClaimLoop.rest (pollMs maxBackoffMs : Int) (loop : ClaimLoop) : Option Thrown → Int × ClaimLoop
  | none | some (.refusal .in_doubt _ _) => (pollMs, { loop with backoff := pollMs })
  -- Claimed, by this loop's earlier send or by anyone: read who was paid.
  | some (.refusal .already_claimed _ _) => (0, loop)
  | some _ => (loop.backoff, { loop with backoff := min (loop.backoff * 2) maxBackoffMs })

/-- The latest attestation that verified, after one more fetch. -/
def fetchVerified (prepared : PreparedFill) (verified : Option VerifiedAttestation) :
    Code (Option VerifiedAttestation) := do
  let fetched ← (ask (.attestation prepared)).attempt
  match fetched, verified with
  | .ok fetched, _ => pure (fetched <|> verified)
  | .error err, none => .throw err
  | .error _, some verified => pure (some verified)

/-- What a pass reads first: its result, where the lock is no longer open. -/
def passLock (fuel : Nat) (prepared : PreparedFill) : Code (Option ClaimLoopResult) := do
  let status ← seeLock opts prepared
  match status with
  | .claimed => do
    let result ← whoClaimed opts fuel prepared
    pure (some result)
  | .refunded => pure (some (.lock_not_open status))
  | .none => .throw (.error (s!"lock reads status {status.text}; prepare saw it Open at a safe " ++
      "block, so this node is lagging or misrouted"))
  | .opened => pure none

/-- The claim of a pass, once an attestation has verified. -/
def passClaim (fuel : Nat) (prepared : PreparedFill) (verified : Option VerifiedAttestation) :
    Code (Option ClaimLoopResult) :=
  match verified with
  | none => pure none
  | some attestation => do
    let outcome ← claim opts fuel prepared attestation
    match outcome with
    | .confirmed txHash _ => pure (some (.claimed txHash))
    | _ => pure none

/-- One pass of the claim loop, from its read of the lock. -/
def claimPass (fuel : Nat) (prepared : PreparedFill) (lastSendSec : Int) (loop : ClaimLoop) :
    Code PassEnd := do
  let lock ← (passLock opts fuel prepared).attempt
  match lock with
  | .error err => pure (.again (some err) loop)
  | .ok (some result) => pure (.done result)
  | .ok none => do
    let chain ← (do
      let origin ← origin opts prepared.originChainId prepared
      nowSec [origin.signer] true : Code Int).attempt
    match chain with
    | .error err => pure (.again (some err) loop)
    | .ok chainNow => do
      let clock ← now
      Async.doing id [.clockRead clock]
      let loop := { loop with aheadMs := max 0 (chainNow * 1000 - clock) }
      if chainNow ≥ lastSendSec then do
        let result ← afterWindow opts fuel prepared
        pure (.done result)
      else do
        let verified ← (do
          guardInDoubtClaim opts prepared
          fetchVerified prepared loop.verified : Code (Option VerifiedAttestation)).attempt
        match verified with
        | .error err => pure (.again (some err) loop)
        | .ok verified => do
          let loop := { loop with verified := verified }
          let claimed ← (passClaim opts fuel prepared verified).attempt
          match claimed with
          | .error err => pure (.again (some err) loop)
          | .ok (some result) => pure (.done result)
          | .ok none => pure (.again none loop)

/-- An attempt at an action, marked from its start to its end. -/
def attempted {α : Type} (action : Action) (run : Code α) : Code α := do
  Async.doing id [.began action]
  run.always (Async.doing id [.ended action])

def Options.lastSendSec (prepared : PreparedFill) : Int :=
  prepared.lock.refundableAt - opts.claimInclusion

/-- Never past the last moment a claim could still be sent: what is left is halved instead. -/
def sleepMs (delayMs leftMs : Int) : Int :=
  if delayMs ≥ leftMs then max 0 (min leftMs (max 1000 (leftMs / 2))) else delayMs

/-- What a pass that does not return leaves: what it threw, if it did, the sleep before the next
one, and the loop after it. -/
structure Rest where
  threw : Option Thrown
  delayMs : Int
  loop : ClaimLoop

/-- One turn of the claim loop, up to its sleep. -/
def claimTurn (prepared : PreparedFill) (o : ClaimLoopOptions) (fuel : Nat) (loop : ClaimLoop) :
    Code (ClaimLoopResult ⊕ Rest) := do
  let lastSendSec := opts.lastSendSec prepared
  let s ← Async.get
  if o.signal.any fun signal => s.aborted.contains signal then pure (.inl .aborted)
  else if s.clock / 1000 ≥ lastSendSec then do
    let result ← afterWindow opts fuel prepared
    pure (.inl result)
  else do
    let pass ← attempted (.claim prepared.orderId.text)
      (claimPass opts fuel prepared lastSendSec loop)
    match pass with
    | .done result => pure (.inl result)
    | .again threw loop => do
      let next := loop.rest (o.pollMs.getD 15000) (o.maxBackoffMs.getD 120000) threw
      let clock ← now
      let leftMs := lastSendSec * 1000 - (clock + loop.aheadMs)
      pure (.inr { threw := threw, delayMs := sleepMs next.1 leftMs, loop := next.2 })

/-- The loop of `runClaimLoop`, from a turn on. -/
def claimTurns (prepared : PreparedFill) (o : ClaimLoopOptions) : Nat → ClaimLoop →
    Code ClaimLoopResult
  | 0, _ => .stuck
  | fuel + 1, loop => do
    let turn ← claimTurn opts prepared o fuel loop
    match turn with
    | .inl result => pure result
    | .inr rest => do
      ask (.pause rest.delayMs)
      claimTurns prepared o fuel rest.loop

/-- The loop before its first turn. -/
def ClaimLoopOptions.start (o : ClaimLoopOptions) : ClaimLoop :=
  { backoff := o.pollMs.getD 15000, aheadMs := 0, verified := none }

/-- `runClaimLoop`. -/
def runClaimLoop (fuel : Nat) (prepared : PreparedFill) (o : ClaimLoopOptions) :
    Code ClaimLoopResult := do
  let _ ← origin opts prepared.originChainId prepared
  claimTurns opts prepared o fuel o.start

/-- `claimUntilRefundable`: one loop per order, which a second caller joins. -/
def claimUntilRefundable (fuel : Nat) (prepared : PreparedFill) (o : ClaimLoopOptions) :
    Code Unit := do
  if !opts.hasAttestations then
    .throw (.error "escrow gateway: no attestation source configured")
  else do
    let order := asciiLower prepared.orderId.text
    let s ← Async.get
    match s.claimLoops.get order with
    | some running => ask (.settled (some running))
    | none => do
      let running := s.promises.length
      Async.modify fun s => { s.promise with claimLoops := s.claimLoops.set order running }
      let _ ← (runClaimLoop opts fuel prepared o).always
        (Async.modify fun s => { s.settle running with claimLoops := s.claimLoops.delete order })
      pure ()

/-! ## The gateway's calls -/

/-- A call of the gateway. -/
inductive Call where
  | accept (prepared : PreparedFill) (o : AcceptOptions)
  | restoreAcceptance (prepared : PreparedFill)
  | fill (prepared : PreparedFill)
  | claim (prepared : PreparedFill) (attestation : VerifiedAttestation)
  | claimUntilRefundable (prepared : PreparedFill) (o : ClaimLoopOptions)

/-- A call's code, whatever it returns. -/
def Call.code (fuel : Nat) : Call → Code Unit
  | .accept prepared o => (Solver.accept opts prepared o fuel).bind fun _ => .pure ()
  | .restoreAcceptance prepared => Solver.restoreAcceptance opts prepared
  | .fill prepared => (Solver.fill opts fuel prepared).bind fun _ => .pure ()
  | .claim prepared attestation =>
    (attempted (.claim prepared.orderId.text) (Solver.claim opts fuel prepared attestation)).bind
      fun _ => .pure ()
  | .claimUntilRefundable prepared o => Solver.claimUntilRefundable opts fuel prepared o

end

end XochiSdk.Solver
