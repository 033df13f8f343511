import XochiSdk.Js.Map
import XochiSdk.Js.Text
import XochiSdk.Library.Async
import Mathlib.Algebra.Order.Ring.Int

/-!
# The solver's escrow gateway: its data

`packages/solver-sdk/src/escrow-gateway.ts` and `tx-sender.ts`: what the gateway keeps, what it
asks nodes, wallets and the venue, and what it is seen to do.
-/

namespace XochiSdk.Solver

open XochiSdk.Js XochiSdk.Library

/-- A bytes32 as `computeOrderId` and `verifyAward` spell one. -/
structure Bytes32 where
  text : String
  hex : isHexOfLength 64 text = true
  lower : asciiLower text = text
  deriving DecidableEq

attribute [simp] Bytes32.lower

/-- `EscrowRefusal`. -/
inductive EscrowRefusal where
  | malformed_award
  | wrong_escrow
  | wrong_chain
  | order_id_mismatch
  | announcement_mismatch
  | not_evm_fillable
  | fill_auth_mismatch
  | not_final
  | opened_mismatch
  | lock_not_open
  | window_closed
  | auth_expired
  | already_filled
  | insufficient_inventory
  | insufficient_allowance
  | simulation_failed
  | in_doubt
  | attestation_mismatch
  | already_claimed
  | bond_mismatch
  | not_accepted
  | accept_window_closed
  | claims_paused
  | insufficient_claim_gas
  deriving DecidableEq

/-- A provider's or a signer's error: ethers' `code`, the node's own message, and what
`describeRevert` prints of it. -/
structure NodeError where
  code : Option String
  nodeMessage : String
  described : String
  deriving DecidableEq

/-- What the gateway's code throws: an `EscrowRefusalError`, an `Error` of its own, or what
an awaited call threw. -/
inductive Thrown where
  | refusal (code : EscrowRefusal) (message : String) (orderId : Option String)
  | error (message : String)
  | node (err : NodeError)
  deriving DecidableEq

/-- `err.message`, or `describeRevert` of a node's error. -/
def Thrown.described : Thrown → String
  | .refusal _ message _ | .error message => message
  | .node err => err.described

/-- `codeOf`. -/
def Thrown.code : Thrown → Option String
  | .node err => err.code
  | _ => none

/-- `nodeMessage`. -/
def Thrown.nodeMessage : Thrown → String
  | .node err => err.nodeMessage
  | _ => ""

/-- `TxOutcome`. -/
inductive TxOutcome where
  | confirmed (txHash : String) (blockNumber : Nat)
  | reverted (txHash : String) (blockNumber : Nat)
  | not_sent (txHash reason : String)
  | in_doubt (txHash : String) (hashes : List String) (slot : Option (String × Nat))
      (reason : String)
  | cancelled (txHash : String) (hashes : List String) (cancelTxHash reason sender : String)
      (nonce : Nat)

def TxOutcome.txHash : TxOutcome → String
  | .confirmed txHash _ | .reverted txHash _ | .not_sent txHash _ | .in_doubt txHash ..
  | .cancelled txHash .. => txHash

/-- A signer, connected to its chain's provider. -/
structure Signer where
  id : Nat
  deriving DecidableEq

structure FillAuth where
  fillId : String
  filler : String
  /-- `to`. -/
  recipient : String
  token : String
  amount : Int
  deadline : Int
  deriving DecidableEq

structure EscrowContractDomain where
  chainId : Int
  verifyingContract : String
  deriving DecidableEq

/-- The SolverBond acceptance of one issued FillAuth. -/
structure FillAcceptance where
  orderId : String
  originChainId : Int
  escrow : String
  filler : String
  deadline : Int
  fillAuth : String
  deriving DecidableEq

/-- `OpenedLock`, as far as the gateway reads it. -/
structure OpenedLock where
  refundableAt : Int
  blockNumber : Nat
  deriving DecidableEq

/-- `PreparedFill`: an award verified end to end. -/
structure PreparedFill where
  orderId : Bytes32
  fillId : Bytes32
  /-- `terms.fromChainId` and `terms.escrow`. -/
  fromChainId : Int
  escrow : String
  fillAuth : FillAuth
  fillAuthSignature : String
  fillAuthDomain : EscrowContractDomain
  payee : String
  acceptBy : Int
  auctionId : String
  originChainId : Nat
  destinationChainId : Nat
  lock : OpenedLock
  bondDomain : EscrowContractDomain
  bidOutput : Int
  deriving DecidableEq

structure VerifiedAttestation where
  proof : String
  deriving DecidableEq

/-- A fill, by its fillId, or a claim, by its orderId: what an in-doubt slot is kept under. -/
inductive Action where
  | fill (fillId : String)
  | claim (orderId : String)
  deriving DecidableEq

/-- The key's text. -/
def Action.text : Action → String
  | .fill fillId => "fill:" ++ fillId
  | .claim orderId => "claim:" ++ orderId

/-- The contract call a transaction carries. -/
inductive ContractCall where
  | fill (filler fillId recipient token : String) (amount deadline : Int) (auth : String)
  | claim (escrow orderId proof : String)
  /-- Nothing: a zero-value transfer to the sender itself. -/
  | transfer (recipient : String)
  deriving DecidableEq

/-- What the call is for. -/
def ContractCall.action : ContractCall → Option Action
  | .fill _ fillId .. => some (.fill fillId)
  | .claim _ orderId _ => some (.claim orderId)
  | .transfer _ => none

def ContractCall.method : ContractCall → String
  | .fill .. => "fill"
  | .claim .. => "claim"
  | .transfer _ => "transfer"

/-- `TransactionLike`, populated. -/
structure TransactionLike where
  call : ContractCall
  nonce : Nat
  gasLimit : Int
  maxFeePerGas : Option Int
  maxPriorityFeePerGas : Option Int
  gasPrice : Option Int
  deriving DecidableEq

/-- What `populateTransaction` fills in. -/
structure Populated where
  gasLimit : Int
  maxFeePerGas : Option Int
  maxPriorityFeePerGas : Option Int
  gasPrice : Option Int

structure FeeData where
  gasPrice : Option Int
  maxFeePerGas : Option Int
  maxPriorityFeePerGas : Option Int

/-- `ethers.Block`. -/
structure Head where
  number : Nat
  timestamp : Int
  baseFeePerGas : Option Int

structure TransactionReceipt where
  succeeded : Bool
  blockNumber : Nat

/-- Where a node shows a transaction it knows. -/
inductive TxState where
  | mined
  | pending
  deriving DecidableEq

/-- A `Claimed` log, parsed where it parses. -/
structure ClaimedLog where
  removed : Bool
  payee : Option String
  transactionHash : String

/-- `LockStatus`. -/
inductive LockStatus where
  | none
  | opened
  | claimed
  | refunded
  deriving DecidableEq

def LockStatus.text : LockStatus → String
  | .none => "0"
  | .opened => "1"
  | .claimed => "2"
  | .refunded => "3"

/-- What the code awaits from nodes, signers, the venue, its caller, the clock and other calls
of the same gateway. -/
inductive Ask where
  | network (node : Signer)
  | address (signer : Signer)
  | latestBlock (node : Signer)
  | blockNumber (node : Signer)
  | transactionCount (node : Signer) (sender : String) (block : Nat)
  | pendingCount (node : Signer) (sender : String)
  | transactionReceipt (node : Signer) (hash : String)
  | transactionByHash (node : Signer) (hash : String)
  | feeData (node : Signer)
  | estimateTransfer (node : Signer) (sender : String)
  | populate (signer : Signer) (call : ContractCall) (nonce : Nat)
  | signTransaction (signer : Signer) (request : TransactionLike)
  | broadcast (node : Signer) (raw : String)
  | staticCall (signer : Signer) (call : ContractCall)
  | filled (node : Signer) (filler fillId : String) (blockTag : Option Nat)
  | locks (node : Signer) (escrow orderId : String) (blockTag : Option Nat)
  | claimedLogs (node : Signer) (escrow orderId : String) (fromBlock toBlock : Nat)
  | balanceOf (node : Signer) (token owner : String)
  | allowance (node : Signer) (token owner spender : String)
  | claimsPaused (node : Signer) (escrow : String)
  | getBalance (node : Signer) (account : String)
  | signFillAcceptance (signer : Signer) (domain : EscrowContractDomain)
      (acceptance : FillAcceptance)
  | onSigned (acceptance : FillAcceptance) (digest signature : String)
  | acceptAward (auctionId orderId signature : String)
  /-- `fetchAttestation`: the venue's attestation, checked. -/
  | attestation (prepared : PreparedFill)
  | pause (ms : Int)
  /-- A promise of this gateway's own; `none` is a resolved one. -/
  | settled (promise : Option Nat)
  deriving DecidableEq

/-- What each is answered with. -/
@[reducible] def Ask.Answer : Ask → Type
  | .network _ => Nat
  | .address _ => String
  | .latestBlock _ => Option Head
  | .blockNumber _ => Nat
  | .transactionCount .. | .pendingCount .. => Nat
  | .transactionReceipt .. => Option TransactionReceipt
  | .transactionByHash .. => Option TxState
  | .feeData _ => FeeData
  | .estimateTransfer .. => Int
  | .populate .. => Populated
  | .signTransaction .. => String
  | .broadcast .. => Unit
  | .staticCall .. => String
  | .filled .. => Bool
  | .locks .. => LockStatus
  | .claimedLogs .. => List ClaimedLog
  | .balanceOf .. | .allowance .. | .getBalance .. => Int
  | .claimsPaused .. => Bool
  | .signFillAcceptance .. => String
  | .onSigned .. | .acceptAward .. | .pause _ | .settled _ => Unit
  | .attestation _ => Option VerifiedAttestation

/-- What the gateway is seen to do: the marks of an attempt at an action, its signings and
what it learns of them. -/
inductive Deed where
  /-- An attempt at the action starts, in which it may be sent. -/
  | began (action : Action)
  | ended (action : Action)
  | signed (call : ContractCall) (nonce : Nat) (hash : String)
  /-- The signing's broadcast was accepted or ambiguous. -/
  | out (action : Action) (nonce : Nat)
  /-- The slot reverted, or was consumed with the action's effect absent. -/
  | resolved (action : Action) (nonce : Nat)
  /-- A confirmed receipt of the action, or the action done on chain. -/
  | saw (action : Action)
  /-- The local clock, read to be compared with the origin's time. -/
  | clockRead (ms : Int)
  | acceptanceSigned (prepared : PreparedFill) (acceptance : FillAcceptance)
  | acceptanceRestored (prepared : PreparedFill) (acceptance : FillAcceptance)
  deriving DecidableEq

/-- The fixed part of `InDoubtSend`, and the place of the rest. -/
structure Slot where
  id : Nat
  key : Nat × String
  signer : Signer
  sender : String
  nonce : Nat
  originalFee : Int
  landBy : Option Int
  orderId : Option String
  deriving DecidableEq

/-- The part of `InDoubtSend` that is assigned to. -/
structure SlotState where
  request : TransactionLike
  raw : String
  hashes : List String
  passes : Nat
  cancel : Option (String × String)
  released : Bool

/-- The last transaction broadcast from a `${chainId}:${address}`. -/
structure NonceRecord where
  nonce : Nat
  hash : String
  raw : String
  landBy : Option Int
  expiresAtMs : Int

structure Accepted where
  acceptance : FillAcceptance
  digest : String
  signature : Option String

structure AcceptedOrder where
  fillId : String
  fillAuthDigest : String

/-- The acceptance being signed for an order right now. -/
structure Accepting where
  fillId : String
  digest : String
  done : Nat

structure OwedFill where
  chainId : Nat
  token : String
  amount : Int
  deadline : Int

structure Landed where
  txHash : String
  blockNumber : Nat

/-- What a caller of `accept` asks for: whether the acceptance is already owed, and whether
`onSigned` is given. -/
structure AcceptOptions where
  resume : Bool
  onSigned : Bool

/-- An acceptance this gateway has signed. -/
structure SignedAcceptance where
  acceptance : FillAcceptance
  digest : String
  signature : String

/-- `ClaimLoopOptions`. -/
structure ClaimLoopOptions where
  signal : Option Nat
  pollMs : Option Int
  maxBackoffMs : Option Int

/-- `ClaimLoopResult`. -/
inductive ClaimLoopResult where
  | claimed (txHash : String)
  | claimed_by_other (payee txHash : String)
  | claimed_unverified (reason : String)
  | lock_not_open (lockStatus : LockStatus)
  | window_closed (reason : String)
  | aborted

/-- The two families of queues. -/
inductive Queue where
  | accept (chainId : Nat) (token : String)
  | send (key : Nat × String)
  deriving DecidableEq

/-- The state of a gateway and its sender, the clock (`now`, in ms) and the abort signals it
reads. -/
structure Gateway where
  accepted : JsMap String Accepted
  acceptedOrders : JsMap String AcceptedOrder
  accepting : JsMap String Accepting
  filling : JsMap String Unit
  landed : JsMap String Landed
  owedFills : JsMap String OwedFill
  claimLoops : JsMap String Nat
  queues : JsMap Queue Nat
  inDoubt : JsMap Action Slot
  lastNonce : JsMap (Nat × String) NonceRecord
  slots : List SlotState
  /-- Promises made so far: whether each has settled. -/
  promises : List Bool
  clock : Int
  aborted : List Nat

/-- A gateway just constructed. -/
def Gateway.created (clock : Int) : Gateway where
  accepted := .empty
  acceptedOrders := .empty
  accepting := .empty
  filling := .empty
  landed := .empty
  owedFills := .empty
  claimLoops := .empty
  queues := .empty
  inDoubt := .empty
  lastNonce := .empty
  slots := []
  promises := []
  clock := clock
  aborted := []

structure OriginChainConfig where
  signer : Signer
  escrow : String
  maxLogRange : Option Nat

structure DestinationChainConfig where
  signer : Signer
  fillerContract : String

/-- `OnchainEscrowGatewayOptions`. -/
structure Options where
  origins : Nat → Option OriginChainConfig
  destinations : Nat → Option DestinationChainConfig
  hasAttestations : Bool
  hasAcceptances : Bool
  fillInclusionSec : Option Int
  claimInclusionSec : Option Int
  receiptTimeoutMs : Option Int
  receiptPollMs : Option Int
  replaceInDoubtAfterBlocks : Option Nat
  replaceInDoubtAfterPasses : Option Nat
  replaceInDoubtWithinSec : Option Int
  acceptBudgetSec : Option Int
  claimGasBudget : Option Int

/-- The gateway's code. -/
abbrev Code (α : Type) : Type := Async Gateway Deed Ask Ask.Answer Thrown α

/-- The third-party primitives the gateway computes with. -/
class Ethers where
  keccak256 : String → String
  /-- It prints lower-case hex. -/
  keccak256_lower : ∀ bytes, asciiLower (keccak256 bytes) = keccak256 bytes
  /-- `AbiCoder.encode`, over the printed values. -/
  abiEncode : List String → String
  /-- `TypedDataEncoder.hashDomain`, over name, version, chain id and contract. -/
  hashDomain : String → String → Int → String → String
  /-- `concat`. -/
  concat : List String → String

end XochiSdk.Solver
