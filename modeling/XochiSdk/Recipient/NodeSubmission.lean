import XochiSdk.Library.Async
import XochiSdk.Recipient.Record

/-!
# The submission boundary

`tools/recipient/src/node-submission.ts` and the callers of it in `chain.ts`: one run of
`NodeSubmission` around a wallet operation that may call `sendTx` any number of times, while it
runs and after, and what the run's outcome writes to the operation's journal record. The process
is the only one at the journal; its disk may fail.
-/

namespace XochiSdk.Recipient.Submission

open XochiSdk.Library

/-- A transaction is known by its hash. -/
abbrev TxHash : Type := String

/-- What the next journal write comes to: it is made, it is not, or it is made and its call still
throws (the sync after the rename, or the lock's release, fails). -/
inductive Disk where
  | writes
  | refuses
  | writesAndThrows
  deriving DecidableEq

/-- `diagnosticState.phase`. -/
inductive Phase where
  | simulate
  | hydrate
  | teeSign
  | prove
  | preSend
  deriving DecidableEq

/-- One run: whether its hook is armed, its diagnostic state, and the operation's record. -/
structure State where
  armed : Bool
  submissionBoundaryReached : Bool
  sendTxReached : Bool
  phase : Phase
  record : OperationRecord
  /-- `active.lock` is the operation's. -/
  locked : Bool
  disk : Disk
  /-- `new Date().toISOString()`. -/
  now : String
  deriving DecidableEq

/-- What a call throws. -/
inductive Thrown where
  | error (message : String)
  | schema
  | disk
  | outside

/-- What the wrapped operation settles with. -/
structure Receipt where
  txHash : TxHash
  durablyIncluded : Bool
  /-- The withdrawals an exit records. -/
  withdrawals : Option (List Withdrawal)
  deriving DecidableEq

inductive Ask where
  /-- `await operation()`. -/
  | operation
  /-- The caller of `run` is resumed after it. -/
  | settled
  /-- `await armed.beforeSubmit(txHash)`. -/
  | hook
  /-- The node's own answer. -/
  | node
  deriving DecidableEq

@[reducible] def Ask.Answer : Ask → Type
  | .operation => Receipt
  | .settled | .hook | .node => Unit

/-- What is seen of a run. -/
inductive Deed where
  | called (tx : TxHash)
  | recorded (record : OperationRecord)
  /-- `sendTx` is suspended at its hook. -/
  | suspended (tx : TxHash)
  /-- A transaction is handed to a node. -/
  | handed (tx : TxHash)
  | disarmed
  /-- `failOrAbort` is called. -/
  | closing
  deriving DecidableEq

abbrev Code (α : Type) : Type := Async State Deed Ask Ask.Answer Thrown α

def ask (q : Ask) : Code q.Answer := Async.await q

/-! ## The journal -/

/-- The record `update` would write. -/
def State.next (s : State) (patch : Patch) : Except Thrown OperationRecord :=
  if s.locked = false then .error (.error "operation lock is unreadable; keep fund movement blocked")
  else if patch.follows s.record.status = false then
    .error (.error (s!"operation {s.record.id} cannot transition from {s.record.status.text} to " ++
      s!"{(patch.status.getD s.record.status).text}; keep fund movement blocked"))
  else
    match parseRecord (s.record.toRecordData.patched patch s.now) with
    | none => .error .schema
    | some next => .ok next

/-- The journal with a record written, and its lock released where the record is terminal. -/
def State.recording (s : State) (next : OperationRecord) : State :=
  { s with record := next, locked := !terminal next.status }

/-- What `update` changes. -/
def State.written (s : State) (patch : Patch) : State × List Deed :=
  match s.next patch, s.disk with
  | .ok next, .writes => (s.recording next, [.recorded next])
  | .ok next, .writesAndThrows => ({ s with record := next }, [.recorded next])
  | _, _ => (s, [])

/-- What `update` returns. -/
def State.reply (s : State) (patch : Patch) : Except Thrown OperationRecord :=
  match s.next patch, s.disk with
  | .ok next, .writes => .ok next
  | .ok _, _ => .error .disk
  | .error err, _ => .error err

/-- `journal.update`. -/
def update (patch : Patch) : Code OperationRecord :=
  .act (·.written patch) fun s => .ofExcept (s.reply patch)

/-- `failOrAbort(id, submissionBoundaryReached)`: a terminal record is left as it is. -/
def State.failOrAbort (s : State) : State × List Deed :=
  if terminal s.record.status then (s, [.closing])
  else
    let abort := aborts s.record.status (some s.submissionBoundaryReached)
    let wrote := s.written (failOrAbortPatch s.record.toRecordData abort)
    (wrote.1, .closing :: wrote.2)

/-- `sanitizeFundMovementFailure`: what `failOrAbort` throws is caught. -/
def sanitizeFundMovementFailure : Code Unit := .act State.failOrAbort fun _ => .pure ()

/-! ## The calls -/

/-- `beforeSubmit`. -/
def broadcastPatch (tx : TxHash) : Patch :=
  { Patch.empty with status := some .broadcast, txHash := some (some tx) }

def State.preSend (s : State) : State := { s with phase := .preSend, sendTxReached := true }

def State.reach (s : State) : State := { s with submissionBoundaryReached := true }

def State.disarm (s : State) : State := { s with armed := false }

/-- `sendTx` past its guards. -/
def submit (tx : TxHash) : Code Unit := do
  Async.modify State.preSend
  let _ ← update (broadcastPatch tx)
  Async.doing id [.suspended tx]
  ask .hook
  -- the flag is set and the transaction is handed over in one turn
  Async.doing State.reach [.handed tx]
  ask .node

/-- `sendTx`. -/
def sendTx (tx : TxHash) : Code Unit := do
  Async.doing id [.called tx]
  let s ← Async.get
  if !s.armed then
    Async.doing id [.handed tx]
    ask .node
  else if s.submissionBoundaryReached then
    .throw (.error "an operation attempted more than one Aztec node submission")
  else submit tx

/-- The patch of a run that ended well. -/
def completePatch (receipt : Receipt) : Patch :=
  { Patch.empty with
    status := some .complete
    txHash := some (some receipt.txHash)
    withdrawals := receipt.withdrawals.map some }

/-- What `run` comes to, from what its operation settled with. -/
def runOutcome (boundary : Bool) : Except Thrown Receipt → Except Thrown Receipt
  | .ok receipt =>
    if boundary then .ok receipt
    else .error (.error "recipient operation completed without an Aztec node submission")
  | .error err => .error err

/-- `run` from its `await operation()` on, in `submitOperations` in `spend` or `exit`. -/
def settle : Code Unit := do
  let result ← (ask .operation).attempt
  let s ← Async.get
  Async.doing State.disarm [.disarmed]
  ask .settled
  match runOutcome s.submissionBoundaryReached result with
  | .error _ => sanitizeFundMovementFailure
  | .ok receipt =>
    if receipt.durablyIncluded then
      (update (completePatch receipt)).attempt.bind fun
        | .ok _ => .pure ()
        | .error _ => sanitizeFundMovementFailure
    else sanitizeFundMovementFailure

/-- `onPreparedWithdrawals`. -/
def onPreparedWithdrawals (withdrawals : List Withdrawal) : Code Unit := do
  let _ ← update { Patch.empty with withdrawals := some (some withdrawals) }

/-- The calls of one run: what follows its operation, and what the operation calls. -/
inductive Call where
  | settle
  | sendTx (tx : TxHash)
  | onPreparedWithdrawals (withdrawals : List Withdrawal)

def Call.code : Call → Code Unit
  | .settle => Submission.settle
  | .sendTx tx => Submission.sendTx tx
  | .onPreparedWithdrawals withdrawals => Submission.onPreparedWithdrawals withdrawals

abbrev Trace : Type := List (Entry Deed Ask Ask.Answer Thrown)

abbrev RunScene : Type := Scene Unit State Deed Ask Ask.Answer Thrown

/-- The operation settles once; a hook that wrote the record is resumed, and so is the caller of
`run`. -/
@[reducible] def ready (_ : Unit) (s : State) : (q : Ask) → Except Thrown q.Answer → Prop
  | .operation, _ => s.armed = true
  | .hook, a | .settled, a => a.isOk = true
  | .node, _ => True

instance (w : Unit) (s : State) : (q : Ask) → (a : Except Thrown q.Answer) →
    Decidable (ready w s q a)
  | .operation, _ => inferInstanceAs (Decidable (s.armed = true))
  | .hook, a => inferInstanceAs (Decidable (a.isOk = true))
  | .settled, a => inferInstanceAs (Decidable (a.isOk = true))
  | .node, _ => inferInstanceAs (Decidable True)

/-- The disk and the clock are the world's. -/
def outside (_ : Unit) (s : State) (_ : Unit) (s' : State) : Prop :=
  ∃ disk now, s' = { s with disk := disk, now := now }

/-- `run` has just armed its hook, for an operation `begin` has returned. -/
def start (_ : Unit) (s : State) : Prop :=
  s.armed = true ∧ s.submissionBoundaryReached = false ∧ s.record.status = .building

/-- Every interleaving of the run with what its operation calls. -/
def Runs (sc : RunScene) (threads : List (Code Unit)) : Prop :=
  Pool Call.code ready outside start sc threads

end XochiSdk.Recipient.Submission
