import Mathlib.Data.List.Sort
import XochiSdk.Js.Map
import XochiSdk.Library.Async
import XochiSdk.Recipient.Record

/-!
# The operation journal

`tools/recipient/src/operation-journal.ts`: `OperationJournal`, called by any number of processes
that share one directory. A process takes a turn for each file operation, and may die before any
of them; the others go on in between.
-/

namespace XochiSdk.Recipient

open XochiSdk.Js XochiSdk.Library

/-- `ReleaseClaim`. -/
structure ReleaseClaim where
  id : String
  lockNonce : String
  pid : Nat
  nonce : String
  deriving DecidableEq, Repr

/-- `released-<id>-<lockNonce>.lock`, or the one after a claim's nonce. -/
structure ClaimPath where
  id : String
  lockNonce : String
  after : Option String
  deriving DecidableEq, Repr

/-- `active.lock`: created by a `begin` that has not written it yet, or written. -/
inductive LockFile where
  | created (id : String)
  | written (lock : ActiveLock)
  deriving DecidableEq

/-- The journal's directory, the ids drawn so far and the processes that have died. -/
structure Directory where
  lock : Option LockFile
  records : JsMap String OperationRecord
  claims : List (ClaimPath × ReleaseClaim)
  drawn : List String
  dead : List Nat

/-- Who owns the lock. -/
def LockFile.owner : LockFile → Option Owner
  | .created _ => none
  | .written lock => some lock.owner

/-- Whose the lock is, where there is one and it can be read. -/
def Directory.owner (d : Directory) : Option Owner := d.lock.bind LockFile.owner

/-- What a call of the journal throws. -/
inductive JournalError where
  | unreadableRecord (id : String)
  | strayRecord (entry : String)
  | invalidId
  | unreadableLock
  | unresolved (record : OperationRecord)
  | unreconciledLock
  | unrecoverable
  | inexact
  | unowned (id : String)
  | transition (id : String) (current next : OperationStatus)
  | schema (issues : List String)
  | cycle (id : String)
  | unreadableClaim (id : String)
  | claimed (id : String)
  /-- A file operation found no file. -/
  | missing
  deriving DecidableEq

/-- `path(id)`. -/
def recordPath (directory id : String) : String := s!"{directory}/{id}.json"

/-- `Error.message`. -/
def JournalError.message (directory : String) : JournalError → String
  | .unreadableRecord id =>
    s!"operation journal record {recordPath directory id} is unreadable; keep fund movement blocked"
  | .strayRecord entry =>
    s!"operation journal record {entry} does not own its filename; keep fund movement blocked"
  | .invalidId => "operation journal id is invalid; keep fund movement blocked"
  | .unreadableLock =>
    s!"operation lock {directory}/active.lock is unreadable; keep fund movement blocked"
  | .unresolved record =>
    s!"operation {record.id} ({record.kind.text}) is {record.status.text}; " ++
      s!"reconcile {recordPath directory record.id} before moving funds again"
  | .unreconciledLock =>
    s!"operation lock {directory}/active.lock exists without its exact readable terminal record; " ++
      "do not move funds until it is reconciled"
  | .unrecoverable => s!"operation lock {directory}/active.lock has no recoverable record; " ++
      "keep fund movement blocked"
  | .inexact => s!"operation lock {directory}/active.lock does not own its exact record; " ++
      "keep fund movement blocked"
  | .unowned id => s!"operation {id} does not exactly own {directory}/active.lock; " ++
      "keep fund movement blocked"
  | .transition id current next =>
    s!"operation {id} cannot transition from {current.text} to {next.text}; " ++
      "keep fund movement blocked"
  | .schema issues => ", ".intercalate issues
  | .cycle id => s!"operation {id} lock release claim chain contains a cycle"
  | .unreadableClaim id =>
    s!"operation {id} lock release claim is unreadable; {directory}/active.lock remains held"
  | .claimed id =>
    s!"operation {id} lock release is already claimed; {directory}/active.lock remains held"
  | .missing => "ENOENT: no such file or directory"

/-- What a process waits for: its turn at the next file operation, a fresh uuid, the time. -/
inductive Ask where
  | turn (pid : Nat)
  | uuid (pid : Nat)
  | now (pid : Nat)
  deriving DecidableEq

@[reducible] def Ask.Answer : Ask → Type
  | .turn _ => Unit
  | .uuid _ | .now _ => String

/-- Why a record is updated: by its caller's own patch, or by `failOrAbort` on the record it
decided on and what it was told of the submission boundary. -/
inductive Cause where
  | direct
  | failOrAbort (decided : OperationRecord) (submissionBoundaryReached : Option Bool)
  deriving DecidableEq

/-- What is seen of a journal: what each file operation did, with what it found there. -/
inductive Deed where
  | drew (uuid : String)
  /-- The lock was created, and then written. -/
  | created (owner : Owner)
  | wrote (owner : Owner)
  /-- A rename put the owner's bare lock in place of what was found. -/
  | relocked (owner : Owner) (found : Option LockFile)
  /-- A first record was written, over what was found. -/
  | published (record : OperationRecord) (found : Option OperationRecord)
  /-- A record was written for one that was read, over what was found. -/
  | updated (cause : Cause) (patch : Patch) (read next : OperationRecord)
      (found : Option OperationRecord)
  /-- The claim at the nonce was read, and its claimant found dead. -/
  | superseded (owner : Owner) (nonce : String)
  | claimed (owner : Owner) (nonce : String)
  /-- The lock was found the owner's, after its release was claimed. -/
  | asserted (owner : Owner) (pid : Nat)
  | unlinked (owner : Owner)
  /-- A `begin` that published no record releases its lock. -/
  | gaveUp (owner : Owner)
  /-- A `begin` returned. -/
  | returned (record : OperationRecord)
  deriving DecidableEq

abbrev Code (α : Type) : Type := Async Directory Deed Ask Ask.Answer JournalError α

section

variable (pid : Nat)

def turn : Code Unit := Async.await (Ask.turn pid)

/-- `randomUUID()`. -/
def randomUUID : Code String := do
  let uuid ← Async.await (Ask.uuid pid)
  Async.doing (fun d => { d with drawn := uuid :: d.drawn }) [.drew uuid]
  pure uuid

/-- `new Date().toISOString()`. -/
def toISOString : Code String := Async.await (Ask.now pid)

/-- `readActiveLock`. -/
def readActiveLock : Code ActiveLock := do
  turn pid
  let d ← Async.get
  match d.lock with
  | some (.written lock) => pure lock
  | some (.created _) | none => .throw .unreadableLock

/-- `readRecord`. -/
def readRecord (id : String) : Code OperationRecord := do
  turn pid
  let d ← Async.get
  match d.records.get id with
  | some record => pure record
  | none => .throw (.unreadableRecord id)

/-- A record put in place of what was found there: `writePrivateJson` of a record. -/
def writeRecord (record : OperationRecord) (deed : Option OperationRecord → Deed) : Code Unit := do
  turn pid
  .act (fun d => ({ d with records := d.records.set record.id record },
    [deed (d.records.get record.id)])) fun _ => .pure ()

/-- The bare lock put in place of what was found there, and its mode set. -/
def writeLock (owner : Owner) : Code Unit := do
  turn pid
  let bare : ActiveLock := ⟨owner, none, by simp⟩
  Async.act (fun d => ({ d with lock := some (.written bare) }, [.relocked owner d.lock]))
    fun _ => .pure ()
  turn pid
  let d ← Async.get
  if d.lock.isNone then .throw .missing

def readRecords : List String → Code (List OperationRecord)
  | [] => pure []
  | entry :: entries => do
    let record ← readRecord pid entry
    if record.id ≠ entry then .throw (.strayRecord entry)
    else do
      let rest ← readRecords entries
      pure (record :: rest)

/-- `records`. -/
def records : Code (List OperationRecord) := do
  turn pid
  let d ← Async.get
  let records ← readRecords pid (d.records.entries.map Prod.fst)
  pure (records.insertionSort fun a b => a.createdAt ≤ b.createdAt)

/-- `get`. -/
def getRecord (id : String) : Code OperationRecord :=
  if isUuidV4 id then readRecord pid id else .throw .invalidId

/-- `unresolved`. -/
def unresolved : Code (Option OperationRecord) := do
  let records ← records pid
  pure (records.find? fun record => !terminal record.status)

/-- `assertOwnsActiveLock`. -/
def assertOwnsActiveLock (owner : Owner) : Code Unit := do
  let lock ← readActiveLock pid
  if lock.owner ≠ owner then .throw (.unowned owner.id) else pure ()

/-- The lock's record, published from the lock where none stands alone. -/
def standingRecord (lock : ActiveLock) : Code OperationRecord := do
  turn pid
  let d ← Async.get
  if d.records.has lock.owner.id then getRecord pid lock.owner.id
  else
    match lock.record with
    | none => .throw .unrecoverable
    | some record => do
      writeRecord pid record (.published record)
      pure record

/-- `recordForLock`. -/
def recordForLock (lock : ActiveLock) : Code OperationRecord := do
  let record ← standingRecord pid lock
  if record.owner ≠ lock.owner then .throw .inexact
  else if lock.record.isSome then do
    writeLock pid lock.owner
    pure record
  else pure record

/-- `activeUnresolved`. -/
def activeUnresolved : Code (Option OperationRecord) := do
  turn pid
  let d ← Async.get
  if d.lock.isNone then pure none
  else do
    let lock ← readActiveLock pid
    let record ← recordForLock pid lock
    pure (if terminal record.status then none else some record)

/-- `linkSync`: the claim, where the path is free. -/
def linkClaim (owner : Owner) (after : Option String) (nonce : String) (d : Directory) :
    Directory × List Deed :=
  let path : ClaimPath := ⟨owner.id, owner.lockNonce, after⟩
  if (d.claims.lookup path).isSome then (d, [])
  else
    ({ d with claims := d.claims ++ [(path, ⟨owner.id, owner.lockNonce, pid, nonce⟩)] },
      [.claimed owner nonce])

/-- The chain of release claims, from one path on: a claim is linked where a path is free, and a
dead claimant's is passed over. -/
def claimRelease (owner : Owner) : Nat → Option String → List (Option String) → Code Unit
  | 0, _, _ => .stuck
  | fuel + 1, after, visited =>
    if after ∈ visited then .throw (.cycle owner.id)
    else do
      let nonce ← randomUUID pid
      turn pid
      let d ← .act (linkClaim pid owner after nonce) .pure
      match d.claims.lookup ⟨owner.id, owner.lockNonce, after⟩ with
      | none => pure ()
      | some _ => do
        turn pid
        let d ← Async.get
        match d.claims.lookup ⟨owner.id, owner.lockNonce, after⟩ with
        | none => .throw (.unreadableClaim owner.id)
        | some claim => do
          turn pid
          let d ← Async.get
          if claim.id ≠ owner.id ∨ claim.lockNonce ≠ owner.lockNonce ∨ claim.pid ∉ d.dead then
            .throw (.claimed owner.id)
          else do
            Async.doing id [.superseded owner claim.nonce]
            claimRelease owner fuel (some claim.nonce) (after :: visited)

/-- `unlinkSync(lockPath)`. -/
def unlinkLock (owner : Owner) : Code Unit := do
  turn pid
  let d ← Async.get
  if d.lock.isNone then .throw .missing
  else Async.doing (fun d => { d with lock := none }) [.unlinked owner]

/-- `releaseLock`. -/
def releaseLock (fuel : Nat) (owner : Owner) : Code Unit := do
  assertOwnsActiveLock pid owner
  claimRelease pid owner fuel none []
  assertOwnsActiveLock pid owner
  Async.doing id [.asserted owner pid]
  unlinkLock pid owner

/-- `releaseRecoveredTerminalLock` past its reads of the lock and its record. -/
def releaseTerminal (fuel : Nat) (lock : ActiveLock) (record : OperationRecord) : Code Bool :=
  if !terminal record.status then pure false
  else do
    let records ← (records pid).attempt
    match records with
    | .error _ => pure false
    | .ok records =>
      if records.any fun candidate => !terminal candidate.status then pure false
      else do
        releaseLock pid fuel lock.owner
        pure true

/-- `releaseRecoveredTerminalLock`. -/
def releaseRecoveredTerminalLock (fuel : Nat) : Code Bool := do
  let lock ← (readActiveLock pid).attempt
  match lock with
  | .error _ => pure false
  | .ok lock => do
    let record ← (recordForLock pid lock).attempt
    match record with
    | .error _ => pure false
    | .ok record => releaseTerminal pid fuel lock record

/-- `openSync(lockPath, "wx")`. -/
def createLock (owner : Owner) (d : Directory) : Directory × List Deed :=
  if d.lock.isSome then (d, []) else ({ d with lock := some (.created owner.id) }, [.created owner])

/-- The loop that acquires the lock. -/
def acquireLock (releases : Nat) (owner : Owner) : Nat → Code Unit
  | 0 => .stuck
  | fuel + 1 => do
    turn pid
    let d ← .act (createLock owner) .pure
    if d.lock.isNone then pure ()
    else do
      let released ← releaseRecoveredTerminalLock pid releases
      if released then acquireLock releases owner fuel
      else do
        let unresolved ← unresolved pid
        .throw (match unresolved with
          | some record => .unresolved record
          | none => .unreconciledLock)

/-- The lock's content, written to the file that was created: to the path, while it is there. -/
def fillLock (lock : ActiveLock) (d : Directory) : Directory × List Deed :=
  if d.lock = some (.created lock.owner.id) then
    ({ d with lock := some (.written lock) }, [.wrote lock.owner])
  else (d, [])

/-- The first record, written where nothing is unresolved. -/
def publishRecord (record : OperationRecord) : Code Unit := do
  let unresolved ← unresolved pid
  match unresolved with
  | some other => .throw (.unresolved other)
  | none => writeRecord pid record (.published record)

/-- `beginWithState` from the lock on. -/
def beginRecord (fuel : Nat) (record : OperationRecord) : Code OperationRecord := do
  acquireLock pid fuel record.owner fuel
  turn pid
  Async.act (fillLock ⟨record.owner, some record, by simp⟩) fun _ => .pure ()
  (publishRecord pid record).orElse fun err => do
    Async.doing id [.gaveUp record.owner]
    releaseLock pid fuel record.owner
    .throw err
  writeLock pid record.owner
  Async.doing id [.returned record]
  pure record

/-- The first record of an operation. -/
def initialRecord (id lockNonce now : String) (kind : OperationKind)
    (request : List (String × String)) (status : OperationStatus) (txHash : Option String) :
    RecordData where
  id := id
  lockNonce := lockNonce
  kind := kind
  status := status
  createdAt := now
  updatedAt := now
  request := request
  txHash := txHash
  receiptStatus := none
  receiptBlockNumber := none
  receiptBlockHash := none
  withdrawals := none
  error := none

/-- `beginWithState`. -/
def beginWithState (fuel : Nat) (kind : OperationKind) (request : List (String × String))
    (status : OperationStatus) (txHash : Option String) : Code OperationRecord := do
  let id ← randomUUID pid
  let lockNonce ← randomUUID pid
  let now ← toISOString pid
  let data := initialRecord id lockNonce now kind request status txHash
  match parseRecord data with
  | none => .throw (.schema data.issues)
  | some record => beginRecord pid fuel record

/-- `begin`. -/
def begin (fuel : Nat) (kind : OperationKind) (request : List (String × String)) :
    Code OperationRecord :=
  beginWithState pid fuel kind request .building none

/-- `beginBroadcast`. -/
def beginBroadcast (fuel : Nat) (kind : OperationKind) (request : List (String × String))
    (initialTxHash : String) : Code OperationRecord :=
  beginWithState pid fuel kind request .broadcast (some initialTxHash)

/-- `update`. -/
def update (fuel : Nat) (cause : Cause) (id : String) (patch : Patch) : Code OperationRecord := do
  let current ← getRecord pid id
  assertOwnsActiveLock pid current.owner
  if patch.follows current.status = false then
    .throw (.transition id current.status (patch.status.getD current.status))
  else do
    let now ← toISOString pid
    let data := current.toRecordData.patched patch now
    match parseRecord data with
    | none => .throw (.schema data.issues)
    | some next => do
      writeRecord pid next (.updated cause patch current next)
      if terminal next.status then do
        releaseLock pid fuel current.owner
        pure next
      else pure next

/-- `failOrAbort`; the message it returns. -/
def failOrAbort (fuel : Nat) (id : String) (submissionBoundaryReached : Option Bool) :
    Code String := do
  let current ← getRecord pid id
  if terminal current.status then
    pure ("operation reached a terminal journal state but lock release was interrupted; " ++
      "restart before moving funds")
  else do
    let abort := aborts current.status submissionBoundaryReached
    let _ ← update pid fuel (.failOrAbort current submissionBoundaryReached) id
      (failOrAbortPatch current.toRecordData abort)
    pure (outcome abort).text

end

/-! ## Runs -/

/-- A call of the journal by a process. -/
inductive Call where
  | begin (pid : Nat) (kind : OperationKind) (request : List (String × String))
  | beginBroadcast (pid : Nat) (kind : OperationKind) (request : List (String × String))
      (initialTxHash : String)
  | update (pid : Nat) (id : String) (patch : Patch)
  | failOrAbort (pid : Nat) (id : String) (submissionBoundaryReached : Option Bool)
  | activeUnresolved (pid : Nat)

/-- The call's code, whatever it returns. -/
def Call.code (fuel : Nat) : Call → Code Unit
  | .begin pid kind request => (Recipient.begin pid fuel kind request).bind fun _ => .pure ()
  | .beginBroadcast pid kind request initialTxHash =>
    (Recipient.beginBroadcast pid fuel kind request initialTxHash).bind fun _ => .pure ()
  | .update pid id patch => (Recipient.update pid fuel .direct id patch).bind fun _ => .pure ()
  | .failOrAbort pid id submissionBoundaryReached =>
    (Recipient.failOrAbort pid fuel id submissionBoundaryReached).bind fun _ => .pure ()
  | .activeUnresolved pid => (Recipient.activeUnresolved pid).bind fun _ => .pure ()

abbrev JournalEntry : Type := Entry Deed Ask Ask.Answer JournalError

abbrev Trace : Type := List JournalEntry

abbrev JournalScene : Type := Scene Unit Directory Deed Ask Ask.Answer JournalError

/-- A process goes on while it lives. A uuid is new. -/
@[reducible] def ready (_ : Unit) (d : Directory) :
    (q : Ask) → Except JournalError q.Answer → Prop
  | .turn pid, a => pid ∉ d.dead ∧ a.isOk = true
  | .uuid pid, .ok uuid => pid ∉ d.dead ∧ uuid ∉ d.drawn ∧ isUuidV4 uuid = true
  | .now pid, .ok now => pid ∉ d.dead ∧ now ≠ ""
  | .uuid _, .error _ | .now _, .error _ => False

instance (w : Unit) (d : Directory) : (q : Ask) → (a : Except JournalError q.Answer) →
    Decidable (ready w d q a)
  | .turn pid, a => inferInstanceAs (Decidable (pid ∉ d.dead ∧ a.isOk = true))
  | .uuid pid, .ok uuid =>
    inferInstanceAs (Decidable (pid ∉ d.dead ∧ uuid ∉ d.drawn ∧ isUuidV4 uuid = true))
  | .now pid, .ok now => inferInstanceAs (Decidable (pid ∉ d.dead ∧ now ≠ ""))
  | .uuid _, .error _ => inferInstanceAs (Decidable False)
  | .now _, .error _ => inferInstanceAs (Decidable False)

/-- A process that dies. -/
def Directory.dies (pid : Nat) (w : Unit) (d : Directory) : Unit × Directory :=
  (w, { d with dead := pid :: d.dead })

/-- A process dies. -/
def outside (w : Unit) (d : Directory) (w' : Unit) (d' : Directory) : Prop :=
  ∃ pid, (w', d') = d.dies pid w

theorem dies_outside (pid : Nat) (w : Unit) (d : Directory) :
    outside w d (d.dies pid w).1 (d.dies pid w).2 := ⟨pid, rfl⟩

/-- Every interleaving of the processes' calls, from a directory on. -/
def JournalRun (d : Directory) (sc : JournalScene) (threads : List (Code Unit)) : Prop :=
  ∃ fuel, Pool (Call.code fuel) ready outside (fun _ s => s = d) sc threads

/-- A new directory, or one a backup was restored to: at most one operation is unresolved, and it
owns the lock. -/
structure Restored (d : Directory) : Prop where
  claims : d.claims = []
  keyed : ∀ id record, d.records.get id = some record → record.id = id
  drawn : ∀ id record, d.records.get id = some record →
    id ∈ d.drawn ∧ record.lockNonce ∈ d.drawn
  lock : match d.lock with
    | none => ∀ id record, d.records.get id = some record → terminal record.status = true
    | some lock => ∃ record, lock = .written ⟨record.owner, none, by simp⟩ ∧
        d.records.get record.id = some record ∧ terminal record.status = false ∧
        ∀ id other, d.records.get id = some other → id ≠ record.id → terminal other.status = true

end XochiSdk.Recipient
