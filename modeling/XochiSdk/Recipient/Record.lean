import XochiSdk.Js.Text

/-!
# Operation records

`tools/recipient/src/operation-journal.ts`: what a record of a fund-moving operation holds, which
of them the schema takes, and how one status follows another. Reading, locking and writing them
is in `XochiSdk.Recipient.Journal`.
-/

namespace XochiSdk.Recipient

open XochiSdk.Js

/-- `OperationKindSchema`. -/
inductive OperationKind where
  | spend
  | exit
  | refundFrozenNotes
  | refundFrozenDeposits
  | refundUnprocessedDeposit
  deriving DecidableEq, Repr

def OperationKind.text : OperationKind → String
  | .spend => "spend"
  | .exit => "exit"
  | .refundFrozenNotes => "refund-frozen-notes"
  | .refundFrozenDeposits => "refund-frozen-deposits"
  | .refundUnprocessedDeposit => "refund-unprocessed-deposit"

/-- `OperationStatusSchema`. -/
inductive OperationStatus where
  | building
  | broadcast
  | complete
  | failed
  | aborted
  | inDoubt
  deriving DecidableEq, Repr

def OperationStatus.text : OperationStatus → String
  | .building => "building"
  | .broadcast => "broadcast"
  | .complete => "complete"
  | .failed => "failed"
  | .aborted => "aborted"
  | .inDoubt => "in_doubt"

/-- `terminal`. -/
def terminal : OperationStatus → Bool
  | .complete | .failed | .aborted => true
  | .building | .broadcast | .inDoubt => false

/-- `transitions`. -/
def transitions : OperationStatus → List OperationStatus
  | .building => [.broadcast, .aborted]
  | .broadcast => [.complete, .failed, .aborted, .inDoubt]
  | .inDoubt => [.complete, .failed, .inDoubt]
  | .complete => []
  | .failed => []
  | .aborted => []

inductive ReceiptStatus where
  | checkpointed
  | proven
  | finalized
  | finalizedFailed
  deriving DecidableEq, Repr

/-- The errors a record may carry. -/
inductive RecordedError where
  | beforeSubmission
  | requiresReconciliation
  | revertedReceipt
  deriving DecidableEq, Repr

def RecordedError.text : RecordedError → String
  | .beforeSubmission => "operation failed before Aztec node submission"
  | .requiresReconciliation => "operation outcome requires transaction reconciliation"
  | .revertedReceipt => "operation finalized with a reverted receipt"

structure Withdrawal where
  withdrawalIndex : Nat
  finalizationData : String
  operationId : Option String
  deriving DecidableEq, Repr

/-- What a record spells out, before the schema has looked at it. -/
structure RecordData where
  id : String
  lockNonce : String
  kind : OperationKind
  status : OperationStatus
  createdAt : String
  updatedAt : String
  request : List (String × String)
  txHash : Option String
  receiptStatus : Option ReceiptStatus
  receiptBlockNumber : Option String
  receiptBlockHash : Option String
  withdrawals : Option (List Withdrawal)
  error : Option RecordedError
  deriving DecidableEq, Repr

/-- `uuidV4`. -/
def isUuidV4 (s : String) : Bool :=
  s.toList.length == 36 && s.toList.zipIdx.all fun (c, i) =>
    if i = 8 ∨ i = 13 ∨ i = 18 ∨ i = 23 then c == '-'
    else if i = 14 then c == '4'
    else if i = 19 then c == '8' || c == '9' || c == 'a' || c == 'b' || c == 'A' || c == 'B'
    else isHexDigit c

/-- `txHash`, the regular expression. -/
def isTxHash (s : String) : Bool := isHexText s && s.toList.length == 66

/-- `decimal`. -/
def isCanonicalDecimal (s : String) : Bool :=
  isDecimal s && (s.toList.head? != some '0' || s.toList.length == 1)

/-- Where the record holds a member, the member passes. -/
def holds {α : Type} (check : α → Bool) : Option α → Bool
  | none => true
  | some a => check a

namespace RecordData

/-- The schema's checks of the members one by one. -/
def wellSpelled (r : RecordData) : Bool :=
  isUuidV4 r.id && isUuidV4 r.lockNonce && r.createdAt != "" && r.updatedAt != "" &&
    holds isTxHash r.txHash && holds isCanonicalDecimal r.receiptBlockNumber &&
    holds isTxHash r.receiptBlockHash &&
    holds (fun ws => ws.all fun w => isHexText w.finalizationData) r.withdrawals

/-- `crossedSubmissionBoundary`. -/
def crossedSubmissionBoundary (r : RecordData) : Bool :=
  r.status == .broadcast || r.status == .complete || r.status == .failed || r.status == .inDoubt

/-- `finalizedFailureEvidence`. -/
def finalizedFailureEvidence (r : RecordData) : Bool :=
  r.receiptStatus == some .finalizedFailed && r.receiptBlockNumber.isSome &&
    r.receiptBlockHash.isSome && r.error == some .revertedReceipt

/-- The members that do not fit together: the issues `superRefine` adds. -/
def issues (r : RecordData) : List String :=
  (if r.crossedSubmissionBoundary != r.txHash.isSome
    then ["transaction hash does not match the operation status"] else []) ++
  (if r.receiptStatus.isSome && r.status != .complete && r.status != .failed
    then ["only a terminal submitted operation may carry a receipt status"] else []) ++
  (if r.receiptBlockNumber.isSome != r.receiptBlockHash.isSome
    then ["receipt block evidence must be complete"] else []) ++
  (if r.receiptBlockNumber.isSome && r.receiptStatus != some .finalized &&
      r.receiptStatus != some .finalizedFailed
    then ["receipt block evidence requires a finalized receipt"] else []) ++
  (if r.status == .failed && !r.finalizedFailureEvidence
    then ["a failed operation requires finalized reverted receipt evidence"] else []) ++
  (if r.status != .failed && r.receiptStatus == some .finalizedFailed
    then ["only a failed operation may carry finalized-failed receipt status"] else []) ++
  (if r.error.isSome && r.status != .aborted && r.status != .inDoubt && r.status != .complete &&
      r.status != .failed
    then ["an operation cannot carry an error before a failed outcome"] else [])

/-- The schema takes the record. -/
def accepted (r : RecordData) : Bool := r.wellSpelled && r.issues.isEmpty

end RecordData

/-- `OperationRecord`: what `OperationRecordSchema` has taken. -/
structure OperationRecord extends RecordData where
  parsed : toRecordData.accepted = true
  deriving DecidableEq

/-- `OperationRecordSchema.parse`; `none` is a `ZodError`. -/
def parseRecord (r : RecordData) : Option OperationRecord :=
  if parsed : r.accepted = true then some ⟨r, parsed⟩ else none

theorem parseRecord_eq_some {r : RecordData} {record : OperationRecord}
    (h : parseRecord r = some record) : record.toRecordData = r := by
  unfold parseRecord at h
  split at h
  · cases h
    rfl
  · cases h

namespace OperationRecord

theorem no_issues (r : OperationRecord) : r.toRecordData.issues = [] := by
  have parsed := r.parsed
  unfold RecordData.accepted at parsed
  rw [Bool.and_eq_true] at parsed
  exact List.isEmpty_iff.mp parsed.2

/-- A record has a transaction hash exactly from the submission boundary on. -/
theorem crossed_iff (r : OperationRecord) :
    r.crossedSubmissionBoundary = true ↔ r.txHash.isSome = true := by
  have none := r.no_issues
  unfold RecordData.issues at none
  simp only [List.append_eq_nil_iff] at none
  have agree := none.1.1.1.1.1.1
  by_cases same : r.crossedSubmissionBoundary = r.txHash.isSome
  · rw [same]
  · rw [if_pos (by simpa using same)] at agree
    cases agree

theorem status_crossed (r : OperationRecord) (h : r.txHash.isSome = true) :
    r.status = .broadcast ∨ r.status = .complete ∨ r.status = .failed ∨ r.status = .inDoubt := by
  have crossed := r.crossed_iff.mpr h
  unfold RecordData.crossedSubmissionBoundary at crossed
  simpa [or_assoc] using crossed

theorem txHash_of_status {r : OperationRecord}
    (h : r.status = .broadcast ∨ r.status = .complete ∨ r.status = .failed ∨ r.status = .inDoubt) :
    r.txHash.isSome = true := by
  refine r.crossed_iff.mp ?_
  unfold RecordData.crossedSubmissionBoundary
  simpa [or_assoc] using h

end OperationRecord

/-- What owns the lock: `ActiveLock` without its record. -/
structure Owner where
  id : String
  lockNonce : String
  kind : OperationKind
  deriving DecidableEq, Repr

/-- Whose record it is. -/
def RecordData.owner (r : RecordData) : Owner := ⟨r.id, r.lockNonce, r.kind⟩

/-- `ActiveLock`: an owner, and its first record where none stands alone yet. -/
structure ActiveLock where
  owner : Owner
  record : Option OperationRecord
  owned : ∀ r, record = some r → r.owner = owner
  deriving DecidableEq

/-- `update`'s patch. A member is absent, or present with a value that may be `undefined`; the
callers spell no status and no request as `undefined`. -/
structure Patch where
  status : Option OperationStatus
  request : Option (List (String × String))
  txHash : Option (Option String)
  receiptStatus : Option (Option ReceiptStatus)
  receiptBlockNumber : Option (Option String)
  receiptBlockHash : Option (Option String)
  withdrawals : Option (Option (List Withdrawal))
  error : Option (Option RecordedError)
  deriving DecidableEq, Repr

/-- The patch that spells nothing. -/
def Patch.empty : Patch := ⟨none, none, none, none, none, none, none, none⟩

/-- `{ ...current, ...patch, updatedAt }`. -/
def RecordData.patched (current : RecordData) (patch : Patch) (updatedAt : String) : RecordData where
  id := current.id
  lockNonce := current.lockNonce
  kind := current.kind
  status := patch.status.getD current.status
  createdAt := current.createdAt
  updatedAt := updatedAt
  request := patch.request.getD current.request
  txHash := patch.txHash.getD current.txHash
  receiptStatus := patch.receiptStatus.getD current.receiptStatus
  receiptBlockNumber := patch.receiptBlockNumber.getD current.receiptBlockNumber
  receiptBlockHash := patch.receiptBlockHash.getD current.receiptBlockHash
  withdrawals := patch.withdrawals.getD current.withdrawals
  error := patch.error.getD current.error

@[simp] theorem RecordData.patched_owner (r : RecordData) (patch : Patch) (updatedAt : String) :
    (r.patched patch updatedAt).owner = r.owner := rfl

/-- The table lets the patch's status follow the current one. -/
def Patch.follows (patch : Patch) (current : OperationStatus) : Bool :=
  match patch.status with
  | none => true
  | some status => status == current || (transitions current).contains status

/-- What `failOrAbort` decides: the operation never reached a node. -/
def aborts (current : OperationStatus) (submissionBoundaryReached : Option Bool) : Bool :=
  (submissionBoundaryReached == some false && (current == .building || current == .broadcast)) ||
    (submissionBoundaryReached == none && current == .building)

/-- The message of what `failOrAbort` returns. -/
def outcome (abort : Bool) : RecordedError :=
  if abort then .beforeSubmission else .requiresReconciliation

/-- The patch of `failOrAbort`. -/
def failOrAbortPatch (current : RecordData) (abort : Bool) : Patch :=
  { Patch.empty with
    status := some (if abort then .aborted else .inDoubt)
    txHash := some (if abort then none else current.txHash)
    error := some (some (outcome abort)) }

/-! ## What an update writes -/

theorem follows_iff {patch : Patch} {current : OperationStatus} :
    patch.follows current = true ↔ ∀ status, patch.status = some status →
      status = current ∨ status ∈ transitions current := by
  unfold Patch.follows
  cases patch.status with
  | none => simp
  | some status => simp

/-- The next status is the current one, or one the table lets follow. -/
theorem patched_status {current next : OperationRecord} {patch : Patch} {updatedAt : String}
    (follows : patch.follows current.status = true)
    (h : parseRecord (current.toRecordData.patched patch updatedAt) = some next) :
    next.status = current.status ∨ next.status ∈ transitions current.status := by
  rw [parseRecord_eq_some h]
  unfold RecordData.patched
  cases spelled : patch.status with
  | none => exact .inl rfl
  | some status => exact follows_iff.mp follows status spelled

theorem transitions_terminal {status next : OperationStatus} (h : terminal status = true) :
    next ∉ transitions status := by
  cases status <;> simp_all [terminal, transitions]

/-- Nothing follows a terminal status. -/
theorem patched_terminal {current next : OperationRecord} {patch : Patch} {updatedAt : String}
    (ended : terminal current.status = true) (follows : patch.follows current.status = true)
    (h : parseRecord (current.toRecordData.patched patch updatedAt) = some next) :
    next.status = current.status := by
  rcases patched_status follows h with same | next
  · exact same
  · exact absurd next (transitions_terminal ended)

theorem transitions_not_building {current : OperationStatus} : .building ∉ transitions current := by
  cases current <;> simp [transitions]

/-- A patch that spells no hash, or the recorded one, keeps it unless the operation is aborted. -/
theorem patched_txHash {current next : OperationRecord} {patch : Patch} {updatedAt hash : String}
    (recorded : current.txHash = some hash)
    (kept : ∀ spelled, patch.txHash = some spelled → spelled = some hash ∨ spelled = none)
    (follows : patch.follows current.status = true)
    (h : parseRecord (current.toRecordData.patched patch updatedAt) = some next) :
    next.status = .aborted ∨ next.txHash = some hash := by
  have same := parseRecord_eq_some h
  have hash_eq : next.txHash = patch.txHash.getD current.txHash := by rw [same]; rfl
  cases spelled : patch.txHash with
  | none =>
    rw [spelled, Option.getD_none, recorded] at hash_eq
    exact .inr hash_eq
  | some text =>
    rw [spelled, Option.getD_some] at hash_eq
    rcases kept text spelled with rfl | rfl
    · exact .inr hash_eq
    · left
      have crossed := current.status_crossed (by rw [recorded]; rfl)
      have uncrossed : ¬(next.status = .broadcast ∨ next.status = .complete ∨
          next.status = .failed ∨ next.status = .inDoubt) := by
        intro crossed
        have some_hash := OperationRecord.txHash_of_status crossed
        rw [hash_eq] at some_hash
        cases some_hash
      cases status : next.status with
      | aborted => rfl
      | building =>
        rcases patched_status follows h with stays | moves
        · rw [status] at stays
          rw [← stays] at crossed
          simp at crossed
        · rw [status] at moves
          exact absurd moves transitions_not_building
      | broadcast | complete | failed | inDoubt =>
        refine absurd ?_ uncrossed
        simp [status]

end XochiSdk.Recipient
