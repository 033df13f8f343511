import XochiSdk.Library.Script
import XochiSdk.Recipient.Journal

/-!
# Terminal statuses

What an update writes follows from the record it read. It keeps a terminal status, the
transition table and the transaction hash of the record it replaces as long as that is the
record it read, which nothing makes sure of: another process may write in between.
-/

namespace XochiSdk.Recipient

open XochiSdk.Library

/-- What an update writes: the record it read with the patch, where the table lets it follow; a
patch of `failOrAbort` is the one it decided on. -/
def Computed : Deed → Prop
  | .updated cause patch read next _ =>
    patch.follows read.status = true ∧
      (∃ now, parseRecord (read.toRecordData.patched patch now) = some next) ∧
      ∀ decided boundary, cause = .failOrAbort decided boundary →
        patch = failOrAbortPatch decided.toRecordData (aborts decided.status boundary)
  | _ => True

section

variable {p : Deed → Prop} {pid : Nat}

/-- The deeds beside the ones that write a record. -/
def Plain (p : Deed → Prop) : Prop :=
  ∀ deed, (∀ cause patch read next found, deed ≠ .updated cause patch read next found) → p deed

theorem readActiveLock_only : (readActiveLock pid).Only p := by
  refine .bind (.await _) fun _ => .bind .get fun d => ?_
  split <;> trivial

theorem readRecord_only (id : String) : (readRecord pid id).Only p := by
  refine .bind (.await _) fun _ => .bind .get fun d => ?_
  split <;> trivial

theorem getRecord_only (id : String) : (getRecord pid id).Only p := by
  unfold getRecord
  split
  · exact readRecord_only id
  · trivial

theorem readRecords_only (entries : List String) : (readRecords pid entries).Only p := by
  induction entries with
  | nil => trivial
  | cons entry entries ih =>
    refine .bind (readRecord_only entry) fun record => ?_
    split
    · trivial
    · exact .bind ih fun _ => trivial

theorem records_only : (records pid).Only p :=
  .bind (.await _) fun _ => .bind .get fun _ => .bind (readRecords_only _) fun _ => trivial

theorem unresolved_only : (unresolved pid).Only p := .bind records_only fun _ => trivial

theorem assertOwnsActiveLock_only (owner : Owner) : (assertOwnsActiveLock pid owner).Only p := by
  refine .bind readActiveLock_only fun lock => ?_
  split <;> trivial

theorem randomUUID_only (plain : Plain p) : (randomUUID pid).Only p := by
  refine .bind (.await _) fun uuid => .bind (.doing ?_) fun _ => trivial
  intro deed mem
  rw [List.mem_singleton.mp mem]
  exact plain _ (by simp)

theorem writeRecord_only (record : OperationRecord) (deed : Option OperationRecord → Deed)
    (h : ∀ found, p (deed found)) : (writeRecord pid record deed).Only p := by
  refine .bind (.await _) fun _ d => ⟨?_, trivial⟩
  intro e mem
  rw [List.mem_singleton.mp mem]
  exact h _

theorem writeLock_only (plain : Plain p) (owner : Owner) : (writeLock pid owner).Only p := by
  refine .bind (.await _) fun _ => .bind (fun d => ⟨?_, trivial⟩) fun _ =>
    .bind (.await _) fun _ => .bind .get fun d => ?_
  · intro deed mem
    rw [List.mem_singleton.mp mem]
    exact plain _ (by simp)
  · split <;> trivial

theorem recordForLock_only (plain : Plain p) (lock : ActiveLock) :
    (recordForLock pid lock).Only p := by
  have standing : (standingRecord pid lock).Only p := by
    refine .bind (.await _) fun _ => .bind .get fun d => ?_
    split
    · exact getRecord_only _
    · split
      · trivial
      · exact .bind (writeRecord_only _ _ fun found => plain _ (by simp)) fun _ => trivial
  refine .bind standing fun record => ?_
  split
  · trivial
  · split
    · exact .bind (writeLock_only plain _) fun _ => trivial
    · trivial

theorem activeUnresolved_only (plain : Plain p) : (activeUnresolved pid).Only p := by
  refine .bind (.await _) fun _ => .bind .get fun d => ?_
  split
  · trivial
  · exact .bind readActiveLock_only fun lock => .bind (recordForLock_only plain lock)
      fun _ => trivial

theorem claimRelease_only (plain : Plain p) (owner : Owner) (fuel : Nat) (after : Option String)
    (visited : List (Option String)) : (claimRelease pid owner fuel after visited).Only p := by
  induction fuel generalizing after visited with
  | zero => trivial
  | succ fuel ih =>
    unfold claimRelease
    split
    · trivial
    · refine .bind (randomUUID_only plain) fun nonce => .bind (.await _) fun _ =>
        .bind (fun d => ⟨?_, trivial⟩) fun d => ?_
      · simp only [linkClaim]
        split
        · simp
        · intro deed mem
          rw [List.mem_singleton.mp mem]
          exact plain _ (by simp)
      · split
        · trivial
        · refine .bind (.await _) fun _ => .bind .get fun d => ?_
          split
          · trivial
          · refine .bind (.await _) fun _ => .bind .get fun d => ?_
            split
            · trivial
            · refine .bind (.doing ?_) fun _ => ih _ _
              intro deed mem
              rw [List.mem_singleton.mp mem]
              exact plain _ (by simp)

theorem releaseLock_only (plain : Plain p) (fuel : Nat) (owner : Owner) :
    (releaseLock pid fuel owner).Only p := by
  refine .bind (assertOwnsActiveLock_only owner) fun _ =>
    .bind (claimRelease_only plain owner fuel none []) fun _ =>
      .bind (assertOwnsActiveLock_only owner) fun _ => .bind (.doing ?_) fun _ => ?_
  · intro deed mem
    rw [List.mem_singleton.mp mem]
    exact plain _ (by simp)
  · refine .bind (.await _) fun _ => .bind .get fun d => ?_
    split
    · trivial
    · refine .doing ?_
      intro deed mem
      rw [List.mem_singleton.mp mem]
      exact plain _ (by simp)

theorem releaseRecoveredTerminalLock_only (plain : Plain p) (fuel : Nat) :
    (releaseRecoveredTerminalLock pid fuel).Only p := by
  refine .bind (.attempt readActiveLock_only) fun lock => ?_
  split
  · trivial
  · rename_i lock
    refine .bind (.attempt (recordForLock_only plain lock)) fun record => ?_
    split
    · trivial
    · rename_i record
      unfold releaseTerminal
      split
      · trivial
      · refine .bind (.attempt records_only) fun records => ?_
        split
        · trivial
        · split
          · trivial
          · exact .bind (releaseLock_only plain fuel lock.owner) fun _ => trivial

theorem acquireLock_only (plain : Plain p) (releases fuel : Nat) (owner : Owner) :
    (acquireLock pid releases owner fuel).Only p := by
  induction fuel with
  | zero => trivial
  | succ fuel ih =>
    refine .bind (.await _) fun _ => .bind (fun d => ⟨?_, trivial⟩) fun d => ?_
    · unfold createLock
      split
      · simp
      · intro deed mem
        rw [List.mem_singleton.mp mem]
        exact plain _ (by simp)
    · split
      · trivial
      · refine .bind (releaseRecoveredTerminalLock_only plain releases) fun released => ?_
        split
        · exact ih
        · exact .bind unresolved_only fun _ => trivial

theorem beginRecord_only (plain : Plain p) (fuel : Nat) (record : OperationRecord) :
    (beginRecord pid fuel record).Only p := by
  refine .bind (acquireLock_only plain fuel fuel record.owner) fun _ => .bind (.await _) fun _ =>
    .bind (fun d => ⟨?_, trivial⟩) fun _ => .bind (.orElse ?_ fun err => ?_) fun _ =>
      .bind (writeLock_only plain record.owner) fun _ => .bind (.doing ?_) fun _ => trivial
  · unfold fillLock
    split
    · intro deed mem
      rw [List.mem_singleton.mp mem]
      exact plain _ (by simp)
    · simp
  · refine .bind unresolved_only fun found => ?_
    split
    · trivial
    · exact writeRecord_only _ _ fun found => plain _ (by simp)
  · refine .bind (.doing ?_) fun _ => .bind (releaseLock_only plain fuel record.owner) fun _ => trivial
    intro deed mem
    rw [List.mem_singleton.mp mem]
    exact plain _ (by simp)
  · intro deed mem
    rw [List.mem_singleton.mp mem]
    exact plain _ (by simp)

theorem beginWithState_only (plain : Plain p) (fuel : Nat) (kind : OperationKind)
    (request : List (String × String)) (status : OperationStatus) (txHash : Option String) :
    (beginWithState pid fuel kind request status txHash).Only p := by
  refine .bind (randomUUID_only plain) fun id => .bind (randomUUID_only plain) fun lockNonce =>
    .bind (.await _) fun now => ?_
  dsimp only
  split
  · trivial
  · exact beginRecord_only plain fuel _

end

theorem plain_computed : Plain Computed := by
  intro deed other
  cases deed with
  | updated cause patch read next found => exact absurd rfl (other cause patch read next found)
  | _ => trivial

theorem update_computed {pid : Nat} (fuel : Nat) (cause : Cause) (id : String) (patch : Patch)
    (decided : ∀ record boundary, cause = .failOrAbort record boundary →
      patch = failOrAbortPatch record.toRecordData (aborts record.status boundary)) :
    (update pid fuel cause id patch).Only Computed := by
  refine .bind (getRecord_only id) fun current =>
    .bind (assertOwnsActiveLock_only current.owner) fun _ => ?_
  split
  · trivial
  · rename_i follows
    refine .bind (.await _) fun now => ?_
    dsimp only
    split
    · trivial
    · rename_i next parsed
      refine .bind (writeRecord_only next _ fun found => ?_) fun _ => ?_
      · exact ⟨by simpa using follows, ⟨now, parsed⟩, decided⟩
      · split
        · exact .bind (releaseLock_only plain_computed fuel current.owner) fun _ => trivial
        · trivial

theorem failOrAbort_computed {pid : Nat} (fuel : Nat) (id : String) (boundary : Option Bool) :
    (failOrAbort pid fuel id boundary).Only Computed := by
  refine .bind (getRecord_only id) fun current => ?_
  split
  · trivial
  · refine .bind (update_computed fuel _ id _ ?_) fun _ => trivial
    intro record told same
    cases same
    rfl

theorem call_computed (fuel : Nat) (call : Call) : (call.code fuel).Only Computed := by
  cases call with
  | begin pid kind request =>
    exact .bind (beginWithState_only plain_computed fuel kind request _ _) fun _ => trivial
  | beginBroadcast pid kind request initialTxHash =>
    exact .bind (beginWithState_only plain_computed fuel kind request _ _) fun _ => trivial
  | update pid id patch =>
    refine .bind (update_computed fuel _ id patch ?_) fun _ => trivial
    intro record boundary same
    cases same
  | failOrAbort pid id boundary =>
    exact .bind (failOrAbort_computed fuel id boundary) fun _ => trivial
  | activeUnresolved pid => exact .bind (activeUnresolved_only plain_computed) fun _ => trivial

/-! ## What an update replaces -/

/-- Nothing was submitted: the record replaced had not been broadcast, or the caller knows that
the boundary was not reached. -/
def Unsubmitted (cause : Cause) (found : OperationRecord) : Prop :=
  found.status = .building ∨ ∃ decided, cause = .failOrAbort decided (some false)

/-- An update keeps a terminal status, the transition table and the hash of the record it
replaces, and aborts only what was not submitted. -/
def Evidenced : Deed → Prop
  | .updated cause _ _ next (some found) =>
    (terminal found.status = true → next.status = found.status) ∧
      (next.status = found.status ∨ next.status ∈ transitions found.status) ∧
      (∀ hash, found.txHash = some hash → next.status = .aborted ∨ next.txHash = some hash) ∧
      (next.status = .aborted → found.status ≠ .aborted → Unsubmitted cause found)
  | .updated _ _ _ _ none => False
  | _ => True

/-- An update replaces the record it read, and `failOrAbort` decided on that record; a caller's
own patch spells no other hash and aborts no broadcast operation. -/
def Steady : Deed → Prop
  | .updated cause patch read _ found => found = some read ∧
    match cause with
    | .failOrAbort decided _ => decided = read
    | .direct => (∀ hash, read.txHash = some hash → ∀ spelled, patch.txHash = some spelled →
        spelled = some hash ∨ spelled = none) ∧
        (patch.status = some .aborted → read.status = .building ∨ read.status = .aborted)
  | _ => True

theorem parsed_status {read next : OperationRecord} {patch : Patch} {now : String}
    (h : parseRecord (read.toRecordData.patched patch now) = some next) :
    next.status = patch.status.getD read.status := by
  rw [parseRecord_eq_some h]
  rfl

theorem aborts_eq_true {status : OperationStatus} {boundary : Option Bool}
    (h : aborts status boundary = true) : boundary = some false ∨ status = .building := by
  unfold aborts at h
  simp only [Bool.or_eq_true, Bool.and_eq_true, beq_iff_eq] at h
  rcases h with h | h
  · exact .inl h.1
  · exact .inr h.2

theorem Computed.evidenced {deed : Deed} (computed : Computed deed) (steady : Steady deed) :
    Evidenced deed := by
  cases deed with
  | updated cause patch read next found =>
    obtain ⟨follows, ⟨now, parsed⟩, decision⟩ := computed
    obtain ⟨rfl, steady⟩ := steady
    have status := parsed_status parsed
    refine ⟨fun ended => patched_terminal ended follows parsed, patched_status follows parsed,
      ?_, ?_⟩
    · intro hash recorded
      refine patched_txHash recorded ?_ follows parsed
      intro spelled named
      cases cause with
      | direct => exact steady.1 hash recorded spelled named
      | failOrAbort decided boundary =>
        obtain rfl := steady
        rw [decision decided boundary rfl] at named
        have spelled_eq := Option.some.inj named
        rw [← spelled_eq, ← recorded]
        split
        · exact .inr rfl
        · exact .inl rfl
    · intro aborted other
      cases cause with
      | direct =>
        cases spelled : patch.status with
        | none =>
          rw [spelled, Option.getD_none, aborted] at status
          exact absurd status.symm other
        | some new =>
          rw [spelled, Option.getD_some, aborted] at status
          rw [← status] at spelled
          rcases steady.2 spelled with building | ended
          · exact .inl building
          · exact absurd ended other
      | failOrAbort decided boundary =>
        obtain rfl := steady
        rw [decision decided boundary rfl] at status
        cases abort : aborts decided.status boundary with
        | false =>
          rw [abort, aborted] at status
          simp [failOrAbortPatch] at status
        | true =>
          rcases aborts_eq_true abort with rfl | building
          · exact .inr ⟨decided, rfl⟩
          · exact .inl building
  | _ => trivial

/-- In every run of the journal whose updates replace the records they read, every update is
evidenced. -/
theorem updates_evidenced (d : Directory) (sc : JournalScene) (threads : List (Code Unit))
    (run : JournalRun d sc threads) (steady : ∀ i deed, .did i deed ∈ sc.trace → Steady deed) :
    ∀ i deed, .did i deed ∈ sc.trace → Evidenced deed := by
  obtain ⟨fuel, run⟩ := run
  intro i deed mem
  exact (run.only (call_computed fuel) i deed mem).evidenced (steady i deed mem)

/-! ## Two runs -/

def sampleUuid (digit : Char) : String :=
  String.ofList ("00000000-0000-4000-8000-00000000000".toList ++ [digit])

def sampleHash : String := String.ofList ('0' :: 'x' :: List.replicate 64 '1')

/-- An exit that was broadcast. -/
def sampleRecord : OperationRecord where
  id := sampleUuid '1'
  lockNonce := sampleUuid '2'
  kind := .exit
  status := .broadcast
  createdAt := "2025-01-01T00:00:00.000Z"
  updatedAt := "2025-01-01T00:00:00.000Z"
  request := []
  txHash := some sampleHash
  receiptStatus := none
  receiptBlockNumber := none
  receiptBlockHash := none
  withdrawals := none
  error := none
  parsed := by rfl

/-- A directory in which the exit is unresolved. -/
def sampleDirectory : Directory where
  lock := some (.written ⟨sampleRecord.owner, none, by simp⟩)
  records := ⟨[(sampleRecord.id, sampleRecord)]⟩
  claims := []
  drawn := [sampleUuid '1', sampleUuid '2']
  dead := []

abbrev JournalStage : Type := Stage Unit Directory Deed Ask Ask.Answer JournalError

def Directory.stage (d : Directory) : JournalStage := ⟨⟨[], (), d⟩, []⟩

/-- A turn, the uuid, or the time. -/
def sampleReply (uuid : String) : (q : Ask) → Except JournalError q.Answer
  | .turn _ => .ok ()
  | .uuid _ => .ok uuid
  | .now _ => .ok "2025-01-01T00:00:01.000Z"

abbrev JournalMove : Type := Move Ask Ask.Answer JournalError Call Nat

/-- A call is given its next turns. -/
def turns (i n : Nat) : List JournalMove := List.replicate n (.answer i (sampleReply ""))

/-- A script of a journal. -/
def playJournal (moves : List JournalMove) (d : Directory) : Option JournalStage :=
  playAll (Call.code 4) ready Directory.dies moves d.stage

theorem playJournal_run {moves : List JournalMove} {d : Directory} {stage : JournalStage}
    (h : playJournal moves d = some stage) : JournalRun d stage.scene stage.threads := by
  have init : Pool (Call.code 4) ready outside (fun _ s => s = d) d.stage.scene d.stage.threads :=
    .init (by rfl)
  exact ⟨4, playAll_pool dies_outside init h⟩

def completes : Patch := { Patch.empty with status := some .complete }

def doubts : Patch := { Patch.empty with status := some .inDoubt }

/-- The status an update wrote, and the one it wrote over. -/
def overwrote : JournalEntry → Option (OperationStatus × Option OperationStatus)
  | .did _ (.updated _ _ _ next found) => some (next.status, found.map (·.status))
  | _ => none

/-- Two updates that both read the broadcast record: one completes the operation, and the other
then puts it in doubt. -/
def lostUpdate : Option JournalStage :=
  playJournal ([.call (.update 1 (sampleUuid '1') completes),
    .call (.update 2 (sampleUuid '1') doubts)] ++ turns 1 3 ++ turns 0 4 ++ turns 1 1)
    sampleDirectory

theorem lost_update_unevidenced : ¬∀ d sc threads, JournalRun d sc threads →
    ∀ i deed, .did i deed ∈ sc.trace → Evidenced deed := by
  intro every
  have lost : lostUpdate.map (fun stage => stage.scene.trace.filterMap overwrote) =
      some [(.complete, some .broadcast), (.inDoubt, some .complete)] := by rfl
  obtain ⟨stage, played, writes⟩ := Option.map_eq_some_iff.mp lost
  have mem : (OperationStatus.inDoubt, some OperationStatus.complete) ∈
      stage.scene.trace.filterMap overwrote := by rw [writes]; simp
  obtain ⟨entry, here, is⟩ := List.mem_filterMap.mp mem
  unfold overwrote at is
  split at is
  · rename_i i cause patch read next found
    have evidenced := every _ _ _ (playJournal_run played) i _ here
    simp only [Option.some.injEq, Prod.mk.injEq] at is
    obtain ⟨status, before⟩ := is
    cases found with
    | none => cases before
    | some found =>
      have before : found.status = .complete := Option.some.inj before
      have kept := evidenced.1 (by rw [before]; rfl)
      rw [status, before] at kept
      cases kept
  · cases is

/-- One update at a time: the operation is put in doubt, and then completed. -/
def soundUpdates : Option JournalStage :=
  playJournal ([.call (.update 2 (sampleUuid '1') doubts)] ++ turns 0 4 ++
    [.call (.update 1 (sampleUuid '1') completes)] ++ turns 1 4) sampleDirectory

/-- An update of its caller's own that replaces the record it read and spells no hash. -/
def inPlace : JournalEntry → Bool
  | .did _ (.updated .direct patch read _ found) =>
    found == some read && patch.txHash == none && patch.status != some .aborted
  | .did _ (.updated (.failOrAbort ..) ..) => false
  | _ => true

theorem steady_of_inPlace {i : Nat} {deed : Deed} (h : inPlace (.did i deed) = true) :
    Steady deed := by
  unfold inPlace at h
  split at h
  · rename_i patch read next found same
    cases same
    simp only [Bool.and_eq_true, beq_iff_eq, bne_iff_ne] at h
    obtain ⟨⟨found, hash⟩, status⟩ := h
    refine ⟨found, ?_, fun aborted => absurd aborted status⟩
    intro _ _ spelled named
    rw [hash] at named
    cases named
  · cases h
  · rename_i plain aborting
    cases deed with
    | updated cause patch read next found =>
      cases cause with
      | direct => exact absurd rfl (plain i patch read next found)
      | failOrAbort decided boundary => exact absurd rfl (aborting i decided boundary _ _ _ _)
    | _ => trivial

theorem sound_updates_evidenced : ∃ stage, soundUpdates = some stage ∧
    stage.scene.trace.filterMap overwrote =
      [(.inDoubt, some .broadcast), (.complete, some .inDoubt)] ∧
    ∀ i deed, .did i deed ∈ stage.scene.trace → Evidenced deed := by
  have sound : soundUpdates.map (fun stage =>
      (stage.scene.trace.filterMap overwrote, stage.scene.trace.all inPlace)) =
      some ([(.inDoubt, some .broadcast), (.complete, some .inDoubt)], true) := by rfl
  obtain ⟨stage, played, is⟩ := Option.map_eq_some_iff.mp sound
  obtain ⟨writes, inPlace⟩ := Prod.mk.inj is
  refine ⟨stage, played, writes, updates_evidenced _ _ _ (playJournal_run played) ?_⟩
  intro i deed mem
  exact steady_of_inPlace (List.all_eq_true.mp inPlace _ mem)

end XochiSdk.Recipient
