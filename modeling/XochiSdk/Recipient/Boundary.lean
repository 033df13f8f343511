import XochiSdk.Library.Script
import XochiSdk.Library.Traces
import XochiSdk.Recipient.NodeSubmission

/-!
# At most one transaction

A run of `NodeSubmission` hands over one transaction at most, recorded before as broadcast, and
aborts only with none handed over then or later, as long as its `sendTx` calls come one at a time,
before the run has ended, and none is at its hook when `failOrAbort` is called. The flag that
refuses a second call is read before the hook is awaited and set after it.
-/

namespace XochiSdk.Recipient.Submission

open XochiSdk.Library

abbrev RunEntry : Type := Entry Deed Ask Ask.Answer Thrown

/-- A `sendTx` is at its hook. -/
def SuspendedAt (i : Nat) (tx : TxHash) (trace : Trace) : Prop :=
  .did i (.suspended tx) ∈ trace ∧ ∀ a, .got i .hook a ∉ trace

def Suspended (trace : Trace) : Prop := ∃ i tx, SuspendedAt i tx trace

/-- The run has ended. -/
def Disarmed (trace : Trace) : Prop := ∃ i, .did i .disarmed ∈ trace

def Hands (e : RunEntry) : Prop := ∃ i tx, e = .did i (.handed tx)

/-- The transaction an entry hands over. -/
def handed? : RunEntry → Option TxHash
  | .did _ (.handed tx) => some tx
  | _ => none

/-- The transactions handed to a node, in order. -/
def handed (trace : Trace) : List TxHash := trace.filterMap handed?

/-- The journal has recorded a transaction as broadcast. -/
def Recorded (tx : TxHash) (trace : Trace) : Prop :=
  ∃ i record, .did i (.recorded record) ∈ trace ∧ record.status = .broadcast ∧
    record.txHash = some tx

/-- The journal has recorded the operation as aborted. -/
def Aborted (trace : Trace) : Prop :=
  ∃ i record, .did i (.recorded record) ∈ trace ∧ record.status = .aborted

/-- The boundary is exact: one transaction at most, recorded before it is handed over and kept,
and an operation that is aborted, or ever was recorded so, has handed over none. -/
structure Exact (sc : RunScene) : Prop where
  once : (handed sc.trace).length ≤ 1
  recorded : ∀ a e b, sc.trace = a ++ e :: b → ∀ tx, handed? e = some tx → Recorded tx a
  kept : ∀ tx ∈ handed sc.trace, sc.shared.record.txHash = some tx
  aborted : sc.shared.record.status = .aborted ∨ Aborted sc.trace → handed sc.trace = []

/-- `sendTx` is called one at a time and while the run lasts, none is at its hook when
`failOrAbort` is called, and a receipt names the transaction that was handed over. -/
structure Orderly (trace : Trace) : Prop where
  called : Preceded (fun e => ∃ i tx, e = .did i (.called tx))
    (fun before => ¬Suspended before ∧ ¬Disarmed before) trace
  closed : Preceded (fun e => ∃ i, e = .did i .closing) (fun before => ¬Suspended before) trace
  receipts : ∀ i tx receipt, tx ∈ handed trace → .got i .operation (.ok receipt) ∈ trace →
    receipt.txHash = tx

/-- What every change of a run keeps. -/
structure Inv (sc : RunScene) : Prop where
  reached : sc.shared.submissionBoundaryReached = true →
    ∃ tx, handed sc.trace = [tx] ∧ sc.shared.record.txHash = some tx
  unreached : sc.shared.submissionBoundaryReached = false → handed sc.trace = []
  suspended : ∀ i tx, SuspendedAt i tx sc.trace → sc.shared.submissionBoundaryReached = false ∧
    sc.shared.record.status = .broadcast ∧ sc.shared.record.txHash = some tx ∧
      Recorded tx sc.trace
  alone : ∀ i j tx tx', SuspendedAt i tx sc.trace → SuspendedAt j tx' sc.trace → i = j
  recorded : ∀ a e b, sc.trace = a ++ e :: b → ∀ tx, handed? e = some tx → Recorded tx a
  disarmed : sc.shared.armed = false → Disarmed sc.trace
  aborted : Aborted sc.trace → sc.shared.record.status = .aborted

theorem Inv.exact {sc : RunScene} (inv : Inv sc) : Exact sc := by
  cases boundary : sc.shared.submissionBoundaryReached with
  | false =>
    have none := inv.unreached boundary
    exact ⟨by simp [none], inv.recorded, by simp [none], fun _ => none⟩
  | true =>
    obtain ⟨tx, one, hash⟩ := inv.reached boundary
    refine ⟨by simp [one], inv.recorded, ?_, ?_⟩
    · intro other mem
      rw [one, List.mem_singleton] at mem
      rw [mem]
      exact hash
    · intro aborted
      have aborted : sc.shared.record.status = .aborted := aborted.elim id inv.aborted
      have crossed := sc.shared.record.status_crossed (by rw [hash]; rfl)
      rw [aborted] at crossed
      simp at crossed

def discipline : Discipline Unit State Deed Ask Ask.Answer Thrown := .keeping Inv ready Orderly

/-! ## Traces -/

theorem handed_append (trace later : Trace) :
    handed (trace ++ later) = handed trace ++ handed later := List.filterMap_append

theorem Recorded.append {tx : TxHash} {trace : Trace} (recorded : Recorded tx trace)
    (later : Trace) : Recorded tx (trace ++ later) := by
  obtain ⟨i, record, mem, rest⟩ := recorded
  exact ⟨i, record, List.mem_append_left _ mem, rest⟩

/-- An entry that neither hands over a transaction nor suspends a call. -/
def Quiet (e : RunEntry) : Prop := handed? e = none ∧ ∀ i tx, e ≠ .did i (.suspended tx)

theorem handed_quiet {trace later : Trace} (quiet : ∀ e ∈ later, Quiet e) :
    handed (trace ++ later) = handed trace := by
  rw [handed_append, handed, handed]
  rw [List.filterMap_eq_nil_iff.mpr fun e mem => (quiet e mem).1, List.append_nil]

theorem SuspendedAt.before {i : Nat} {tx : TxHash} {trace later : Trace}
    (h : SuspendedAt i tx (trace ++ later)) (quiet : ∀ e ∈ later, Quiet e) :
    SuspendedAt i tx trace := by
  refine ⟨?_, fun a mem => h.2 a (List.mem_append_left _ mem)⟩
  rcases List.mem_append.mp h.1 with mem | mem
  · exact mem
  · exact absurd rfl ((quiet _ mem).2 i tx)

/-- What is asked of every entry that hands a transaction over holds past quiet ones. -/
theorem recorded_quiet {trace later : Trace} (quiet : ∀ e ∈ later, Quiet e)
    (recorded : ∀ a e b, trace = a ++ e :: b → ∀ tx, handed? e = some tx → Recorded tx a) :
    ∀ a e b, trace ++ later = a ++ e :: b → ∀ tx, handed? e = some tx → Recorded tx a := by
  intro a e b same tx here
  rcases List.append_eq_append_iff.mp same with ⟨c, rfl, rest⟩ | ⟨c, rfl, rest⟩
  · have none := (quiet e (by rw [rest]; simp)).1
    rw [here] at none
    cases none
  · rcases c with - | ⟨x, c⟩
    · have none := (quiet e (by rw [List.nil_append] at rest; rw [← rest]; simp)).1
      rw [here] at none
      cases none
    · rw [List.cons_append, List.cons.injEq] at rest
      obtain ⟨rfl, -⟩ := rest
      exact recorded a e c rfl tx here

theorem Orderly.early {trace later : Trace} (h : Orderly (trace ++ later)) : Orderly trace where
  called := h.called.early
  closed := h.closed.early
  receipts i tx receipt mem got := by
    refine h.receipts i tx receipt ?_ (List.mem_append_left _ got)
    rw [handed_append]
    exact List.mem_append_left _ mem

/-- What a change that neither hands over nor suspends leaves of the invariant, for a record
that keeps what it must. -/
theorem Inv.quiet {sc sc' : RunScene} {l : Trace} (inv : Inv sc)
    (trace : sc'.trace = sc.trace ++ l) (quiet : ∀ e ∈ l, Quiet e)
    (boundary : sc'.shared.submissionBoundaryReached = sc.shared.submissionBoundaryReached)
    (armed : sc'.shared.armed = false → sc.shared.armed = false ∨ ∃ i, .did i .disarmed ∈ l)
    (hash : sc.shared.submissionBoundaryReached = true →
      sc'.shared.record.txHash = sc.shared.record.txHash)
    (record : Suspended sc.trace → sc'.shared.record.status = sc.shared.record.status ∧
      sc'.shared.record.txHash = sc.shared.record.txHash)
    (writes : ∀ i next, .did i (.recorded next) ∈ l → next = sc'.shared.record)
    (stays : sc.shared.record.status = .aborted → sc'.shared.record.status = .aborted) :
    Inv sc' := by
  have same : handed sc'.trace = handed sc.trace := by rw [trace, handed_quiet quiet]
  have was : ∀ i tx, SuspendedAt i tx sc'.trace → SuspendedAt i tx sc.trace := by
    intro i tx now
    rw [trace] at now
    exact now.before quiet
  refine ⟨?_, ?_, ?_, ?_, ?_, ?_, ?_⟩
  · intro reached
    rw [boundary] at reached
    rw [same, hash reached]
    exact inv.reached reached
  · intro unreached
    rw [boundary] at unreached
    rw [same]
    exact inv.unreached unreached
  · intro i tx now
    obtain ⟨unreached, status, is, recorded⟩ := inv.suspended i tx (was i tx now)
    obtain ⟨same_status, same_hash⟩ := record ⟨i, tx, was i tx now⟩
    rw [boundary, same_status, same_hash, trace]
    exact ⟨unreached, status, is, recorded.append _⟩
  · intro i j tx tx' now now'
    exact inv.alone i j tx tx' (was i tx now) (was j tx' now')
  · rw [trace]
    exact recorded_quiet quiet inv.recorded
  · intro off
    rw [trace]
    rcases armed off with off | ⟨i, ended⟩
    · obtain ⟨i, mem⟩ := inv.disarmed off
      exact ⟨i, List.mem_append_left _ mem⟩
    · exact ⟨i, List.mem_append_right _ ended⟩
  · rintro ⟨i, record, mem, status⟩
    rw [trace] at mem
    rcases List.mem_append.mp mem with old | new
    · exact stays (inv.aborted ⟨i, record, old, status⟩)
    · rw [← writes i record new]
      exact status

/-- A change that leaves the record and the boundary, and enters nothing but what is quiet. -/
theorem Inv.silent {sc sc' : RunScene} {l : Trace} (inv : Inv sc)
    (trace : sc'.trace = sc.trace ++ l) (quiet : ∀ e ∈ l, Quiet e)
    (unwritten : ∀ i next, .did i (.recorded next) ∉ l)
    (boundary : sc'.shared.submissionBoundaryReached = sc.shared.submissionBoundaryReached)
    (armed : sc'.shared.armed = false → sc.shared.armed = false ∨ ∃ i, .did i .disarmed ∈ l)
    (record : sc'.shared.record = sc.shared.record) : Inv sc' := by
  refine inv.quiet trace quiet boundary armed ?_ ?_ ?_ ?_
  · intro _
    rw [record]
  · intro _
    rw [record]
    exact ⟨rfl, rfl⟩
  · exact fun i next mem => absurd mem (unwritten i next)
  · intro aborted
    rw [record]
    exact aborted

/-- One more quiet entry, with nothing changed. -/
theorem Inv.entry {sc : RunScene} {e : RunEntry} (inv : Inv sc) (quiet : Quiet e)
    (unwritten : ∀ i next, e ≠ .did i (.recorded next)) :
    Inv { sc with trace := sc.trace ++ [e] } := by
  refine inv.silent rfl ?_ ?_ rfl (fun off => .inl off) rfl
  · intro e' mem
    rw [List.mem_singleton.mp mem]
    exact quiet
  · intro i next mem
    exact unwritten i next (List.mem_singleton.mp mem).symm

theorem Inv.got {sc : RunScene} (inv : Inv sc) (i : Nat) (q : Ask)
    (a : Except Thrown q.Answer) : Inv (sc.got i q a) :=
  inv.entry (e := .got i q a) ⟨rfl, by simp⟩ (by simp)

theorem upholds : discipline.Upholds outside start Inv := by
  refine Discipline.keeping_upholds ?_ ?_ ?_ ?_
  · rintro - s ⟨armed, boundary, -⟩
    refine ⟨?_, fun _ => rfl, ?_, ?_, ?_, ?_, ?_⟩
    · intro reached
      rw [boundary] at reached
      cases reached
    · rintro i tx ⟨mem, -⟩
      cases mem
    · rintro i j tx tx' ⟨mem, -⟩
      cases mem
    · intro a e b same
      simp at same
    · intro off
      rw [armed] at off
      cases off
    · rintro ⟨i, record, mem, -⟩
      cases mem
  · rintro sc w s inv ⟨disk, now, rfl⟩
    exact inv.silent (l := []) (by simp) (by simp) (by simp) rfl (fun off => .inl off) rfl
  · exact fun i sc q a inv _ _ => inv.got i q a
  · exact fun trace later h => h.early

/-! ## The journal's writes -/

theorem next_eq_ok {s : State} {patch : Patch} {next : OperationRecord}
    (h : s.next patch = .ok next) : patch.follows s.record.status = true ∧
      parseRecord (s.record.toRecordData.patched patch s.now) = some next := by
  unfold State.next at h
  split at h
  · cases h
  split at h
  · cases h
  rename_i _ follows
  split at h
  · cases h
  · rename_i record parsed
    cases h
    exact ⟨by simpa using follows, parsed⟩

/-- A patch with no hash and no status keeps both. -/
theorem next_plain {s : State} {patch : Patch} {next : OperationRecord}
    (h : s.next patch = .ok next) (status : patch.status = none) (hash : patch.txHash = none) :
    next.status = s.record.status ∧ next.txHash = s.record.txHash := by
  have same := parseRecord_eq_some (next_eq_ok h).2
  rw [same]
  simp [RecordData.patched, status, hash]

theorem next_txHash {s : State} {patch : Patch} {next : OperationRecord} {hash : Option String}
    (h : s.next patch = .ok next) (spelled : patch.txHash = some hash) : next.txHash = hash := by
  have same := parseRecord_eq_some (next_eq_ok h).2
  rw [same]
  simp [RecordData.patched, spelled]

theorem next_status {s : State} {patch : Patch} {next : OperationRecord}
    {status : OperationStatus} (h : s.next patch = .ok next)
    (spelled : patch.status = some status) : next.status = status := by
  have same := parseRecord_eq_some (next_eq_ok h).2
  rw [same]
  simp [RecordData.patched, spelled]

/-- No patch leaves `aborted`. -/
theorem next_aborted {s : State} {patch : Patch} {next : OperationRecord}
    (h : s.next patch = .ok next) (aborted : s.record.status = .aborted) :
    next.status = .aborted := by
  obtain ⟨follows, parsed⟩ := next_eq_ok h
  cases status : patch.status with
  | none =>
    rw [parseRecord_eq_some parsed]
    simp [RecordData.patched, status, aborted]
  | some target =>
    rw [next_status h status]
    rw [Patch.follows, status, aborted] at follows
    simpa [transitions] using follows

theorem recorded_isQuiet (i : Nat) (record : OperationRecord) :
    Quiet (.did i (.recorded record)) := ⟨rfl, by simp⟩

/-- What an update writes, for a patch that keeps what it must. -/
theorem Inv.written {sc : RunScene} (inv : Inv sc) (i : Nat) (patch : Patch)
    (keeps : ∀ next, sc.shared.next patch = .ok next →
      (sc.shared.submissionBoundaryReached = true → next.txHash = sc.shared.record.txHash) ∧
      (Suspended sc.trace → next.status = sc.shared.record.status ∧
        next.txHash = sc.shared.record.txHash)) :
    Inv (sc.did i (sc.shared.written patch)) := by
  unfold State.written
  split
  · rename_i next here _
    refine inv.quiet rfl ?_ rfl (fun off => .inl off) (keeps next here).1 (keeps next here).2
      (by simp [State.recording]) (next_aborted here)
    intro e mem
    rw [List.mem_singleton.mp mem]
    exact recorded_isQuiet i next
  · rename_i next here _
    refine inv.quiet rfl ?_ rfl (fun off => .inl off) (keeps next here).1 (keeps next here).2
      (by simp) (next_aborted here)
    intro e mem
    rw [List.mem_singleton.mp mem]
    exact recorded_isQuiet i next
  · exact inv.silent rfl (by simp) (by simp) rfl (fun off => .inl off) rfl

theorem Inv.closing {sc : RunScene} (inv : Inv sc) (i : Nat) :
    Inv (sc.did i (sc.shared, [.closing])) :=
  inv.entry (e := .did i .closing) ⟨rfl, by simp⟩ (by simp)

/-- `failOrAbort` keeps the hash of a run that reached the boundary. -/
theorem Inv.failOrAbort {sc : RunScene} (inv : Inv sc) (i : Nat)
    (quiet : ¬Suspended sc.trace) : Inv (sc.did i sc.shared.failOrAbort) := by
  unfold State.failOrAbort
  split
  · exact inv.closing i
  · have closed := inv.closing i
    have still : ¬Suspended (sc.did i (sc.shared, [.closing])).trace := by
      rintro ⟨j, tx, now⟩
      refine quiet ⟨j, tx, now.before ?_⟩
      intro e mem
      simp only [List.map_cons, List.map_nil, List.mem_singleton] at mem
      rw [mem]
      exact ⟨rfl, by simp⟩
    have wrote := closed.written i (failOrAbortPatch sc.shared.record.toRecordData
      (aborts sc.shared.record.status (some sc.shared.submissionBoundaryReached))) (by
        intro next here
        refine ⟨fun reached => ?_, fun now => absurd now still⟩
        have reached : sc.shared.submissionBoundaryReached = true := reached
        rw [next_txHash here rfl]
        simp [aborts, reached])
    have same : (sc.did i (sc.shared, [.closing])).did i ((sc.did i
        (sc.shared, [.closing])).shared.written (failOrAbortPatch sc.shared.record.toRecordData
          (aborts sc.shared.record.status (some sc.shared.submissionBoundaryReached)))) =
        sc.did i ((sc.shared.written (failOrAbortPatch sc.shared.record.toRecordData
          (aborts sc.shared.record.status (some sc.shared.submissionBoundaryReached)))).1,
          .closing :: (sc.shared.written (failOrAbortPatch sc.shared.record.toRecordData
            (aborts sc.shared.record.status (some sc.shared.submissionBoundaryReached)))).2) := by
      simp [Scene.did]
    rw [same] at wrote
    exact wrote

/-! ## The calls -/

theorem written_of_reply {s : State} {patch : Patch} {next : OperationRecord}
    (h : s.reply patch = .ok next) :
    s.next patch = .ok next ∧ s.written patch = (s.recording next, [.recorded next]) := by
  unfold State.reply at h
  split at h
  · rename_i record here writes
    cases h
    refine ⟨here, ?_⟩
    unfold State.written
    rw [here, writes]
  · cases h
  · cases h

/-- `update`, for a patch that keeps what it must. -/
theorem update_safe {i : Nat} {sc : RunScene} {patch : Patch}
    {post : Except Thrown OperationRecord → RunScene → Prop} (inv : Inv sc)
    (keeps : Orderly sc.trace → ∀ next, sc.shared.next patch = .ok next →
      (sc.shared.submissionBoundaryReached = true → next.txHash = sc.shared.record.txHash) ∧
      (Suspended sc.trace → next.status = sc.shared.record.status ∧
        next.txHash = sc.shared.record.txHash))
    (wrote : ∀ next, sc.shared.next patch = .ok next →
      Inv (sc.did i (sc.shared.recording next, [.recorded next])) →
      post (.ok next) (sc.did i (sc.shared.recording next, [.recorded next])))
    (threw : ∀ err, Inv (sc.did i (sc.shared.written patch)) →
      post (.error err) (sc.did i (sc.shared.written patch))) :
    Safe discipline i (update patch) post sc := by
  refine .keeps fun admitted => ?_
  have inv' := inv.written i patch (keeps admitted.early)
  refine ⟨inv', .ofExcept ?_⟩
  cases reply : sc.shared.reply patch with
  | error err => exact threw err inv'
  | ok next =>
    obtain ⟨here, is⟩ := written_of_reply reply
    rw [is] at inv' ⊢
    exact wrote next here inv'

theorem Inv.called {sc : RunScene} (inv : Inv sc) (i : Nat) (tx : TxHash) :
    Inv (sc.did i (sc.shared, [.called tx])) :=
  inv.entry (e := .did i (.called tx)) ⟨rfl, by simp⟩ (by simp)

/-- A call that comes to its hook alone. -/
theorem Inv.suspends {sc : RunScene} (inv : Inv sc) (i : Nat) {tx : TxHash}
    (alone : ¬Suspended sc.trace) (unreached : sc.shared.submissionBoundaryReached = false)
    (status : sc.shared.record.status = .broadcast) (hash : sc.shared.record.txHash = some tx)
    (recorded : Recorded tx sc.trace) : Inv (sc.did i (sc.shared, [.suspended tx])) := by
  have only : ∀ j tx', SuspendedAt j tx' (sc.did i (sc.shared, [.suspended tx])).trace →
      j = i ∧ tx' = tx := by
    rintro j tx' ⟨mem, waits⟩
    rcases List.mem_append.mp mem with old | new
    · exact absurd ⟨j, tx', old, fun a got => waits a (List.mem_append_left _ got)⟩ alone
    · cases List.mem_singleton.mp new
      exact ⟨rfl, rfl⟩
  have unwritten : Aborted (sc.did i (sc.shared, [.suspended tx])).trace → Aborted sc.trace := by
    rintro ⟨j, record, mem, status⟩
    rcases List.mem_append.mp mem with old | new
    · exact ⟨j, record, old, status⟩
    · cases List.mem_singleton.mp new
  have none : handed [.did i (.suspended tx)] = [] := rfl
  have same : handed (sc.did i (sc.shared, [.suspended tx])).trace = handed sc.trace := by
    rw [Scene.did_trace, handed_append]
    exact (congrArg (handed sc.trace ++ ·) none).trans (List.append_nil _)
  refine ⟨?_, ?_, ?_, ?_, ?_, ?_, fun aborted => inv.aborted (unwritten aborted)⟩
  · rw [same]
    exact inv.reached
  · rw [same]
    exact inv.unreached
  · intro j tx' now
    obtain ⟨rfl, rfl⟩ := only j tx' now
    exact ⟨unreached, status, hash, recorded.append _⟩
  · intro j k tx' tx'' now now'
    rw [(only j tx' now).1, (only k tx'' now').1]
  · intro a e b split tx' here
    rcases snoc_split split with ⟨rfl, rfl, -⟩ | ⟨b', -, before⟩
    · cases here
    · exact inv.recorded a e b' before tx' here
  · intro off
    obtain ⟨j, mem⟩ := inv.disarmed off
    exact ⟨j, List.mem_append_left _ mem⟩

/-- A transaction that was recorded is handed over with no call at its hook. -/
theorem Inv.hands {sc : RunScene} (inv : Inv sc) (i : Nat) {tx : TxHash}
    (none : ¬Suspended sc.trace) (unreached : sc.shared.submissionBoundaryReached = false)
    (hash : sc.shared.record.txHash = some tx) (recorded : Recorded tx sc.trace) :
    Inv (sc.did i (sc.shared.reach, [.handed tx])) := by
  have still : ∀ j tx', ¬SuspendedAt j tx' (sc.did i (sc.shared.reach, [.handed tx])).trace := by
    rintro j tx' ⟨mem, waits⟩
    rcases List.mem_append.mp mem with old | new
    · exact none ⟨j, tx', old, fun a got => waits a (List.mem_append_left _ got)⟩
    · cases List.mem_singleton.mp new
  refine ⟨fun _ => ⟨tx, ?_, hash⟩, ?_, ?_, ?_, ?_, ?_, ?_⟩
  · rw [Scene.did_trace, handed_append, inv.unreached unreached]
    rfl
  · intro reached
    cases reached
  · exact fun j tx' now => absurd now (still j tx')
  · exact fun j _ tx' _ now => absurd now (still j tx')
  · intro a e b split tx' here
    rcases snoc_split split with ⟨rfl, rfl, -⟩ | ⟨b', -, before⟩
    · cases here
      exact recorded
    · exact inv.recorded a e b' before tx' here
  · intro off
    obtain ⟨j, mem⟩ := inv.disarmed off
    exact ⟨j, List.mem_append_left _ mem⟩
  · rintro ⟨j, record, mem, status⟩
    rcases List.mem_append.mp mem with old | new
    · exact inv.aborted ⟨j, record, old, status⟩
    · cases List.mem_singleton.mp new

/-- No hook of the call has been answered yet. -/
def Unhooked (i : Nat) (trace : Trace) : Prop := ∀ a, .got i .hook a ∉ trace

theorem Unhooked.did {i : Nat} {sc : RunScene} (h : Unhooked i sc.trace)
    (changed : State × List Deed) : Unhooked i (sc.did i changed).trace := by
  intro a mem
  rcases List.mem_append.mp mem with mem | mem
  · exact h a mem
  · obtain ⟨_, -, same⟩ := List.mem_map.mp mem
    cases same

theorem not_suspended_did {i : Nat} {sc : RunScene} {s : State} {d : List Deed}
    (h : ¬Suspended sc.trace) (other : ∀ tx, .suspended tx ∉ d) :
    ¬Suspended (sc.did i (s, d)).trace := by
  rintro ⟨j, tx, mem, waits⟩
  rcases List.mem_append.mp mem with old | new
  · exact h ⟨j, tx, old, fun a got => waits a (List.mem_append_left _ got)⟩
  · obtain ⟨deed, mem, same⟩ := List.mem_map.mp new
    cases same
    exact other tx mem

/-- A call past its guards, with none at its hook. -/
theorem submit_safe {i : Nat} {sc : RunScene} (tx : TxHash) (inv : Inv sc)
    (alone : ¬Suspended sc.trace) (unhooked : Unhooked i sc.trace)
    (unreached : sc.shared.submissionBoundaryReached = false) :
    Safe discipline i (submit tx) (fun _ _ => True) sc := by
  unfold submit
  have alone := not_suspended_did (i := i) (s := sc.shared.preSend) (d := []) alone (by simp)
  have unhooked := unhooked.did (sc.shared.preSend, [])
  have inv : Inv (sc.did i (sc.shared.preSend, [])) :=
    inv.silent (l := []) rfl (by simp) (by simp) rfl (fun off => .inl off) rfl
  refine .bind (.keeps_doing fun _ => ⟨inv, ?_⟩)
  have unreached : (sc.did i (sc.shared.preSend, [])).shared.submissionBoundaryReached = false :=
    unreached
  revert inv alone unhooked unreached
  generalize sc.did i (sc.shared.preSend, []) = sc
  intro alone unhooked inv unreached
  refine .bind (update_safe inv ?_ ?_ ?_)
  · intro _ next _
    refine ⟨fun now => ?_, fun now => absurd now alone⟩
    rw [unreached] at now
    cases now
  · intro next here inv
    have status := next_status here rfl
    have hash := next_txHash here rfl
    have alone := not_suspended_did (i := i) (s := sc.shared.recording next)
      (d := [.recorded next]) alone (by simp)
    have unhooked := unhooked.did (sc.shared.recording next, [.recorded next])
    have recorded : Recorded tx (sc.did i (sc.shared.recording next, [.recorded next])).trace :=
      ⟨i, next, by simp, status, hash⟩
    have unreached : (sc.did i (sc.shared.recording next,
      [.recorded next])).shared.submissionBoundaryReached = false := unreached
    have status : (sc.did i (sc.shared.recording next,
      [.recorded next])).shared.record.status = .broadcast := status
    have hash : (sc.did i (sc.shared.recording next,
      [.recorded next])).shared.record.txHash = some tx := hash
    revert inv alone unhooked recorded unreached status hash
    generalize sc.did i (sc.shared.recording next, [.recorded next]) = sc
    intro inv alone unhooked recorded unreached status hash
    have suspends := inv.suspends i alone unreached status hash recorded
    refine .bind (.keeps_doing fun _ => ⟨suspends, ?_⟩)
    refine .bind (.keeps_await ?_)
    intro sc' inv' grows answer resumed _
    cases answer with
    | error _ => cases resumed
    | ok _ =>
      have waits : SuspendedAt i tx sc'.trace := by
        refine ⟨grows.mem (by simp), fun a mem => ?_⟩
        exact unhooked.did _ a (grows.mem_before mem (by simp [Entry.call]))
      obtain ⟨unreached, status, hash, recorded⟩ := inv'.suspended i tx waits
      have none : ¬Suspended (sc'.got i .hook (.ok ())).trace := by
        rintro ⟨j, tx', mem, still⟩
        have was : SuspendedAt j tx' sc'.trace := by
          refine ⟨?_, fun a got => still a (List.mem_append_left _ got)⟩
          rcases List.mem_append.mp mem with old | new
          · exact old
          · cases List.mem_singleton.mp new
        obtain rfl := inv'.alone j i tx' tx was waits
        exact still (.ok ()) (by simp)
      refine .bind (.keeps_doing fun _ => ⟨?_, ?_⟩)
      · exact (inv'.got i .hook (.ok ())).hands i none unreached hash (recorded.append _)
      · exact .keeps_await fun _ _ _ _ _ _ => trivial
  · intro err _
    trivial

theorem sendTx_safe {i : Nat} {sc : RunScene} (tx : TxHash) (inv : Inv sc)
    (fresh : ∀ e ∈ sc.trace, e.call ≠ i) :
    Safe discipline i (sendTx tx) (fun _ _ => True) sc := by
  have unhooked : Unhooked i sc.trace := fun a mem => fresh _ mem rfl
  unfold sendTx
  refine .bind (.keeps_doing fun admitted => ⟨inv.called i tx, ?_⟩)
  obtain ⟨alone, lasts⟩ := admitted.called.last ⟨i, tx, rfl⟩
  have armed : sc.shared.armed = true := by
    cases armed : sc.shared.armed with
    | true => rfl
    | false => exact absurd (inv.disarmed armed) lasts
  refine .bind (.keeps_get (inv.called i tx) ?_)
  simp only [Scene.did_shared, id_eq, armed]
  by_cases reached : sc.shared.submissionBoundaryReached = true
  · simp only [reached]
    trivial
  · simp only [reached]
    exact submit_safe tx (inv.called i tx) (not_suspended_did alone (by simp))
      (unhooked.did _) (by simpa using reached)

theorem onPreparedWithdrawals_safe {i : Nat} {sc : RunScene} (withdrawals : List Withdrawal)
    (inv : Inv sc) : Safe discipline i (onPreparedWithdrawals withdrawals) (fun _ _ => True) sc := by
  refine .bind (update_safe inv ?_ (fun _ _ _ => trivial) fun _ _ => trivial)
  intro _ next here
  obtain ⟨status, hash⟩ := next_plain here rfl rfl
  exact ⟨fun _ => hash, fun _ => ⟨status, hash⟩⟩

theorem sanitizeFundMovementFailure_safe {i : Nat} {sc : RunScene} (inv : Inv sc) :
    Safe discipline i sanitizeFundMovementFailure (fun _ _ => True) sc := by
  refine .keeps fun admitted => ⟨inv.failOrAbort i ?_, trivial⟩
  have first : ∃ rest, sc.shared.failOrAbort.2 = .closing :: rest := by
    unfold State.failOrAbort
    split
    · exact ⟨[], rfl⟩
    · exact ⟨_, rfl⟩
  obtain ⟨rest, first⟩ := first
  refine admitted.closed sc.trace (.did i .closing) (rest.map (.did i)) ?_ ⟨i, rfl⟩
  rw [Scene.did_trace, first, List.map_cons]

theorem runOutcome_ok {boundary : Bool} {result : Except Thrown Receipt} {receipt : Receipt}
    (h : runOutcome boundary result = .ok receipt) : boundary = true ∧ result = .ok receipt := by
  cases result with
  | error err => cases h
  | ok got =>
    cases boundary with
    | false => cases h
    | true => exact ⟨rfl, h⟩

theorem settle_safe {i : Nat} {sc : RunScene} :
    Safe discipline i settle (fun _ _ => True) sc := by
  unfold settle
  refine .bind (.attempt (.keeps_await ?_))
  intro sc₁ inv₁ _ result _ _
  have inv := inv₁.got i .operation result
  refine .bind (.keeps_get inv ?_)
  have disarms : Inv ((sc₁.got i .operation result).did i
      (sc₁.shared.disarm, [.disarmed])) := by
    refine inv.silent rfl ?_ (by simp) rfl (fun _ => .inr ⟨i, by simp⟩) rfl
    intro e mem
    rw [List.mem_singleton.mp mem]
    exact ⟨rfl, by simp⟩
  refine .bind (.keeps_doing fun _ => ⟨disarms, ?_⟩)
  refine .bind (.keeps_await ?_)
  intro sc₂ inv₂ grows answer resumed _
  cases answer with
  | error _ => cases resumed
  | ok _ =>
    have after := inv₂.got i .settled (.ok ())
    dsimp only
    split
    · exact sanitizeFundMovementFailure_safe after
    · rename_i receipt outcome
      obtain ⟨reached, rfl⟩ := runOutcome_ok outcome
      obtain ⟨tx, one, -⟩ := inv₁.reached reached
      have mem₁ : tx ∈ handed ((sc₁.got i .operation (.ok receipt)).did i
          (sc₁.shared.disarm, [.disarmed])).trace := by
        rw [Scene.did_trace, Scene.got_trace, handed_append, handed_append, one]
        simp
      have mem : tx ∈ handed (sc₂.got i .settled (.ok ())).trace := by
        obtain ⟨later, same, -⟩ := grows
        rw [Scene.got_trace, same, handed_append, handed_append]
        exact List.mem_append_left _ (List.mem_append_left _ mem₁)
      have got : .got i .operation (.ok receipt) ∈ (sc₂.got i .settled (.ok ())).trace :=
        List.mem_append_left _ (grows.mem (by simp))
      by_cases durable : receipt.durablyIncluded = true
      · simp only [durable]
        refine .bind (.attempt (update_safe after ?_ (fun _ _ _ => trivial) ?_))
        · intro orderly next here
          have named := orderly.receipts i tx receipt mem got
          cases still : (sc₂.got i .settled (.ok ())).shared.submissionBoundaryReached with
          | false =>
            have none := after.unreached still
            rw [none] at mem
            cases mem
          | true =>
            obtain ⟨tx', only, hash⟩ := after.reached still
            refine ⟨fun _ => ?_, ?_⟩
            · rw [only, List.mem_singleton] at mem
              rw [next_txHash here rfl, named, hash, mem]
            · rintro ⟨j, tx'', now⟩
              have unreached := (after.suspended j tx'' now).1
              rw [still] at unreached
              cases unreached
        · exact fun _ inv => sanitizeFundMovementFailure_safe inv
      · simp only [durable]
        exact sanitizeFundMovementFailure_safe after

/-- In every interleaving of a run with its operation's calls that is orderly, the boundary is
exact. -/
theorem boundary_exact (sc : RunScene) (threads : List (Code Unit)) (run : Runs sc threads)
    (orderly : Orderly sc.trace) : Exact sc := by
  refine Inv.exact (Pool.sound upholds ?_ run orderly)
  intro call i sc inv fresh
  cases call with
  | settle => exact settle_safe
  | sendTx tx => exact sendTx_safe tx inv fresh
  | onPreparedWithdrawals withdrawals => exact onPreparedWithdrawals_safe withdrawals inv

/-! ## Two runs -/

def sampleHash (digit : Char) : TxHash := String.ofList ('0' :: 'x' :: List.replicate 64 digit)

/-- A spend that `begin` has returned. -/
def sampleRecord : OperationRecord where
  id := "00000000-0000-4000-8000-000000000001"
  lockNonce := "00000000-0000-4000-8000-000000000002"
  kind := .spend
  status := .building
  createdAt := "2025-01-01T00:00:00.000Z"
  updatedAt := "2025-01-01T00:00:00.000Z"
  request := []
  txHash := none
  receiptStatus := none
  receiptBlockNumber := none
  receiptBlockHash := none
  withdrawals := none
  error := none
  parsed := by rfl

def sampleStart : Stage Unit State Deed Ask Ask.Answer Thrown where
  scene := ⟨[], (), ⟨true, false, false, .simulate, sampleRecord, true, .writes,
    "2025-01-01T00:00:01.000Z"⟩⟩
  threads := []

theorem sampleStart_runs : Runs sampleStart.scene sampleStart.threads := .init ⟨rfl, rfl, rfl⟩

/-- The node answers, and the operation settles with a receipt of the transaction. -/
def sampleReply (tx : TxHash) : (q : Ask) → Except Thrown q.Answer
  | .operation => .ok ⟨tx, true, none⟩
  | .settled | .hook | .node => .ok ()

/-- The disk and the clock as they may be. -/
def sampleEvent (event : Disk × String) (w : Unit) (s : State) : Unit × State :=
  (w, { s with disk := event.1, now := event.2 })

theorem sampleEvent_outside (event : Disk × String) (w : Unit) (s : State) :
    outside w s (sampleEvent event w s).1 (sampleEvent event w s).2 := ⟨_, _, rfl⟩

/-- Two calls, the second while the first is at its hook. -/
def twoSends : Option (Stage Unit State Deed Ask Ask.Answer Thrown) :=
  playAll Call.code ready sampleEvent
    [.call (.sendTx (sampleHash '1')), .call (.sendTx (sampleHash '2')),
      .answer 0 (sampleReply ""), .answer 1 (sampleReply "")] sampleStart

/-- A second call at the hook hands over a second transaction. -/
theorem two_sends_hand_two : ¬∀ sc threads, Runs sc threads → Exact sc := by
  intro every
  have two : twoSends.map (fun stage => (handed stage.scene.trace).length) = some 2 := by rfl
  obtain ⟨stage, played, two⟩ := Option.map_eq_some_iff.mp two
  have once := (every _ _ (playAll_pool sampleEvent_outside sampleStart_runs played)).once
  rw [two] at once
  exact absurd once (by decide)

/-- One call, resumed before the operation settles. -/
def oneSend : Option (Stage Unit State Deed Ask Ask.Answer Thrown) :=
  playAll Call.code ready sampleEvent
    [.call .settle, .call (.sendTx (sampleHash '1')), .answer 1 (sampleReply ""),
      .answer 0 (sampleReply (sampleHash '1')), .answer 0 (sampleReply "")] sampleStart

def sampleBroadcast : OperationRecord :=
  { sampleRecord with
    status := .broadcast
    txHash := some (sampleHash '1')
    updatedAt := "2025-01-01T00:00:01.000Z"
    parsed := by rfl }

def sampleComplete : OperationRecord :=
  { sampleBroadcast with
    status := .complete
    parsed := by rfl }

def oneSendTrace : Trace :=
  [.did 1 (.called (sampleHash '1')), .did 1 (.recorded sampleBroadcast),
    .did 1 (.suspended (sampleHash '1')), .got 1 .hook (.ok ()),
    .did 1 (.handed (sampleHash '1')), .got 0 .operation (.ok ⟨sampleHash '1', true, none⟩),
    .did 0 .disarmed, .got 0 .settled (.ok ()), .did 0 (.recorded sampleComplete)]

theorem oneSendTrace_orderly : Orderly oneSendTrace where
  called := by
    intro a e b same now
    obtain ⟨i, tx, rfl⟩ := now
    cases a with
    | nil =>
      refine ⟨?_, ?_⟩
      · rintro ⟨_, _, mem, -⟩
        cases mem
      · rintro ⟨_, mem⟩
        cases mem
    | cons x a =>
      rw [oneSendTrace, List.cons_append, List.cons.injEq] at same
      have mem : (.did i (.called tx) : RunEntry) ∈ a ++ .did i (.called tx) :: b := by simp
      rw [← same.2] at mem
      simp at mem
  closed := by
    intro a e b same now
    obtain ⟨i, rfl⟩ := now
    have mem : (.did i .closing : RunEntry) ∈ a ++ .did i .closing :: b := by simp
    rw [← same, oneSendTrace] at mem
    simp at mem
  receipts i tx receipt mem got := by
    have one : handed oneSendTrace = [sampleHash '1'] := rfl
    rw [one, List.mem_singleton] at mem
    rw [oneSendTrace] at got
    simp only [List.mem_cons, List.not_mem_nil, or_false, reduceCtorEq, false_or] at got
    rcases got with same | same | same
    · cases same
    · cases same
      exact mem.symm
    · cases same

theorem one_send_exact : ∃ stage, oneSend = some stage ∧ Exact stage.scene ∧
    stage.scene.trace = oneSendTrace := by
  have played : oneSend.map (·.scene.trace) = some oneSendTrace := by rfl
  obtain ⟨stage, here, trace⟩ := Option.map_eq_some_iff.mp played
  refine ⟨stage, here, ?_, trace⟩
  refine boundary_exact _ _ (playAll_pool sampleEvent_outside sampleStart_runs here) ?_
  rw [trace]
  exact oneSendTrace_orderly

end XochiSdk.Recipient.Submission
