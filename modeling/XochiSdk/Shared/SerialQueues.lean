import XochiSdk.Js.Map
import XochiSdk.Library.SerialChain

/-!
# The serial queues

`queued` (`packages/solver-sdk/src/tx-sender.ts`), one tail for each key, and
`BoundedSerialQueue` (`packages/provider/daemon/src/server.ts`), one tail and a count. Jobs are
known by the order of their submission; a promise that a queue holds is the tail of a job.
-/

namespace XochiSdk.Shared

open XochiSdk.Js XochiSdk.Library

/-! ## queued -/

/-- The jobs handed to `queued`, and the map of tails. -/
structure Queued (κ ω : Type) where
  chain : SerialChain κ ω
  queues : JsMap κ Nat

inductive QueuedStep (κ ω : Type) where
  | submit (key : κ)
  | move (mv : ChainMove ω)

namespace Queued

variable {κ ω : Type} [DecidableEq κ]

def empty : Queued κ ω := ⟨.empty, .empty⟩

/-- Up to its `await`: the new job waits for the key's tail, and its own tail takes the place. -/
def queued (s : Queued κ ω) (key : κ) : Queued κ ω where
  chain := s.chain.add key (s.queues.get key)
  queues := s.queues.set key s.chain.jobs.length

/-- The `finally`: the key goes if its tail is still this job's. -/
def drop (s : Queued κ ω) (i : Nat) : JsMap κ Nat :=
  match s.chain.jobs[i]? with
  | some job => if s.queues.get job.key = some i then s.queues.delete job.key else s.queues
  | none => s.queues

/-- The `finally` runs before the caller is answered. -/
def after (s : Queued κ ω) : ChainMove ω → JsMap κ Nat
  | .answer i => s.drop i
  | _ => s.queues

/-- A job moves on. -/
def move (s : Queued κ ω) (mv : ChainMove ω) : Option (Queued κ ω) :=
  (s.chain.move mv).map fun chain => { chain, queues := s.after mv }

def step (s : Queued κ ω) : QueuedStep κ ω → Option (Queued κ ω)
  | .submit key => some (s.queued key)
  | .move mv => s.move mv

/-- Submissions and moves in any order; what cannot happen yet is passed over. -/
def run (steps : List (QueuedStep κ ω)) : Queued κ ω :=
  steps.foldl (fun s step => (s.step step).getD s) empty

/-- A key has the tail of its last job while that job is unanswered, and none once all of its
jobs have settled. -/
structure Held (s : Queued κ ω) : Prop where
  ordered : s.chain.Ordered
  last : ∀ key p, s.queues.get key = some p → ∃ before, s.chain.jobs[p]? = some before ∧
    before.key = key ∧ before.answered = false ∧
      ∀ (j : Nat) (mid : ChainJob κ ω), p < j → s.chain.jobs[j]? = some mid → mid.key ≠ key
  free : ∀ key, s.queues.get key = none → s.chain.Behind s.chain.jobs.length key

theorem empty_held : (empty : Queued κ ω).Held := by
  refine ⟨SerialChain.empty_ordered, ?_, ?_⟩
  · intro key p held
    cases held
  · intro key _ j less
    cases less

theorem Held.queued {s : Queued κ ω} (held : s.Held) (key : κ) : (s.queued key).Held := by
  have length : (s.queued key).chain.jobs.length = s.chain.jobs.length + 1 := by
    simp [Queued.queued, SerialChain.add]
  constructor
  · apply held.ordered.add
    · exact held.free key
    · intro p tail
      obtain ⟨before, found, same, -, after⟩ := held.last key p tail
      exact ⟨before, found, same, after⟩
  · intro key' p tail
    change (s.queues.set key s.chain.jobs.length).get key' = some p at tail
    rw [JsMap.get_set] at tail
    split at tail
    · next same =>
      subst same
      cases tail
      refine ⟨_, SerialChain.add_at.mpr (.inr ⟨rfl, rfl⟩), rfl, rfl, ?_⟩
      intro j mid more at_j
      rcases SerialChain.add_at.mp at_j with found | ⟨rfl, -⟩
      · exact absurd (List.getElem?_eq_some_iff.mp found).1 (by omega)
      · omega
    · next other =>
      obtain ⟨before, found, same, unanswered, after⟩ := held.last key' p tail
      refine ⟨before, SerialChain.add_at.mpr (.inl found), same, unanswered, ?_⟩
      intro j mid more at_j
      rcases SerialChain.add_at.mp at_j with found' | ⟨-, rfl⟩
      · exact after j mid more found'
      · exact fun equal => other equal.symm
  · intro key' gone
    change (s.queues.set key s.chain.jobs.length).get key' = none at gone
    rw [JsMap.get_set] at gone
    split at gone
    · cases gone
    · next other =>
      intro j less job at_ same
      rcases SerialChain.add_at.mp at_ with found | ⟨-, rfl⟩
      · exact held.free key' gone j (List.getElem?_eq_some_iff.mp found).1 job found same
      · exact absurd same.symm other

theorem move_some {s s' : Queued κ ω} {mv : ChainMove ω} (h : s.move mv = some s') :
    SerialChain.Moves s.chain mv s'.chain ∧ s'.queues = s.after mv := by
  obtain ⟨chain, moved, rfl⟩ := Option.map_eq_some_iff.mp h
  exact ⟨SerialChain.move_some.mp moved, rfl⟩

/-- What is left of the map once a job's caller is about to be answered. -/
theorem get_drop {s : Queued κ ω} {i : Nat} {job : ChainJob κ ω}
    (found : s.chain.jobs[i]? = some job) (key : κ) :
    (s.drop i).get key =
      if key = job.key ∧ s.queues.get key = some i then none else s.queues.get key := by
  unfold drop
  rw [found]
  by_cases mine : s.queues.get job.key = some i
  · simp only [mine, if_true, JsMap.get_delete]
    by_cases same : key = job.key
    · subst same
      simp [mine]
    · simp [same]
  · simp only [mine, if_false]
    rw [if_neg]
    rintro ⟨rfl, held⟩
    exact mine held

theorem Held.move {s s' : Queued κ ω} (held : s.Held) {mv : ChainMove ω}
    (h : s.move mv = some s') : s'.Held := by
  obtain ⟨moves, queues⟩ := move_some h
  obtain ⟨chain', queues'⟩ := s'
  dsimp only at moves queues
  subst queues
  have same_or : ∀ key p, (s.after mv).get key = some p →
      s.queues.get key = some p ∧ mv ≠ .answer p := by
    intro key p tail
    cases moves with
    | start | settle | pass => exact ⟨tail, nofun⟩
    | @answer i o job found settled first =>
      rw [after, get_drop found] at tail
      split at tail
      · cases tail
      · next other =>
        refine ⟨tail, ?_⟩
        rintro same
        cases same
        obtain ⟨before, at_, key_, -⟩ := held.last key p tail
        rw [found] at at_
        cases at_
        exact other ⟨key_.symm, tail⟩
  constructor
  · exact held.ordered.moves moves
  · intro key p tail
    obtain ⟨tail, other⟩ := same_or key p tail
    obtain ⟨before, found, same, unanswered, after⟩ := held.last key p tail
    obtain ⟨later, at_, key_, still⟩ := moves.unanswered found unanswered other
    refine ⟨later, at_, key_.trans same, still, ?_⟩
    intro j mid more at_j
    obtain ⟨old, found', taken⟩ := moves.back at_j
    rw [taken.key]
    exact after j old more found'
  · intro key gone
    rw [moves.length]
    refine SerialChain.Behind.moves ?_ moves
    cases free : s.queues.get key with
    | none => exact held.free key free
    | some p =>
      -- the tail that went was the key's last job, and its caller was being answered
      cases moves with
      | start | settle | pass =>
        have held_ : s.queues.get key = none := gone
        rw [free] at held_
        cases held_
      | @answer i o job found settled first =>
        dsimp only at gone
        rw [after, get_drop found, free] at gone
        split at gone
        · next mine =>
          obtain ⟨rfl, tail⟩ := mine
          cases tail
          obtain ⟨before, at_, -, -, after⟩ := held.last _ _ free
          intro j less earlier at_j same
          rcases Nat.lt_trichotomy j p with under | rfl | beyond
          · have begun : job.stage ≠ .waiting := by
              rw [settled]
              exact JobStage.settled_ne
            exact held.ordered.behind p job found begun j under earlier at_j same
          · rw [found] at at_j
            cases at_j
            exact ⟨o, settled⟩
          · exact absurd same (after j earlier beyond at_j)
        · cases gone

theorem run_held (steps : List (QueuedStep κ ω)) : (run steps).Held := by
  have keep (s : Queued κ ω) (step : QueuedStep κ ω) (held : s.Held) :
      ((s.step step).getD s).Held := by
    cases step with
    | submit key => exact held.queued key
    | move mv =>
      cases moved : s.move mv with
      | none =>
        change ((s.move mv).getD s).Held
        rw [moved]
        exact held
      | some s' =>
        change ((s.move mv).getD s).Held
        rw [moved]
        exact held.move moved
  have all (steps : List (QueuedStep κ ω)) (s : Queued κ ω) (held : s.Held) :
      (steps.foldl (fun s step => (s.step step).getD s) s).Held := by
    induction steps generalizing s with
    | nil => exact held
    | cons step rest ih => exact ih _ (keep s step held)
  exact all steps empty empty_held

/-- Every move leaves less to do; a key whose jobs have all answered their callers is gone; and
where no job runs and none can move, every job has answered and no key is left. -/
structure Drains (s : Queued κ ω) : Prop where
  freed : ∀ key, (∀ job ∈ s.chain.jobs, job.key = key → job.answered = true) →
    s.queues.get key = none
  shrinks : ∀ (mv : ChainMove ω) (s' : Queued κ ω), s.move mv = some s' →
    s'.chain.left < s.chain.left
  answered : (∀ job ∈ s.chain.jobs, job.stage ≠ .running) → (∀ mv, s.move mv = none) →
    ∀ job ∈ s.chain.jobs, job.answered = true
  emptied : (∀ job ∈ s.chain.jobs, job.stage ≠ .running) → (∀ mv, s.move mv = none) →
    s.queues.entries = []

theorem Held.through {s : Queued κ ω} (held : s.Held)
    (idle : ∀ job ∈ s.chain.jobs, job.stage ≠ .running) (still : ∀ mv, s.move mv = none) :
    ∀ job ∈ s.chain.jobs, job.answered = true := by
  apply held.ordered.through idle
  intro mv
  have stuck := still mv
  unfold Queued.move at stuck
  exact Option.map_eq_none_iff.mp stuck

theorem Held.freed {s : Queued κ ω} (held : s.Held) {key : κ}
    (through : ∀ job ∈ s.chain.jobs, job.key = key → job.answered = true) :
    s.queues.get key = none := by
  cases tail : s.queues.get key with
  | none => rfl
  | some p =>
    obtain ⟨before, found, same, unanswered, -⟩ := held.last key p tail
    rw [through before (List.mem_of_getElem? found) same] at unanswered
    cases unanswered

theorem Held.drains {s : Queued κ ω} (held : s.Held) : s.Drains := by
  refine ⟨fun _ => held.freed, fun mv s' moved => (move_some moved).1.left_lt, held.through, ?_⟩
  intro idle still
  have through := held.through idle still
  cases entries : s.queues.entries with
  | nil => rfl
  | cons entry rest =>
    have gone := held.freed fun job mem (_ : job.key = entry.1) => through job mem
    unfold JsMap.get at gone
    rw [entries, List.lookup_cons_self] at gone
    cases gone

end Queued

/-! ## BoundedSerialQueue -/

/-- The jobs taken, the count of those not yet answered, the last tail, and how many callers were
refused. -/
structure BoundedSerialQueue (ω : Type) where
  maxPending : Nat
  chain : SerialChain Unit ω
  pending : Nat
  tail : Option Nat
  refused : Nat

inductive BoundedStep (ω : Type) where
  | run
  | move (mv : ChainMove ω)

namespace BoundedSerialQueue

variable {ω : Type}

def new (maxPending : Nat) : BoundedSerialQueue ω := ⟨maxPending, .empty, 0, none, 0⟩

/-- `run`: a full queue rejects with its own error, before the operation is called. -/
def run (s : BoundedSerialQueue ω) : BoundedSerialQueue ω :=
  if s.pending ≥ s.maxPending then { s with refused := s.refused + 1 }
  else
    { s with
      pending := s.pending + 1
      chain := s.chain.add () s.tail
      tail := some s.chain.jobs.length }

/-- The `finally` runs before the caller is answered. -/
def after (s : BoundedSerialQueue ω) : ChainMove ω → Nat
  | .answer _ => s.pending - 1
  | _ => s.pending

/-- A job moves on. -/
def move (s : BoundedSerialQueue ω) (mv : ChainMove ω) : Option (BoundedSerialQueue ω) :=
  (s.chain.move mv).map fun chain => { s with chain, pending := s.after mv }

def step (s : BoundedSerialQueue ω) : BoundedStep ω → Option (BoundedSerialQueue ω)
  | .run => some s.run
  | .move mv => s.move mv

/-- Calls and moves in any order; what cannot happen yet is passed over. -/
def runAll (maxPending : Nat) (steps : List (BoundedStep ω)) : BoundedSerialQueue ω :=
  steps.foldl (fun s step => (s.step step).getD s) (new maxPending)

/-- The tail is the last job's, and the count is of the jobs whose callers wait. -/
structure Counted (s : BoundedSerialQueue ω) : Prop where
  ordered : s.chain.Ordered
  tail : s.tail = if s.chain.jobs = [] then none else some (s.chain.jobs.length - 1)
  pending : s.pending = s.chain.jobs.countP (! ·.answered)
  bounded : s.pending ≤ s.maxPending

theorem new_counted (maxPending : Nat) : (new maxPending : BoundedSerialQueue ω).Counted := by
  refine ⟨SerialChain.empty_ordered, rfl, rfl, Nat.zero_le _⟩

theorem Counted.run {s : BoundedSerialQueue ω} (counted : s.Counted) : s.run.Counted := by
  unfold BoundedSerialQueue.run
  split
  · exact ⟨counted.ordered, counted.tail, counted.pending, counted.bounded⟩
  · next room =>
    constructor
    · apply counted.ordered.add
      · intro free
        have empty : s.chain.jobs = [] := by
          have tail := counted.tail
          rw [free] at tail
          by_contra full
          rw [if_neg full] at tail
          cases tail
        intro j less
        rw [empty] at less
        cases less
      · intro p last
        have tail := counted.tail
        rw [last] at tail
        split at tail
        · cases tail
        · next full =>
          cases tail
          have bound : s.chain.jobs.length - 1 < s.chain.jobs.length := by
            have := List.length_pos_iff.mpr full
            omega
          refine ⟨_, List.getElem?_eq_getElem bound, rfl, ?_⟩
          intro j mid more at_j
          have := (List.getElem?_eq_some_iff.mp at_j).1
          omega
    · simp [SerialChain.add]
    · simp [SerialChain.add, counted.pending]
    · dsimp only
      omega

theorem Counted.move {s s' : BoundedSerialQueue ω} (counted : s.Counted) {mv : ChainMove ω}
    (h : s.move mv = some s') : s'.Counted := by
  obtain ⟨chain, moved, rfl⟩ := Option.map_eq_some_iff.mp h
  have moves := SerialChain.move_some.mp moved
  have callers := moves.callers
  constructor
  · exact counted.ordered.moves moves
  · have length := moves.length
    have same : chain.jobs = [] ↔ s.chain.jobs = [] := by
      rw [← List.length_eq_zero_iff, ← List.length_eq_zero_iff, length]
    simp only [same, length]
    exact counted.tail
  · cases mv with
    | answer i =>
      change s.pending - 1 = _
      rw [counted.pending, callers]
    | start | settle | pass =>
      change s.pending = _
      rw [counted.pending, callers]
  · have := counted.bounded
    cases mv with
    | answer i =>
      change s.pending - 1 ≤ s.maxPending
      omega
    | start | settle | pass => exact this

theorem step_counted {s : BoundedSerialQueue ω} (counted : s.Counted) (step : BoundedStep ω) :
    ((s.step step).getD s).Counted ∧ ((s.step step).getD s).maxPending = s.maxPending := by
  cases step with
  | run =>
    refine ⟨counted.run, ?_⟩
    change s.run.maxPending = s.maxPending
    unfold BoundedSerialQueue.run
    split <;> rfl
  | move mv =>
    change ((s.move mv).getD s).Counted ∧ ((s.move mv).getD s).maxPending = s.maxPending
    cases moved : s.move mv with
    | none => exact ⟨counted, rfl⟩
    | some s' =>
      refine ⟨counted.move moved, ?_⟩
      obtain ⟨chain, -, rfl⟩ := Option.map_eq_some_iff.mp moved
      rfl

theorem runAll_counted (maxPending : Nat) (steps : List (BoundedStep ω)) :
    (runAll maxPending steps).Counted ∧ (runAll maxPending steps).maxPending = maxPending := by
  have all (steps : List (BoundedStep ω)) (s : BoundedSerialQueue ω) (counted : s.Counted) :
      (steps.foldl (fun s step => (s.step step).getD s) s).Counted ∧
        (steps.foldl (fun s step => (s.step step).getD s) s).maxPending = s.maxPending := by
    induction steps generalizing s with
    | nil => exact ⟨counted, rfl⟩
    | cons step rest ih =>
      obtain ⟨keeps, bound⟩ := step_counted counted step
      obtain ⟨last, same⟩ := ih _ keeps
      exact ⟨last, same.trans bound⟩
  exact all steps (new maxPending) (new_counted maxPending)

/-- Every move leaves less to do; and where no job runs and none can move, every job has answered
its caller and the count is zero. -/
structure Drains (s : BoundedSerialQueue ω) : Prop where
  shrinks : ∀ (mv : ChainMove ω) (s' : BoundedSerialQueue ω), s.move mv = some s' →
    s'.chain.left < s.chain.left
  answered : (∀ job ∈ s.chain.jobs, job.stage ≠ .running) → (∀ mv, s.move mv = none) →
    ∀ job ∈ s.chain.jobs, job.answered = true
  emptied : (∀ job ∈ s.chain.jobs, job.stage ≠ .running) → (∀ mv, s.move mv = none) →
    s.pending = 0

theorem Counted.drains {s : BoundedSerialQueue ω} (counted : s.Counted) : s.Drains := by
  have through (idle : ∀ job ∈ s.chain.jobs, job.stage ≠ .running)
      (still : ∀ mv, s.move mv = none) : ∀ job ∈ s.chain.jobs, job.answered = true := by
    apply counted.ordered.through idle
    intro mv
    have stuck := still mv
    unfold BoundedSerialQueue.move at stuck
    exact Option.map_eq_none_iff.mp stuck
  refine ⟨?_, through, ?_⟩
  · intro mv s' moved
    obtain ⟨chain, taken, rfl⟩ := Option.map_eq_some_iff.mp moved
    exact (SerialChain.move_some.mp taken).left_lt
  · intro idle still
    rw [counted.pending]
    apply List.countP_eq_zero.mpr
    intro job mem
    simp [through idle still job mem]

end BoundedSerialQueue

/-- Whatever is submitted and however it settles, the jobs of a key run one at a time in the order
they came, each caller gets its own job's outcome, a bounded queue holds no more than its bound,
and a queue that comes to rest is empty. -/
theorem serial_queues_drain :
    (∀ (κ ω : Type) [DecidableEq κ] (steps : List (QueuedStep κ ω)),
      (Queued.run steps).chain.Serial ∧ (Queued.run steps).Drains) ∧
    ∀ (ω : Type) (maxPending : Nat) (steps : List (BoundedStep ω)),
      (BoundedSerialQueue.runAll maxPending steps).chain.Serial ∧
      (BoundedSerialQueue.runAll maxPending steps).Drains ∧
      (BoundedSerialQueue.runAll maxPending steps).chain.jobs.countP
        (fun job => job.stage matches .waiting) ≤ maxPending := by
  constructor
  · intro κ ω _ steps
    have held := Queued.run_held steps
    exact ⟨held.ordered.serial, held.drains⟩
  · intro ω maxPending steps
    obtain ⟨counted, bound⟩ := BoundedSerialQueue.runAll_counted maxPending steps
    refine ⟨counted.ordered.serial, counted.drains, ?_⟩
    have waiting := counted.ordered.waiting_le
    have pending := counted.bounded
    rw [counted.pending, bound] at pending
    exact Nat.le_trans waiting pending

end XochiSdk.Shared
