import Mathlib.Algebra.Ring.Nat
import Mathlib.Data.List.Basic
import Mathlib.Data.Nat.Find

/-!
# Chains of jobs

Jobs that each run after an earlier one of their key has settled, as promises chain them: a job
waits for the tail of its prior, runs, settles, and then, in either order and at any later time,
its own tail settles and its caller is answered.
-/

namespace XochiSdk.Library

inductive JobStage (ω : Type) where
  | waiting
  | running
  | settled (outcome : ω)

/-- A job, the earlier one whose tail it waits for, and what has happened to it. -/
structure ChainJob (κ ω : Type) where
  key : κ
  prior : Option Nat
  stage : JobStage ω
  passed : Bool
  answered : Bool

/-- The jobs in the order they were submitted, with what was started and answered so far. -/
structure SerialChain (κ ω : Type) where
  jobs : List (ChainJob κ ω)
  started : List (Nat × κ)
  answers : List (Nat × ω)

/-- What can happen next. A job that throws when it is called has settled at once. -/
inductive ChainMove (ω : Type) where
  | start (i : Nat) (thrown : Option ω)
  | settle (i : Nat) (outcome : ω)
  | pass (i : Nat)
  | answer (i : Nat)

variable {κ ω : Type}

def JobStage.begun (thrown : Option ω) : JobStage ω :=
  match thrown with
  | none => .running
  | some outcome => .settled outcome

theorem JobStage.settled_ne {o : ω} : JobStage.settled o ≠ .waiting := nofun

theorem JobStage.begun_ne {thrown : Option ω} : JobStage.begun thrown ≠ .waiting := by
  cases thrown <;> nofun

namespace SerialChain

def empty : SerialChain κ ω := ⟨[], [], []⟩

/-- A job joins the chain. -/
def add (c : SerialChain κ ω) (key : κ) (prior : Option Nat) : SerialChain κ ω :=
  { c with jobs := c.jobs ++ [⟨key, prior, .waiting, false, false⟩] }

/-- The promise a job waits for has settled. -/
def ready (c : SerialChain κ ω) (job : ChainJob κ ω) : Bool :=
  match job.prior with
  | none => true
  | some p => (c.jobs[p]?.map (·.passed)).getD false

/-- One step of a job, or `none` where the job is not there or not so far. -/
def move (c : SerialChain κ ω) : ChainMove ω → Option (SerialChain κ ω)
  | .start i thrown =>
    match c.jobs[i]? with
    | some job =>
      match job.stage with
      | .waiting =>
        if c.ready job then
          some { c with
            jobs := c.jobs.set i { job with stage := .begun thrown }
            started := c.started ++ [(i, job.key)] }
        else none
      | _ => none
    | none => none
  | .settle i outcome =>
    match c.jobs[i]? with
    | some job =>
      match job.stage with
      | .running => some { c with jobs := c.jobs.set i { job with stage := .settled outcome } }
      | _ => none
    | none => none
  | .pass i =>
    match c.jobs[i]? with
    | some job =>
      match job.stage with
      | .settled _ =>
        if job.passed then none
        else some { c with jobs := c.jobs.set i { job with passed := true } }
      | _ => none
    | none => none
  | .answer i =>
    match c.jobs[i]? with
    | some job =>
      match job.stage with
      | .settled outcome =>
        if job.answered then none
        else
          some { c with
            jobs := c.jobs.set i { job with answered := true }
            answers := c.answers ++ [(i, outcome)] }
      | _ => none
    | none => none

/-! ## What a move does -/

/-- A move takes one job on. -/
inductive Moves (c : SerialChain κ ω) : ChainMove ω → SerialChain κ ω → Prop where
  | start {i : Nat} {thrown : Option ω} {job : ChainJob κ ω} (at_ : c.jobs[i]? = some job)
      (waits : job.stage = .waiting) (ready : c.ready job = true) : Moves c (.start i thrown)
        { c with
          jobs := c.jobs.set i { job with stage := .begun thrown }
          started := c.started ++ [(i, job.key)] }
  | settle {i : Nat} {outcome : ω} {job : ChainJob κ ω} (at_ : c.jobs[i]? = some job)
      (runs : job.stage = .running) : Moves c (.settle i outcome)
        { c with jobs := c.jobs.set i { job with stage := .settled outcome } }
  | pass {i : Nat} {outcome : ω} {job : ChainJob κ ω} (at_ : c.jobs[i]? = some job)
      (settled : job.stage = .settled outcome) (first : job.passed = false) : Moves c (.pass i)
        { c with jobs := c.jobs.set i { job with passed := true } }
  | answer {i : Nat} {outcome : ω} {job : ChainJob κ ω} (at_ : c.jobs[i]? = some job)
      (settled : job.stage = .settled outcome) (first : job.answered = false) :
      Moves c (.answer i)
        { c with
          jobs := c.jobs.set i { job with answered := true }
          answers := c.answers ++ [(i, outcome)] }

theorem move_some {c c' : SerialChain κ ω} {mv : ChainMove ω} :
    c.move mv = some c' ↔ Moves c mv c' := by
  constructor
  · intro h
    cases mv with
    | start i thrown =>
      unfold move at h
      cases at_ : c.jobs[i]? with
      | none => simp [at_] at h
      | some job =>
        cases stage : job.stage with
        | waiting =>
          simp only [at_, stage, Option.ite_none_right_eq_some, Option.some.injEq] at h
          obtain ⟨ready, rfl⟩ := h
          exact .start at_ stage ready
        | running | settled => simp [at_, stage] at h
    | settle i outcome =>
      unfold move at h
      cases at_ : c.jobs[i]? with
      | none => simp [at_] at h
      | some job =>
        cases stage : job.stage with
        | running =>
          simp only [at_, stage, Option.some.injEq] at h
          obtain rfl := h
          exact .settle at_ stage
        | waiting | settled => simp [at_, stage] at h
    | pass i =>
      unfold move at h
      cases at_ : c.jobs[i]? with
      | none => simp [at_] at h
      | some job =>
        obtain ⟨key, prior, stage, passed, answered⟩ := job
        cases stage with
        | settled outcome =>
          simp only [at_, Option.ite_none_left_eq_some, Bool.not_eq_true, Option.some.injEq] at h
          obtain ⟨first, rfl⟩ := h
          exact .pass at_ rfl first
        | waiting | running => simp [at_] at h
    | answer i =>
      unfold move at h
      cases at_ : c.jobs[i]? with
      | none => simp [at_] at h
      | some job =>
        obtain ⟨key, prior, stage, passed, answered⟩ := job
        cases stage with
        | settled outcome =>
          simp only [at_, Option.ite_none_left_eq_some, Bool.not_eq_true, Option.some.injEq] at h
          obtain ⟨first, rfl⟩ := h
          exact .answer at_ rfl first
        | waiting | running => simp [at_] at h
  · intro h
    cases h with
    | start at_ waits ready => simp [move, at_, waits, ready]
    | settle at_ runs => simp [move, at_, runs]
    | pass at_ settled first => simp [move, at_, settled, first]
    | answer at_ settled first => simp [move, at_, settled, first]

/-- One job later: what it was submitted with, and what had happened to it, stay. -/
structure Taken (job job' : ChainJob κ ω) : Prop where
  key : job'.key = job.key
  prior : job'.prior = job.prior
  settled : ∀ o, job.stage = .settled o → job'.stage = .settled o
  passed : job.passed = true → job'.passed = true
  answered : job.answered = true → job'.answered = true

theorem Taken.refl (job : ChainJob κ ω) : Taken job job :=
  ⟨rfl, rfl, fun _ h => h, id, id⟩

/-- A move takes one job on and leaves the others. -/
theorem Moves.job {c c' : SerialChain κ ω} {mv : ChainMove ω} (h : Moves c mv c') :
    ∃ i job job', c.jobs[i]? = some job ∧ c'.jobs = c.jobs.set i job' ∧ Taken job job' := by
  cases h with
  | start at_ waits ready =>
    refine ⟨_, _, _, at_, rfl, rfl, rfl, ?_, id, id⟩
    intro o settled
    rw [waits] at settled
    cases settled
  | settle at_ runs =>
    refine ⟨_, _, _, at_, rfl, rfl, rfl, ?_, id, id⟩
    intro o settled
    rw [runs] at settled
    cases settled
  | pass at_ settled first => exact ⟨_, _, _, at_, rfl, rfl, rfl, fun _ h => h, fun _ => rfl, id⟩
  | answer at_ settled first => exact ⟨_, _, _, at_, rfl, rfl, rfl, fun _ h => h, id, fun _ => rfl⟩

theorem set_at {jobs : List (ChainJob κ ω)} {i k : Nat} {job job' later : ChainJob κ ω}
    (at_ : jobs[i]? = some job) (h : (jobs.set i job')[k]? = some later) :
    (k = i ∧ later = job') ∨ (k ≠ i ∧ jobs[k]? = some later) := by
  have bound : i < jobs.length := (List.getElem?_eq_some_iff.mp at_).1
  rw [List.getElem?_set] at h
  by_cases here : i = k
  · subst here
    simp only [if_true, if_pos bound, Option.some.injEq] at h
    exact .inl ⟨rfl, h.symm⟩
  · rw [if_neg here] at h
    exact .inr ⟨fun same => here same.symm, h⟩

theorem set_self {jobs : List (ChainJob κ ω)} {i : Nat} {job job' : ChainJob κ ω}
    (at_ : jobs[i]? = some job) : (jobs.set i job')[i]? = some job' := by
  have bound : i < jobs.length := (List.getElem?_eq_some_iff.mp at_).1
  rw [List.getElem?_set, if_pos rfl, if_pos bound]

theorem Moves.back {c c' : SerialChain κ ω} {mv : ChainMove ω} (h : Moves c mv c') {k : Nat}
    {later : ChainJob κ ω} (at_ : c'.jobs[k]? = some later) :
    ∃ job, c.jobs[k]? = some job ∧ Taken job later := by
  obtain ⟨i, job, job', found, jobs, taken⟩ := h.job
  rw [jobs] at at_
  rcases set_at found at_ with ⟨rfl, rfl⟩ | ⟨-, same⟩
  · exact ⟨job, found, taken⟩
  · exact ⟨later, same, .refl _⟩

theorem Moves.forth {c c' : SerialChain κ ω} {mv : ChainMove ω} (h : Moves c mv c') {k : Nat}
    {job : ChainJob κ ω} (at_ : c.jobs[k]? = some job) :
    ∃ later, c'.jobs[k]? = some later ∧ Taken job later := by
  obtain ⟨i, moved, job', found, jobs, taken⟩ := h.job
  rw [jobs]
  by_cases here : i = k
  · subst here
    rw [found] at at_
    cases at_
    exact ⟨job', set_self found, taken⟩
  · refine ⟨job, ?_, .refl _⟩
    rw [List.getElem?_set, if_neg here, at_]

theorem Moves.length {c c' : SerialChain κ ω} {mv : ChainMove ω} (h : Moves c mv c') :
    c'.jobs.length = c.jobs.length := by
  obtain ⟨i, job, job', found, jobs, taken⟩ := h.job
  rw [jobs, List.length_set]

/-- A job is answered by its own answer alone. -/
theorem Moves.unanswered {c c' : SerialChain κ ω} {mv : ChainMove ω} (h : Moves c mv c') {k : Nat}
    {job : ChainJob κ ω} (found : c.jobs[k]? = some job) (first : job.answered = false)
    (other : mv ≠ .answer k) :
    ∃ later, c'.jobs[k]? = some later ∧ later.key = job.key ∧ later.answered = false := by
  obtain ⟨later, at_, taken⟩ := h.forth found
  refine ⟨later, at_, taken.key, ?_⟩
  have unmoved (same : c.jobs[k]? = some later) : later.answered = false := by
    rw [found] at same
    cases same
    exact first
  cases h with
  | start here _ _ | settle here _ | pass here _ _ =>
    rcases set_at here at_ with ⟨rfl, rfl⟩ | ⟨-, same⟩
    · rw [found] at here
      cases here
      exact first
    · exact unmoved same
  | answer here _ _ =>
    rcases set_at here at_ with ⟨rfl, rfl⟩ | ⟨-, same⟩
    · exact (other rfl).elim
    · exact unmoved same

/-! ## The order of a chain -/

/-- Every earlier job of the key has settled. -/
def Behind (c : SerialChain κ ω) (i : Nat) (key : κ) : Prop :=
  ∀ j < i, ∀ job, c.jobs[j]? = some job → job.key = key → ∃ o, job.stage = .settled o

theorem Behind.moves {c c' : SerialChain κ ω} {mv : ChainMove ω} {i : Nat} {key : κ}
    (behind : c.Behind i key) (h : Moves c mv c') : c'.Behind i key := by
  intro j before later at_ same
  obtain ⟨job, found, taken⟩ := h.back at_
  obtain ⟨o, settled⟩ := behind j before job found (taken.key.symm.trans same)
  exact ⟨o, taken.settled o settled⟩

/-- What every chain keeps: a job that has begun has every earlier one of its key behind it. -/
structure Ordered (c : SerialChain κ ω) : Prop where
  behind : ∀ (i : Nat) (job : ChainJob κ ω), c.jobs[i]? = some job → job.stage ≠ .waiting →
    c.Behind i job.key
  linked : ∀ (i : Nat) (job : ChainJob κ ω) (p : Nat), c.jobs[i]? = some job →
    job.prior = some p → p < i ∧ ∃ before, c.jobs[p]? = some before ∧ before.key = job.key ∧
      ∀ (j : Nat) (mid : ChainJob κ ω), p < j → j < i → c.jobs[j]? = some mid → mid.key ≠ job.key
  freed : ∀ (i : Nat) (job : ChainJob κ ω), c.jobs[i]? = some job → job.prior = none →
    c.Behind i job.key
  passed : ∀ (i : Nat) (job : ChainJob κ ω), c.jobs[i]? = some job →
    job.passed = true ∨ job.answered = true → ∃ o, job.stage = .settled o
  started : ∀ (i : Nat) (key : κ), (i, key) ∈ c.started →
    ∃ job, c.jobs[i]? = some job ∧ job.key = key ∧ job.stage ≠ .waiting
  inOrder : c.started.Pairwise fun a b => a.2 = b.2 → a.1 < b.1
  answered : ∀ (i : Nat) (o : ω), (i, o) ∈ c.answers ↔
    ∃ job, c.jobs[i]? = some job ∧ job.stage = .settled o ∧ job.answered = true
  once : (c.answers.map (·.1)).Nodup

theorem empty_ordered : (empty : SerialChain κ ω).Ordered := by
  constructor <;> simp [empty]

/-- A job that is ready has every earlier one of its key behind it. -/
theorem Ordered.ready_behind {c : SerialChain κ ω} (ordered : c.Ordered) {i : Nat}
    {job : ChainJob κ ω} (at_ : c.jobs[i]? = some job) (ready : c.ready job = true) :
    c.Behind i job.key := by
  cases prior : job.prior with
  | none => exact ordered.freed i job at_ prior
  | some p =>
    obtain ⟨below, before, found, key, between⟩ := ordered.linked i job p at_ prior
    unfold SerialChain.ready at ready
    rw [prior] at ready
    simp only [found, Option.map_some, Option.getD_some] at ready
    obtain ⟨o, settled⟩ := ordered.passed p before found (.inl ready)
    intro j under mid at_j same
    rcases Nat.lt_trichotomy j p with less | rfl | more
    · have begun : before.stage ≠ .waiting := by
        rw [settled]
        exact JobStage.settled_ne
      exact ordered.behind p before found begun j less mid at_j (same.trans key.symm)
    · rw [found] at at_j
      cases at_j
      exact ⟨o, settled⟩
    · exact absurd same (between j mid more under at_j)

/-- Only a job that is ready begins. -/
theorem Moves.begins {c c' : SerialChain κ ω} {mv : ChainMove ω} (h : Moves c mv c') {k : Nat}
    {job later : ChainJob κ ω} (found : c.jobs[k]? = some job) (at_ : c'.jobs[k]? = some later)
    (waits : job.stage = .waiting) (begun : later.stage ≠ .waiting) : c.ready job = true := by
  have unmoved (same : c.jobs[k]? = some later) : False := by
    rw [found] at same
    cases same
    exact begun waits
  cases h with
  | start here _ ready =>
    rcases set_at here at_ with ⟨rfl, rfl⟩ | ⟨-, same⟩
    · rw [found] at here
      cases here
      exact ready
    · exact (unmoved same).elim
  | settle here runs =>
    rcases set_at here at_ with ⟨rfl, rfl⟩ | ⟨-, same⟩
    · rw [found] at here
      cases here
      rw [waits] at runs
      cases runs
    · exact (unmoved same).elim
  | pass here settled | answer here settled =>
    rcases set_at here at_ with ⟨rfl, rfl⟩ | ⟨-, same⟩
    · rw [found] at here
      cases here
      exact (begun waits).elim
    · exact (unmoved same).elim

/-- A job that has begun stays so. -/
theorem Taken.begun {c c' : SerialChain κ ω} {mv : ChainMove ω} (h : Moves c mv c') {k : Nat}
    {job : ChainJob κ ω} (found : c.jobs[k]? = some job) (begun : job.stage ≠ .waiting) :
    ∃ later, c'.jobs[k]? = some later ∧ later.key = job.key ∧ later.stage ≠ .waiting := by
  obtain ⟨later, at_, taken⟩ := h.forth found
  refine ⟨later, at_, taken.key, ?_⟩
  have unmoved (same : c.jobs[k]? = some later) : later.stage ≠ .waiting := by
    rw [found] at same
    cases same
    exact begun
  cases h with
  | start here waits _ =>
    rcases set_at here at_ with ⟨rfl, rfl⟩ | ⟨-, same⟩
    · rw [found] at here
      cases here
      exact (begun waits).elim
    · exact unmoved same
  | settle here runs =>
    rcases set_at here at_ with ⟨rfl, rfl⟩ | ⟨-, same⟩
    · exact JobStage.settled_ne
    · exact unmoved same
  | pass here settled | answer here settled =>
    rcases set_at here at_ with ⟨rfl, rfl⟩ | ⟨-, same⟩
    · rw [found] at here
      cases here
      exact begun
    · exact unmoved same

theorem Ordered.moves {c c' : SerialChain κ ω} {mv : ChainMove ω} (ordered : c.Ordered)
    (h : Moves c mv c') : c'.Ordered := by
  constructor
  case behind =>
    intro i later at_ begun
    obtain ⟨job, found, taken⟩ := h.back at_
    rw [taken.key]
    by_cases waits : job.stage = .waiting
    · exact (ordered.ready_behind found (h.begins found at_ waits begun)).moves h
    · exact (ordered.behind i job found waits).moves h
  case linked =>
    intro i later p at_ prior
    obtain ⟨job, found, taken⟩ := h.back at_
    obtain ⟨below, before, at_p, key, between⟩ :=
      ordered.linked i job p found (taken.prior.symm.trans prior)
    obtain ⟨before', at_p', taken'⟩ := h.forth at_p
    refine ⟨below, before', at_p', taken'.key.trans (key.trans taken.key.symm), ?_⟩
    intro j mid more less at_j
    obtain ⟨mid', at_j', takenMid⟩ := h.back at_j
    rw [takenMid.key, taken.key]
    exact between j mid' more less at_j'
  case freed =>
    intro i later at_ prior
    obtain ⟨job, found, taken⟩ := h.back at_
    rw [taken.key]
    exact (ordered.freed i job found (taken.prior.symm.trans prior)).moves h
  case passed =>
    intro i later at_ passed
    cases h with
    | start here waits _ =>
      rcases set_at here at_ with ⟨rfl, rfl⟩ | ⟨-, same⟩
      · obtain ⟨o, settled⟩ := ordered.passed _ _ here passed
        rw [waits] at settled
        cases settled
      · exact ordered.passed i later same passed
    | settle here runs =>
      rcases set_at here at_ with ⟨rfl, rfl⟩ | ⟨-, same⟩
      · exact ⟨_, rfl⟩
      · exact ordered.passed i later same passed
    | pass here settled | answer here settled =>
      rcases set_at here at_ with ⟨rfl, rfl⟩ | ⟨-, same⟩
      · exact ⟨_, settled⟩
      · exact ordered.passed i later same passed
  case started =>
    intro i key mem
    have old (mem : (i, key) ∈ c.started) :
        ∃ job, c'.jobs[i]? = some job ∧ job.key = key ∧ job.stage ≠ .waiting := by
      obtain ⟨job, found, same, begun⟩ := ordered.started i key mem
      obtain ⟨later, at_, key_, begun'⟩ := Taken.begun h found begun
      exact ⟨later, at_, key_.trans same, begun'⟩
    cases h with
    | @start k thrown job here waits ready =>
      rcases List.mem_append.mp mem with mem | mem
      · exact old mem
      · cases List.mem_singleton.mp mem
        exact ⟨_, set_self here, rfl, JobStage.begun_ne⟩
    | settle | pass | answer => exact old mem
  case inOrder =>
    cases h with
    | @start k thrown job here waits ready =>
      refine List.pairwise_append.mpr ⟨ordered.inOrder, List.pairwise_singleton _ _, ?_⟩
      intro a mem b last same
      cases List.mem_singleton.mp last
      obtain ⟨before, found, key, begun⟩ := ordered.started a.1 a.2 mem
      rcases Nat.lt_trichotomy a.1 k with less | equal | more
      · exact less
      · rw [equal, here] at found
        cases found
        exact (begun waits).elim
      · -- a later job of the key has begun only once this one has settled
        obtain ⟨o, settled⟩ := ordered.behind a.1 before found begun k more job here
          (same.symm.trans key.symm)
        rw [waits] at settled
        cases settled
    | settle | pass | answer => exact ordered.inOrder
  case answered =>
    intro i o
    have keeps (said : (i, o) ∈ c.answers) :
        ∃ job, c'.jobs[i]? = some job ∧ job.stage = .settled o ∧ job.answered = true := by
      obtain ⟨job, found, settled, said⟩ := (ordered.answered i o).mp said
      obtain ⟨later, at_, taken⟩ := h.forth found
      exact ⟨later, at_, taken.settled o settled, taken.answered said⟩
    cases h with
    | start here waits _ =>
      refine ⟨keeps, ?_⟩
      rintro ⟨later, at_, settled, said⟩
      rcases set_at here at_ with ⟨rfl, rfl⟩ | ⟨-, same⟩
      · obtain ⟨o, unsettled⟩ := ordered.passed _ _ here (.inr said)
        rw [waits] at unsettled
        cases unsettled
      · exact (ordered.answered i o).mpr ⟨later, same, settled, said⟩
    | settle here runs =>
      refine ⟨keeps, ?_⟩
      rintro ⟨later, at_, settled, said⟩
      rcases set_at here at_ with ⟨rfl, rfl⟩ | ⟨-, same⟩
      · obtain ⟨o, unsettled⟩ := ordered.passed _ _ here (.inr said)
        rw [runs] at unsettled
        cases unsettled
      · exact (ordered.answered i o).mpr ⟨later, same, settled, said⟩
    | pass here _ =>
      refine ⟨keeps, ?_⟩
      rintro ⟨later, at_, settled, said⟩
      rcases set_at here at_ with ⟨rfl, rfl⟩ | ⟨-, same⟩
      · exact (ordered.answered _ o).mpr ⟨_, here, settled, said⟩
      · exact (ordered.answered i o).mpr ⟨later, same, settled, said⟩
    | answer here stage first =>
      constructor
      · intro mem
        rcases List.mem_append.mp mem with mem | mem
        · exact keeps mem
        · cases List.mem_singleton.mp mem
          exact ⟨_, set_self here, stage, rfl⟩
      · rintro ⟨later, at_, settled, said⟩
        rcases set_at here at_ with ⟨rfl, rfl⟩ | ⟨-, same⟩
        · have equal := stage.symm.trans settled
          cases equal
          exact List.mem_append_right _ (List.mem_singleton.mpr rfl)
        · exact List.mem_append_left _ ((ordered.answered i o).mpr ⟨later, same, settled, said⟩)
  case once =>
    cases h with
    | start | settle | pass => exact ordered.once
    | answer here settled first =>
      rw [List.map_append]
      refine List.nodup_append.mpr ⟨ordered.once, by simp, ?_⟩
      intro i mem j last same
      obtain ⟨⟨i', o⟩, listed, rfl⟩ := List.mem_map.mp mem
      obtain rfl : j = _ := by simpa using last
      obtain ⟨job, found, -, said⟩ := (ordered.answered i' o).mp listed
      dsimp only at same
      rw [same, here] at found
      cases found
      rw [first] at said
      cases said

/-- The job of an index, after one more is submitted. -/
theorem add_at {c : SerialChain κ ω} {key : κ} {prior : Option Nat} {k : Nat} {job : ChainJob κ ω} :
    (c.add key prior).jobs[k]? = some job ↔ c.jobs[k]? = some job ∨
      (k = c.jobs.length ∧ job = ⟨key, prior, .waiting, false, false⟩) := by
  unfold add
  rw [List.getElem?_append]
  split
  · next under =>
    refine ⟨.inl, ?_⟩
    rintro (found | ⟨rfl, -⟩)
    · exact found
    · omega
  · next beyond =>
    rw [List.getElem?_eq_none (by omega : c.jobs.length ≤ k), List.getElem?_singleton]
    constructor
    · intro h
      split at h
      · exact .inr ⟨by omega, (Option.some.inj h).symm⟩
      · cases h
    · rintro (found | ⟨rfl, rfl⟩)
      · cases found
      · simp

/-- A job may wait for the last one of its key, and need wait for none where all have settled. -/
theorem Ordered.add {c : SerialChain κ ω} (ordered : c.Ordered) {key : κ} {prior : Option Nat}
    (free : prior = none → c.Behind c.jobs.length key)
    (last : ∀ p, prior = some p → ∃ before, c.jobs[p]? = some before ∧ before.key = key ∧
      ∀ (j : Nat) (mid : ChainJob κ ω), p < j → c.jobs[j]? = some mid → mid.key ≠ key) :
    (c.add key prior).Ordered := by
  have under {k : Nat} {job : ChainJob κ ω} (found : c.jobs[k]? = some job) : k < c.jobs.length :=
    (List.getElem?_eq_some_iff.mp found).1
  have stays {i : Nat} {key' : κ} (bound : i ≤ c.jobs.length) (behind : c.Behind i key') :
      (c.add key prior).Behind i key' := by
    intro j before job at_ same
    rcases add_at.mp at_ with found | ⟨rfl, -⟩
    · exact behind j before job found same
    · omega
  constructor
  case behind =>
    intro i job at_ begun
    rcases add_at.mp at_ with found | ⟨rfl, rfl⟩
    · exact stays (Nat.le_of_lt (under found)) (ordered.behind i job found begun)
    · exact (begun rfl).elim
  case linked =>
    intro i job p at_ prior_
    rcases add_at.mp at_ with found | ⟨rfl, rfl⟩
    · obtain ⟨below, before, at_p, same, between⟩ := ordered.linked i job p found prior_
      refine ⟨below, before, add_at.mpr (.inl at_p), same, ?_⟩
      intro j mid more less at_j
      rcases add_at.mp at_j with found' | ⟨rfl, -⟩
      · exact between j mid more less found'
      · exact absurd (under found) (by omega)
    · obtain ⟨before, at_p, same, after⟩ := last p prior_
      refine ⟨under at_p, before, add_at.mpr (.inl at_p), same, ?_⟩
      intro j mid more less at_j
      rcases add_at.mp at_j with found' | ⟨rfl, -⟩
      · exact after j mid more found'
      · omega
  case freed =>
    intro i job at_ prior_
    rcases add_at.mp at_ with found | ⟨rfl, rfl⟩
    · exact stays (Nat.le_of_lt (under found)) (ordered.freed i job found prior_)
    · exact stays (Nat.le_refl _) (free prior_)
  case passed =>
    intro i job at_ said
    rcases add_at.mp at_ with found | ⟨rfl, rfl⟩
    · exact ordered.passed i job found said
    · rcases said with said | said <;> cases said
  case started =>
    intro i key' mem
    obtain ⟨job, found, same, begun⟩ := ordered.started i key' mem
    exact ⟨job, add_at.mpr (.inl found), same, begun⟩
  case inOrder => exact ordered.inOrder
  case answered =>
    intro i o
    refine (ordered.answered i o).trans ⟨?_, ?_⟩
    · rintro ⟨job, found, settled, said⟩
      exact ⟨job, add_at.mpr (.inl found), settled, said⟩
    · rintro ⟨job, at_, settled, said⟩
      rcases add_at.mp at_ with found | ⟨rfl, rfl⟩
      · exact ⟨job, found, settled, said⟩
      · cases said
  case once => exact ordered.once

/-! ## What an ordered chain guarantees -/

/-- No two jobs of a key run at a time, jobs of a key start in the order they were submitted, and
an answer is the job's own outcome, given once. -/
structure Serial (c : SerialChain κ ω) : Prop where
  exclusive : ∀ (i j : Nat) (a b : ChainJob κ ω), c.jobs[i]? = some a → c.jobs[j]? = some b →
    a.stage = .running → b.stage = .running → a.key = b.key → i = j
  inOrder : c.started.Pairwise fun a b => a.2 = b.2 → a.1 < b.1
  own : ∀ (i : Nat) (o : ω), (i, o) ∈ c.answers ↔
    ∃ job, c.jobs[i]? = some job ∧ job.stage = .settled o ∧ job.answered = true
  once : (c.answers.map (·.1)).Nodup

theorem Ordered.serial {c : SerialChain κ ω} (ordered : c.Ordered) : c.Serial := by
  refine ⟨?_, ordered.inOrder, ordered.answered, ordered.once⟩
  intro i j a b at_i at_j runs runs' same
  have apart {i j : Nat} {a b : ChainJob κ ω} (at_i : c.jobs[i]? = some a)
      (at_j : c.jobs[j]? = some b) (runs : a.stage = .running) (runs' : b.stage = .running)
      (same : a.key = b.key) : ¬i < j := by
    intro less
    have begun : b.stage ≠ .waiting := by
      rw [runs']
      nofun
    obtain ⟨o, settled⟩ := ordered.behind j b at_j begun i less a at_i same
    rw [runs] at settled
    cases settled
  have := apart at_i at_j runs runs' same
  have := apart at_j at_i runs' runs same.symm
  omega

/-! ## Draining -/

end SerialChain

/-- What is left for a job to do. -/
def ChainJob.left (job : ChainJob κ ω) : Nat :=
  (match job.stage with
    | .waiting => 2
    | .running => 1
    | .settled _ => 0) + (if job.passed then 0 else 1) + (if job.answered then 0 else 1)

namespace SerialChain

def left (c : SerialChain κ ω) : Nat := (c.jobs.map ChainJob.left).sum

theorem sum_set_lt {jobs : List (ChainJob κ ω)} {i : Nat} {job job' : ChainJob κ ω}
    (at_ : jobs[i]? = some job) (less : job'.left < job.left) :
    ((jobs.set i job').map ChainJob.left).sum < (jobs.map ChainJob.left).sum := by
  induction jobs generalizing i with
  | nil => cases at_
  | cons first rest ih =>
    cases i with
    | zero =>
      cases at_
      simpa using less
    | succ i =>
      have := ih (i := i) at_
      simpa using this

/-- Every move leaves less to do. -/
theorem Moves.left_lt {c c' : SerialChain κ ω} {mv : ChainMove ω} (h : Moves c mv c') :
    c'.left < c.left := by
  cases h with
  | @start i thrown job here waits ready =>
    apply sum_set_lt here
    cases thrown <;> simp [ChainJob.left, waits, JobStage.begun]
  | settle here runs =>
    apply sum_set_lt here
    simp [ChainJob.left, runs]
  | pass here settled first =>
    apply sum_set_lt here
    simp [ChainJob.left, first]
  | answer here settled first =>
    apply sum_set_lt here
    simp [ChainJob.left, first]

/-- An answer leaves one caller fewer waiting, and no other move changes how many do. -/
theorem Moves.callers {c c' : SerialChain κ ω} {mv : ChainMove ω} (h : Moves c mv c') :
    c'.jobs.countP (! ·.answered) = match mv with
      | .answer _ => c.jobs.countP (! ·.answered) - 1
      | _ => c.jobs.countP (! ·.answered) := by
  have positive {i : Nat} {job : ChainJob κ ω} (here : c.jobs[i]? = some job)
      (first : job.answered = false) : 0 < c.jobs.countP (! ·.answered) :=
    List.countP_pos_iff.mpr ⟨job, List.mem_of_getElem? here, by simp [first]⟩
  cases h with
  | start here _ _ | settle here _ | pass here _ _ =>
    obtain ⟨bound, same⟩ := List.getElem?_eq_some_iff.mp here
    simp only [List.countP_set bound, same]
    split
    · next waits =>
      have := positive here (by simpa using waits)
      omega
    · rfl
  | answer here _ first =>
    obtain ⟨bound, same⟩ := List.getElem?_eq_some_iff.mp here
    simp [List.countP_set bound, same, first]

/-- A job that has not begun has not answered its caller. -/
theorem Ordered.waiting_le {c : SerialChain κ ω} (ordered : c.Ordered) :
    c.jobs.countP (fun job => job.stage matches .waiting) ≤ c.jobs.countP (! ·.answered) := by
  apply List.countP_mono_left
  intro job mem waits
  obtain ⟨i, bound, rfl⟩ := List.getElem_of_mem mem
  cases answered : c.jobs[i].answered with
  | false => rfl
  | true =>
    obtain ⟨o, settled⟩ := ordered.passed i _ (List.getElem?_eq_getElem bound) (.inr answered)
    rw [settled] at waits
    cases waits

/-- Where no job runs and one is not through, some job can start, pass or be answered. -/
theorem Ordered.progress {c : SerialChain κ ω} (ordered : c.Ordered)
    (idle : ∀ job ∈ c.jobs, job.stage ≠ .running)
    (open_ : ∃ job ∈ c.jobs, ¬(job.passed = true ∧ job.answered = true)) :
    ∃ mv c', c.move mv = some c' := by
  classical
  have some_ : ∃ (i : Nat) (job : ChainJob κ ω), c.jobs[i]? = some job ∧
      ¬(job.passed = true ∧ job.answered = true) := by
    obtain ⟨job, mem, unfinished⟩ := open_
    obtain ⟨i, bound, rfl⟩ := List.getElem_of_mem mem
    exact ⟨i, _, List.getElem?_eq_getElem bound, unfinished⟩
  -- the first job that is not through has every earlier one out of its way
  obtain ⟨job, at_, unfinished⟩ := Nat.find_spec some_
  have before := fun j (less : j < Nat.find some_) => Nat.find_min some_ less
  generalize Nat.find some_ = i at at_ before
  have mem : job ∈ c.jobs := List.mem_of_getElem? at_
  cases stage : job.stage with
  | waiting =>
    have ready : c.ready job = true := by
      unfold SerialChain.ready
      cases prior : job.prior with
      | none => rfl
      | some p =>
        obtain ⟨below, prev, found, -⟩ := ordered.linked i job p at_ prior
        have through : prev.passed = true ∧ prev.answered = true := by
          by_contra stuck
          exact before p below ⟨prev, found, stuck⟩
        simp [found, through.1]
    exact ⟨.start i none, _, move_some.mpr (.start at_ stage ready)⟩
  | running => exact (idle job mem stage).elim
  | settled o =>
    cases passed : job.passed with
    | false => exact ⟨.pass i, _, move_some.mpr (.pass at_ stage passed)⟩
    | true =>
      cases answered : job.answered with
      | false => exact ⟨.answer i, _, move_some.mpr (.answer at_ stage answered)⟩
      | true => exact (unfinished ⟨passed, answered⟩).elim

/-- Where no job runs and none can move, every caller has been answered. -/
theorem Ordered.through {c : SerialChain κ ω} (ordered : c.Ordered)
    (idle : ∀ job ∈ c.jobs, job.stage ≠ .running) (still : ∀ mv, c.move mv = none) :
    ∀ job ∈ c.jobs, job.answered = true := by
  intro job mem
  by_contra unanswered
  obtain ⟨mv, c', moved⟩ := ordered.progress idle ⟨job, mem, fun both => unanswered both.2⟩
  rw [still mv] at moved
  cases moved

end SerialChain

end XochiSdk.Library
