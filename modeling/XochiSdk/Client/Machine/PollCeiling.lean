import XochiSdk.Library.Traces
import XochiSdk.Client.Machine.Abandon
import XochiSdk.Client.Machine.StaleReply

/-!
# The poll's ceiling

A poll reads at most once an interval up to its ceiling and then stops, where every read is
answered. A reply that names another intent at the ceiling is not counted, and the poll it
leaves runs on.
-/

namespace XochiSdk.Client

open XochiSdk.Js XochiSdk.Shared XochiSdk.Signer XochiSdk.Library Emits

/-! ## Reads of a log -/

/-- A read of one generation's poll. -/
def Effect.readsFor (gen : Nat) : Effect → Bool
  | .api (.status _ g _) => g == gen
  | _ => false

def pollReads (gen : Nat) (fx : List Effect) : Nat := fx.countP (·.readsFor gen)

/-- The poll's timer fires at a poll of this generation. -/
def isTick (gen : Nat) (m : Model) (i : Input) : Bool :=
  match i.2.body with
  | .timerFired .poll => m.poll.map (·.gen) == some gen
  | _ => false

/-- What the last message emitted so far: the effects at the head of what follows it. -/
def headEffects : Log → List Effect
  | .emitted e :: rest => e :: headEffects rest
  | _ => []

/-- The reads a generation's poll made as its intervals passed. -/
def intervalReads (gen : Nat) : Log → Nat
  | [] => 0
  | .handled m i :: rest =>
    (if isTick gen m i then pollReads gen (headEffects rest) else 0) + intervalReads gen rest
  | .emitted _ :: rest => intervalReads gen rest

theorem headEffects_handled (log : Log) (m : Model) (i : Input) (rest : Log) :
    headEffects (log ++ .handled m i :: rest) = headEffects log := by
  induction log with
  | nil => rfl
  | cons h log ih =>
    cases h with
    | handled => rfl
    | emitted e => exact congrArg (e :: ·) ih

theorem headEffects_emitted (fx : List Effect) : headEffects (fx.map .emitted) = fx := by
  induction fx with
  | nil => rfl
  | cons e fx ih => exact congrArg (e :: ·) ih

theorem intervalReads_emitted (gen : Nat) (fx : List Effect) :
    intervalReads gen (fx.map .emitted) = 0 := by
  induction fx with
  | nil => rfl
  | cons e fx ih => exact ih

/-- One more message, with what it emitted. -/
theorem intervalReads_step (gen : Nat) (log : Log) (m : Model) (i : Input) (fx : List Effect) :
    intervalReads gen (log ++ .handled m i :: fx.map .emitted) =
      intervalReads gen log + if isTick gen m i then pollReads gen fx else 0 := by
  induction log with
  | nil => simp [intervalReads, headEffects_emitted, intervalReads_emitted]
  | cons h log ih =>
    cases h with
    | handled m' i' =>
      simp only [List.cons_append, intervalReads, headEffects_handled, ih]
      omega
    | emitted e => exact ih

theorem headEffects_append (log : Log) (fx : List Effect) :
    headEffects (log ++ fx.map .emitted) = headEffects log ∨
      headEffects (log ++ fx.map .emitted) = headEffects log ++ fx := by
  induction log with
  | nil => exact .inr (headEffects_emitted fx)
  | cons h log ih =>
    cases h with
    | handled => exact .inl rfl
    | emitted e => exact ih.imp (congrArg (e :: ·)) (congrArg (e :: ·))

/-- Effects that read nothing for the generation do not count, whatever message they are of. -/
theorem intervalReads_quiet {gen : Nat} {fx : List Effect} (log : Log)
    (quiet : ∀ e ∈ fx, e.readsFor gen = false) :
    intervalReads gen (log ++ fx.map .emitted) = intervalReads gen log := by
  have none : pollReads gen fx = 0 := by
    simpa [pollReads, List.countP_eq_zero] using quiet
  induction log with
  | nil => exact intervalReads_emitted gen fx
  | cons h log ih =>
    cases h with
    | handled m i =>
      have reads : pollReads gen (headEffects (log ++ fx.map .emitted)) =
          pollReads gen (headEffects log) := by
        rcases headEffects_append log fx with same | more
        · rw [same]
        · rw [more, pollReads, List.countP_append]
          exact congrArg (pollReads gen (headEffects log) + ·) none
      simp only [List.cons_append, intervalReads, reads, ih]
    | emitted e => exact ih

/-- A generation no message met has made no read. -/
theorem intervalReads_unmet {gen : Nat} {log : Log}
    (unmet : ∀ m i, .handled m i ∈ log → ∀ poll, m.poll = some poll → poll.gen ≠ gen) :
    intervalReads gen log = 0 := by
  induction log with
  | nil => rfl
  | cons h log ih =>
    have later := ih fun m i mem => unmet m i (List.mem_cons_of_mem _ mem)
    cases h with
    | handled m i =>
      have idle : isTick gen m i = false := by
        unfold isTick
        split
        · cases polls : m.poll with
          | none => rfl
          | some poll => simpa using unmet m i (List.mem_cons_self ..) poll polls
        · rfl
      simp only [intervalReads, idle, later, Bool.false_eq_true, if_false, Nat.zero_add]
    | emitted e => exact later

/-! ## Replies to the reads -/

/-- A reply to the read is handled here. -/
def RepliedIn (gen attempt : Nat) (log : Log) : Prop :=
  ∃ m i result, .handled m i ∈ log ∧ i.2.body = .statusReplied gen attempt result

theorem RepliedIn.append {gen attempt : Nat} {log : Log} (h : RepliedIn gen attempt log)
    (later : Log) : RepliedIn gen attempt (log ++ later) := by
  obtain ⟨m, i, result, mem, body⟩ := h
  exact ⟨m, i, result, List.mem_append_left _ mem, body⟩

/-- Every read of the generation has a reply after it. -/
def AllAnswered (gen : Nat) (log : Log) : Prop :=
  ∀ id attempt, Followed (· = .emitted (.api (.status id gen attempt))) (RepliedIn gen attempt) log

/-- The poll was armed in this run. -/
def Arming (log : Log) (m : Model) (poll : PollState) : Prop :=
  m.poll = some poll ∨ ∃ m' i, .handled m' i ∈ log ∧ m'.poll = some poll

/-- No poll reads at more intervals than its ceiling, and one that has reached it, with every
read answered, has stopped. -/
structure Ceiling (log : Log) (m : Model) : Prop where
  bounded : ∀ poll, Arming log m poll → (intervalReads poll.gen log : Int) ≤ poll.max
  stops : ∀ poll, m.poll = some poll → (intervalReads poll.gen log : Int) = poll.max →
    AllAnswered poll.gen log → poll.stopped = true

/-- A reply answers a read made before, and an interval passes once every read is answered. -/
structure Answering (log : Log) (m : Model) (i : Input) : Prop where
  replies : ∀ gen attempt result, i.2.body = .statusReplied gen attempt result →
    ∃ id, .emitted (.api (.status id gen attempt)) ∈ log
  inTime : i.2.body = .timerFired .poll →
    ∀ poll, m.poll = some poll → AllAnswered poll.gen log

section

variable [Host]

/-- A reply reports no progress: it moves no status, and it is not the `quoted` read of a
resumed trade that was never sent, which refills the budget. -/
structure NoProgress (m : Model) (i : Input) : Prop where
  still : ∀ gen attempt result, i.2.body = .statusReplied gen attempt result →
    (onStatus (receive m i.2) gen attempt result i.2.now).value.intent.status = m.intent.status
  sent : ∀ gen attempt result poll, i.2.body = .statusReplied gen attempt result →
    m.poll = some poll →
    readsNotSent (receive m i.2) poll poll.intentId attempt result = true → m.intent.quote ≠ none

/-- A reply to a poll whose budget is spent is for its own intent. -/
def OwnAtCeiling (m : Model) (i : Input) : Prop :=
  ∀ gen attempt result poll, i.2.body = .statusReplied gen attempt result →
    m.poll = some poll → poll.gen = gen → poll.stopped = false → poll.max ≤ poll.spent →
    foreignStatus result poll.intentId = none

end

/-! ## The count along a run -/

/-- A live poll whose budget is spent waits for the reply to the read that spent it, or to a
later one. -/
def Waiting (log : Log) (poll : PollState) : Prop :=
  poll.stopped = false → (poll.spent : Int) = poll.max →
    ∃ pre id attempt post, log = pre ++ .emitted (.api (.status id poll.gen attempt)) :: post ∧
      poll.answered ≤ attempt ∧ ¬RepliedIn poll.gen attempt post

/-- What the live poll has counted. -/
structure PollCount (log : Log) (poll : PollState) : Prop where
  answered : poll.answered ≤ poll.polls
  reads : ∀ id attempt, .emitted (.api (.status id poll.gen attempt)) ∈ log →
    attempt ≤ poll.polls
  spent : intervalReads poll.gen log = poll.spent
  budget : (poll.spent : Int) ≤ poll.max
  waiting : Waiting log poll

/-- What holds of a run's polls. -/
structure Counts (log : Log) (m : Model) : Prop where
  drawn : ∀ id gen attempt, .emitted (.api (.status id gen attempt)) ∈ log → gen ≤ m.seq
  live : ∀ poll, m.poll = some poll → poll.gen ≤ m.seq ∧ PollCount log poll
  met : ∀ m' i poll, .handled m' i ∈ log → m'.poll = some poll →
    poll.gen ≤ m.seq ∧ (intervalReads poll.gen log : Int) ≤ poll.max ∧
      ∀ now, m.poll = some now → now.gen = poll.gen → now.max = poll.max

theorem Waiting.unanswered {log : Log} {poll : PollState} (waiting : Waiting log poll)
    (live : poll.stopped = false) (spent : (poll.spent : Int) = poll.max) :
    ¬AllAnswered poll.gen log := by
  intro all
  obtain ⟨pre, id, attempt, post, split, -, unreplied⟩ := waiting live spent
  exact unreplied (all id attempt pre _ post split rfl)

theorem Counts.ceiling {log : Log} {m : Model} (counts : Counts log m) : Ceiling log m where
  bounded := by
    rintro poll (now | ⟨m', i, mem, met⟩)
    · obtain ⟨-, count⟩ := counts.live poll now
      rw [count.spent]
      exact count.budget
    · exact (counts.met m' i poll mem met).2.1
  stops := by
    intro poll now full all
    obtain ⟨-, count⟩ := counts.live poll now
    rw [count.spent] at full
    by_contra live
    exact count.waiting.unanswered (by simpa using live) full all

/-- A step whose poll runs on from the one before. -/
structure RunsOn (log : Log) (m : Model) (i : Input) (fx : List Effect) (old new : PollState) :
    Prop where
  gen : new.gen = old.gen
  max : new.max = old.max
  polls : old.polls ≤ new.polls
  answered : new.answered ≤ new.polls
  spent : new.spent = old.spent + if isTick old.gen m i then pollReads old.gen fx else 0
  budget : (new.spent : Int) ≤ new.max
  waiting : Waiting (log ++ .handled m i :: fx.map .emitted) new

theorem mem_step {log : Log} {m : Model} {i : Input} {fx : List Effect} {e : Effect} :
    .emitted e ∈ log ++ .handled m i :: fx.map .emitted ↔ .emitted e ∈ log ∨ e ∈ fx := by
  simp

theorem handled_step {log : Log} {m m' : Model} {i i' : Input} {fx : List Effect} :
    .handled m' i' ∈ log ++ .handled m i :: fx.map .emitted ↔
      .handled m' i' ∈ log ∨ (m' = m ∧ i' = i) := by
  simp

theorem pollReads_none {gen : Nat} {fx : List Effect}
    (none : ∀ id attempt, .api (.status id gen attempt) ∉ fx) : pollReads gen fx = 0 := by
  refine List.countP_eq_zero.mpr fun e mem reads => ?_
  unfold Effect.readsFor at reads
  split at reads
  · rename_i id g attempt
    obtain rfl : g = gen := by simpa using reads
    exact none id attempt mem
  · cases reads

/-- The count over a step: its reads are the poll's own, and its poll runs on or is gone. -/
theorem Counts.carries {log : Log} {m x : Model} {i : Input} {fx : List Effect}
    (counts : Counts log m) (seq : m.seq ≤ x.seq)
    (reads : ∀ id gen attempt, .api (.status id gen attempt) ∈ fx →
      ∃ new, x.poll = some new ∧ gen = new.gen ∧ attempt ≤ new.polls)
    (on : ∀ new, x.poll = some new → ∃ old, m.poll = some old ∧ RunsOn log m i fx old new) :
    Counts (log ++ .handled m i :: fx.map .emitted) x where
  drawn := by
    intro id gen attempt mem
    rcases mem_step.mp mem with before | now
    · exact (counts.drawn id gen attempt before).trans seq
    · obtain ⟨new, polls, rfl, -⟩ := reads id gen attempt now
      obtain ⟨old, polls', run⟩ := on new polls
      rw [run.gen]
      exact (counts.live old polls').1.trans seq
  live := by
    intro new polls
    obtain ⟨old, polls', run⟩ := on new polls
    obtain ⟨drawn, count⟩ := counts.live old polls'
    refine ⟨run.gen ▸ drawn.trans seq, run.answered, ?_, ?_, run.budget, run.waiting⟩
    · intro id attempt mem
      rcases mem_step.mp mem with before | now
      · rw [run.gen] at before
        exact (count.reads id attempt before).trans run.polls
      · obtain ⟨new', polls'', -, bound⟩ := reads id _ attempt now
        obtain rfl := Option.some.inj (polls.symm.trans polls'')
        exact bound
    · rw [run.gen, intervalReads_step, count.spent, run.spent]
  met := by
    intro m' i' poll mem met
    have gone (none : x.poll = none) (gen : Nat) :
        intervalReads gen (log ++ .handled m i :: fx.map .emitted) = intervalReads gen log := by
      rw [intervalReads_step, pollReads_none, ite_self, Nat.add_zero]
      intro id attempt mem
      obtain ⟨new, polls, -⟩ := reads id gen attempt mem
      rw [none] at polls
      cases polls
    -- the poll met before, and the one that runs now
    have before : poll.gen ≤ m.seq ∧ (intervalReads poll.gen log : Int) ≤ poll.max ∧
        ∀ now, m.poll = some now → now.gen = poll.gen → now.max = poll.max := by
      rcases handled_step.mp mem with earlier | ⟨rfl, rfl⟩
      · exact counts.met m' i' poll earlier met
      · obtain ⟨drawn, count⟩ := counts.live poll met
        refine ⟨drawn, ?_, fun now same _ => ?_⟩
        · rw [count.spent]
          exact count.budget
        · rw [Option.some.inj (same.symm.trans met)]
    refine ⟨before.1.trans seq, ?_, fun new polls same => ?_⟩
    · cases polls : x.poll with
      | none =>
        rw [gone polls]
        exact before.2.1
      | some new =>
        obtain ⟨old, polls', run⟩ := on new polls
        obtain ⟨-, count⟩ := counts.live old polls'
        by_cases own : old.gen = poll.gen
        · rw [← own, intervalReads_step, count.spent, ← run.spent, ← before.2.2 old polls' own,
            ← run.max]
          exact run.budget
        · have other : isTick poll.gen m i = false := by
            unfold isTick
            split
            · simpa [polls'] using own
            · rfl
          rw [intervalReads_step, other, if_neg Bool.false_ne_true, Nat.add_zero]
          exact before.2.1
    · obtain ⟨old, polls', run⟩ := on new polls
      rw [run.max]
      exact before.2.2 old polls' (run.gen.symm.trans same)

/-! ## The rules -/

theorem NoRead.readsFor {e : Effect} (h : e.NoRead) (gen : Nat) : e.readsFor gen = false := by
  unfold Effect.readsFor
  split
  · cases h
  · rfl

theorem mem_emitted {log : Log} {fx : List Effect} {e : Effect} :
    .emitted e ∈ log ++ fx.map .emitted ↔ .emitted e ∈ log ∨ e ∈ fx := by
  simp

theorem handled_emitted {log : Log} {m : Model} {i : Input} {fx : List Effect} :
    .handled m i ∈ log ++ fx.map .emitted ↔ .handled m i ∈ log := by
  simp

theorem repliedIn_emitted {gen attempt : Nat} {log : Log} {fx : List Effect} :
    RepliedIn gen attempt (log ++ fx.map .emitted) ↔ RepliedIn gen attempt log := by
  simp [RepliedIn]

theorem noRead_absent {fx : List Effect} (unread : ∀ e ∈ fx, e.NoRead) {id : String}
    {gen attempt : Nat} : .api (.status id gen attempt) ∉ fx := fun mem => by
  cases unread _ mem

theorem Waiting.emitted {log : Log} {poll : PollState} (waiting : Waiting log poll)
    (fx : List Effect) : Waiting (log ++ fx.map .emitted) poll := by
  intro live spent
  obtain ⟨pre, id, attempt, post, rfl, current, unreplied⟩ := waiting live spent
  refine ⟨pre, id, attempt, post ++ fx.map .emitted, by simp, current, ?_⟩
  rwa [repliedIn_emitted]

/-- The rules keep the count: they read only for the poll they arm. -/
theorem Counts.change {log : Log} {x m' : Model} {fx : List Effect} (counts : Counts log x)
    (change : PollChange x fx m') : Counts (log ++ fx.map .emitted) m' := by
  have quiet (unread : ∀ e ∈ fx, e.NoRead) (gen : Nat) :
      intervalReads gen (log ++ fx.map .emitted) = intervalReads gen log :=
    intervalReads_quiet log fun e mem => NoRead.readsFor (unread e mem) gen
  cases change with
  | kept poll seq unread =>
    refine ⟨fun id gen attempt mem => ?_, fun p now => ?_, fun m₀ i₀ p mem met => ?_⟩
    · have before := (mem_emitted.mp mem).resolve_right (noRead_absent unread)
      exact (counts.drawn id gen attempt before).trans seq
    · obtain ⟨drawn, count⟩ := counts.live p (poll.symm.trans now)
      refine ⟨drawn.trans seq, count.answered, fun id attempt mem => ?_, ?_, count.budget,
        count.waiting.emitted fx⟩
      · exact count.reads id attempt ((mem_emitted.mp mem).resolve_right (noRead_absent unread))
      · rw [quiet unread]
        exact count.spent
    · obtain ⟨drawn, bound, same⟩ := counts.met m₀ i₀ p (handled_emitted.mp mem) met
      rw [quiet unread, poll]
      exact ⟨drawn.trans seq, bound, same⟩
  | dropped gone seq unread =>
    refine ⟨fun id gen attempt mem => ?_, fun p now => ?_, fun m₀ i₀ p mem met => ?_⟩
    · have before := (mem_emitted.mp mem).resolve_right (noRead_absent unread)
      exact (counts.drawn id gen attempt before).trans seq
    · rw [gone] at now
      cases now
    · obtain ⟨drawn, bound, -⟩ := counts.met m₀ i₀ p (handled_emitted.mp mem) met
      rw [quiet unread, gone]
      exact ⟨drawn.trans seq, bound, nofun⟩
  | @armed poll polls seq fresh reads =>
    have later {gen : Nat} (drawn : gen ≤ x.seq) : gen ≠ poll.gen := by
      rw [fresh.gen]
      omega
    have others {gen : Nat} (drawn : gen ≤ x.seq) :
        intervalReads gen (log ++ fx.map .emitted) = intervalReads gen log := by
      refine intervalReads_quiet log fun e mem => ?_
      unfold Effect.readsFor
      split
      · rename_i id g attempt
        obtain ⟨rfl, -⟩ := reads id g attempt mem
        simpa using (later drawn).symm
      · rfl
    refine ⟨fun id gen attempt mem => ?_, fun p now => ?_, fun m₀ i₀ p mem met => ?_⟩
    · rcases mem_emitted.mp mem with before | now
      · have drawn := counts.drawn id gen attempt before
        omega
      · obtain ⟨rfl, -⟩ := reads id gen attempt now
        rw [fresh.gen, seq]
    · obtain rfl := Option.some.inj (polls.symm.trans now)
      refine ⟨by rw [fresh.gen, seq], by rw [fresh.answered]; exact Nat.zero_le _,
        fun id attempt mem => ?_, ?_, ?_, fun _ spent => ?_⟩
      · rcases mem_emitted.mp mem with before | now
        · exact absurd rfl (later (counts.drawn id _ attempt before))
        · exact (reads id _ attempt now).2
      · rw [fresh.spent]
        refine intervalReads_unmet fun m₀ i₀ mem p met => ?_
        exact later (counts.met m₀ i₀ p (handled_emitted.mp mem) met).1
      · rw [fresh.spent]
        exact fresh.budget.le
      · rw [fresh.spent] at spent
        exact absurd spent fresh.budget.ne
    · obtain ⟨drawn, bound, -⟩ := counts.met m₀ i₀ p (handled_emitted.mp mem) met
      refine ⟨by omega, by rw [others drawn]; exact bound, fun now same gen => ?_⟩
      obtain rfl := Option.some.inj (polls.symm.trans same)
      exact absurd gen.symm (later drawn)

/-! ## The messages -/

/-- A message that is no reply the waiting poll takes leaves it waiting. -/
theorem Waiting.step {log : Log} {m : Model} {i : Input} {fx : List Effect} {old new : PollState}
    (waiting : Waiting log old) (gen : new.gen = old.gen) (spent : new.spent = old.spent)
    (max : new.max = old.max) (answered : new.answered = old.answered)
    (stopped : new.stopped = old.stopped)
    (ignored : ∀ attempt result, i.2.body = .statusReplied old.gen attempt result →
      old.stopped = false → (old.spent : Int) = old.max → attempt < old.answered) :
    Waiting (log ++ .handled m i :: fx.map .emitted) new := by
  intro live full
  rw [stopped] at live
  rw [spent, max] at full
  obtain ⟨pre, id, attempt, post, rfl, current, unreplied⟩ := waiting live full
  rw [gen, answered]
  refine ⟨pre, id, attempt, post ++ .handled m i :: fx.map .emitted, by simp, current, ?_⟩
  rintro ⟨m', i', result, mem, body⟩
  rcases handled_step.mp mem with earlier | ⟨rfl, rfl⟩
  · exact unreplied ⟨m', i', result, earlier, body⟩
  · exact absurd (ignored attempt result body live full) (by omega)

theorem isTick_of_reply {gen gen' attempt : Nat} {result : Outcome IntentStatusResult} {m : Model}
    {i : Input} (body : i.2.body = .statusReplied gen' attempt result) : isTick gen m i = false := by
  unfold isTick
  rw [body]

/-- A step that neither reads nor takes a reply keeps the count. -/
theorem Counts.idle {log : Log} {m x : Model} {i : Input} {fx : List Effect}
    (counts : Counts log m) (poll : x.poll = m.poll) (seq : m.seq ≤ x.seq)
    (unread : ∀ e ∈ fx, e.NoRead)
    (ignored : ∀ old, m.poll = some old → ∀ attempt result,
      i.2.body = .statusReplied old.gen attempt result → old.stopped = false →
      (old.spent : Int) = old.max → attempt < old.answered) :
    Counts (log ++ .handled m i :: fx.map .emitted) x := by
  refine counts.carries seq (fun id gen attempt mem => absurd mem (noRead_absent unread)) ?_
  intro old now
  have before := poll.symm.trans now
  obtain ⟨-, count⟩ := counts.live old before
  refine ⟨old, before, rfl, rfl, Nat.le_refl _, count.answered, ?_, count.budget,
    count.waiting.step rfl rfl rfl rfl rfl (ignored old before)⟩
  rw [pollReads_none fun _ _ => noRead_absent unread, ite_self]
  rfl

/-- A read off the interval, or one as an interval passes with budget left. -/
theorem Counts.reads {log : Log} {m x : Model} {i : Input} {fx : List Effect} {poll : PollState}
    (counts : Counts log m) (polls : m.poll = some poll) (elapsed : Bool)
    (now : x.poll = some (poll.read elapsed)) (seq : m.seq ≤ x.seq)
    (unread : ∀ e ∈ fx, e.NoRead) (tick : isTick poll.gen m i = elapsed)
    (left : elapsed = true → (poll.spent : Int) < poll.max)
    (silent : ∀ gen attempt result, i.2.body ≠ .statusReplied gen attempt result) :
    Counts (log ++ .handled m i ::
      (fx ++ [Effect.api (.status poll.intentId poll.gen (poll.polls + 1))]).map .emitted) x := by
  obtain ⟨-, count⟩ := counts.live poll polls
  have one : pollReads poll.gen
      (fx ++ [.api (.status poll.intentId poll.gen (poll.polls + 1))]) = 1 := by
    have none : pollReads poll.gen fx = 0 := pollReads_none fun _ _ => noRead_absent unread
    rw [pollReads, List.countP_append]
    unfold pollReads at none
    rw [none]
    simp [Effect.readsFor]
  refine counts.carries seq (fun id gen attempt mem => ⟨_, now, ?_⟩) fun new polls' => ?_
  · rcases List.mem_append.mp mem with quiet | read
    · exact absurd quiet (noRead_absent unread)
    · simp only [List.mem_singleton, Effect.api.injEq, ApiCall.status.injEq] at read
      exact ⟨read.2.1, read.2.2.le⟩
  obtain rfl := Option.some.inj (now.symm.trans polls')
  refine ⟨poll, polls, rfl, rfl, Nat.le_succ _, count.answered.trans (Nat.le_succ _), ?_, ?_, ?_⟩
  · rw [one, tick]
    cases elapsed <;> rfl
  · cases elapsed with
    | true =>
      have left := left rfl
      change ((poll.spent + 1 : Nat) : Int) ≤ poll.max
      omega
    | false => exact count.budget
  · cases elapsed with
    | true =>
      -- the read that may have spent the budget is the last entry of the log
      intro _ _
      refine ⟨log ++ .handled m i :: fx.map .emitted, poll.intentId, poll.polls + 1, [],
        by simp; rfl, count.answered.trans (Nat.le_succ _), ?_⟩
      rintro ⟨_, _, _, mem, -⟩
      cases mem
    | false =>
      exact count.waiting.step rfl rfl rfl rfl rfl fun attempt result body =>
        absurd body (silent _ attempt result)

/-- A reply that counts, and reports no progress: a spent budget stops the poll. -/
theorem Counts.judges {log : Log} {m x : Model} {i : Input} {fx : List Effect} {poll : PollState}
    {attempt : Nat} {result : Outcome IntentStatusResult} {verdict : Option PollVerdict}
    (counts : Counts log m) (polls : m.poll = some poll)
    (body : i.2.body = .statusReplied poll.gen attempt result) (read : attempt ≤ poll.polls)
    (judged : x.poll = some (poll.judged (poll.answeredBy attempt result.answers) verdict))
    (seq : m.seq ≤ x.seq) (unread : ∀ e ∈ fx, e.NoRead) (held : verdict ≠ some .progress) :
    Counts (log ++ .handled m i :: fx.map .emitted) x := by
  obtain ⟨-, count⟩ := counts.live poll polls
  have answered : (poll.answeredBy attempt result.answers).answered ≤ poll.polls := by
    unfold PollState.answeredBy
    split
    · exact Nat.max_le.mpr ⟨count.answered, read⟩
    · exact count.answered
  have same : (poll.answeredBy attempt result.answers).gen = poll.gen ∧
      (poll.answeredBy attempt result.answers).max = poll.max ∧
      (poll.answeredBy attempt result.answers).polls = poll.polls ∧
      (poll.answeredBy attempt result.answers).spent = poll.spent := by
    unfold PollState.answeredBy
    split
    · exact ⟨rfl, rfl, rfl, rfl⟩
    · exact ⟨rfl, rfl, rfl, rfl⟩
  obtain ⟨gen, max, polled, spent⟩ := same
  refine counts.carries seq (fun id gen attempt mem => absurd mem (noRead_absent unread)) ?_
  intro new now
  obtain rfl := Option.some.inj (judged.symm.trans now)
  have idle : (poll.answeredBy attempt result.answers).spent =
      poll.spent + if isTick poll.gen m i then pollReads poll.gen fx else 0 := by
    rw [isTick_of_reply body, spent]
    rfl
  have budget : ((poll.answeredBy attempt result.answers).spent : Int) ≤
      (poll.answeredBy attempt result.answers).max := by
    rw [spent, max]
    exact count.budget
  have stops : RunsOn log m i fx poll
      { poll.answeredBy attempt result.answers with stopped := true } :=
    ⟨gen, max, polled.ge, answered.trans polled.ge, idle, budget, fun live => by cases live⟩
  refine ⟨poll, polls, ?_⟩
  cases verdict with
  | some verdict =>
    cases verdict with
    | stop => exact stops
    | progress => exact absurd rfl held
  | none =>
    simp only [PollState.judged]
    split
    · rename_i left
      refine ⟨gen, max, polled.ge, answered.trans polled.ge, idle, budget, fun _ full => ?_⟩
      rw [spent, max] at full
      omega
    · exact stops

section

variable [Host] {m m' : Model} {log : Log} {i : Input} {fx : List Effect}

omit [Host] in
theorem transition_quote (m : Model) (target : IntentStatus) {updates : IntentState → IntentState}
    (keeps : ∀ intent, (updates intent).quote = intent.quote) :
    (transition m target updates).value.intent.quote = m.intent.quote := by
  cases edge : canTransitionTo m.intent.status target with
  | false => rw [(transition_of_no_edge edge).1]
  | true =>
    rw [(transition_of_edge edge).1]
    exact keeps _

omit [Host] in
theorem mapStatusUpdate_quote (msg : StatusMessage) (intent : IntentState) :
    ((mapStatusUpdate msg).2 intent).quote = intent.quote := by
  unfold mapStatusUpdate
  split <;> rfl

omit [Host] in
theorem statusUpdates_quote (m : Model) (msg : StatusMessage) (intent : IntentState) :
    (statusUpdates m msg intent).quote = intent.quote := by
  unfold statusUpdates
  dsimp only
  split
  · exact mapStatusUpdate_quote msg intent
  · exact mapStatusUpdate_quote msg intent

omit [Host] in
/-- A status update leaves the quote. -/
theorem applyStatusUpdate_quote (m : Model) (msg : StatusMessage) (unmapped : Bool) :
    (applyStatusUpdate m msg unmapped).value.intent.quote = m.intent.quote := by
  have marks (next : Model) (status : IntentStatus) :
      (endNotSent (markUnmapped next unmapped) status).intent.quote = next.intent.quote := by
    unfold endNotSent markUnmapped
    split <;> split <;> rfl
  unfold applyStatusUpdate
  simp only [value_bind]
  split
  · split
    · rename_i updates merged
      obtain ⟨_, _, _, _, same⟩ := mergeSameStatusReceipt_spec merged
      refine (marks _ _).trans ?_
      rw [value_pure, patch, same]
    · exact marks _ _
  · exact (marks _ _).trans (transition_quote _ _ (statusUpdates_quote m msg))

omit [Host] in
theorem markRead_keeps (m : Model) (id : String) (attempt : Nat) (unsentRead : Bool) :
    (markRead m id attempt unsentRead).value.intent.quote = m.intent.quote ∧
      (markRead m id attempt unsentRead).value.intent.status = m.intent.status := by
  unfold markRead
  dsimp only
  split <;> simp only [value_bind, value_pure] <;> split <;> exact ⟨rfl, rfl⟩

/-- Progress is a status that moved, or the refill of a resumed trade never sent. -/
theorem readStatus_progress {m : Model} {id : String} {result : Outcome IntentStatusResult}
    {unsentRead : Bool} {now : Int}
    (progress : (readStatus m id result unsentRead now).value.2 = some .progress) :
    (readStatus m id result unsentRead now).value.1.intent.status ≠ m.intent.status ∨
      (unsentRead = true ∧ m.intent.quote = none) := by
  unfold readStatus at progress ⊢
  split at progress
  · cases progress
  · cases progress
  · -- a 404 ends the poll or says nothing
    unfold onNotFound at progress
    split at progress
    · simp only [value_bind, value_pure] at progress
      split at progress <;> cases progress
    · split at progress <;> cases progress
  · rename_i row
    have quote := applyStatusUpdate_quote m (rowMessage id row) row.unmapped
    unfold onStatusRow at progress ⊢
    simp only [value_bind, value_pure] at progress ⊢
    generalize (applyStatusUpdate m (rowMessage id row) row.unmapped).value = applied
      at progress quote ⊢
    have quote' : (if applied.intent.intentId = some id ∧
          applied.intent.legsWithheld ≠ some row.legsWithheld then
        patch applied fun intent => { intent with legsWithheld := some row.legsWithheld }
      else applied).intent.quote = m.intent.quote := by
      rw [← quote]
      split <;> rfl
    generalize (if applied.intent.intentId = some id ∧
          applied.intent.legsWithheld ≠ some row.legsWithheld then
        patch applied fun intent => { intent with legsWithheld := some row.legsWithheld }
      else applied) = next at progress quote' ⊢
    split at progress
    · cases progress
    split at progress
    · rename_i moved
      refine moved.imp_right fun refills => ?_
      simp only [Bool.and_eq_true, Option.isNone_iff_eq_none] at refills
      exact ⟨refills.1.1, quote'.symm.trans refills.2⟩
    · cases progress

/-- A reply that counts and reports no progress has no such verdict. -/
theorem NoProgress.verdict {poll : PollState} {gen attempt : Nat}
    {result : Outcome IntentStatusResult} (quiet : NoProgress m i)
    (body : i.2.body = .statusReplied gen attempt result) (polls : m.poll = some poll)
    (kept : poll.drops gen attempt result.answers = false)
    (own : foreignStatus result poll.intentId = none) :
    statusVerdict (receive m i.2) poll attempt result i.2.now ≠ some .progress := by
  intro progress
  have received : (receive m i.2).poll = some poll := polls
  have still := quiet.still gen attempt result body
  have status : (onStatus (receive m i.2) gen attempt result i.2.now).value.intent.status =
      (readStatus (markRead (receive m i.2) poll.intentId attempt
          (readsNotSent (receive m i.2) poll poll.intentId attempt result)).value
        poll.intentId result (readsNotSent (receive m i.2) poll poll.intentId attempt result)
        i.2.now).value.1.intent.status := by
    rw [onStatus_reads received, kept, if_neg Bool.false_ne_true, own]
    exact settlePoll_status _ _ _ _ _
  rw [status] at still
  obtain ⟨quote, marked⟩ := markRead_keeps (receive m i.2) poll.intentId attempt
    (readsNotSent (receive m i.2) poll poll.intentId attempt result)
  rcases readStatus_progress progress with moved | ⟨unsent, none⟩
  · rw [marked] at moved
    exact moved still
  · rw [quote] at none
    exact quiet.sent gen attempt result poll body polls unsent none

/-- A run's step keeps the count, where every reply at the ceiling is for its own intent. -/
theorem Counts.next (counts : Counts log m) (next : Next m i fx m')
    (answering : Answering log m i) (quiet : NoProgress m i) (own : OwnAtCeiling m i) :
    Counts (log ++ .handled m i :: fx.map .emitted) m' := by
  have replied {gen attempt : Nat} {result : Outcome IntentStatusResult}
      (body : i.2.body = .statusReplied gen attempt result) : step i.1 (receive m i.2) i.2 =
        .ok (onStatus (receive m i.2) gen attempt result i.2.now) := by
    unfold step
    rw [body]
  cases stepped : step i.1 (receive m i.2) i.2 with
  | error e =>
    unfold Next update at next
    rw [show { m with hidden := i.2.hidden } = receive m i.2 from rfl, stepped] at next
    obtain ⟨rfl, rfl⟩ := next
    refine counts.idle rfl (Nat.le_refl _) (by simp) fun old _ attempt result body => ?_
    rw [replied body] at stepped
    cases stepped
  | ok x =>
  obtain ⟨rfl, rfl⟩ := next.of_step stepped
  -- the step keeps the count, and the rules after it do
  suffices start : Counts (log ++ .handled m i :: x.log.map .emitted) x.value by
    have chain : Chain PollChange x.value (settle x.value i.2.now).log (settle x.value i.2.now).value :=
      settle_changes x.value
    have := chain.history (P := Counts)
      (fun _ _ _ _ counts change => counts.change change) start
    simpa using this
  by_cases reply : ∃ gen attempt result, i.2.body = .statusReplied gen attempt result
  · obtain ⟨gen, attempt, result, body⟩ := reply
    obtain rfl : onStatus (receive m i.2) gen attempt result i.2.now = x :=
      Except.ok.inj ((replied body).symm.trans stepped)
    cases polls : m.poll with
    | none =>
      have gone : onStatus (receive m i.2) gen attempt result i.2.now = pure (receive m i.2) := by
        have received : (receive m i.2).poll = none := polls
        simp only [onStatus, received]
      rw [gone]
      exact counts.idle rfl (Nat.le_refl _) (by simp) fun old h => by rw [polls] at h; cases h
    | some poll =>
      have received : (receive m i.2).poll = some poll := polls
      obtain ⟨-, count⟩ := counts.live poll polls
      cases onStatus_taken received gen attempt result i.2.now with
      | dropped drops same =>
        rw [same]
        refine counts.idle rfl (Nat.le_refl _) (by simp) fun old h attempt' result' body' live _ => ?_
        obtain rfl := Option.some.inj (polls.symm.trans h)
        rw [body] at body'
        cases body'
        simp only [PollState.drops, bne_self_eq_false, live, Bool.false_or, Bool.and_eq_true,
          decide_eq_true_eq] at drops
        exact drops.2
      | foreign kept other same unread =>
        refine counts.idle (by rw [same]; rfl) (by rw [same]; exact Nat.le_refl _) unread
          fun old h attempt' result' body' live full => ?_
        obtain rfl := Option.some.inj (polls.symm.trans h)
        rw [body] at body'
        cases body'
        rw [own _ _ _ _ body polls rfl live full.ge] at other
        cases other
      | counted kept own judged seq unread =>
        have gen_eq : poll.gen = gen := by
          simp only [PollState.drops, Bool.or_eq_false_iff, bne_eq_false_iff_eq] at kept
          exact kept.1.1
        subst gen_eq
        obtain ⟨id, read⟩ := answering.replies _ _ _ body
        exact counts.judges polls body (count.reads id attempt read) judged seq unread
          (quiet.verdict body polls kept own)
  · have silent : ∀ gen attempt result, i.2.body ≠ .statusReplied gen attempt result :=
      fun gen attempt result body => reply ⟨gen, attempt, result, body⟩
    cases step_poll stepped with
    | unpolled h =>
      exact counts.idle h.moves.poll h.moves.seq h.emits fun _ _ _ _ body =>
        absurd body (silent _ _ _)
    | @elapsed poll body polls live same log' =>
      rw [log', same]
      obtain ⟨-, count⟩ := counts.live poll polls
      refine @Counts.reads _ _ _ _ [] _ counts polls true rfl (Nat.le_refl _) (by simp) ?_
        (fun _ => ?_) silent
      · unfold isTick
        rw [body]
        have now : m.poll = some poll := polls
        simp [now]
      · -- every read is answered, so the budget is not spent
        by_contra spent
        have full : (poll.spent : Int) = poll.max := le_antisymm count.budget (not_lt.mp spent)
        exact count.waiting.unanswered live full (answering.inTime body poll polls)
    | @returned poll fy body polls now seq unread log' =>
      rw [log']
      refine counts.reads polls false now seq unread ?_ (fun h => by cases h) silent
      unfold isTick
      rw [body]
    | revived body gone seq unread =>
      refine counts.carries seq (fun id gen attempt mem => absurd mem (noRead_absent unread)) ?_
      intro new now
      rw [gone] at now
      cases now
    | replied body _ => exact absurd body (silent _ _ _)

/-- Every reply to a poll at its ceiling is for the poll's own intent: then each poll, with
every read answered before its next interval and no progress, reads at no more intervals than
its ceiling, and stops at it. -/
theorem poll_stops_at_ceiling
    (run : Guarded Initial Next (fun log m i =>
      (Answering log m i ∧ NoProgress m i) ∧ OwnAtCeiling m i) log m) :
    Ceiling log m := by
  suffices counts : Counts log m from counts.ceiling
  induction run with
  | init h =>
    obtain ⟨config, ctx, hidden, rfl⟩ := h
    exact ⟨by simp, nofun, by simp⟩
  | step _ next met ih => exact ih.next next met.1.1 met.1.2 met.2

/-! ## Another intent's replies -/

/-- What a run's own condition says of its steps. -/
abbrev AnsweredRun (log : Log) (m : Model) : Prop :=
  Guarded Initial Next (fun log m i => Answering log m i ∧ NoProgress m i) log m

/-- The runs whose polls at their ceiling hear of their own intent only. -/
abbrev OwnRun (log : Log) (m : Model) : Prop :=
  Guarded Initial Next (fun log m i => (Answering log m i ∧ NoProgress m i) ∧ OwnAtCeiling m i)
    log m

theorem OwnRun.answered (run : OwnRun log m) : AnsweredRun log m :=
  Guarded.mono (fun _ _ _ met => met.1) run

/-- An interval passes at a live poll with no ceremony on: one read, and nothing else moves. -/
theorem tick_next {poll : PollState} (sound : PollSound m) (polls : m.poll = some poll)
    (live : poll.stopped = false) (free : m.sign = none) (body : i.2.body = .timerFired .poll)
    (next : Next m i fx m') :
    ∃ fy, fx = .api (.status poll.intentId poll.gen (poll.polls + 1)) :: fy ∧
      (∀ e ∈ fy, e.NoRead) ∧ m'.poll = some (poll.read true) ∧ m'.sign = none := by
  have received : (receive m i.2).poll = some poll := polls
  have stepped : step i.1 (receive m i.2) i.2 = .ok ⟨{ receive m i.2 with
      poll := some (poll.read true) },
        [.api (.status poll.intentId poll.gen (poll.polls + 1))]⟩ := by
    have idle : awaitingResend (receive m i.2) = false := by
      have none : (receive m i.2).sign = none := free
      simp only [awaitingResend, none]
    unfold step
    rw [body]
    simp only [onTimer, idle, received, live, pollTick_reads received, Bool.false_eq_true, if_false]
  have quiet : Quiescent { receive m i.2 with poll := some (poll.read true) } :=
    ⟨sound.quiet.wallet, sound.quiet.upgrade, sound.quiet.expiry, by
      have rests := sound.quiet.polls
      unfold Polls at rests ⊢
      rw [polls] at rests
      exact rests⟩
  obtain ⟨unmoved, unread⟩ : Unmoved _ (settle _ i.2.now).value ∧ _ := settle_unmoved quiet
  obtain ⟨rfl, rfl⟩ := next.of_step stepped
  refine ⟨_, rfl, unread, unmoved.poll, ?_⟩
  rw [unmoved.same]
  exact free

/-- A reply for another intent leaves the poll as it was. -/
theorem foreign_next {poll : PollState} {attempt : Nat} {result : Outcome IntentStatusResult}
    (sound : PollSound m) (polls : m.poll = some poll)
    (kept : poll.drops poll.gen attempt result.answers = false)
    (other : (foreignStatus result poll.intentId).isSome = true)
    (body : i.2.body = .statusReplied poll.gen attempt result) (next : Next m i fx m') :
    (∀ e ∈ fx, e.NoRead) ∧ m'.poll = some poll ∧ m'.sign = m.sign ∧
      (onStatus (receive m i.2) poll.gen attempt result i.2.now).value = receive m i.2 := by
  have received : (receive m i.2).poll = some poll := polls
  have stepped : step i.1 (receive m i.2) i.2 =
      .ok (onStatus (receive m i.2) poll.gen attempt result i.2.now) := by
    unfold step
    rw [body]
  obtain ⟨rfl, rfl⟩ := next.of_step stepped
  obtain ⟨unmoved, unread⟩ : Unmoved _ (settle _ i.2.now).value ∧ _ :=
    settle_unmoved (sound.quiet.receive i.2)
  cases onStatus_taken received poll.gen attempt result i.2.now with
  | dropped drops _ => rw [kept] at drops; cases drops
  | counted _ own => rw [own] at other; cases other
  | foreign _ _ same quiet =>
    refine ⟨fun e mem => ?_, ?_, ?_, same⟩
    · rcases List.mem_append.mp mem with mem | mem
      · exact quiet e mem
      · rw [same] at mem
        exact unread e mem
    · rw [same, unmoved.poll]
      exact polls
    · rw [same, unmoved.same]
      rfl

/-- The first poll of an order after `n` intervals, none of whose reads has been answered for. -/
def unheardPoll (key : String) (n : Nat) : PollState where
  key := key
  intentId := "i"
  gen := 1
  polls := n + 1
  answered := 0
  spent := n
  max := 150
  stopped := false

/-- A run at a live poll whose every reply so far was another intent's, after `n` intervals. -/
structure Unheard (n : Nat) (log : Log) (m : Model) : Prop where
  run : AnsweredRun log m
  answered : AllAnswered 1 log
  count : intervalReads 1 log = n
  free : m.sign = none
  poll : ∃ key, m.poll = some (unheardPoll key n)

/-- A row that names another intent. -/
def foreignRow : IntentStatusResult := .data (row (some "j") .executing)

theorem NoProgress.of_other (silent : ∀ gen attempt result,
    i.2.body ≠ .statusReplied gen attempt result) : NoProgress m i :=
  ⟨fun _ _ _ body => absurd body (silent _ _ _), fun _ _ _ _ body => absurd body (silent _ _ _)⟩

/-- An interval that finds every read answered. -/
theorem tick_answering {poll : PollState} (body : i.2.body = .timerFired .poll)
    (polls : m.poll = some poll) (answered : AllAnswered poll.gen log) :
    Answering log m i ∧ NoProgress m i := by
  have silent : ∀ gen attempt result, i.2.body ≠ .statusReplied gen attempt result := by
    intro gen attempt result replied
    rw [body] at replied
    cases replied
  refine ⟨⟨fun _ _ _ replied => absurd replied (silent _ _ _), fun _ p now => ?_⟩, .of_other silent⟩
  rw [Option.some.inj (now.symm.trans polls)]
  exact answered

/-- A reply to a read of this poll, which the intent's status does not follow. -/
theorem reply_answering {gen attempt : Nat} {result : Outcome IntentStatusResult} {id : String}
    (body : i.2.body = .statusReplied gen attempt result)
    (read : .emitted (.api (.status id gen attempt)) ∈ log)
    (still : (onStatus (receive m i.2) gen attempt result i.2.now).value.intent.status =
      m.intent.status)
    (sent : ∀ poll, readsNotSent (receive m i.2) poll poll.intentId attempt result = false) :
    Answering log m i ∧ NoProgress m i := by
  refine ⟨⟨fun gen' attempt' result' body' => ?_, fun timer => ?_⟩,
    ⟨fun gen' attempt' result' body' => ?_, fun gen' attempt' result' poll body' _ reads => ?_⟩⟩
  · rw [body] at body'
    cases body'
    exact ⟨id, read⟩
  · rw [body] at timer
    cases timer
  · rw [body] at body'
    cases body'
    exact still
  · rw [body] at body'
    cases body'
    rw [sent poll] at reads
    cases reads

omit [Host] in
theorem readsNotSent_foreign (m : Model) (poll : PollState) (attempt : Nat) :
    readsNotSent m poll poll.intentId attempt (.ok foreignRow) = false := by
  simp [readsNotSent, foreignRow, row]

omit [Host] in
/-- Every read of the log stays answered, and the one after it is. -/
theorem AllAnswered.more {i' : Input} {m₁ : Model} {gen attempt : Nat}
    {result : Outcome IntentStatusResult} {id : String} {fy fz : List Effect}
    (answered : AllAnswered gen log) (unread : ∀ e ∈ fy, e.NoRead) (unread' : ∀ e ∈ fz, e.NoRead)
    (body : i'.2.body = .statusReplied gen attempt result) :
    AllAnswered gen ((log ++ .handled m i :: (.api (.status id gen attempt) :: fy).map .emitted) ++
      .handled m₁ i' :: fz.map .emitted) := by
  intro id' attempt'
  rw [List.append_assoc]
  refine (answered id' attempt').append (fun b replied => replied.append _) ?_
  refine .cons nofun (.cons (fun now => ?_) (.never ?_))
  · cases now
    exact ⟨m₁, i', result, by simp, body⟩
  · rintro e mem rfl
    have late : Effect.api (.status id' gen attempt') ∈ fy ∨
        Effect.api (.status id' gen attempt') ∈ fz := by simpa using mem
    exact late.elim (noRead_absent unread) (noRead_absent unread')

/-- One more interval, its read answered with another intent's status. -/
theorem Unheard.more {n : Nat} (unheard : Unheard n log m) : ∃ log' m', Unheard (n + 1) log' m' := by
  obtain ⟨run, answered, count, free, key, polls⟩ := unheard
  have sound : PollSound m := MachineRun.pollSound run.run
  obtain ⟨i, body⟩ : ∃ i : Input, i.2.body = .timerFired .poll := ⟨said (.timerFired .poll), rfl⟩
  have ticks := next_answer m i
  generalize (answer m i).1 = fx, (answer m i).2 = m₁ at ticks
  obtain ⟨fy, rfl, unread, polls₁, free₁⟩ := tick_next sound polls rfl free body ticks
  have run₁ := run.step ticks (tick_answering body polls answered)
  have sound₁ : PollSound m₁ := MachineRun.pollSound run₁.run
  obtain ⟨j, body'⟩ : ∃ j : Input, j.2.body = .statusReplied 1 (n + 1 + 1) (.ok foreignRow) :=
    ⟨replied (n + 2) foreignRow, rfl⟩
  have replies := next_answer m₁ j
  generalize (answer m₁ j).1 = fz, (answer m₁ j).2 = m₂ at replies
  have kept : ((unheardPoll key n).read true).drops 1 (n + 1 + 1)
      (Outcome.answers (.ok foreignRow)) = false := by
    simp [PollState.drops, PollState.read, Outcome.answers, unheardPoll]
  obtain ⟨unread₂, polls₂, free₂, same⟩ := foreign_next sound₁ polls₁ kept rfl body' replies
  have still : (onStatus (receive m₁ j.2) 1 (n + 1 + 1) (.ok foreignRow)
      j.2.now).value.intent.status = m₁.intent.status := by
    have := congrArg (·.intent.status) same
    exact this
  have run₂ := run₁.step replies (reply_answering body'
    (mem_step.mpr (.inr (List.mem_cons_self ..))) still fun poll => readsNotSent_foreign _ poll _)
  refine ⟨_, _, run₂, answered.more unread unread₂ body', ?_, free₂.trans free₁, key, polls₂⟩
  have one : isTick 1 m i = true := by
    unfold isTick
    simp [body, polls, unheardPoll]
  have quiet : pollReads 1 fy = 0 := pollReads_none fun _ _ => noRead_absent unread
  rw [intervalReads_step, intervalReads_step, count, one, isTick_of_reply body']
  unfold pollReads at quiet ⊢
  rw [List.countP_cons, quiet]
  simp [Effect.readsFor, unheardPoll]

end

/-- The generation and the attempt of each status read. -/
def statusReads (fx : List Effect) : List (Nat × Nat) :=
  fx.filterMap fun e => match e with
    | .api (.status _ gen attempt) => some (gen, attempt)
    | _ => none

theorem mem_statusReads {fx : List Effect} {gen attempt : Nat} :
    (gen, attempt) ∈ statusReads fx ↔ ∃ id, .api (.status id gen attempt) ∈ fx := by
  simp only [statusReads, List.mem_filterMap]
  constructor
  · rintro ⟨e, mem, read⟩
    split at read
    · cases read
      exact ⟨_, mem⟩
    · cases read
  · rintro ⟨id, mem⟩
    exact ⟨_, mem, rfl⟩

/-- The first model, and the one after an order is taken up again. -/
def freshModel : Model := init sampleConfig blankContext false

section

variable [Host]

/-- A message that is neither a reply nor the poll's timer asks nothing of a run. -/
theorem other_answering {log : Log} {m : Model} {i : Input}
    (silent : ∀ gen attempt result, i.2.body ≠ .statusReplied gen attempt result)
    (timer : i.2.body ≠ .timerFired .poll) : Answering log m i ∧ NoProgress m i :=
  ⟨⟨fun _ _ _ body => absurd body (silent _ _ _), fun body => absurd body timer⟩,
    .of_other silent⟩

omit [Host] in
/-- The only read of a log, answered. -/
theorem AllAnswered.first {log : Log} {m : Model} {i : Input} {gen attempt : Nat}
    {result : Outcome IntentStatusResult} {fx : List Effect}
    (reads : ∀ id attempt', .emitted (.api (.status id gen attempt')) ∈ log → attempt' = attempt)
    (unread : ∀ e ∈ fx, e.NoRead) (body : i.2.body = .statusReplied gen attempt result) :
    AllAnswered gen (log ++ .handled m i :: fx.map .emitted) := by
  intro id attempt'
  refine .settled ?_ (.cons nofun (.never ?_))
  · rintro e mem rfl b
    rw [reads id attempt' mem]
    exact ⟨m, i, result, by simp, body⟩
  · rintro e mem rfl
    exact noRead_absent unread (by simpa using mem)

/-- A run that starts by taking up an order, whose poll has made its first read. -/
structure TakenUp (log : Log) (m : Model) : Prop where
  run : OwnRun log m
  read : ∃ id, .emitted (.api (.status id 1 1)) ∈ log
  reads : ∀ id attempt, .emitted (.api (.status id 1 attempt)) ∈ log → attempt = 1
  count : intervalReads 1 log = 0
  free : m.sign = none
  poll : ∃ key, m.poll = some (unheardPoll key 0)

theorem takenUp {fx : List Effect} {m : Model}
    (next : Next freshModel (resumed .executing none) fx m) (reads : statusReads fx = [(1, 1)])
    (free : m.sign = none) (poll : ∃ key, m.poll = some (unheardPoll key 0)) :
    TakenUp ([] ++ .handled freshModel (resumed .executing none) :: fx.map .emitted) m := by
  have body : (resumed .executing none).2.body = .resumeRequested "i" .executing "o" none none := rfl
  have silent : ∀ gen attempt result,
      (resumed .executing none).2.body ≠ .statusReplied gen attempt result := by
    intro gen attempt result replied
    rw [body] at replied
    cases replied
  have timer : (resumed .executing none).2.body ≠ .timerFired .poll := by
    intro fired
    rw [body] at fired
    cases fired
  refine ⟨.step (.init ⟨sampleConfig, blankContext, false, rfl⟩) next
    ⟨other_answering silent timer, fun _ _ _ _ body => absurd body (silent _ _ _)⟩, ?_,
    fun id attempt mem => ?_, ?_, free, poll⟩
  · have first : (1, 1) ∈ statusReads fx := by rw [reads]; simp
    obtain ⟨id, mem⟩ := mem_statusReads.mp first
    exact ⟨id, mem_step.mpr (.inr mem)⟩
  · have mem : (1, attempt) ∈ statusReads fx := by
      refine mem_statusReads.mpr ⟨id, (mem_step.mp mem).resolve_left ?_⟩
      simp
    rw [reads] at mem
    simpa using mem
  · rw [intervalReads_step]
    unfold isTick
    rw [body]
    rfl

/-- The first read answered with another intent's status. -/
theorem TakenUp.unheard {log : Log} {m : Model} (up : TakenUp log m) :
    ∃ log' m', Unheard 0 log' m' := by
  obtain ⟨run, ⟨id, read⟩, reads, count, free, key, polls⟩ := up
  have sound : PollSound m := MachineRun.pollSound run.run
  obtain ⟨j, body⟩ : ∃ j : Input, j.2.body = .statusReplied 1 1 (.ok foreignRow) :=
    ⟨replied 1 foreignRow, rfl⟩
  have replies := next_answer m j
  generalize (answer m j).1 = fz, (answer m j).2 = m₁ at replies
  have kept : (unheardPoll key 0).drops 1 1 (Outcome.answers (.ok foreignRow)) = false := by
    simp [PollState.drops, Outcome.answers, unheardPoll]
  obtain ⟨unread, polls₁, free₁, same⟩ := foreign_next sound polls kept rfl body replies
  have still : (onStatus (receive m j.2) 1 1 (.ok foreignRow) j.2.now).value.intent.status =
      m.intent.status := by
    have := congrArg (·.intent.status) same
    exact this
  have run₁ := run.answered.step replies (reply_answering body read still fun poll =>
    readsNotSent_foreign _ poll _)
  refine ⟨_, _, run₁, .first reads unread body, ?_, free₁.trans free, key, polls₁⟩
  rw [intervalReads_step, isTick_of_reply body, count]
  rfl

theorem TakenUp.outlasts {log : Log} {m : Model} (up : TakenUp log m) (n : Nat) :
    ∃ log' m', Unheard n log' m' := by
  induction n with
  | zero => exact up.unheard
  | succ n ih =>
    obtain ⟨log', m', unheard⟩ := ih
    exact unheard.more

end

/-- The log and the model after the order is taken up. -/
def orderLog [Host] : Log :=
  [] ++ .handled freshModel (resumed .executing none) ::
    (answer freshModel (resumed .executing none)).1.map .emitted

def orderModel [Host] : Model := (answer freshModel (resumed .executing none)).2

theorem order_takenUp :
    letI := plainHost
    TakenUp orderLog orderModel := by
  let _ := plainHost
  have next := next_answer freshModel (resumed .executing none)
  have reads : statusReads (answer freshModel (resumed .executing none)).1 = [(1, 1)] := by
    decide +kernel
  have free : (answer freshModel (resumed .executing none)).2.sign.isNone = true := by
    decide +kernel
  have poll : ((answer freshModel (resumed .executing none)).2.poll.any fun p =>
      p.intentId == "i" && p.gen == 1 && p.polls == 1 && p.answered == 0 && p.spent == 0 &&
        p.max == 150 && !p.stopped) = true := by
    decide +kernel
  unfold orderLog orderModel
  generalize (answer freshModel (resumed .executing none)).1 = fx,
    (answer freshModel (resumed .executing none)).2 = m at next reads free poll ⊢
  obtain ⟨p, polls, same⟩ := (Option.any_eq_true _ _).mp poll
  have key : p = unheardPoll p.key 0 := by
    cases p
    simp_all [unheardPoll]
  exact takenUp next reads (by simpa using free) ⟨p.key, by rw [polls, ← key]⟩

/-- A poll whose every read is answered with another intent's status reads past its ceiling. -/
theorem foreign_replies_outlast_ceiling :
    letI := plainHost
    ¬∀ log m, AnsweredRun log m → Ceiling log m := by
  let _ := plainHost
  intro holds
  obtain ⟨log, m, unheard⟩ := TakenUp.outlasts order_takenUp 151
  obtain ⟨key, now⟩ := unheard.poll
  have bounded := (holds log m unheard.run).bounded _ (.inl now)
  have count : intervalReads (unheardPoll key 151).gen log = 151 := unheard.count
  rw [count] at bounded
  exact absurd bounded (by simp [unheardPoll])

/-- A run that answers the first read for its own order, then lets an interval pass. -/
theorem TakenUp.interval [Host] {log : Log} {m m₁ m₂ : Model} {i j : Input} {fx fy : List Effect}
    (up : TakenUp log m) (body : i.2.body = .statusReplied 1 1 (.ok (.data (row (some "i") .executing))))
    (next : Next m i fx m₁)
    (still : (onStatus (receive m i.2) 1 1 (.ok (.data (row (some "i") .executing)))
      i.2.now).value.intent.status = m.intent.status)
    (unread : ∀ e ∈ fx, e.NoRead) (gen : m₁.poll.map (·.gen) = some 1)
    (fired : j.2.body = .timerFired .poll) (next' : Next m₁ j fy m₂) :
    OwnRun ((log ++ .handled m i :: fx.map .emitted) ++ .handled m₁ j :: fy.map .emitted) m₂ := by
  obtain ⟨run, ⟨id, read⟩, reads, -, -, key, polls⟩ := up
  obtain ⟨poll, polls', own⟩ := Option.map_eq_some_iff.mp gen
  have answered : AllAnswered poll.gen (log ++ .handled m i :: fx.map .emitted) := by
    rw [own]
    exact .first reads unread body
  have silent : OwnAtCeiling m₁ j := by
    intro gen attempt result poll replied
    rw [fired] at replied
    cases replied
  have ownReply : OwnAtCeiling m i := by
    intro gen attempt result poll replied now _ _ full
    obtain rfl := Option.some.inj (polls.symm.trans now)
    exact absurd full (by simp [unheardPoll])
  have sent (poll : PollState) : readsNotSent (receive m i.2) poll poll.intentId 1
      (.ok (.data (row (some "i") .executing))) = false := by
    simp [readsNotSent, row]
  exact (run.step next ⟨reply_answering body read still sent, ownReply⟩).step next'
    ⟨tick_answering fired polls' answered, silent⟩

def ownReply : Input := replied 1 (.data (row (some "i") .executing))

def ticked : Input := said (.timerFired .poll)

theorem ownReply_facts :
    letI := plainHost
    (onStatus (receive orderModel ownReply.2) 1 1 (.ok (.data (row (some "i") .executing)))
        ownReply.2.now).value.intent.status = orderModel.intent.status ∧
      ((answer orderModel ownReply).1.all fun e => !e.readsStatus) = true ∧
      (answer orderModel ownReply).2.poll.map (·.gen) = some 1 := by
  let _ := plainHost
  refine ⟨?_, ?_, ?_⟩
  · decide +kernel
  · decide +kernel
  · decide +kernel

/-- The order's first read answered for it, then an interval. -/
theorem poll_stops_at_ceiling_answered :
    letI := plainHost
    let replied := answer orderModel ownReply
    let read := answer replied.2 ticked
    Ceiling ((orderLog ++ .handled orderModel ownReply :: replied.1.map .emitted) ++
      .handled replied.2 ticked :: read.1.map .emitted) read.2 := by
  let _ := plainHost
  dsimp only
  obtain ⟨still, none, gen⟩ := ownReply_facts
  have unread : ∀ e ∈ (answer orderModel ownReply).1, e.NoRead := fun e mem => by
    simpa using List.all_eq_true.mp none e mem
  have up := order_takenUp
  have next := next_answer orderModel ownReply
  have next' := next_answer (answer orderModel ownReply).2 ticked
  have body : ownReply.2.body = .statusReplied 1 1 (.ok (.data (row (some "i") .executing))) := rfl
  have fired : ticked.2.body = .timerFired .poll := rfl
  -- the models are opaque from here: unfolding them would run the machine
  generalize (answer (answer orderModel ownReply).2 ticked).1 = fy,
    (answer (answer orderModel ownReply).2 ticked).2 = m₂ at next' ⊢
  generalize (answer orderModel ownReply).1 = fx, (answer orderModel ownReply).2 = m₁
    at next next' gen unread ⊢
  exact poll_stops_at_ceiling (up.interval body next still unread gen fired next')

end XochiSdk.Client
