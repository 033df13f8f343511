import Mathlib.Data.List.Infix

/-!
# Runs, their logs, and chains of small changes

A system answers each input with effects and a new state. `Run` is every run of it from a set
of starting states, with the log of all that was handled and emitted; `Chain` is one answer
taken apart into changes of one kind. Each comes with its invariant rule, over the state and
the log together.
-/

namespace XochiSdk.Library

variable {σ ι ε : Type}

/-- One entry of a log: an input met in a state, or an effect. -/
inductive Happening (σ ι ε : Type) where
  | handled (source : σ) (input : ι)
  | emitted (effect : ε)

/-- The runs from a starting state, oldest entry of the log first. -/
inductive Run (start : σ → Prop) (next : σ → ι → List ε → σ → Prop) :
    List (Happening σ ι ε) → σ → Prop where
  | init {s : σ} (h : start s) : Run start next [] s
  | step {log : List (Happening σ ι ε)} {s s' : σ} {i : ι} {fx : List ε}
      (run : Run start next log s) (h : next s i fx s') :
      Run start next (log ++ .handled s i :: fx.map .emitted) s'

/-- A finite sequence of changes, their effects in order. -/
inductive Chain (change : σ → List ε → σ → Prop) : σ → List ε → σ → Prop where
  | refl (s : σ) : Chain change s [] s
  | tail {s s' s'' : σ} {fx fy : List ε} (chain : Chain change s fx s') (h : change s' fy s'') :
      Chain change s (fx ++ fy) s''

namespace Chain

variable {change : σ → List ε → σ → Prop} {s s' s'' : σ} {fx fy : List ε}

theorem single (h : change s fx s') : Chain change s fx s' := by
  simpa using (Chain.refl s).tail h

/-- One more change, which emits nothing. -/
theorem snoc (chain : Chain change s fx s') (h : change s' [] s'') : Chain change s fx s'' := by
  simpa using chain.tail h

theorem trans (first : Chain change s fx s') (second : Chain change s' fy s'') :
    Chain change s (fx ++ fy) s'' := by
  induction second with
  | refl => simpa using first
  | tail _ h ih =>
    rw [← List.append_assoc]
    exact ih.tail h

/-- What each change preserves of the log and the state, a chain preserves. -/
theorem history {P : List (Happening σ ι ε) → σ → Prop}
    (preserved : ∀ log s fx s', P log s → change s fx s' → P (log ++ fx.map .emitted) s')
    (chain : Chain change s fx s') {log : List (Happening σ ι ε)} (start : P log s) :
    P (log ++ fx.map .emitted) s' := by
  induction chain with
  | refl => simpa using start
  | tail _ h ih =>
    have := preserved _ _ _ _ ih h
    simpa [List.append_assoc] using this

theorem invariant {P : σ → Prop} (preserved : ∀ s fx s', P s → change s fx s' → P s')
    (chain : Chain change s fx s') (start : P s) : P s' := by
  induction chain with
  | refl => exact start
  | tail _ h ih => exact preserved _ _ _ ih h

/-- What holds of the effects of each change, under an invariant, holds of a chain's. -/
theorem effects {P : σ → Prop} {Q : ε → Prop}
    (preserved : ∀ s fx s', P s → change s fx s' → P s' ∧ ∀ e ∈ fx, Q e)
    (chain : Chain change s fx s') (start : P s) : ∀ e ∈ fx, Q e := by
  induction chain with
  | refl => simp
  | tail before h ih =>
    have held := before.invariant (P := P)
      (fun s fx s' inv step => (preserved s fx s' inv step).1) start
    intro e he
    rcases List.mem_append.mp he with he | he
    · exact ih e he
    · exact (preserved _ _ _ held h).2 e he

end Chain

/-- The steps of a system that a condition holds of. -/
def Only (next ok : σ → ι → List ε → σ → Prop) (s : σ) (i : ι) (fx : List ε) (s' : σ) : Prop :=
  next s i fx s' ∧ ok s i fx s'

/-- The runs whose every step meets a condition on the log so far and the step. -/
inductive Guarded (start : σ → Prop) (next : σ → ι → List ε → σ → Prop)
    (ok : List (Happening σ ι ε) → σ → ι → Prop) : List (Happening σ ι ε) → σ → Prop where
  | init {s : σ} (h : start s) : Guarded start next ok [] s
  | step {log : List (Happening σ ι ε)} {s s' : σ} {i : ι} {fx : List ε}
      (before : Guarded start next ok log s) (h : next s i fx s') (met : ok log s i) :
      Guarded start next ok (log ++ .handled s i :: fx.map .emitted) s'

/-- The runs along which a property of the log and the state holds throughout. -/
inductive Throughout (start : σ → Prop) (next : σ → ι → List ε → σ → Prop)
    (P : List (Happening σ ι ε) → σ → Prop) : List (Happening σ ι ε) → σ → Prop where
  | init {s : σ} (h : start s) (here : P [] s) : Throughout start next P [] s
  | step {log : List (Happening σ ι ε)} {s s' : σ} {i : ι} {fx : List ε}
      (before : Throughout start next P log s) (h : next s i fx s')
      (here : P (log ++ .handled s i :: fx.map .emitted) s') :
      Throughout start next P (log ++ .handled s i :: fx.map .emitted) s'

/-- A run whose steps meet a condition meets a weaker one. -/
theorem Guarded.mono {start : σ → Prop} {next : σ → ι → List ε → σ → Prop}
    {ok ok' : List (Happening σ ι ε) → σ → ι → Prop} {log : List (Happening σ ι ε)} {s : σ}
    (weaker : ∀ log s i, ok log s i → ok' log s i) (guarded : Guarded start next ok log s) :
    Guarded start next ok' log s := by
  induction guarded with
  | init h => exact .init h
  | step _ h met ih => exact ih.step h (weaker _ _ _ met)

/-- A run whose steps meet a condition is a run. -/
theorem Guarded.run {start : σ → Prop} {next : σ → ι → List ε → σ → Prop}
    {ok : List (Happening σ ι ε) → σ → ι → Prop} {log : List (Happening σ ι ε)} {s : σ}
    (guarded : Guarded start next ok log s) : Run start next log s := by
  induction guarded with
  | init h => exact .init h
  | step _ h _ ih => exact ih.step h

namespace Throughout

variable {start : σ → Prop} {next : σ → ι → List ε → σ → Prop}
  {P : List (Happening σ ι ε) → σ → Prop} {log : List (Happening σ ι ε)} {s : σ}

theorem run (h : Throughout start next P log s) : Run start next log s := by
  induction h with
  | init h => exact .init h
  | step _ h _ ih => exact ih.step h

theorem here (h : Throughout start next P log s) : P log s := by
  cases h with
  | init _ here => exact here
  | step _ _ here => exact here

/-- A property that holds of each start, and that a step keeps exactly where a condition holds
of it, holds throughout a run exactly where each step meets the condition. -/
theorem iff_only {ok : σ → ι → List ε → σ → Prop} (init : ∀ s, start s → P [] s)
    (kept : ∀ log s i fx s', Run start next log s → P log s → next s i fx s' → ok s i fx s' →
      P (log ++ .handled s i :: fx.map .emitted) s')
    (lost : ∀ log s i fx s', Run start next log s → P log s → next s i fx s' →
      P (log ++ .handled s i :: fx.map .emitted) s' → ok s i fx s') :
    Throughout start next P log s ↔ Run start (Only next ok) log s := by
  constructor
  · intro h
    induction h with
    | init h => exact .init h
    | step before h here ih => exact ih.step ⟨h, lost _ _ _ _ _ before.run before.here h here⟩
  · intro run
    induction run with
    | init h => exact .init h (init _ h)
    | step _ h ih => exact ih.step h.1 (kept _ _ _ _ _ ih.run ih.here h.1 h.2)

/-- As `iff_only`, for a condition that reads the log. -/
theorem iff_guarded {ok : List (Happening σ ι ε) → σ → ι → Prop} (init : ∀ s, start s → P [] s)
    (kept : ∀ log s i fx s', Run start next log s → P log s → next s i fx s' → ok log s i →
      P (log ++ .handled s i :: fx.map .emitted) s')
    (lost : ∀ log s i fx s', Run start next log s → P log s → next s i fx s' →
      P (log ++ .handled s i :: fx.map .emitted) s' → ok log s i) :
    Throughout start next P log s ↔ Guarded start next ok log s := by
  constructor
  · intro h
    induction h with
    | init h => exact .init h
    | step before h here ih => exact ih.step h (lost _ _ _ _ _ before.run before.here h here)
  · intro guarded
    induction guarded with
    | init h => exact .init h (init _ h)
    | step _ h met ih => exact ih.step h (kept _ _ _ _ _ ih.run ih.here h met)

end Throughout

namespace Run

variable {start : σ → Prop} {next : σ → ι → List ε → σ → Prop}
  {log : List (Happening σ ι ε)} {s : σ}

/-- What holds of every start and each answer preserves holds along a run. -/
theorem invariant {P : List (Happening σ ι ε) → σ → Prop} (init : ∀ s, start s → P [] s)
    (preserved : ∀ log s i fx s', Run start next log s → P log s → next s i fx s' →
      P (log ++ .handled s i :: fx.map .emitted) s')
    (run : Run start next log s) : P log s := by
  induction run with
  | init h => exact init _ h
  | step run h ih => exact preserved _ _ _ _ _ run ih h

/-- A run of one condition is a run of another that follows from it at every state reached. -/
theorem only_mono {ok ok' : σ → ι → List ε → σ → Prop}
    (h : ∀ log s i fx s', Run start (Only next ok) log s → next s i fx s' → ok s i fx s' →
      ok' s i fx s')
    (run : Run start (Only next ok) log s) : Run start (Only next ok') log s := by
  induction run with
  | init here => exact .init here
  | step before answered ih =>
    exact ih.step ⟨answered.1, h _ _ _ _ _ before answered.1 answered.2⟩

/-- A run that keeps a condition is a run. -/
theorem of_only {ok : σ → ι → List ε → σ → Prop} (run : Run start (Only next ok) log s) :
    Run start next log s := by
  induction run with
  | init here => exact .init here
  | step _ answered ih => exact ih.step answered.1

/-- An input of the log was met by the run that led there, and answered: the effects that
follow it are the answer's. -/
theorem at_handled (run : Run start next log s) {pre : List (Happening σ ι ε)} {source : σ} {i : ι}
    {post : List (Happening σ ι ε)} (here : log = pre ++ .handled source i :: post) :
    ∃ fx s' later, Run start next pre source ∧ next source i fx s' ∧
      post = fx.map .emitted ++ later ∧ ∀ e rest, later ≠ .emitted e :: rest := by
  induction run generalizing post with
  | init => simp at here
  | @step log t t' j fy run h ih =>
    rcases List.append_eq_append_iff.mp here with ⟨as, rfl, tail⟩ | ⟨as, rfl, tail⟩
    · cases as with
      | nil =>
        simp only [List.nil_append, List.cons.injEq, Happening.handled.injEq] at tail
        obtain ⟨⟨rfl, rfl⟩, rfl⟩ := tail
        exact ⟨fy, t', [], by simpa using run, h, by simp, by simp⟩
      | cons a as =>
        -- past the last input the log holds effects only
        simp only [List.cons_append, List.cons.injEq] at tail
        have : Happening.handled source i ∈ fy.map (Happening.emitted (σ := σ) (ι := ι)) := by
          rw [tail.2]; simp
        simp at this
    · cases as with
      | nil =>
        simp only [List.nil_append, List.cons.injEq, Happening.handled.injEq] at tail
        obtain ⟨⟨rfl, rfl⟩, rfl⟩ := tail
        exact ⟨fy, t', [], by simpa using run, h, by simp, by simp⟩
      | cons a as =>
        simp only [List.cons_append, List.cons.injEq] at tail
        obtain ⟨rfl, rfl⟩ := tail
        obtain ⟨fx, s', later, before, answered, rfl, ended⟩ := ih rfl
        refine ⟨fx, s', later ++ .handled t j :: fy.map .emitted, before, answered, by simp, ?_⟩
        intro e rest same
        cases later with
        | nil => simp at same
        | cons b later =>
          simp only [List.cons_append, List.cons.injEq] at same
          exact ended e later (by rw [same.1])

/-- Every effect of a run is one of an answer's. -/
theorem at_emitted (run : Run start next log s) {pre : List (Happening σ ι ε)} {source : σ} {i : ι}
    {fx : List ε} {e : ε} {post : List (Happening σ ι ε)}
    (here : log = pre ++ .handled source i :: (fx.map .emitted ++ .emitted e :: post)) :
    ∃ fy s', Run start next pre source ∧ next source i (fx ++ e :: fy) s' := by
  obtain ⟨fz, s', later, before, answered, same, ended⟩ := run.at_handled here
  rcases List.append_eq_append_iff.mp same with ⟨as, split, tail⟩ | ⟨as, split, tail⟩
  · obtain ⟨fz₁, fz₂, rfl, first, second⟩ := List.map_eq_append_iff.mp split
    have : fz₁ = fx := List.map_injective_iff.mpr (fun _ _ h => by simpa using h) first
    subst this
    cases fz₂ with
    | nil =>
      simp only [List.map_nil] at second
      subst second
      exact absurd tail.symm (ended e post)
    | cons f fz₂ =>
      subst second
      simp only [List.map_cons, List.cons_append, List.cons.injEq, Happening.emitted.injEq] at tail
      obtain ⟨rfl, -⟩ := tail
      exact ⟨fz₂, s', before, answered⟩
  · cases as with
    | nil => exact absurd (by simpa using tail) (ended e post)
    | cons a as =>
      obtain ⟨_, h⟩ : ∃ x, a = Happening.emitted x := by
        have : a ∈ fx.map (Happening.emitted (σ := σ) (ι := ι)) := by rw [split]; simp
        obtain ⟨x, -, rfl⟩ := List.mem_map.mp this
        exact ⟨x, rfl⟩
      subst h
      exact absurd tail (ended _ _)

end Run

end XochiSdk.Library
