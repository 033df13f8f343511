import Mathlib.Data.List.Basic

/-!
# Laws of traces

What must have come before an entry of a trace, and what must have come after it, entry by
entry as the trace grows.
-/

namespace XochiSdk.Library

variable {α : Type} {p : α → Prop} {ok ok' : List α → Prop} {trace : List α}

theorem snoc_split {a b : List α} {x e : α} (same : trace ++ [x] = a ++ e :: b) :
    (a = trace ∧ e = x ∧ b = []) ∨ ∃ b', b = b' ++ [x] ∧ trace = a ++ e :: b' := by
  rcases List.eq_nil_or_concat b with rfl | ⟨b', y, rfl⟩
  · obtain ⟨rfl, last⟩ := List.append_inj' same rfl
    cases last
    exact .inl ⟨rfl, rfl, rfl⟩
  · rw [List.concat_eq_append, ← List.cons_append, ← List.append_assoc] at same
    obtain ⟨rfl, last⟩ := List.append_inj' same rfl
    cases last
    exact .inr ⟨b', List.concat_eq_append, rfl⟩

/-- Every such entry is at a place where what came before it satisfies the condition. -/
def Preceded (p : α → Prop) (ok : List α → Prop) (trace : List α) : Prop :=
  ∀ a e b, trace = a ++ e :: b → p e → ok a

/-- What came after every such entry satisfies the condition. -/
def Followed (p : α → Prop) (ok : List α → Prop) (trace : List α) : Prop :=
  ∀ a e b, trace = a ++ e :: b → p e → ok b

namespace Preceded

theorem nil : Preceded p ok [] := by
  intro a e b same
  simp at same

theorem snoc {x : α} (held : Preceded p ok trace) (last : p x → ok trace) :
    Preceded p ok (trace ++ [x]) := by
  intro a e b same now
  rcases snoc_split same with ⟨rfl, rfl, -⟩ | ⟨b', -, before⟩
  · exact last now
  · exact held a e b' before now

theorem skip {x : α} (held : Preceded p ok trace) (other : ¬p x) : Preceded p ok (trace ++ [x]) :=
  held.snoc fun now => absurd now other

theorem skips {later : List α} (held : Preceded p ok trace) (others : ∀ x ∈ later, ¬p x) :
    Preceded p ok (trace ++ later) := by
  induction later generalizing trace with
  | nil =>
    rw [List.append_nil]
    exact held
  | cons x later ih =>
    rw [List.append_cons]
    exact ih (held.skip (others x List.mem_cons_self)) fun y mem =>
      others y (List.mem_cons_of_mem _ mem)

theorem last {x : α} (held : Preceded p ok (trace ++ [x])) (now : p x) : ok trace :=
  held trace x [] rfl now

theorem early {later : List α} (held : Preceded p ok (trace ++ later)) : Preceded p ok trace := by
  intro a e b same now
  refine held a e (b ++ later) ?_ now
  rw [same, List.append_assoc, List.cons_append]

end Preceded

namespace Followed

theorem nil : Followed p ok [] := by
  intro a e b same
  simp at same

theorem snoc {x : α} (held : Followed p ok trace) (keeps : ∀ b, ok b → ok (b ++ [x]))
    (last : p x → ok []) : Followed p ok (trace ++ [x]) := by
  intro a e b same now
  rcases snoc_split same with ⟨-, rfl, rfl⟩ | ⟨b', rfl, before⟩
  · exact last now
  · exact keeps b' (held a e b' before now)

theorem append {later : List α} (held : Followed p ok trace) (keeps : ∀ b, ok b → ok (b ++ later))
    (after : Followed p ok later) : Followed p ok (trace ++ later) := by
  intro a e b same now
  rcases List.append_eq_append_iff.mp same with ⟨c, rfl, tail⟩ | ⟨c, rfl, tail⟩
  · exact after c e b tail now
  · cases c with
    | nil => exact after [] e b tail.symm now
    | cons x c =>
      obtain ⟨rfl, rfl⟩ := List.cons_eq_cons.mp tail
      exact keeps c (held a e c rfl now)

theorem cons {x : α} (first : p x → ok trace) (rest : Followed p ok trace) :
    Followed p ok (x :: trace) := by
  intro a e b same now
  cases a with
  | nil =>
    obtain ⟨rfl, rfl⟩ := List.cons_eq_cons.mp same
    exact first now
  | cons y a => exact rest a e b (List.cons_eq_cons.mp same).2 now

/-- What comes last serves every entry before it. -/
theorem settled {later : List α} (serves : ∀ e ∈ trace, p e → ∀ b, ok (b ++ later))
    (after : Followed p ok later) : Followed p ok (trace ++ later) := by
  induction trace with
  | nil => exact after
  | cons x trace ih =>
    exact cons (fun now => serves x (by simp) now trace)
      (ih fun e mem => serves e (List.mem_cons_of_mem _ mem))

/-- Nothing follows what is not there. -/
theorem never (h : ∀ e ∈ trace, ¬p e) : Followed p ok trace := by
  intro a e b same now
  exact absurd now (h e (by rw [same]; simp))

theorem imp (held : Followed p ok trace) (weaker : ∀ b, ok b → ok' b) : Followed p ok' trace :=
  fun a e b same now => weaker b (held a e b same now)

end Followed

end XochiSdk.Library
