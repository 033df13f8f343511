import Mathlib.Init

/-!
# Outcomes of fallible steps

What it takes for a sequence of steps, each of which returns or throws, to return.
-/

namespace XochiSdk.Library.Outcome

variable {ε α β : Type}

theorem bind_ok {x : Except ε α} {f : α → Except ε β} {b : β} :
    (x >>= f) = .ok b ↔ ∃ a, x = .ok a ∧ f a = .ok b := by
  cases x <;> simp [bind, Except.bind]

theorem pure_ok {a b : α} : (pure a : Except ε α) = .ok b ↔ a = b := by
  simp [pure, Except.pure]

end XochiSdk.Library.Outcome
