import XochiSdk.Library.Emits
import Mathlib.Order.RelClasses

/-!
# Footprints

What a computation may do to a state and emit on the way: a relation its state moves by, and a
kind all its effects are of. Both compose, so a footprint is proved of a handler from its parts.
-/

namespace XochiSdk.Library

variable {σ ε α : Type} {R : σ → σ → Prop} {kind : ε → Prop} {s s' s'' : σ} {fx fy : List ε}

/-- The state moves from `s` to `s'` by `R`, and every effect is of the kind. -/
structure Footprint (R : σ → σ → Prop) (kind : ε → Prop) (s : σ) (fx : List ε) (s' : σ) :
    Prop where
  moves : R s s'
  emits : ∀ e ∈ fx, kind e

namespace Footprint

theorem still (h : R s s') : Footprint R kind s [] s' := ⟨h, by simp⟩

theorem trans [IsTrans σ R] (first : Footprint R kind s fx s')
    (second : Footprint R kind s' fy s'') : Footprint R kind s (fx ++ fy) s'' where
  moves := IsTrans.trans _ _ _ first.moves second.moves
  emits := by
    intro e mem
    rcases List.mem_append.mp mem with h | h
    · exact first.emits e h
    · exact second.emits e h

/-- Effects of the kind, before. -/
theorem after (h : ∀ e ∈ fx, kind e) (rest : Footprint R kind s fy s') :
    Footprint R kind s (fx ++ fy) s' where
  moves := rest.moves
  emits := by
    intro e mem
    exact (List.mem_append.mp mem).elim (h e) (rest.emits e)

/-- From a state moved to without effects. -/
theorem from_ [IsTrans σ R] (h : R s s') (rest : Footprint R kind s' fx s'') :
    Footprint R kind s fx s'' :=
  ⟨IsTrans.trans _ _ _ h rest.moves, rest.emits⟩

end Footprint

/-- The footprint of a computation that ends in a state. -/
def Within (R : σ → σ → Prop) (kind : ε → Prop) (s : σ) (x : Emits ε σ) : Prop :=
  Footprint R kind s x.log x.value

namespace Within

variable {x : Emits ε σ}

theorem pure (h : R s s') : Within R kind s (Pure.pure s') := Footprint.still h

theorem bind [IsTrans σ R] {f : σ → Emits ε σ} (first : Within R kind s x)
    (rest : Within R kind x.value (f x.value)) : Within R kind s (x >>= f) :=
  Footprint.trans first rest

theorem after {y : Emits ε α} {f : α → Emits ε σ} (h : ∀ e ∈ y.log, kind e)
    (rest : Within R kind s (f y.value)) : Within R kind s (y >>= f) :=
  Footprint.after h rest

theorem from_ [IsTrans σ R] (h : R s s') (rest : Within R kind s' x) : Within R kind s x :=
  Footprint.from_ h rest

theorem ite {c : Prop} [Decidable c] {y : Emits ε σ} (yes : c → Within R kind s x)
    (no : ¬c → Within R kind s y) : Within R kind s (if c then x else y) := by
  split
  · exact yes ‹c›
  · exact no ‹¬c›

end Within

end XochiSdk.Library
