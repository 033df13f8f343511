import XochiSdk.Library.Async

/-!
# Scripts

A script tells which call is made, which answer is given and what happens in the world, move by
move. What it leads to is a pool.
-/

namespace XochiSdk.Library

variable {W σ ε Q X C V : Type} {A : Q → Type}

/-- One move of a script. -/
inductive Move (Q : Type) (A : Q → Type) (X C V : Type) : Type where
  | call (c : C)
  | answer (i : Nat) (reply : (q : Q) → Except X (A q))
  | event (v : V)

/-- What has happened, and the calls as they stand. -/
structure Stage (W σ ε Q : Type) (A : Q → Type) (X : Type) where
  scene : Scene W σ ε Q A X
  threads : List (Async σ ε Q A X Unit)

section

variable (code : C → Async σ ε Q A X Unit) (ready : W → σ → (q : Q) → Except X (A q) → Prop)
  (happens : V → W → σ → W × σ) [∀ w s q a, Decidable (ready w s q a)]

/-- A move, where it can be made. -/
def Move.play (stage : Stage W σ ε Q A X) : Move Q A X C V → Option (Stage W σ ε Q A X)
  | .call c =>
    let went := (code c).advance stage.threads.length stage.scene
    some ⟨went.2, stage.threads ++ [went.1]⟩
  | .answer i reply =>
    match stage.threads[i]? with
    | some (.ask q next) =>
      if ready stage.scene.world stage.scene.shared q (reply q) then
        let went := (next (reply q)).advance i (stage.scene.got i q (reply q))
        some ⟨went.2, stage.threads.set i went.1⟩
      else none
    | _ => none
  | .event v =>
    let after := happens v stage.scene.world stage.scene.shared
    some ⟨{ stage.scene with world := after.1, shared := after.2 }, stage.threads⟩

/-- A script, where every move of it can be made. -/
def playAll : List (Move Q A X C V) → Stage W σ ε Q A X → Option (Stage W σ ε Q A X)
  | [], stage => some stage
  | move :: moves, stage => (move.play code ready happens stage).bind (playAll moves)

end

variable {code : C → Async σ ε Q A X Unit} {ready : W → σ → (q : Q) → Except X (A q) → Prop}
  {outside : W → σ → W → σ → Prop} {start : W → σ → Prop} {happens : V → W → σ → W × σ}
  [∀ w s q a, Decidable (ready w s q a)] {stage stage' : Stage W σ ε Q A X}

theorem Move.play_pool {move : Move Q A X C V}
    (can : ∀ v w s, outside w s (happens v w s).1 (happens v w s).2)
    (run : Pool code ready outside start stage.scene stage.threads)
    (h : move.play code ready happens stage = some stage') :
    Pool code ready outside start stage'.scene stage'.threads := by
  cases move with
  | call c =>
    cases h
    exact .call run c
  | answer i reply =>
    simp only [Move.play] at h
    split at h
    · rename_i q next here
      split at h
      · rename_i given
        cases h
        exact .answer run here (reply q) given
      · cases h
    · cases h
  | event v =>
    cases h
    exact .outside run (can v _ _)

/-- A script that can be played leads to a pool. -/
theorem playAll_pool {moves : List (Move Q A X C V)}
    (can : ∀ v w s, outside w s (happens v w s).1 (happens v w s).2)
    (run : Pool code ready outside start stage.scene stage.threads)
    (h : playAll code ready happens moves stage = some stage') :
    Pool code ready outside start stage'.scene stage'.threads := by
  induction moves generalizing stage with
  | nil =>
    cases h
    exact run
  | cons move moves ih =>
    obtain ⟨middle, first, rest⟩ := Option.bind_eq_some_iff.mp h
    exact ih (move.play_pool can run first) rest

end XochiSdk.Library
