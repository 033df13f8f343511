import XochiSdk.Library.Async

/-!
# Answers that end the code

Code that does nothing more and comes to a known result, and code that an answer of some kind
brings there: after such an answer it does nothing anyone could see, whatever catches and
cleanups stand around it.
-/

namespace XochiSdk.Library

variable {W σ ε Q X α β : Type} {A : Q → Type}

namespace Async

/-- The code does nothing visible, asks nothing and comes to `r`. -/
def Settles (r : Except X α) : Async σ ε Q A X α → Prop
  | .pure a => r = .ok a
  | .throw x => r = .error x
  | .stuck => False
  | .act change next => ∀ s, (change s).2 = [] ∧ (next s).Settles r
  | .ask _ _ => False

/-- After an answer that `stops` has an error for, the code only throws that error. -/
def Heeds (stops : (q : Q) → Except X (A q) → Option X) : Async σ ε Q A X α → Prop
  | .act _ next => ∀ s, (next s).Heeds stops
  | .ask q next => ∀ a, (∀ x, stops q a = some x → (next a).Settles (.error x)) ∧
      (next a).Heeds stops
  | _ => True

/-- No answer the code is given stops it. -/
def Unstopped (stops : (q : Q) → Except X (A q) → Option X) : Async σ ε Q A X α → Prop
  | .act _ next => ∀ s, (next s).Unstopped stops
  | .ask q next => ∀ a, stops q a = none ∧ (next a).Unstopped stops
  | _ => True

variable {stops : (q : Q) → Except X (A q) → Option X} {p : Async σ ε Q A X α}

namespace Settles

theorem bind {a : α} {r : Except X β} {f : α → Async σ ε Q A X β} (first : p.Settles (.ok a))
    (rest : (f a).Settles r) : (p.bind f).Settles r := by
  induction p with
  | pure b =>
    cases first
    exact rest
  | throw x => cases first
  | stuck => exact first
  | act change next ih =>
    intro s
    exact ⟨(first s).1, ih s (first s).2⟩
  | ask q next => exact first

theorem bind_throw {x : X} {f : α → Async σ ε Q A X β} (first : p.Settles (.error x)) :
    (p.bind f).Settles (.error x) := by
  induction p with
  | pure a => cases first
  | throw y =>
    cases first
    exact rfl
  | stuck => exact first
  | act change next ih =>
    intro s
    exact ⟨(first s).1, ih s (first s).2⟩
  | ask q next => exact first

theorem attempt {r : Except X α} (settles : p.Settles r) : p.attempt.Settles (.ok r) := by
  induction p with
  | pure a =>
    cases settles
    exact rfl
  | throw x =>
    cases settles
    exact rfl
  | stuck => exact settles
  | act change next ih =>
    intro s
    exact ⟨(settles s).1, ih s (settles s).2⟩
  | ask q next => exact settles

theorem ofExcept (r : Except X α) : (Async.ofExcept r : Async σ ε Q A X α).Settles r := by
  cases r with
  | ok a => exact rfl
  | error x => exact rfl

/-- A cleanup that settles leaves the result. -/
theorem always {r : Except X α} {cleanup : Async σ ε Q A X Unit} (settles : p.Settles r)
    (quiet : cleanup.Settles (.ok ())) : (p.always cleanup).Settles r := by
  apply bind settles.attempt
  exact bind quiet (ofExcept r)

theorem modify (change : σ → σ) :
    (Async.modify change : Async σ ε Q A X Unit).Settles (.ok ()) := by
  intro s
  exact ⟨rfl, rfl⟩

theorem heeds {r : Except X α} (settles : p.Settles r) : p.Heeds stops := by
  induction p with
  | pure | throw | stuck => trivial
  | act change next ih =>
    intro s
    exact ih s (settles s).2
  | ask q next => exact settles.elim

end Settles

theorem Heeds.bind {f : α → Async σ ε Q A X β} (first : p.Heeds stops)
    (rest : ∀ a, (f a).Heeds stops) : (p.bind f).Heeds stops := by
  induction p with
  | pure a => exact rest a
  | throw | stuck => trivial
  | act change next ih =>
    intro s
    exact ih s (first s)
  | ask q next ih =>
    intro a
    refine ⟨?_, ih a (first a).2⟩
    intro x stopped
    exact ((first a).1 x stopped).bind_throw

theorem Heeds.always {cleanup : Async σ ε Q A X Unit} (heeds : p.Heeds stops)
    (quiet : cleanup.Settles (.ok ())) : (p.always cleanup).Heeds stops := by
  induction p with
  | pure a => exact (Settles.always (p := .pure a) rfl quiet).heeds
  | throw x => exact (Settles.always (p := .throw x) rfl quiet).heeds
  | stuck => trivial
  | act change next ih =>
    intro s
    exact ih s (heeds s)
  | ask q next ih =>
    intro a
    refine ⟨?_, ih a (heeds a).2⟩
    intro x stopped
    exact ((heeds a).1 x stopped).always quiet

theorem Unstopped.heeds (unstopped : p.Unstopped stops) : p.Heeds stops := by
  induction p with
  | pure | throw | stuck => trivial
  | act change next ih =>
    intro s
    exact ih s (unstopped s)
  | ask q next ih =>
    intro a
    refine ⟨?_, ih a (unstopped a).2⟩
    intro x stopped
    rw [(unstopped a).1] at stopped
    cases stopped

theorem Unstopped.bind {f : α → Async σ ε Q A X β} (first : p.Unstopped stops)
    (rest : ∀ a, (f a).Unstopped stops) : (p.bind f).Unstopped stops := by
  induction p with
  | pure a => exact rest a
  | throw | stuck => trivial
  | act change next ih =>
    intro s
    exact ih s (first s)
  | ask q next ih =>
    intro a
    exact ⟨(first a).1, ih a (first a).2⟩

theorem Unstopped.attempt (unstopped : p.Unstopped stops) : p.attempt.Unstopped stops := by
  induction p with
  | pure | throw | stuck => trivial
  | act change next ih =>
    intro s
    exact ih s (unstopped s)
  | ask q next ih =>
    intro a
    exact ⟨(unstopped a).1, ih a (unstopped a).2⟩

theorem Unstopped.orElse {handler : X → Async σ ε Q A X α} (unstopped : p.Unstopped stops)
    (caught : ∀ x, (handler x).Unstopped stops) : (p.orElse handler).Unstopped stops := by
  apply Unstopped.bind unstopped.attempt
  intro r
  cases r with
  | ok a => trivial
  | error x => exact caught x

theorem Unstopped.await {q : Q} (none : ∀ a, stops q a = none) :
    (Async.await q : Async σ ε Q A X (A q)).Unstopped stops := by
  intro a
  refine ⟨none a, ?_⟩
  cases a with
  | ok | error => trivial

end Async

variable {d : Discipline W σ ε Q A X} {i : Nat} {p₀ p : Async σ ε Q A X α}
  {sc₀ sc : Scene W σ ε Q A X} {stops : (q : Q) → Except X (A q) → Option X}

/-- In a run of code that heeds an answer, where what it relies on gives it none, such an answer
is the last entry of the trace, and the rest of the run throws its error. -/
theorem Reaches.heeds (run : Reaches d i p₀ sc₀ p sc) (heeds : p₀.Heeds stops)
    (relied : ∀ sc sc', d.rely i sc sc' →
      ∃ later, sc'.trace = sc.trace ++ later ∧ ∀ e ∈ later, e.call ≠ i)
    (fresh : ∀ e ∈ sc₀.trace, e.call ≠ i) :
    p.Heeds stops ∧ ∀ q a x, .got i q a ∈ sc.trace → stops q a = some x →
      p.Settles (.error x) ∧ ∃ before, sc.trace = before ++ [.got i q a] := by
  induction run with
  | start =>
    refine ⟨heeds, ?_⟩
    intro q a x mem _
    exact absurd rfl (fresh _ mem)
  | @act change next sc run ih =>
    obtain ⟨heeds, last⟩ := ih
    refine ⟨heeds sc.shared, ?_⟩
    intro q a x mem stopped
    have early : .got i q a ∈ sc.trace := by
      rcases List.mem_append.mp mem with mem | mem
      · exact mem
      · obtain ⟨effect, -, same⟩ := List.mem_map.mp mem
        cases same
    obtain ⟨settles, before, same⟩ := last q a x early stopped
    obtain ⟨quiet, settles⟩ := settles sc.shared
    refine ⟨settles, before, ?_⟩
    rw [Scene.did_trace, quiet, same]
    simp
  | @ask q next sc sc' run rely a ready ih =>
    obtain ⟨heeds, last⟩ := ih
    refine ⟨(heeds a).2, ?_⟩
    intro q' a' x mem stopped
    rcases List.mem_append.mp mem with mem | mem
    · obtain ⟨later, same, others⟩ := relied sc sc' rely
      rw [same] at mem
      rcases List.mem_append.mp mem with mem | mem
      · exact (last q' a' x mem stopped).1.elim
      · exact absurd rfl (others _ mem)
    · cases List.mem_singleton.mp mem
      exact ⟨(heeds a).1 x stopped, sc'.trace, rfl⟩

/-- Code that only settles leaves the trace as it was. -/
theorem Reaches.settles {r : Except X α} (run : Reaches d i p₀ sc₀ p sc)
    (settles : p₀.Settles r) : p.Settles r ∧ sc.trace = sc₀.trace := by
  induction run with
  | start => exact ⟨settles, rfl⟩
  | @act change next sc run ih =>
    obtain ⟨settles, same⟩ := ih
    obtain ⟨quiet, settles⟩ := settles sc.shared
    refine ⟨settles, ?_⟩
    rw [Scene.did_trace, quiet, same]
    simp
  | ask run _ _ _ ih => exact ih.1.elim

end XochiSdk.Library
