import XochiSdk.Library.Async

/-!
# Finished runs, taken apart

What a run of a piece of code to its end says of the parts the code was put together from.
-/

namespace XochiSdk.Library.Plays

variable {W σ ε Q X α β : Type} {A : Q → Type} {d : Discipline W σ ε Q A X} {i : Nat}
  {sc sc' : Scene W σ ε Q A X}

theorem of_pure {a : α} {r : Except X α} (run : Plays d i (.pure a) sc r sc') :
    r = .ok a ∧ sc' = sc := by
  cases run
  exact ⟨rfl, rfl⟩

theorem of_throw {x : X} {r : Except X α} (run : Plays d i (.throw x) sc r sc') :
    r = .error x ∧ sc' = sc := by
  cases run
  exact ⟨rfl, rfl⟩

/-- The first part ends the whole, or returns what the second starts from. -/
theorem of_bind {p : Async σ ε Q A X α} {f : α → Async σ ε Q A X β} {r : Except X β}
    (run : Plays d i (p.bind f) sc r sc') :
    (∃ a mid, Plays d i p sc (.ok a) mid ∧ Plays d i (f a) mid r sc') ∨
      ∃ x, Plays d i p sc (.error x) sc' ∧ r = .error x := by
  induction p generalizing sc with
  | pure a => exact .inl ⟨a, sc, .pure a sc, run⟩
  | throw x =>
    obtain ⟨rfl, rfl⟩ := of_throw run
    exact .inr ⟨x, .throw x _, rfl⟩
  | stuck => cases run
  | act change next ih =>
    cases run with
    | act run =>
      rcases ih _ run with ⟨a, mid, first, rest⟩ | ⟨x, first, same⟩
      · exact .inl ⟨a, mid, .act first, rest⟩
      · exact .inr ⟨x, .act first, same⟩
  | ask q next ih =>
    cases run with
    | ask relied a ready run =>
      rcases ih _ run with ⟨b, mid, first, rest⟩ | ⟨x, first, same⟩
      · exact .inl ⟨b, mid, .ask relied a ready first, rest⟩
      · exact .inr ⟨x, .ask relied a ready first, same⟩

theorem of_attempt {p : Async σ ε Q A X α} {r : Except X (Except X α)}
    (run : Plays d i p.attempt sc r sc') : ∃ s, r = .ok s ∧ Plays d i p sc s sc' := by
  induction p generalizing sc with
  | pure a =>
    obtain ⟨rfl, rfl⟩ := of_pure run
    exact ⟨_, rfl, .pure a _⟩
  | throw x =>
    obtain ⟨rfl, rfl⟩ := of_pure run
    exact ⟨_, rfl, .throw x _⟩
  | stuck => cases run
  | act change next ih =>
    cases run with
    | act run =>
      obtain ⟨s, same, inner⟩ := ih _ run
      exact ⟨s, same, .act inner⟩
  | ask q next ih =>
    cases run with
    | ask relied a ready run =>
      obtain ⟨s, same, inner⟩ := ih _ run
      exact ⟨s, same, .ask relied a ready inner⟩

theorem of_await {q : Q} {r : Except X (A q)} (run : Plays d i (.await q) sc r sc') :
    ∃ mid, d.rely i sc mid ∧ d.ready mid.world mid.shared q r ∧ sc' = mid.got i q r := by
  cases run with
  | ask relied a ready run =>
    cases a with
    | ok a =>
      obtain ⟨rfl, rfl⟩ := of_pure run
      exact ⟨_, relied, ready, rfl⟩
    | error x =>
      obtain ⟨rfl, rfl⟩ := of_throw run
      exact ⟨_, relied, ready, rfl⟩

theorem of_get {r : Except X σ} (run : Plays d i .get sc r sc') :
    r = .ok sc.shared ∧ sc' = sc := by
  cases run with
  | act run =>
    rw [Scene.did_nothing] at run
    exact of_pure run

theorem of_doing {change : σ → σ} {effects : List ε} {r : Except X Unit}
    (run : Plays d i (.doing change effects) sc r sc') :
    r = .ok () ∧ sc' = sc.did i (change sc.shared, effects) := by
  cases run with
  | act run => exact of_pure run

end XochiSdk.Library.Plays

namespace XochiSdk.Library

variable {W σ ε Q X α β : Type} {A : Q → Type}

/-- Every question the code asks, in any state and on any answers, is one of these. -/
def Async.Asks (p : Q → Prop) : Async σ ε Q A X α → Prop
  | .pure _ | .throw _ | .stuck => True
  | .act _ next => ∀ s, (next s).Asks p
  | .ask q next => p q ∧ ∀ a, (next a).Asks p

namespace Async.Asks

variable {p : Q → Prop}

theorem bind {c : Async σ ε Q A X α} {f : α → Async σ ε Q A X β} (first : c.Asks p)
    (rest : ∀ a, (f a).Asks p) : (c.bind f).Asks p := by
  induction c with
  | pure a => exact rest a
  | throw | stuck => trivial
  | act change next ih => exact fun s => ih s (first s)
  | ask q next ih => exact ⟨first.1, fun a => ih a (first.2 a)⟩

theorem attempt {c : Async σ ε Q A X α} (h : c.Asks p) : c.attempt.Asks p := by
  induction c with
  | pure | throw | stuck => trivial
  | act change next ih => exact fun s => ih s (h s)
  | ask q next ih => exact ⟨h.1, fun a => ih a (h.2 a)⟩

theorem await {q : Q} (h : p q) : (Async.await q : Async σ ε Q A X (A q)).Asks p := by
  refine ⟨h, fun a => ?_⟩
  cases a <;> trivial

end Async.Asks

theorem Grows.mono {own own' : Entry ε Q A X → Prop} {sc sc' : Scene W σ ε Q A X}
    (h : Grows own sc sc') (weaker : ∀ e, own e → own' e) : Grows own' sc sc' := by
  obtain ⟨later, same, all⟩ := h
  exact ⟨later, same, fun e mem => weaker e (all e mem)⟩

/-- The questions of one call, if an entry is one, meet a condition. -/
def Entry.Asking (i : Nat) (p : Q → Prop) (e : Entry ε Q A X) : Prop :=
  ∀ q a, e = .got i q a → p q

theorem Entry.asking_other {i : Nat} {p : Q → Prop} {e : Entry ε Q A X} (other : e.call ≠ i) :
    e.Asking i p := by
  rintro q a rfl
  exact absurd rfl other

theorem Scene.did_asking (sc : Scene W σ ε Q A X) (i : Nat) (p : Q → Prop) (changed : σ × List ε) :
    Grows (Entry.Asking i p) sc (sc.did i changed) := by
  refine ⟨_, rfl, fun e mem => ?_⟩
  obtain ⟨effect, -, rfl⟩ := List.mem_map.mp mem
  nofun

theorem Scene.got_asking (sc : Scene W σ ε Q A X) (i : Nat) {p : Q → Prop} {q : Q}
    (a : Except X (A q)) (h : p q) : Grows (Entry.Asking i p) sc (sc.got i q a) := by
  refine ⟨_, rfl, fun e mem => ?_⟩
  rw [List.mem_singleton.mp mem]
  rintro q' a' same
  cases same
  exact h

/-- The questions of a finished run are among those its code asks. -/
theorem Plays.asks {d : Discipline W σ ε Q A X} {i : Nat} {p : Q → Prop}
    {c : Async σ ε Q A X α} {sc sc' : Scene W σ ε Q A X} {r : Except X α}
    (run : Plays d i c sc r sc') (asks : c.Asks p)
    (others : ∀ sc sc', d.rely i sc sc' → Grows (fun e => e.call ≠ i) sc sc') :
    Grows (Entry.Asking i p) sc sc' := by
  induction run with
  | pure | throw => exact .refl _
  | act _ ih => exact (Scene.did_asking _ i p _).trans (ih (asks _))
  | ask relied a _ _ ih =>
    have meanwhile : Grows (Entry.Asking i p) _ _ :=
      (others _ _ relied).mono fun _ => Entry.asking_other
    exact meanwhile.trans ((Scene.got_asking _ i a asks.1).trans (ih (asks.2 a)))

/-- What code that is at its end has thrown. -/
def Async.thrown? : Async σ ε Q A X α → Option X
  | .throw x => some x
  | _ => none

theorem Async.eq_throw {c : Async σ ε Q A X α} {x : X} (thrown : c.thrown? = some x) :
    c = .throw x := by
  cases c with
  | throw => rw [Option.some.inj thrown]
  | pure | stuck | act | ask => cases thrown

/-- Code under way stays as safe as it was from the start. -/
theorem Reaches.safe {d : Discipline W σ ε Q A X} {i : Nat} {c₀ c : Async σ ε Q A X α}
    {sc₀ sc : Scene W σ ε Q A X} {post : Except X α → Scene W σ ε Q A X → Prop}
    (run : Reaches d i c₀ sc₀ c sc) (safe : Safe d i c₀ post sc₀)
    (admits : ∀ trace, d.admits trace) : Safe d i c post sc := by
  induction run with
  | start => exact safe
  | act _ ih => exact (ih (admits _)).2
  | ask _ relied a ready ih => exact ih _ relied a ready (admits _)

/-- A relation that every change keeps, and everything that happens meanwhile, holds between the
start of a finished run and its end. -/
theorem Plays.related {d : Discipline W σ ε Q A X} {i : Nat} {c : Async σ ε Q A X α}
    {sc sc' : Scene W σ ε Q A X} {r : Except X α}
    {post : Except X α → Scene W σ ε Q A X → Prop} (run : Plays d i c sc r sc')
    (safe : Safe d i c post sc) (rel : Scene W σ ε Q A X → Scene W σ ε Q A X → Prop)
    (admits : ∀ trace, d.admits trace) (refl : ∀ sc, rel sc sc)
    (trans : ∀ sc sc' sc'', rel sc sc' → rel sc' sc'' → rel sc sc'')
    (guar : ∀ sc sc', d.guar i sc sc' → rel sc sc')
    (relied : ∀ sc sc' q a, d.rely i sc sc' → rel sc (sc'.got i q a)) : rel sc sc' := by
  induction run with
  | pure | throw => exact refl _
  | act _ ih => exact trans _ _ _ (guar _ _ (safe (admits _)).1) (ih (safe (admits _)).2)
  | ask rely a ready _ ih =>
    exact trans _ _ _ (relied _ _ _ a rely) (ih (safe _ rely a ready (admits _)))

/-- Every effect of the code, in any state and on any answers, is one of these. -/
def Async.Does (p : ε → Prop) : Async σ ε Q A X α → Prop
  | .pure _ | .throw _ | .stuck => True
  | .act change next => ∀ s, (∀ e ∈ (change s).2, p e) ∧ (next s).Does p
  | .ask _ next => ∀ a, (next a).Does p

namespace Async.Does

variable {p : ε → Prop}

theorem bind {c : Async σ ε Q A X α} {f : α → Async σ ε Q A X β} (first : c.Does p)
    (rest : ∀ a, (f a).Does p) : (c.bind f).Does p := by
  induction c with
  | pure a => exact rest a
  | throw | stuck => trivial
  | act change next ih => exact fun s => ⟨(first s).1, ih s (first s).2⟩
  | ask q next ih => exact fun a => ih a (first a)

theorem await (q : Q) : (Async.await q : Async σ ε Q A X (A q)).Does p := by
  intro a
  cases a <;> trivial

theorem doing {change : σ → σ} {effects : List ε} (h : ∀ e ∈ effects, p e) :
    (Async.doing change effects : Async σ ε Q A X Unit).Does p := fun _ => ⟨h, trivial⟩

theorem get : (Async.get : Async σ ε Q A X σ).Does p := fun _ => ⟨by simp, trivial⟩

end Async.Does

/-- What a call does, if an entry is one, meets a condition. -/
def Entry.Doing (i : Nat) (p : ε → Prop) (e : Entry ε Q A X) : Prop :=
  ∀ effect, e = .did i effect → p effect

theorem Scene.got_doing {p : ε → Prop} (sc : Scene W σ ε Q A X) (i : Nat) (q : Q)
    (a : Except X (A q)) : Grows (Entry.Doing i p) sc (sc.got i q a) := by
  refine ⟨_, rfl, fun e mem => ?_⟩
  rw [List.mem_singleton.mp mem]
  intro effect same
  cases same

/-- The effects of a finished run are among those of its code. -/
theorem Plays.does {d : Discipline W σ ε Q A X} {i : Nat} {p : ε → Prop}
    {c : Async σ ε Q A X α} {sc sc' : Scene W σ ε Q A X} {r : Except X α}
    (run : Plays d i c sc r sc') (does : c.Does p)
    (others : ∀ sc sc', d.rely i sc sc' → Grows (fun e => e.call ≠ i) sc sc') :
    Grows (Entry.Doing i p) sc sc' := by
  induction run with
  | pure | throw => exact .refl _
  | act _ ih =>
    refine Grows.trans ⟨_, rfl, fun e mem => ?_⟩ (ih (does _).2)
    obtain ⟨effect, here, rfl⟩ := List.mem_map.mp mem
    rintro other ⟨⟩
    exact (does _).1 effect here
  | ask relied a _ _ ih =>
    have meanwhile : Grows (Entry.Doing i p) _ _ := (others _ _ relied).mono fun e other => by
      rintro effect rfl
      exact absurd rfl other
    exact meanwhile.trans ((Scene.got_doing _ i _ a).trans (ih (does a)))

/-- What happened before a finished run is still there after it. -/
theorem Plays.grows {d : Discipline W σ ε Q A X} {i : Nat} {c : Async σ ε Q A X α}
    {sc sc' : Scene W σ ε Q A X} {r : Except X α} (run : Plays d i c sc r sc')
    (others : ∀ sc sc', d.rely i sc sc' → Grows (fun _ => True) sc sc') :
    Grows (fun _ => True) sc sc' := by
  induction run with
  | pure | throw => exact .refl _
  | act _ ih => exact ((Scene.did_grows _ _ _).mono fun _ _ => trivial).trans ih
  | ask relied a _ _ ih =>
    exact (others _ _ relied).trans (((Scene.got_grows _ _ _ _).mono fun _ _ => trivial).trans ih)

theorem Plays.bind_ok {d : Discipline W σ ε Q A X} {i : Nat} {c : Async σ ε Q A X α}
    {f : α → Async σ ε Q A X β} {b : β} {sc sc' : Scene W σ ε Q A X}
    (run : Plays d i (c.bind f) sc (.ok b) sc') :
    ∃ a mid, Plays d i c sc (.ok a) mid ∧ Plays d i (f a) mid (.ok b) sc' := by
  rcases Plays.of_bind run with whole | ⟨x, -, other⟩
  · exact whole
  · cases other

end XochiSdk.Library
