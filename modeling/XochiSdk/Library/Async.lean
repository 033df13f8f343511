import Mathlib.Data.List.Basic

/-!
# Asynchronous code over shared state

Calls that share one state and run one at a time: each runs until it awaits an answer from
outside, and any other call may run before the answer comes. Code is a tree of the changes it
makes and the questions it awaits. `Safe` is its specification, relied on and guaranteed at
every change; `Pool` is every interleaving of any number of calls, and `Pool.sound` carries an
invariant that the calls guarantee over all of them.
-/

namespace XochiSdk.Library

variable {W σ ε Q X α β : Type} {A : Q → Type}

/-- Code: it returns, throws, changes the shared state (which it sees as it was before), or
awaits an answer. `stuck` is a loop pass that nobody ran. -/
inductive Async (σ ε Q : Type) (A : Q → Type) (X α : Type) : Type where
  | pure (a : α)
  | throw (x : X)
  | stuck
  | act (change : σ → σ × List ε) (next : σ → Async σ ε Q A X α)
  | ask (q : Q) (next : Except X (A q) → Async σ ε Q A X α)

namespace Async

def bind : Async σ ε Q A X α → (α → Async σ ε Q A X β) → Async σ ε Q A X β
  | .pure a, f => f a
  | .throw x, _ => .throw x
  | .stuck, _ => .stuck
  | .act change next, f => .act change fun s => (next s).bind f
  | .ask q next, f => .ask q fun a => (next a).bind f

instance : Monad (Async σ ε Q A X) where
  pure := .pure
  bind := bind

/-- What the code comes to, thrown or returned. -/
def attempt : Async σ ε Q A X α → Async σ ε Q A X (Except X α)
  | .pure a => .pure (.ok a)
  | .throw x => .pure (.error x)
  | .stuck => .stuck
  | .act change next => .act change fun s => (next s).attempt
  | .ask q next => .ask q fun a => (next a).attempt

/-- `return` or `throw`. -/
def ofExcept : Except X α → Async σ ε Q A X α
  | .ok a => .pure a
  | .error x => .throw x

/-- `try … catch`. -/
def orElse (p : Async σ ε Q A X α) (handler : X → Async σ ε Q A X α) : Async σ ε Q A X α :=
  p.attempt.bind fun
    | .ok a => .pure a
    | .error x => handler x

/-- `try … finally`. -/
def always (p : Async σ ε Q A X α) (cleanup : Async σ ε Q A X Unit) : Async σ ε Q A X α :=
  p.attempt.bind fun r => cleanup.bind fun _ => ofExcept r

/-- `await`. -/
def await (q : Q) : Async σ ε Q A X (A q) := .ask q ofExcept

/-- The shared state as it is now. -/
def get : Async σ ε Q A X σ := .act (fun s => (s, [])) .pure

/-- A change of the shared state that does something visible. -/
def doing (change : σ → σ) (effects : List ε) : Async σ ε Q A X Unit :=
  .act (fun s => (change s, effects)) fun _ => .pure ()

def modify (change : σ → σ) : Async σ ε Q A X Unit := doing change []

end Async

/-- One entry of a trace: what a call did, or the answer it was given. -/
inductive Entry (ε Q : Type) (A : Q → Type) (X : Type) where
  | did (call : Nat) (effect : ε)
  | got (call : Nat) (q : Q) (a : Except X (A q))

/-- The call an entry is of. -/
def Entry.call : Entry ε Q A X → Nat
  | .did call _ | .got call _ _ => call

/-- What has happened so far, the world outside and the shared state. -/
structure Scene (W σ ε Q : Type) (A : Q → Type) (X : Type) where
  trace : List (Entry ε Q A X)
  world : W
  shared : σ

namespace Scene

/-- After a change by a call. -/
def did (sc : Scene W σ ε Q A X) (call : Nat) (changed : σ × List ε) : Scene W σ ε Q A X :=
  { sc with trace := sc.trace ++ changed.2.map (.did call), shared := changed.1 }

/-- After a call was given an answer. -/
def got (sc : Scene W σ ε Q A X) (call : Nat) (q : Q) (a : Except X (A q)) :
    Scene W σ ε Q A X :=
  { sc with trace := sc.trace ++ [.got call q a] }

@[simp] theorem did_shared (sc : Scene W σ ε Q A X) (call : Nat) (changed : σ × List ε) :
    (sc.did call changed).shared = changed.1 := rfl

@[simp] theorem did_world (sc : Scene W σ ε Q A X) (call : Nat) (changed : σ × List ε) :
    (sc.did call changed).world = sc.world := rfl

@[simp] theorem did_trace (sc : Scene W σ ε Q A X) (call : Nat) (changed : σ × List ε) :
    (sc.did call changed).trace = sc.trace ++ changed.2.map (.did call) := rfl

@[simp] theorem did_nothing (sc : Scene W σ ε Q A X) (call : Nat) :
    sc.did call (sc.shared, []) = sc := by
  simp [did]

@[simp] theorem got_shared (sc : Scene W σ ε Q A X) (call : Nat) (q : Q) (a : Except X (A q)) :
    (sc.got call q a).shared = sc.shared := rfl

@[simp] theorem got_world (sc : Scene W σ ε Q A X) (call : Nat) (q : Q) (a : Except X (A q)) :
    (sc.got call q a).world = sc.world := rfl

@[simp] theorem got_trace (sc : Scene W σ ε Q A X) (call : Nat) (q : Q) (a : Except X (A q)) :
    (sc.got call q a).trace = sc.trace ++ [.got call q a] := rfl

end Scene

/-- What calls rely on and guarantee, each known by its place among all calls: what may happen
while it waits, what each of its own changes meets, which answers the world can give, and the
condition that traces are looked at under. -/
structure Discipline (W σ ε Q : Type) (A : Q → Type) (X : Type) where
  rely : Nat → Scene W σ ε Q A X → Scene W σ ε Q A X → Prop
  guar : Nat → Scene W σ ε Q A X → Scene W σ ε Q A X → Prop
  ready : W → σ → (q : Q) → Except X (A q) → Prop
  admits : List (Entry ε Q A X) → Prop

/-- As call `i` the code meets its guarantee at every change, and its postcondition when it
ends. -/
def Safe (d : Discipline W σ ε Q A X) (i : Nat) :
    Async σ ε Q A X α → (Except X α → Scene W σ ε Q A X → Prop) → Scene W σ ε Q A X → Prop
  | .pure a, post, sc => post (.ok a) sc
  | .throw x, post, sc => post (.error x) sc
  | .stuck, _, _ => True
  | .act change next, post, sc =>
    d.admits (sc.did i (change sc.shared)).trace →
      d.guar i sc (sc.did i (change sc.shared)) ∧
        Safe d i (next sc.shared) post (sc.did i (change sc.shared))
  | .ask q next, post, sc =>
    ∀ sc', d.rely i sc sc' → ∀ a, d.ready sc'.world sc'.shared q a →
      d.admits (sc'.got i q a).trace → Safe d i (next a) post (sc'.got i q a)

namespace Safe

variable {d : Discipline W σ ε Q A X} {i : Nat} {sc : Scene W σ ε Q A X}

theorem mono {p : Async σ ε Q A X α} {post post' : Except X α → Scene W σ ε Q A X → Prop}
    (h : Safe d i p post sc) (weaker : ∀ r sc, post r sc → post' r sc) : Safe d i p post' sc := by
  induction p generalizing sc with
  | pure a => exact weaker _ _ h
  | throw x => exact weaker _ _ h
  | stuck => trivial
  | act change next ih => exact fun admitted => ⟨(h admitted).1, ih _ (h admitted).2⟩
  | ask q next ih => exact fun sc' relied a ready admitted => ih _ (h sc' relied a ready admitted)

/-- Code in sequence: the second part starts where the first one returns. -/
theorem bind {p : Async σ ε Q A X α} {f : α → Async σ ε Q A X β}
    {post : Except X β → Scene W σ ε Q A X → Prop}
    (h : Safe d i p (fun r sc => match r with
      | .ok a => Safe d i (f a) post sc
      | .error x => post (.error x) sc) sc) : Safe d i (p.bind f) post sc := by
  induction p generalizing sc with
  | pure a => exact h
  | throw x => exact h
  | stuck => trivial
  | act change next ih => exact fun admitted => ⟨(h admitted).1, ih _ (h admitted).2⟩
  | ask q next ih => exact fun sc' relied a ready admitted => ih _ (h sc' relied a ready admitted)

theorem attempt {p : Async σ ε Q A X α}
    {post : Except X (Except X α) → Scene W σ ε Q A X → Prop}
    (h : Safe d i p (fun r => post (.ok r)) sc) : Safe d i p.attempt post sc := by
  induction p generalizing sc with
  | pure a => exact h
  | throw x => exact h
  | stuck => trivial
  | act change next ih => exact fun admitted => ⟨(h admitted).1, ih _ (h admitted).2⟩
  | ask q next ih => exact fun sc' relied a ready admitted => ih _ (h sc' relied a ready admitted)

theorem ofExcept {r : Except X α} {post : Except X α → Scene W σ ε Q A X → Prop}
    (h : post r sc) : Safe d i (.ofExcept r) post sc := by
  cases r <;> exact h

theorem orElse {p : Async σ ε Q A X α} {handler : X → Async σ ε Q A X α}
    {post : Except X α → Scene W σ ε Q A X → Prop}
    (h : Safe d i p (fun r sc => match r with
      | .ok a => post (.ok a) sc
      | .error x => Safe d i (handler x) post sc) sc) : Safe d i (p.orElse handler) post sc := by
  refine .bind (.attempt (h.mono ?_))
  intro r sc held
  cases r <;> exact held

theorem always {p : Async σ ε Q A X α} {cleanup : Async σ ε Q A X Unit}
    {post : Except X α → Scene W σ ε Q A X → Prop}
    (h : Safe d i p (fun r => Safe d i cleanup fun c sc => match c with
      | .ok _ => post r sc
      | .error x => post (.error x) sc) sc) : Safe d i (p.always cleanup) post sc := by
  refine .bind (.attempt (h.mono ?_))
  intro r sc held
  refine .bind (held.mono ?_)
  intro c sc held
  cases c with
  | ok _ => exact ofExcept held
  | error x => exact held

theorem await {q : Q} {post : Except X (A q) → Scene W σ ε Q A X → Prop}
    (h : ∀ sc', d.rely i sc sc' → ∀ a, d.ready sc'.world sc'.shared q a →
      d.admits (sc'.got i q a).trace → post a (sc'.got i q a)) :
    Safe d i (.await q) post sc :=
  fun sc' relied a ready admitted => ofExcept (h sc' relied a ready admitted)

theorem get {post : Except X σ → Scene W σ ε Q A X → Prop}
    (guar : d.guar i sc (sc.did i (sc.shared, [])))
    (h : post (.ok sc.shared) (sc.did i (sc.shared, []))) : Safe d i .get post sc :=
  fun _ => ⟨guar, h⟩

theorem doing {change : σ → σ} {effects : List ε} {post : Except X Unit → Scene W σ ε Q A X → Prop}
    (h : d.admits (sc.did i (change sc.shared, effects)).trace →
      d.guar i sc (sc.did i (change sc.shared, effects)) ∧
        post (.ok ()) (sc.did i (change sc.shared, effects))) :
    Safe d i (.doing change effects) post sc := h

end Safe

/-- The code run up to its next question, or to its end. -/
def Async.advance (i : Nat) :
    Async σ ε Q A X α → Scene W σ ε Q A X → Async σ ε Q A X α × Scene W σ ε Q A X
  | .act change next, sc => (next sc.shared).advance i (sc.did i (change sc.shared))
  | p, sc => (p, sc)

/-- One piece of code, run to its end, whatever it relies on happening while it waits. -/
inductive Plays (d : Discipline W σ ε Q A X) (i : Nat) :
    Async σ ε Q A X α → Scene W σ ε Q A X → Except X α → Scene W σ ε Q A X → Prop where
  | pure (a : α) (sc : Scene W σ ε Q A X) : Plays d i (.pure a) sc (.ok a) sc
  | throw (x : X) (sc : Scene W σ ε Q A X) : Plays d i (.throw x) sc (.error x) sc
  | act {change : σ → σ × List ε} {next : σ → Async σ ε Q A X α} {sc sc' : Scene W σ ε Q A X}
      {r : Except X α} (run : Plays d i (next sc.shared) (sc.did i (change sc.shared)) r sc') :
      Plays d i (.act change next) sc r sc'
  | ask {q : Q} {next : Except X (A q) → Async σ ε Q A X α} {sc sc' sc'' : Scene W σ ε Q A X}
      {r : Except X α} (relied : d.rely i sc sc') (a : Except X (A q))
      (ready : d.ready sc'.world sc'.shared q a)
      (run : Plays d i (next a) (sc'.got i q a) r sc'') : Plays d i (.ask q next) sc r sc''

theorem Plays.post {d : Discipline W σ ε Q A X} {i : Nat} {p : Async σ ε Q A X α}
    {post : Except X α → Scene W σ ε Q A X → Prop} {sc sc' : Scene W σ ε Q A X} {r : Except X α}
    (run : Plays d i p sc r sc') (admits : ∀ trace, d.admits trace) (safe : Safe d i p post sc) :
    post r sc' := by
  induction run with
  | pure | throw => exact safe
  | act _ ih => exact ih (safe (admits _)).2
  | ask relied a ready _ ih => exact ih (safe _ relied a ready (admits _))

/-- One piece of code under way, whatever it relies on happening while it waits. -/
inductive Reaches (d : Discipline W σ ε Q A X) (i : Nat) (p₀ : Async σ ε Q A X α)
    (sc₀ : Scene W σ ε Q A X) : Async σ ε Q A X α → Scene W σ ε Q A X → Prop where
  | start : Reaches d i p₀ sc₀ p₀ sc₀
  | act {change : σ → σ × List ε} {next : σ → Async σ ε Q A X α} {sc : Scene W σ ε Q A X}
      (run : Reaches d i p₀ sc₀ (.act change next) sc) :
      Reaches d i p₀ sc₀ (next sc.shared) (sc.did i (change sc.shared))
  | ask {q : Q} {next : Except X (A q) → Async σ ε Q A X α} {sc sc' : Scene W σ ε Q A X}
      (run : Reaches d i p₀ sc₀ (.ask q next) sc) (relied : d.rely i sc sc') (a : Except X (A q))
      (ready : d.ready sc'.world sc'.shared q a) :
      Reaches d i p₀ sc₀ (next a) (sc'.got i q a)

/-- An invariant that the code guarantees, and that what it relies on and the answers it is
given keep, holds at every point of its run. -/
theorem Reaches.sound {d : Discipline W σ ε Q A X} {i : Nat} {p₀ p : Async σ ε Q A X α}
    {sc₀ sc : Scene W σ ε Q A X} (run : Reaches d i p₀ sc₀ p sc)
    (inv : Scene W σ ε Q A X → Prop) (start : inv sc₀) (safe : Safe d i p₀ (fun _ _ => True) sc₀)
    (kept : ∀ sc sc', inv sc → d.guar i sc sc' → inv sc')
    (answered : ∀ sc sc' q a, inv sc → d.rely i sc sc' → inv (sc'.got i q a))
    (early : ∀ trace later, d.admits (trace ++ later) → d.admits trace)
    (relied : ∀ sc sc', d.rely i sc sc' → ∃ later, sc'.trace = sc.trace ++ later)
    (admits : d.admits sc.trace) : inv sc ∧ Safe d i p (fun _ _ => True) sc := by
  induction run with
  | start => exact ⟨start, safe⟩
  | act run ih =>
    obtain ⟨held, rest⟩ := ih (early _ _ admits)
    obtain ⟨guar, rest⟩ := rest admits
    exact ⟨kept _ _ held guar, rest⟩
  | @ask q next sc sc' run rely a ready ih =>
    obtain ⟨later, same⟩ := relied sc sc' rely
    have admits' : d.admits sc'.trace := early _ _ admits
    rw [same] at admits'
    obtain ⟨held, rest⟩ := ih (early _ _ admits')
    exact ⟨answered _ _ _ _ held rely, rest sc' rely a ready admits⟩

/-- The code run for so many steps in an environment that tells what happens while it waits and
what each question is answered. -/
def Async.drive (i : Nat)
    (env : Scene W σ ε Q A X → Scene W σ ε Q A X × ((q : Q) → Except X (A q))) :
    Nat → Async σ ε Q A X α → Scene W σ ε Q A X → Async σ ε Q A X α × Scene W σ ε Q A X
  | n + 1, .act change next, sc => (next sc.shared).drive i env n (sc.did i (change sc.shared))
  | n + 1, .ask q next, sc => (next ((env sc).2 q)).drive i env n ((env sc).1.got i q ((env sc).2 q))
  | _, p, sc => (p, sc)

theorem Reaches.drive {d : Discipline W σ ε Q A X} {i : Nat} {p₀ p : Async σ ε Q A X α}
    {sc₀ sc : Scene W σ ε Q A X}
    {env : Scene W σ ε Q A X → Scene W σ ε Q A X × ((q : Q) → Except X (A q))} (n : Nat)
    (relied : ∀ sc, d.rely i sc (env sc).1)
    (ready : ∀ sc q, d.ready (env sc).1.world (env sc).1.shared q ((env sc).2 q))
    (run : Reaches d i p₀ sc₀ p sc) :
    Reaches d i p₀ sc₀ (p.drive i env n sc).1 (p.drive i env n sc).2 := by
  induction n generalizing p sc with
  | zero => exact run
  | succ n ih =>
    cases p with
    | pure | throw | stuck => exact run
    | act change next => exact ih run.act
    | ask q next => exact ih (run.ask (relied sc) _ (ready sc q))

/-- Every interleaving of calls: one is made, one is given an answer, or the world moves on. -/
inductive Pool {C : Type} (code : C → Async σ ε Q A X Unit)
    (ready : W → σ → (q : Q) → Except X (A q) → Prop)
    (outside : W → σ → W → σ → Prop) (start : W → σ → Prop) :
    Scene W σ ε Q A X → List (Async σ ε Q A X Unit) → Prop where
  | init {w : W} {s : σ} (h : start w s) : Pool code ready outside start ⟨[], w, s⟩ []
  | call {sc : Scene W σ ε Q A X} {threads : List (Async σ ε Q A X Unit)}
      (run : Pool code ready outside start sc threads) (c : C) :
      Pool code ready outside start ((code c).advance threads.length sc).2
        (threads ++ [((code c).advance threads.length sc).1])
  | answer {sc : Scene W σ ε Q A X} {threads : List (Async σ ε Q A X Unit)} {i : Nat} {q : Q}
      {next : Except X (A q) → Async σ ε Q A X Unit}
      (run : Pool code ready outside start sc threads) (here : threads[i]? = some (.ask q next))
      (a : Except X (A q)) (h : ready sc.world sc.shared q a) :
      Pool code ready outside start ((next a).advance i (sc.got i q a)).2
        (threads.set i ((next a).advance i (sc.got i q a)).1)
  | outside {sc : Scene W σ ε Q A X} {threads : List (Async σ ε Q A X Unit)} {w : W} {s : σ}
      (run : Pool code ready outside start sc threads) (h : outside sc.world sc.shared w s) :
      Pool code ready outside start { sc with world := w, shared := s } threads

/-- The rules of a discipline that carry an invariant: it starts, every guaranteed change and
every move of the world keeps it and is what the other calls rely on, and what one relies on
may happen in any number of steps. -/
structure Discipline.Upholds (d : Discipline W σ ε Q A X) (outside : W → σ → W → σ → Prop)
    (start : W → σ → Prop) (inv : Scene W σ ε Q A X → Prop) : Prop where
  init : ∀ w s, start w s → inv ⟨[], w, s⟩
  kept : ∀ i sc sc', inv sc → d.guar i sc sc' → inv sc'
  relied : ∀ i j sc sc', i ≠ j → inv sc → d.guar i sc sc' → d.rely j sc sc'
  moved : ∀ sc w s, inv sc → outside sc.world sc.shared w s →
    inv { sc with world := w, shared := s }
  seen : ∀ j sc w s, inv sc → outside sc.world sc.shared w s →
    d.rely j sc { sc with world := w, shared := s }
  refl : ∀ i sc, inv sc → d.rely i sc sc
  trans : ∀ i sc sc' sc'', d.rely i sc sc' → d.rely i sc' sc'' → d.rely i sc sc''
  answered : ∀ i sc q a, inv sc → d.ready sc.world sc.shared q a → d.admits (sc.got i q a).trace →
    d.guar i sc (sc.got i q a)
  admits : ∀ trace later, d.admits (trace ++ later) → d.admits trace

namespace Pool

variable {C : Type} {code : C → Async σ ε Q A X Unit}
  {outside : W → σ → W → σ → Prop} {start : W → σ → Prop} {d : Discipline W σ ε Q A X}
  {inv : Scene W σ ε Q A X → Prop} {sc : Scene W σ ε Q A X}

theorem advance_trace (i : Nat) (p : Async σ ε Q A X α) (sc : Scene W σ ε Q A X) :
    ∃ later, (p.advance i sc).2.trace = sc.trace ++ later ∧ ∀ e ∈ later, e.call = i := by
  induction p generalizing sc with
  | pure | throw | stuck | ask => exact ⟨[], by simp [Async.advance], by simp⟩
  | act change next ih =>
    obtain ⟨later, same, own⟩ := ih sc.shared (sc.did i (change sc.shared))
    refine ⟨(change sc.shared).2.map (.did i) ++ later, ?_, ?_⟩
    · simp only [Async.advance, same, Scene.did_trace, List.append_assoc]
    · intro e mem
      rcases List.mem_append.mp mem with mem | mem
      · obtain ⟨effect, -, rfl⟩ := List.mem_map.mp mem
        rfl
      · exact own e mem

/-- Code at rest: it awaits an answer, or has ended. -/
def Resting : Async σ ε Q A X α → Prop
  | .act .. => False
  | _ => True

theorem resting_advance (i : Nat) (p : Async σ ε Q A X α) (sc : Scene W σ ε Q A X) :
    Resting (p.advance i sc).1 := by
  induction p generalizing sc with
  | pure | throw | stuck | ask => trivial
  | act change next ih => exact ih _ _

/-- Code at rest stays safe while what it relies on happens. -/
theorem Resting.safe {i : Nat} {p : Async σ ε Q A X Unit} (rest : Resting p)
    (trans : ∀ sc sc' sc'', d.rely i sc sc' → d.rely i sc' sc'' → d.rely i sc sc'')
    {sc sc' : Scene W σ ε Q A X} (relied : d.rely i sc sc')
    (safe : Safe d i p (fun _ _ => True) sc) : Safe d i p (fun _ _ => True) sc' := by
  cases p with
  | pure | throw | stuck => trivial
  | act => exact rest.elim
  | ask q next => exact fun sc'' later => safe sc'' (trans _ _ _ relied later)

/-- A stretch of safe code keeps the invariant, and is what the others rely on. -/
theorem advance_safe (u : d.Upholds outside start inv) (i : Nat) (p : Async σ ε Q A X Unit)
    {sc : Scene W σ ε Q A X} (held : inv sc) (safe : Safe d i p (fun _ _ => True) sc)
    (admits : d.admits (p.advance i sc).2.trace) :
    inv (p.advance i sc).2 ∧ Safe d i (p.advance i sc).1 (fun _ _ => True) (p.advance i sc).2 ∧
      ∀ j, i ≠ j → d.rely j sc (p.advance i sc).2 := by
  induction p generalizing sc with
  | pure | throw | stuck | ask => exact ⟨held, safe, fun j _ => u.refl j sc held⟩
  | act change next ih =>
    have early : d.admits (sc.did i (change sc.shared)).trace := by
      obtain ⟨later, same, -⟩ := advance_trace i (next sc.shared) (sc.did i (change sc.shared))
      refine u.admits _ later ?_
      rw [← same]
      exact admits
    obtain ⟨guar, rest⟩ := safe early
    obtain ⟨held', safe', others⟩ := ih sc.shared (u.kept i _ _ held guar) rest admits
    exact ⟨held', safe', fun j other =>
      u.trans j _ _ _ (u.relied i j _ _ other held guar) (others j other)⟩

/-- An invariant that every call guarantees holds in every interleaving of any calls. -/
theorem sound (u : d.Upholds outside start inv)
    (safe : ∀ c i sc, inv sc → (∀ e ∈ sc.trace, e.call ≠ i) →
      Safe d i (code c) (fun _ _ => True) sc)
    {threads : List (Async σ ε Q A X Unit)}
    (run : Pool code d.ready outside start sc threads) (admits : d.admits sc.trace) : inv sc := by
  suffices whole : inv sc ∧ (∀ e ∈ sc.trace, e.call < threads.length) ∧
      ∀ (i : Nat) (p : Async σ ε Q A X Unit), threads[i]? = some p →
        Resting p ∧ Safe d i p (fun _ _ => True) sc from whole.1
  induction run with
  | init h => exact ⟨u.init _ _ h, by simp, by simp⟩
  | @call sc threads run c ih =>
    obtain ⟨later, same, own⟩ := advance_trace threads.length (code c) sc
    obtain ⟨held, old, each⟩ := ih (u.admits _ later (by rw [← same]; exact admits))
    have fresh : ∀ e ∈ sc.trace, e.call ≠ threads.length := fun e mem => Nat.ne_of_lt (old e mem)
    obtain ⟨held', safe', others⟩ := advance_safe u _ _ held (safe c _ sc held fresh) admits
    refine ⟨held', ?_, ?_⟩
    · intro e mem
      rw [same] at mem
      rw [List.length_append, List.length_singleton]
      rcases List.mem_append.mp mem with mem | mem
      · exact Nat.lt_trans (old e mem) (Nat.lt_succ_self _)
      · rw [own e mem]
        exact Nat.lt_succ_self _
    · intro i p here
      rcases Nat.lt_trichotomy i threads.length with lt | rfl | gt
      · rw [List.getElem?_append_left lt] at here
        obtain ⟨rest, before⟩ := each i p here
        exact ⟨rest, rest.safe (u.trans i) (others i (Nat.ne_of_gt lt)) before⟩
      · rw [List.getElem?_concat_length, Option.some.injEq] at here
        subst here
        exact ⟨resting_advance _ _ _, safe'⟩
      · rw [List.getElem?_eq_none (by rw [List.length_append, List.length_singleton]; omega)] at here
        cases here
  | @answer sc threads i q next run here a ready ih =>
    obtain ⟨later, same, own⟩ := advance_trace i (next a) (sc.got i q a)
    have early : d.admits (sc.got i q a).trace := u.admits _ later (by rw [← same]; exact admits)
    obtain ⟨held, old, each⟩ := ih (u.admits _ _ early)
    have bound : i < threads.length := (List.getElem?_eq_some_iff.mp here).1
    have woken := (each i _ here).2 sc (u.refl i sc held) a ready early
    have guar := u.answered i sc q a held ready early
    have gotten : inv (sc.got i q a) := u.kept i _ _ held guar
    obtain ⟨held', safe', others⟩ := advance_safe u i (next a) gotten woken admits
    refine ⟨held', ?_, ?_⟩
    · intro e mem
      rw [same] at mem
      rw [List.length_set]
      rcases List.mem_append.mp mem with mem | mem
      · rw [Scene.got_trace] at mem
        rcases List.mem_append.mp mem with mem | mem
        · exact old e mem
        · rw [List.mem_singleton.mp mem]
          exact bound
      · rw [own e mem]
        exact bound
    · intro j p at_j
      by_cases other : i = j
      · subst other
        rw [List.getElem?_set_self bound, Option.some.injEq] at at_j
        subst at_j
        exact ⟨resting_advance _ _ _, safe'⟩
      · rw [List.getElem?_set_ne other] at at_j
        obtain ⟨rest, before⟩ := each j p at_j
        exact ⟨rest, rest.safe (u.trans j)
          (u.trans j _ _ _ (u.relied i j _ _ other held guar) (others j other)) before⟩
  | @outside sc threads w s run h ih =>
    obtain ⟨held, old, each⟩ := ih admits
    refine ⟨u.moved sc w s held h, old, fun i p here => ?_⟩
    obtain ⟨rest, before⟩ := each i p here
    exact ⟨rest, rest.safe (u.trans i) (u.seen i sc w s held h) before⟩

end Pool

/-! ## Code kept by one invariant -/

/-- The entries of a later scene past those of an earlier one. -/
def Grows (own : Entry ε Q A X → Prop) (sc sc' : Scene W σ ε Q A X) : Prop :=
  ∃ later, sc'.trace = sc.trace ++ later ∧ ∀ e ∈ later, own e

namespace Grows

variable {own : Entry ε Q A X → Prop} {sc sc' sc'' : Scene W σ ε Q A X}

theorem refl (sc : Scene W σ ε Q A X) : Grows own sc sc := ⟨[], by simp, by simp⟩

theorem trans (h : Grows own sc sc') (h' : Grows own sc' sc'') : Grows own sc sc'' := by
  obtain ⟨later, same, all⟩ := h
  obtain ⟨later', same', all'⟩ := h'
  refine ⟨later ++ later', by rw [same', same, List.append_assoc], ?_⟩
  intro e mem
  rcases List.mem_append.mp mem with mem | mem
  · exact all e mem
  · exact all' e mem

theorem mem {e : Entry ε Q A X} (h : Grows own sc sc') (old : e ∈ sc.trace) : e ∈ sc'.trace := by
  obtain ⟨later, same, -⟩ := h
  rw [same]
  exact List.mem_append_left _ old

/-- An entry that none of the later ones is was there before. -/
theorem mem_before {e : Entry ε Q A X} (h : Grows own sc sc') (new : e ∈ sc'.trace)
    (other : ¬own e) : e ∈ sc.trace := by
  obtain ⟨later, same, all⟩ := h
  rw [same] at new
  rcases List.mem_append.mp new with old | late
  · exact old
  · exact absurd (all e late) other

end Grows

theorem Scene.did_grows (sc : Scene W σ ε Q A X) (i : Nat) (changed : σ × List ε) :
    Grows (fun e => e.call = i) sc (sc.did i changed) := by
  refine ⟨changed.2.map (.did i), rfl, ?_⟩
  intro e mem
  obtain ⟨effect, -, rfl⟩ := List.mem_map.mp mem
  rfl

theorem Scene.got_grows (sc : Scene W σ ε Q A X) (i : Nat) (q : Q) (a : Except X (A q)) :
    Grows (fun e => e.call = i) sc (sc.got i q a) := by
  refine ⟨[.got i q a], rfl, ?_⟩
  intro e mem
  rw [List.mem_singleton.mp mem]
  rfl

/-- Calls that all keep one invariant, and know of the others that they keep it too and of
themselves what the trace tells. -/
def Discipline.keeping (inv : Scene W σ ε Q A X → Prop)
    (ready : W → σ → (q : Q) → Except X (A q) → Prop) (admits : List (Entry ε Q A X) → Prop) :
    Discipline W σ ε Q A X where
  rely i sc sc' := inv sc' ∧ Grows (fun e => e.call ≠ i) sc sc'
  guar i sc sc' := inv sc' ∧ Grows (fun e => e.call = i) sc sc'
  ready := ready
  admits := admits

theorem Discipline.keeping_upholds {inv : Scene W σ ε Q A X → Prop}
    {ready : W → σ → (q : Q) → Except X (A q) → Prop} {admits : List (Entry ε Q A X) → Prop}
    {outside : W → σ → W → σ → Prop} {start : W → σ → Prop}
    (init : ∀ w s, start w s → inv ⟨[], w, s⟩)
    (moved : ∀ sc w s, inv sc → outside sc.world sc.shared w s →
      inv { sc with world := w, shared := s })
    (answered : ∀ i sc q a, inv sc → ready sc.world sc.shared q a →
      admits (sc.got i q a).trace → inv (sc.got i q a))
    (early : ∀ trace later, admits (trace ++ later) → admits trace) :
    (Discipline.keeping inv ready admits).Upholds outside start inv where
  init := init
  kept _ _ _ _ guar := guar.1
  relied i j sc sc' other _ guar := by
    obtain ⟨held, later, same, own⟩ := guar
    refine ⟨held, later, same, fun e mem mine => other ?_⟩
    rw [← own e mem, mine]
  moved := moved
  seen j sc w s held h := ⟨moved sc w s held h, [], by simp, by simp⟩
  refl i sc held := ⟨held, .refl sc⟩
  trans i sc sc' sc'' h h' := ⟨h'.1, h.2.trans h'.2⟩
  answered i sc q a held ready admitted :=
    ⟨answered i sc q a held ready admitted, sc.got_grows i q a⟩
  admits := early

/-- A change that keeps the invariant. -/
theorem Safe.keeps {inv : Scene W σ ε Q A X → Prop}
    {ready : W → σ → (q : Q) → Except X (A q) → Prop} {admits : List (Entry ε Q A X) → Prop}
    {i : Nat} {sc : Scene W σ ε Q A X} {change : σ → σ × List ε}
    {next : σ → Async σ ε Q A X α} {post : Except X α → Scene W σ ε Q A X → Prop}
    (h : admits (sc.did i (change sc.shared)).trace → inv (sc.did i (change sc.shared)) ∧
      Safe (.keeping inv ready admits) i (next sc.shared) post (sc.did i (change sc.shared))) :
    Safe (.keeping inv ready admits) i (.act change next) post sc := by
  intro admitted
  obtain ⟨held, rest⟩ := h admitted
  exact ⟨⟨held, sc.did_grows i _⟩, rest⟩

section

variable {inv : Scene W σ ε Q A X → Prop} {ready : W → σ → (q : Q) → Except X (A q) → Prop}
  {admits : List (Entry ε Q A X) → Prop} {i : Nat} {sc : Scene W σ ε Q A X}

theorem Safe.keeps_get {post : Except X σ → Scene W σ ε Q A X → Prop} (held : inv sc)
    (h : post (.ok sc.shared) sc) : Safe (.keeping inv ready admits) i .get post sc := by
  refine .keeps fun _ => ?_
  rw [Scene.did_nothing]
  exact ⟨held, h⟩

theorem Safe.keeps_doing {change : σ → σ} {effects : List ε}
    {post : Except X Unit → Scene W σ ε Q A X → Prop}
    (h : admits (sc.did i (change sc.shared, effects)).trace →
      inv (sc.did i (change sc.shared, effects)) ∧
        post (.ok ()) (sc.did i (change sc.shared, effects))) :
    Safe (.keeping inv ready admits) i (.doing change effects) post sc := .keeps h

theorem Safe.keeps_await {q : Q} {post : Except X (A q) → Scene W σ ε Q A X → Prop}
    (h : ∀ sc', inv sc' → Grows (fun e => e.call ≠ i) sc sc' → ∀ a,
      ready sc'.world sc'.shared q a → admits (sc'.got i q a).trace → post a (sc'.got i q a)) :
    Safe (.keeping inv ready admits) i (.await q) post sc :=
  .await fun sc' relied a can admitted => h sc' relied.1 relied.2 a can admitted

end

/-! ## What code can do -/

/-- Every effect of the code, in any state and on any answers, is one of these. -/
def Async.Only (p : ε → Prop) : Async σ ε Q A X α → Prop
  | .pure _ | .throw _ | .stuck => True
  | .act change next => ∀ s, (∀ e ∈ (change s).2, p e) ∧ (next s).Only p
  | .ask _ next => ∀ a, (next a).Only p

namespace Async.Only

variable {p : ε → Prop}

theorem bind {c : Async σ ε Q A X α} {f : α → Async σ ε Q A X β} (first : c.Only p)
    (rest : ∀ a, (f a).Only p) : (c.bind f).Only p := by
  induction c with
  | pure a => exact rest a
  | throw | stuck => trivial
  | act change next ih => exact fun s => ⟨(first s).1, ih s (first s).2⟩
  | ask q next ih => exact fun a => ih a (first a)

theorem attempt {c : Async σ ε Q A X α} (h : c.Only p) : c.attempt.Only p := by
  induction c with
  | pure | throw | stuck => trivial
  | act change next ih => exact fun s => ⟨(h s).1, ih s (h s).2⟩
  | ask q next ih => exact fun a => ih a (h a)

theorem ofExcept (r : Except X α) : (Async.ofExcept r : Async σ ε Q A X α).Only p := by
  cases r <;> trivial

theorem await (q : Q) : (Async.await q : Async σ ε Q A X (A q)).Only p := fun a => ofExcept a

theorem orElse {c : Async σ ε Q A X α} {handler : X → Async σ ε Q A X α} (h : c.Only p)
    (handled : ∀ x, (handler x).Only p) : (c.orElse handler).Only p := by
  refine bind (attempt h) fun r => ?_
  cases r with
  | ok a => trivial
  | error x => exact handled x

theorem get : (Async.get : Async σ ε Q A X σ).Only p := fun _ => ⟨by simp, trivial⟩

theorem doing {change : σ → σ} {effects : List ε} (h : ∀ e ∈ effects, p e) :
    (Async.doing change effects : Async σ ε Q A X Unit).Only p := fun _ => ⟨h, trivial⟩

theorem advance {c : Async σ ε Q A X α} (h : c.Only p) (i : Nat) {sc : Scene W σ ε Q A X}
    (held : ∀ j e, .did j e ∈ sc.trace → p e) :
    (c.advance i sc).1.Only p ∧ ∀ j e, .did j e ∈ (c.advance i sc).2.trace → p e := by
  induction c generalizing sc with
  | pure | throw | stuck | ask => exact ⟨h, held⟩
  | act change next ih =>
    refine ih sc.shared (h sc.shared).2 ?_
    intro j e mem
    rcases List.mem_append.mp mem with old | new
    · exact held j e old
    · obtain ⟨effect, mem, same⟩ := List.mem_map.mp new
      cases same
      exact (h sc.shared).1 _ mem

end Async.Only

/-- What no call's code can do is not done in any interleaving of the calls. -/
theorem Pool.only {C : Type} {code : C → Async σ ε Q A X Unit}
    {ready : W → σ → (q : Q) → Except X (A q) → Prop} {outside : W → σ → W → σ → Prop}
    {start : W → σ → Prop} {p : ε → Prop} {sc : Scene W σ ε Q A X}
    {threads : List (Async σ ε Q A X Unit)} (run : Pool code ready outside start sc threads)
    (h : ∀ c, (code c).Only p) : ∀ i e, .did i e ∈ sc.trace → p e := by
  suffices whole : (∀ c ∈ threads, c.Only p) ∧ ∀ i e, .did i e ∈ sc.trace → p e from whole.2
  induction run with
  | init => exact ⟨by simp, by simp⟩
  | @call sc threads run c ih =>
    obtain ⟨rest, did⟩ := (h c).advance threads.length ih.2
    refine ⟨?_, did⟩
    intro thread mem
    rcases List.mem_append.mp mem with old | new
    · exact ih.1 thread old
    · rw [List.mem_singleton.mp new]
      exact rest
  | @answer sc threads i q next run here a can ih =>
    have thread : (Async.ask q next).Only p := ih.1 _ (List.mem_of_getElem? here)
    have held : ∀ j e, .did j e ∈ (sc.got i q a).trace → p e := by
      intro j e mem
      rcases List.mem_append.mp mem with old | new
      · exact ih.2 j e old
      · cases List.mem_singleton.mp new
    obtain ⟨rest, did⟩ := Async.Only.advance (thread a) i held
    refine ⟨?_, did⟩
    intro other mem
    rcases List.mem_or_eq_of_mem_set mem with old | rfl
    · exact ih.1 other old
    · exact rest
  | outside run can ih => exact ih

end XochiSdk.Library
