import XochiSdk.Client.Machine.Invariants

/-!
# Runs of the machine

A run handles any messages in any order from the initial model; its log keeps each message
with the model that met it, and each effect. A law of runs is proved of an act and of a
ceremony outcome.
-/

namespace XochiSdk.Client

open XochiSdk.Js XochiSdk.Shared XochiSdk.Signer XochiSdk.Library Emits

/-- A message, with the wall clock its update reads. -/
abbrev Input := WallClock × Msg

abbrev Log := List (Happening Model Input Effect)

def Initial (m : Model) : Prop := ∃ config ctx hidden, m = init config ctx hidden

/-- The model a message's step starts from. -/
def receive (m : Model) (msg : Msg) : Model := { m with hidden := msg.hidden }

section

variable [Host]

/-- One update. A throw leaves the host the model it had. -/
def Next (m : Model) (i : Input) (fx : List Effect) (m' : Model) : Prop :=
  match update i.1 m i.2 with
  | .ok out => fx = out.log ∧ m' = out.value
  | .error _ => fx = [] ∧ m' = m

abbrev MachineRun (log : Log) (m : Model) : Prop := Run Initial Next log m

def Reachable (m : Model) : Prop := ∃ log, MachineRun log m

variable {wall : WallClock} {msg : Msg} {m m' : Model} {fx : List Effect}

theorem Inv.receive (inv : Inv m) (wall : WallClock) (msg : Msg) : Inv (receive m msg) := by
  have received : Act wall msg.cause m [] (XochiSdk.Client.receive m msg) := .noted (Nat.le_refl _)
  exact received.inv inv

/-- A step is a chain of its message's acts, or one outcome of the ceremony. -/
def Stepped (wall : WallClock) (msg : Msg) (m : Model) (fx : List Effect) (m' : Model) : Prop :=
  Chain (Act wall msg.cause) m fx m' ∨ Ceremony msg m fx m'

/-- The rules after a step: acts without a message. -/
abbrev Settled (wall : WallClock) (now : Int) : Model → List Effect → Model → Prop :=
  Chain (Act wall (rulesCause now))

/-- An update steps, then settles. -/
theorem update_cases {out : Machine Model} (inv : Inv m) (updated : update wall m msg = .ok out) :
    ∃ fy m₁ fz, Stepped wall msg (receive m msg) fy m₁ ∧ Settled wall msg.now m₁ fz out.value ∧
      out.log = fy ++ fz := by
  unfold update at updated
  cases stepped : step wall { m with hidden := msg.hidden } msg with
  | error e =>
    rw [stepped] at updated
    cases updated
  | ok x =>
    rw [stepped] at updated
    cases updated
    have settled : Does wall (rulesCause msg.now) x.value (settle x.value msg.now) :=
      settle_does rfl
    exact ⟨_, _, _, (step_steps (inv.receive wall msg).coherent stepped).symm, settled, rfl⟩

/-- An update whose step is known ends where the rules leave it. -/
theorem Next.of_step {i : Input} {x : Machine Model} (next : Next m i fx m')
    (stepped : step i.1 (receive m i.2) i.2 = .ok x) :
    fx = x.log ++ (settle x.value i.2.now).log ∧ m' = (settle x.value i.2.now).value := by
  unfold Next update at next
  rw [show { m with hidden := i.2.hidden } = receive m i.2 from rfl, stepped] at next
  exact next

theorem Next.cases {i : Input} (inv : Inv m) (next : Next m i fx m') :
    (fx = [] ∧ m' = m) ∨
      ∃ fy m₁ fz, Stepped i.1 i.2 (receive m i.2) fy m₁ ∧ Settled i.1 i.2.now m₁ fz m' ∧
        fx = fy ++ fz := by
  unfold Next at next
  cases updated : update i.1 m i.2 with
  | error e =>
    rw [updated] at next
    exact .inl next
  | ok out =>
    rw [updated] at next
    obtain ⟨rfl, rfl⟩ := next
    exact .inr (update_cases inv updated)

/-- A law of the log and the model, with what each kind of change must preserve of it. -/
structure Law (P : Log → Model → Prop) : Prop where
  init : ∀ m, Initial m → P [] m
  handled : ∀ log m i, Inv m → P log m → P (log ++ [.handled m i]) m
  act : ∀ log wall cause m fx m', Inv m → P log m → Act wall cause m fx m' →
    P (log ++ fx.map .emitted) m'
  ceremony : ∀ log wall msg m fx m', Inv m → P log m → Ceremony msg (receive m msg) fx m' →
    P (log ++ .handled m (wall, msg) :: fx.map .emitted) m'

theorem Inv.chain {cause : Cause} (inv : Inv m) (chain : Chain (Act wall cause) m fx m') : Inv m' :=
  chain.invariant (fun _ _ _ inv act => act.inv inv) inv

theorem Stepped.inv (stepped : Stepped wall msg m fx m') (inv : Inv m) : Inv m' :=
  stepped.elim (fun chain => inv.chain chain) fun ceremony => ceremony.inv inv

theorem Next.inv {i : Input} (inv : Inv m) (next : Next m i fx m') : Inv m' := by
  rcases next.cases inv with ⟨-, rfl⟩ | ⟨fy, m₁, fz, stepped, settled, -⟩
  · exact inv
  · exact (stepped.inv (inv.receive i.1 i.2)).chain settled

theorem MachineRun.inv {log : Log} (run : MachineRun log m) : Inv m := by
  refine Run.invariant (P := fun _ m => Inv m) ?_ (fun _ _ _ _ _ _ inv next => next.inv inv) run
  rintro _ ⟨config, ctx, hidden, rfl⟩
  exact init_inv config ctx hidden

theorem Reachable.inv (h : Reachable m) : Inv m :=
  h.elim fun _ run => run.inv

/-- Along a chain, a law and the invariants hold together. -/
theorem Law.chain {P : Log → Model → Prop} (law : Law P) {cause : Cause} {log : Log} (inv : Inv m)
    (h : P log m) (chain : Chain (Act wall cause) m fx m') : P (log ++ fx.map .emitted) m' :=
  (chain.history (P := fun log m => Inv m ∧ P log m)
    (fun log m fx m' held act =>
      ⟨act.inv held.1, law.act log wall cause m fx m' held.1 held.2 act⟩) ⟨inv, h⟩).2

theorem Law.next {P : Log → Model → Prop} (law : Law P) {log : Log} {i : Input} (inv : Inv m)
    (h : P log m) (next : Next m i fx m') : P (log ++ .handled m i :: fx.map .emitted) m' := by
  rcases next.cases inv with ⟨rfl, rfl⟩ | ⟨fy, m₁, fz, stepped, settled, rfl⟩
  · exact law.handled log m' i inv h
  · have first : P (log ++ .handled m i :: fy.map .emitted) m₁ := by
      rcases stepped with chain | ceremony
      · have received : Act i.1 i.2.cause m [] (receive m i.2) := .noted (Nat.le_refl _)
        have := law.chain inv (law.handled log m i inv h) (Chain.trans (.single received) chain)
        simpa using this
      · exact law.ceremony log i.1 i.2 m fy m₁ inv h ceremony
    have := law.chain (stepped.inv (inv.receive i.1 i.2)) first settled
    simpa using this

/-- A law holds along every run. -/
theorem Law.run {P : Log → Model → Prop} (law : Law P) {log : Log} (run : MachineRun log m) :
    P log m :=
  Run.invariant law.init (fun _ _ _ _ _ before h next => law.next (MachineRun.inv before) h next) run

end

end XochiSdk.Client
