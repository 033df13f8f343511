import XochiSdk.Client.Machine.Progress
import XochiSdk.Client.Machine.TimerBook

/-!
# Timers along a run

A host fires a timer only while it is armed. In every run of such a host the effects leave armed
the timers of the model and no others.
-/

namespace XochiSdk.Client

open XochiSdk.Js XochiSdk.Shared XochiSdk.Signer XochiSdk.Library Emits

/-- The book after one more entry of a log: its effects set and clear a timer, and a one-shot that
fires is spent. -/
def TimerBook.on (b : TimerBook) : Happening Model Input Effect → TimerBook
  | .handled _ i => b.receive i.2.body
  | .emitted e => b.after e

/-- The timers that a log leaves armed. -/
def timerBook (log : Log) : TimerBook := log.foldl TimerBook.on ⟨false, false, false, false, false⟩

def TimerBook.armed (b : TimerBook) : TimerName → Bool
  | .signPrompt => b.prompt
  | .execute => b.execute
  | .refresh => b.refresh
  | .poll => b.poll
  | .expiry => b.expiry
  -- not in the book: free to fire
  | .debounce => true

/-- The message is no timer that fires unarmed. -/
def HostFaithful (log : Log) (_ : Model) (i : Input) : Prop :=
  ∀ timer, i.2.body = .timerFired timer → (timerBook log).armed timer = true

theorem foldl_emitted_on (fx : List Effect) (b : TimerBook) :
    (fx.map (.emitted (σ := Model) (ι := Input))).foldl TimerBook.on b =
      fx.foldl TimerBook.after b := by
  rw [List.foldl_map]
  rfl

section

variable [Host] {m m' : Model} {fx : List Effect} {log : Log}

/-- A throw leaves the timers as they were. -/
theorem receive_of_error {wall : WallClock} {msg : Msg} {e : SignerError} (b : TimerBook)
    (threw : step wall m msg = .error e) : b.receive msg.body = b := by
  unfold step at threw
  cases body : msg.body <;> rw [body] at threw <;> first
    | rfl
    | cases threw

/-- One update leaves armed the timers of the model it leaves. -/
theorem Next.books {i : Input} (inv : Inv m) (next : Next m i fx m')
    (prompts : i.2.body = .timerFired .signPrompt → prompting m = true) :
    fx.foldl TimerBook.after ((book m).receive i.2.body) = book m' := by
  have received := inv.receive i.1 i.2
  cases stepped : step i.1 (receive m i.2) i.2 with
  | error e =>
    have same := receive_of_error (book m) stepped
    unfold Next update at next
    rw [show { m with hidden := i.2.hidden } = receive m i.2 from rfl, stepped] at next
    obtain ⟨rfl, rfl⟩ := next
    exact same
  | ok x =>
    obtain ⟨rfl, rfl⟩ := next.of_step stepped
    have held : Inv x.value :=
      Stepped.inv (step_steps received.coherent stepped).symm received
    have steps : Books ((book m).receive i.2.body) x :=
      step_books (m := receive m i.2) received.coherent prompts stepped
    rw [List.foldl_append, steps]
    exact settle_books i.1 held i.2.now

theorem timerBook_eq (run : Guarded Initial Next HostFaithful log m) : timerBook log = book m := by
  induction run with
  | init start =>
    obtain ⟨config, ctx, hidden, rfl⟩ := start
    rfl
  | step before next faithful ih =>
    rename_i log s s' i fx
    have prompts (fires : i.2.body = .timerFired .signPrompt) : prompting s = true := by
      have armed := faithful .signPrompt fires
      rw [ih] at armed
      exact armed
    have books := next.books (MachineRun.inv before.run) prompts
    unfold timerBook at ih ⊢
    rw [List.foldl_append, ih, List.foldl_cons, foldl_emitted_on]
    exact books

/-- The timers that are armed are the ones that the model runs. -/
structure TimersMatch (b : TimerBook) (m : Model) : Prop where
  poll : b.poll = true ↔ ∃ poll, m.poll = some poll ∧ poll.stopped = false
  expiry : b.expiry = true ↔ ∃ expiry, m.watched.expiry = some expiry
  execute : b.execute = true ↔ awaitingResend m = true
  refresh : b.refresh = true ↔ ∃ plan, m.refresh = some plan
  prompt : b.prompt = true ↔
    ∃ flow, m.sign = some flow ∧ (flow.stage = .intent ∨ flow.stage = .pull)

omit [Host] in
theorem book_matches (m : Model) : TimersMatch (book m) m where
  poll := by
    change polls m = true ↔ _
    unfold polls
    cases m.poll with
    | none => simp
    | some poll => simp
  expiry := Option.isSome_iff_exists
  execute := Iff.rfl
  refresh := Option.isSome_iff_exists
  prompt := prompting_iff

/-- After every update of a faithful host, the timers match the model. -/
theorem timers_match_model (run : Guarded Initial Next HostFaithful log m) :
    TimersMatch (timerBook log) m := by
  rw [timerBook_eq run]
  exact book_matches m

end

/-- A faithful run in which the poll runs and no other timer does. -/
theorem timers_match_sample :
    letI := plainHost
    ∃ log m, Guarded Initial Next HostFaithful log m ∧
      timerBook log = ⟨false, false, false, true, false⟩ ∧ TimersMatch (timerBook log) m := by
  let _ := plainHost
  let m := init sampleConfig blankContext false
  let i := said (.resumeRequested "0x01" .executing
    "0x0000000000000000000000000000000000000001" none none)
  let j := said (.timerFired .poll)
  have first : Guarded Initial Next HostFaithful _ (answer m i).2 :=
    .step (.init ⟨_, _, _, rfl⟩) (next_answer m i) fun _ h => by cases h
  have second : Guarded Initial Next HostFaithful _ (answer (answer m i).2 j).2 :=
    .step first (next_answer _ j) fun timer fires => by
      cases fires
      decide +kernel
  refine ⟨_, _, second, ?_, timers_match_model second⟩
  decide +kernel

end XochiSdk.Client
