import Mathlib.Data.List.Induction
import XochiSdk.Library.Numerals
import XochiSdk.Library.Script
import XochiSdk.Library.Traces
import XochiSdk.Solver.Session

/-!
# What a session sends

In every interleaving of calls: one registration is in flight at a time, each of its attempts is
signed afresh and follows a transient refusal, only tokens that were registered are sent, and a
request is sent again only after a 401, with a token obtained since that one was forgotten.
-/

namespace XochiSdk.Solver.Session

open XochiSdk.Js XochiSdk.Library

/-- The token that is held once so much more has happened. -/
def heldAfter (held : Option Held) : SessionEntry → Option Held
  | .did _ (.installed _ next _) => some next
  | .did _ (.dropped _) => none
  | _ => held

/-- The token that is held after so much of a trace. -/
def heldAt (trace : Trace) : Option Held := trace.foldl heldAfter none

/-- The call runs the registration. -/
def Owns (trace : Trace) (i n : Nat) : Prop := Entry.did i (.registering n) ∈ trace

def Ended (trace : Trace) (n : Nat) : Prop := ∃ j outcome, Entry.did j (.flown n outcome) ∈ trace

/-- The venue's answer to an attempt. -/
def Answered (trace : Trace) (i n attempt : Nat) (res : Response) : Prop :=
  ∃ body sentAtMs a b, trace = a ++ .did i (.posted n attempt body sentAtMs) :: b ∧
    Entry.got i (.register n attempt body) (.ok res) ∈ b

def Transient (res : Response) : Prop := res.status = 503 ∨ res.status = 429

/-- A 4xx that is not transient. -/
def Permanent (res : Response) : Prop :=
  400 ≤ res.status ∧ res.status < 500 ∧ res.status ≠ 429

/-- Some registration installed the token. -/
def Registered (trace : Trace) (token : String) : Prop :=
  ∃ j n held sentAtMs, Entry.did j (.installed n held sentAtMs) ∈ trace ∧
    held.result.sessionToken = token

/-- The call was told the token: it was the held one, or a registration that ended gave it. -/
def Obtained (i : Nat) (later : Trace) (token : String) : Prop :=
  (∃ held nowMs, Entry.did i (.used held nowMs) ∈ later ∧ held.result.sessionToken = token) ∨
    ∃ j n result, Entry.did j (.flown n (.ok result)) ∈ later ∧ result.sessionToken = token

/-- The call sent nothing. -/
def Unsent (i : Nat) (trace : Trace) : Prop := ∀ token, Entry.did i (.sent token) ∉ trace

/-- The call has sent once, was answered 401, had that token forgotten (by itself, or by another
before) and then obtained this one. -/
def Resends (trace : Trace) (i : Nat) (token : String) : Prop :=
  ∃ first forgets a b c, trace = a ++ .did i (.sent first) :: (b ++ .did i forgets :: c) ∧
    (forgets = .dropped first ∨ forgets = .kept first) ∧ Unsent i (a ++ b ++ c) ∧
    (∃ res, Entry.got i (.send first) (.ok res) ∈ b ∧ res.status = 401) ∧ Obtained i c token

/-- The attempt's body was signed for it alone. -/
def SignedAfresh (trace : Trace) (i n attempt : Nat) (body : SolverRegistration) : Prop :=
  ∃ a b, trace = a ++ .did i (.signing n attempt body.issuedAtMs) :: b ∧
    Entry.got i (.signRegistration ⟨body.bondChainId, body.bond⟩ body.issuedAtMs)
      (.ok body.signature) ∈ b ∧ ∀ m other sentAtMs, Entry.did i (.posted n m other sentAtMs) ∉ b

/-- The call has just come to register: its user asked, or no held token will do. -/
def Asks (trace : Trace) (i : Nat) : Prop :=
  trace.getLast? = some (.did i .asked) ∨ ∃ nowMs, trace.getLast? = some (.did i (.due nowMs))

section

variable [Host] (opts : SolverSessionOptions)

/-- An attempt of a registration that goes on: all its answers so far were transient. -/
structure Attempts (trace : Trace) (i n attempt : Nat) : Prop where
  owns : Owns trace i n
  flies : ¬Ended trace n
  first : 1 ≤ attempt
  last : attempt ≤ opts.attempts
  later : ∀ m issuedAtMs, Entry.did i (.signing n m issuedAtMs) ∈ trace → m < attempt
  transient : ∀ m res, Answered trace i n m res → Transient res
  answered : attempt = 1 ∨ ∃ res, Answered trace i n (attempt - 1) res

/-- The body was read from the venue's answer to the attempt: nothing of the call's own stands
between the two, nor after. -/
def BodyRead (trace : Trace) (i n attempt : Nat) (body : SolverRegistration) (sentAtMs : ℚ)
    (res : Response) (raw : Value) : Prop :=
  ∃ a b, trace = a ++ .got i (.register n attempt body) (.ok res) :: (b ++ [.got i .json (.ok raw)])
    ∧ Entry.did i (.posted n attempt body sentAtMs) ∈ a ∧ ∀ e ∈ b, e.call ≠ i

/-- What a token is installed on: the body of the venue's answer to an attempt, naming this
solver. -/
structure Installs (trace : Trace) (i n : Nat) (held : Held) (sentAtMs : ℚ) : Prop where
  owns : Owns trace i n
  answered : ∃ attempt body res raw parsed, BodyRead trace i n attempt body sentAtMs res raw ∧
    res.ok = true ∧ registrationResponse raw = some parsed ∧
    Host.toLowerCase parsed.solverId = Host.toLowerCase opts.solverId ∧
    held = heldOf opts parsed sentAtMs
  /-- Renewal is due no earlier than halfway through the lifetime left when the token was asked
  for. -/
  renews : held.result.expiresAtMs - max 0 (held.result.expiresAtMs - sentAtMs) / 2 ≤ held.renewAtMs

/-- How a registration ends: with the token it installed; on another 4xx with the typed refusal,
or with what reading its body threw. -/
structure Ends (trace : Trace) (i n : Nat) (outcome : Except Thrown SolverRegistrationResult) :
    Prop where
  installed : ∀ result, outcome = .ok result →
    ∃ held sentAtMs, Entry.did i (.installed n held sentAtMs) ∈ trace ∧ held.result = result
  refused : ∀ attempt res, Answered trace i n attempt res → Permanent res →
    (∃ code detail, outcome = .error (.refused code (some res.status) detail)) ∨
      ∃ err, Entry.got i .text (.error err) ∈ trace ∧ outcome = .error err

/-- What a deed comes after. -/
def Lawful (trace : Trace) (i : Nat) : Deed → Prop
  | .asked => True
  | .registering n =>
    (∀ j m, Owns trace j m → m < n ∧ Ended trace m) ∧ Asks trace i
  | .joined n => (∃ j, Owns trace j n) ∧ ¬Ended trace n
  | .signing n attempt _ => Attempts opts trace i n attempt
  | .posted n attempt body _ => SignedAfresh trace i n attempt body ∧ body.solverId = opts.solverId
  | .installed n held sentAtMs => Installs opts trace i n held sentAtMs
  | .flown n outcome => Owns trace i n ∧ ¬Ended trace n ∧ Ends trace i n outcome
  | .used held nowMs => heldAt trace = some held ∧ nowMs < held.renewAtMs
  | .due nowMs => ∀ held, heldAt trace = some held →
      ∃ reading, nowMs = some reading ∧ held.renewAtMs ≤ reading
  | .dropped token => ∃ held, heldAt trace = some held ∧ held.result.sessionToken = token
  | .kept token => ∀ held, heldAt trace = some held → held.result.sessionToken ≠ token
  | .sent token => Registered trace token ∧ (Unsent i trace ∨ Resends trace i token)

/-- Every deed comes after what it should come after. -/
def SessionLaw (trace : Trace) : Prop :=
  ∀ a i deed b, trace = a ++ .did i deed :: b → Lawful opts a i deed

/-- The law so far, and a session that is what its trace tells. -/
structure Inv (sc : SessionScene) : Prop where
  law : SessionLaw opts sc.trace
  holds : sc.shared.current = heldAt sc.trace
  flies : ∀ n, sc.shared.inFlight = some n → (∃ j, Owns sc.trace j n) ∧ ¬Ended sc.trace n
  counted : ∀ j n, Owns sc.trace j n →
    n < sc.shared.flights ∧ (sc.shared.inFlight = some n ∨ Ended sc.trace n)
  settled : ∀ n outcome, (n, outcome) ∈ sc.shared.outcomes →
    ∃ j, Entry.did j (.flown n outcome) ∈ sc.trace

end

/-! ## Traces that grow -/

theorem heldAt_snoc (trace : Trace) (e : SessionEntry) :
    heldAt (trace ++ [e]) = heldAfter (heldAt trace) e := by
  unfold heldAt
  rw [List.foldl_append]
  rfl

section

variable [Host] {opts : SolverSessionOptions} {trace : Trace}

theorem SessionLaw.got (law : SessionLaw opts trace) (i : Nat) (q : Ask)
    (a : Except Thrown q.Answer) : SessionLaw opts (trace ++ [.got i q a]) := by
  intro before j deed after same
  rcases snoc_split same with ⟨-, last, -⟩ | ⟨after', -, here⟩
  · cases last
  · exact law before j deed after' here

theorem SessionLaw.did (law : SessionLaw opts trace) {i : Nat} {deed : Deed}
    (lawful : Lawful opts trace i deed) : SessionLaw opts (trace ++ [.did i deed]) := by
  intro before j other after same
  rcases snoc_split same with ⟨rfl, last, -⟩ | ⟨after', -, here⟩
  · cases last
    exact lawful
  · exact law before j other after' here

/-- Every deed of a trace is lawful where it stands. -/
theorem SessionLaw.at (law : SessionLaw opts trace) {i : Nat} {deed : Deed}
    (mem : Entry.did i deed ∈ trace) :
    ∃ before after, trace = before ++ .did i deed :: after ∧ Lawful opts before i deed := by
  obtain ⟨before, after, same⟩ := List.append_of_mem mem
  exact ⟨before, after, same, law before i deed after same⟩

/-- A registration is run by one call. -/
theorem SessionLaw.owner (law : SessionLaw opts trace) {i j n : Nat} (mine : Owns trace i n)
    (other : Owns trace j n) : i = j := by
  obtain ⟨before, after, same, first, -⟩ := law.at mine
  unfold Owns at other
  rw [same] at other
  rcases List.mem_append.mp other with early | late
  · exact absurd (first j n early).1 (Nat.lt_irrefl n)
  rcases List.mem_cons.mp late with here | late
  · cases here
    rfl
  · obtain ⟨middle, rest, rfl⟩ := List.append_of_mem late
    have again : trace = (before ++ .did i (.registering n) :: middle) ++
        .did j (.registering n) :: rest := by
      rw [same]
      simp
    have second := (law _ j _ rest again).1 i n (by simp [Owns])
    exact absurd second.1 (Nat.lt_irrefl n)

omit [Host] in
theorem owns_snoc {e : SessionEntry} {j n : Nat} :
    Owns (trace ++ [e]) j n ↔ Owns trace j n ∨ e = .did j (.registering n) := by
  unfold Owns
  rw [List.mem_append, List.mem_singleton, eq_comm (a := e)]

omit [Host] in
theorem ended_snoc {e : SessionEntry} {n : Nat} :
    Ended (trace ++ [e]) n ↔ Ended trace n ∨ ∃ j outcome, e = .did j (.flown n outcome) := by
  unfold Ended
  simp only [List.mem_append, List.mem_singleton, exists_or, eq_comm (a := e)]

/-! ## What keeps the invariant -/

variable {sc sc' : SessionScene} {i n : Nat}

/-- A deed that starts and ends no registration. -/
def Deed.plain : Deed → Prop
  | .registering _ | .flown .. => False
  | _ => True

omit [Host] in
theorem Deed.plain_ne {deed : Deed} (plain : deed.plain) {j n : Nat} :
    (Entry.did i deed : SessionEntry) ≠ .did j (.registering n) ∧
      ∀ outcome, (Entry.did i deed : SessionEntry) ≠ .did j (.flown n outcome) := by
  constructor
  · intro same
    cases same
    exact plain
  · intro outcome same
    cases same
    exact plain

theorem Inv.got (inv : Inv opts sc) (q : Ask) (a : Except Thrown q.Answer) :
    Inv opts (sc.got i q a) where
  law := inv.law.got i q a
  holds := by
    rw [Scene.got_trace, heldAt_snoc]
    exact inv.holds
  flies n flight := by
    obtain ⟨⟨j, owns⟩, flies⟩ := inv.flies n flight
    rw [Scene.got_trace, ended_snoc]
    refine ⟨⟨j, owns_snoc.mpr (.inl owns)⟩, ?_⟩
    rintro (ended | ⟨_, _, same⟩)
    · exact flies ended
    · cases same
  counted j n owns := by
    rw [Scene.got_trace, owns_snoc] at owns
    rcases owns with owns | same
    · obtain ⟨below, or⟩ := inv.counted j n owns
      refine ⟨below, or.imp_right fun ended => ?_⟩
      rw [Scene.got_trace]
      exact ended_snoc.mpr (.inl ended)
    · cases same
  settled n outcome mem := by
    obtain ⟨j, mem⟩ := inv.settled n outcome mem
    exact ⟨j, List.mem_append_left _ mem⟩

/-- A deed that starts and ends no registration, and what it changes. -/
theorem Inv.did (inv : Inv opts sc) {d : Deed} {s : State}
    (lawful : Lawful opts sc.trace i d) (plain : d.plain)
    (holds : s.current = heldAfter sc.shared.current (.did i d))
    (same : s.inFlight = sc.shared.inFlight ∧ s.flights = sc.shared.flights ∧
      s.outcomes = sc.shared.outcomes) : Inv opts (sc.did i (s, [d])) := by
  obtain ⟨inFlight, flights, outcomes⟩ := same
  have trace : (sc.did i (s, [d])).trace = sc.trace ++ [.did i d] := rfl
  have ended {n : Nat} : Ended (sc.trace ++ [.did i d]) n ↔ Ended sc.trace n := by
    rw [ended_snoc]
    refine ⟨?_, .inl⟩
    rintro (ended | ⟨j, outcome, same⟩)
    · exact ended
    · exact absurd same ((Deed.plain_ne plain).2 outcome)
  have owns {j n : Nat} : Owns (sc.trace ++ [.did i d]) j n ↔ Owns sc.trace j n := by
    rw [owns_snoc]
    exact or_iff_left (Deed.plain_ne plain (n := n)).1
  constructor
  · rw [trace]
    exact inv.law.did lawful
  · rw [trace, heldAt_snoc, ← inv.holds]
    exact holds
  · intro n flight
    rw [Scene.did_shared, inFlight] at flight
    rw [trace, ended]
    obtain ⟨⟨j, flying⟩, flies⟩ := inv.flies n flight
    exact ⟨⟨j, owns.mpr flying⟩, flies⟩
  · intro j n flying
    rw [trace] at flying ⊢
    rw [ended, Scene.did_shared, inFlight, flights]
    exact inv.counted j n (owns.mp flying)
  · intro n outcome mem
    rw [Scene.did_shared, outcomes] at mem
    obtain ⟨j, mem⟩ := inv.settled n outcome mem
    exact ⟨j, List.mem_append_left _ mem⟩

/-- The clock is read. -/
theorem Inv.ticked (inv : Inv opts sc) : Inv opts (sc.did i (sc.shared.ticked, [])) := by
  have trace : (sc.did i (sc.shared.ticked, [])).trace = sc.trace := by simp
  constructor
  · rw [trace]
    exact inv.law
  · rw [trace]
    exact inv.holds
  · rw [trace]
    exact inv.flies
  · rw [trace]
    exact inv.counted
  · rw [trace]
    exact inv.settled

/-- A registration is started. -/
theorem Inv.launched (inv : Inv opts sc) (idle : sc.shared.inFlight = none)
    (asks : Asks sc.trace i) :
    Inv opts (sc.did i (sc.shared.launched, [.registering sc.shared.flights])) := by
  have trace : (sc.did i (sc.shared.launched, [.registering sc.shared.flights])).trace =
      sc.trace ++ [.did i (.registering sc.shared.flights)] := rfl
  have ended {n : Nat} : Ended (sc.trace ++ [.did i (.registering sc.shared.flights)]) n ↔
      Ended sc.trace n := by
    rw [ended_snoc]
    refine ⟨?_, .inl⟩
    rintro (ended | ⟨_, _, same⟩)
    · exact ended
    · cases same
  have finished (j m : Nat) (owns : Owns sc.trace j m) :
      m < sc.shared.flights ∧ Ended sc.trace m := by
    obtain ⟨below, flying | ended⟩ := inv.counted j m owns
    · rw [idle] at flying
      cases flying
    · exact ⟨below, ended⟩
  constructor
  · rw [trace]
    exact inv.law.did ⟨finished, asks⟩
  · rw [trace, heldAt_snoc]
    exact inv.holds
  · intro n flight
    obtain rfl : sc.shared.flights = n := Option.some.inj flight
    rw [trace, ended]
    refine ⟨⟨i, owns_snoc.mpr (.inr rfl)⟩, ?_⟩
    rintro ⟨j, outcome, mem⟩
    obtain ⟨before, after, same, owns, -⟩ := inv.law.at mem
    have owned : Owns sc.trace j sc.shared.flights := by
      unfold Owns
      rw [same]
      exact List.mem_append_left _ owns
    exact absurd (inv.counted j _ owned).1 (Nat.lt_irrefl _)
  · intro j n owns
    rw [trace] at owns ⊢
    rw [ended]
    rcases owns_snoc.mp owns with owns | same
    · obtain ⟨below, ended⟩ := finished j n owns
      exact ⟨Nat.lt_succ_of_lt below, .inr ended⟩
    · cases same
      exact ⟨Nat.lt_succ_self _, .inl rfl⟩
  · intro n outcome mem
    obtain ⟨j, mem⟩ := inv.settled n outcome mem
    exact ⟨j, List.mem_append_left _ mem⟩

/-- A registration ends, by the call that runs it. -/
theorem Inv.landed (inv : Inv opts sc) {outcome : Except Thrown SolverRegistrationResult}
    (owns : Owns sc.trace i n) (flies : ¬Ended sc.trace n) (ends : Ends sc.trace i n outcome) :
    Inv opts (sc.did i (sc.shared.landed n outcome, [.flown n outcome])) := by
  have trace : (sc.did i (sc.shared.landed n outcome, [.flown n outcome])).trace =
      sc.trace ++ [.did i (.flown n outcome)] := rfl
  have still {j m : Nat} : Owns (sc.trace ++ [.did i (.flown n outcome)]) j m ↔
      Owns sc.trace j m := by
    rw [owns_snoc]
    exact or_iff_left nofun
  constructor
  · rw [trace]
    exact inv.law.did ⟨owns, flies, ends⟩
  · rw [trace, heldAt_snoc]
    exact inv.holds
  · intro m flight
    cases flight
  · intro j m owned
    rw [trace] at owned ⊢
    obtain ⟨below, or⟩ := inv.counted j m (still.mp owned)
    refine ⟨below, .inr ?_⟩
    rcases or with flying | ended
    · rcases inv.counted i n owns with ⟨-, here | ended⟩
      · rw [here] at flying
        cases flying
        exact ended_snoc.mpr (.inr ⟨i, outcome, rfl⟩)
      · exact absurd ended flies
    · exact ended_snoc.mpr (.inl ended)
  · intro m r mem
    rcases List.mem_append.mp mem with mem | mem
    · obtain ⟨j, mem⟩ := inv.settled m r mem
      exact ⟨j, List.mem_append_left _ mem⟩
    · cases List.mem_singleton.mp mem
      exact ⟨i, List.mem_append_right _ (List.mem_singleton_self _)⟩

/-! ## A registration under way -/

/-- No call sends on behalf of another, and this one sends nothing. -/
def Quiet (i : Nat) (e : SessionEntry) : Prop := ∀ token, e ≠ .did i (.sent token)

/-- An entry that is none of the call's attempts. -/
def Idle (i : Nat) (e : SessionEntry) : Prop :=
  (∀ deed, e ≠ .did i deed) ∧ ∀ n attempt body a, e ≠ .got i (.register n attempt body) a

variable (opts) in
/-- The call runs a registration that has not ended, and has sent nothing since. -/
structure Flying (i n : Nat) (sc₀ sc : SessionScene) : Prop where
  inv : Inv opts sc
  owns : Owns sc.trace i n
  flies : ¬Ended sc.trace n
  since : Grows (Quiet i) sc₀ sc

abbrev kept (opts : SolverSessionOptions) :
    Discipline Unit State Deed Ask Ask.Answer Thrown :=
  .keeping (Inv opts) ready fun _ => True

variable {sc₀ : SessionScene}

omit [Host] in
theorem quiet_of_others (grows : Grows (fun e => e.call ≠ i) sc sc') : Grows (Quiet i) sc sc' := by
  obtain ⟨later, same, others⟩ := grows
  refine ⟨later, same, ?_⟩
  rintro e mem token rfl
  exact others _ mem rfl

omit [Host] in
theorem idle_of_other {e : SessionEntry} (other : e.call ≠ i) : Idle i e := by
  refine ⟨?_, ?_⟩
  · rintro deed rfl
    exact other rfl
  · rintro n attempt body a rfl
    exact other rfl

omit [Host] in
theorem idle_of_others (grows : Grows (fun e => e.call ≠ i) sc sc') : Grows (Idle i) sc sc' := by
  obtain ⟨later, same, others⟩ := grows
  exact ⟨later, same, fun e mem => idle_of_other (others e mem)⟩

omit [Host] in
theorem got_quiet (q : Ask) (a : Except Thrown q.Answer) : Grows (Quiet i) sc (sc.got i q a) := by
  refine ⟨[.got i q a], rfl, ?_⟩
  intro e mem token same
  rw [List.mem_singleton.mp mem] at same
  cases same

omit [Host] in
theorem did_quiet {s : State} {deed : Deed} (other : ∀ token, deed ≠ .sent token) :
    Grows (Quiet i) sc (sc.did i (s, [deed])) := by
  refine ⟨[.did i deed], rfl, ?_⟩
  intro e mem token same
  rw [List.mem_singleton.mp mem] at same
  cases same
  exact other token rfl

omit [Host] in
theorem ticked_grows {own : SessionEntry → Prop} :
    Grows own sc (sc.did i (sc.shared.ticked, [])) := ⟨[], by simp, by simp⟩

/-- While the others go on, the registration stays this call's. -/
theorem Flying.later (flying : Flying opts i n sc₀ sc) (inv : Inv opts sc')
    (grows : Grows (fun e => e.call ≠ i) sc sc') : Flying opts i n sc₀ sc' := by
  refine ⟨inv, grows.mem flying.owns, ?_, flying.since.trans (quiet_of_others grows)⟩
  rintro ⟨j, outcome, mem⟩
  by_cases mine : j = i
  · subst mine
    exact flying.flies ⟨j, outcome, grows.mem_before mem (by simp [Entry.call])⟩
  · obtain ⟨before, after, same, owns, -⟩ := inv.law.at mem
    refine mine (inv.law.owner ?_ (grows.mem flying.owns))
    unfold Owns
    rw [same]
    exact List.mem_append_left _ owns

theorem Flying.got (flying : Flying opts i n sc₀ sc) (q : Ask) (a : Except Thrown q.Answer) :
    Flying opts i n sc₀ (sc.got i q a) := by
  refine ⟨flying.inv.got q a, owns_snoc.mpr (.inl flying.owns), ?_,
    flying.since.trans (got_quiet q a)⟩
  rw [Scene.got_trace, ended_snoc]
  rintro (ended | ⟨_, _, same⟩)
  · exact flying.flies ended
  · cases same

theorem Flying.did (flying : Flying opts i n sc₀ sc) {d : Deed} {s : State}
    (lawful : Lawful opts sc.trace i d) (plain : d.plain) (unsent : ∀ token, d ≠ .sent token)
    (holds : s.current = heldAfter sc.shared.current (.did i d))
    (same : s.inFlight = sc.shared.inFlight ∧ s.flights = sc.shared.flights ∧
      s.outcomes = sc.shared.outcomes) : Flying opts i n sc₀ (sc.did i (s, [d])) := by
  refine ⟨flying.inv.did lawful plain holds same, owns_snoc.mpr (.inl flying.owns), ?_,
    flying.since.trans (did_quiet unsent)⟩
  change ¬Ended (sc.trace ++ [.did i d]) n
  rw [ended_snoc]
  rintro (ended | ⟨j, outcome, same⟩)
  · exact flying.flies ended
  · exact (Deed.plain_ne plain).2 outcome same

theorem Flying.ticked (flying : Flying opts i n sc₀ sc) :
    Flying opts i n sc₀ (sc.did i (sc.shared.ticked, [])) := by
  have trace : (sc.did i (sc.shared.ticked, [])).trace = sc.trace := by simp
  refine ⟨flying.inv.ticked, ?_, ?_, flying.since.trans ticked_grows⟩
  · rw [trace]
    exact flying.owns
  · rw [trace]
    exact flying.flies

/-- An answer was awaited, while the others went on. -/
def Waited (i : Nat) (q : Ask) (a : Except Thrown q.Answer) (sc sc' : SessionScene) : Prop :=
  ∃ later, sc'.trace = sc.trace ++ (later ++ [.got i q a]) ∧ ∀ e ∈ later, e.call ≠ i

omit [Host] in
theorem Waited.mem {q : Ask} {a : Except Thrown q.Answer} (waited : Waited i q a sc sc') :
    Entry.got i q a ∈ sc'.trace := by
  obtain ⟨later, same, -⟩ := waited
  rw [same]
  simp

omit [Host] in
theorem Waited.idle {q : Ask} {a : Except Thrown q.Answer} (waited : Waited i q a sc sc')
    (other : ∀ m attempt body, q ≠ .register m attempt body) : Grows (Idle i) sc sc' := by
  obtain ⟨later, same, others⟩ := waited
  refine ⟨later ++ [.got i q a], same, fun e mem => ?_⟩
  rcases List.mem_append.mp mem with mem | mem
  · exact idle_of_other (others e mem)
  rw [List.mem_singleton.mp mem]
  refine ⟨nofun, ?_⟩
  intro m attempt body a' same
  cases same
  exact other m attempt body rfl

theorem Flying.await (flying : Flying opts i n sc₀ sc) (q : Ask) :
    Safe (kept opts) i (Async.await q)
      (fun a sc' => Flying opts i n sc₀ sc' ∧ Waited i q a sc sc') sc := by
  refine .keeps_await fun sc' inv grows a _ _ => ⟨(flying.later inv grows).got q a, ?_⟩
  obtain ⟨later, same, others⟩ := grows
  refine ⟨later, ?_, others⟩
  rw [Scene.got_trace, same, List.append_assoc]

theorem Flying.now (flying : Flying opts i n sc₀ sc)
    {post : Except Thrown ℚ → SessionScene → Prop}
    (h : ∀ sc', Flying opts i n sc₀ sc' → sc'.trace = sc.trace → ∀ t, post (.ok t) sc') :
    Safe (kept opts) i Session.now post sc :=
  .keeps fun _ => ⟨flying.inv.ticked, h _ flying.ticked (by simp) _⟩

/-! ## One attempt -/

theorem bondOf_safe (flying : Flying opts i n sc₀ sc) :
    Safe (kept opts) i (bondOf opts)
      (fun _ sc' => Flying opts i n sc₀ sc' ∧ Grows (Idle i) sc sc') sc := by
  unfold bondOf
  split
  · exact ⟨flying, .refl sc⟩
  unfold advertisedBond
  refine .bind ((flying.await .capabilities).mono ?_)
  rintro (err | res) sc₁ ⟨flying, waited⟩
  · exact ⟨flying, waited.idle nofun⟩
  have idle : Grows (Idle i) sc sc₁ := waited.idle nofun
  dsimp only
  split
  · refine .bind ((flying.await .text).mono ?_)
    rintro (err | text) sc₂ ⟨flying, waited⟩
    · exact ⟨flying, idle.trans (waited.idle nofun)⟩
    · exact ⟨flying, idle.trans (waited.idle nofun)⟩
  · refine .bind ((flying.await .json).mono ?_)
    rintro (err | raw) sc₂ ⟨flying, waited⟩
    · exact ⟨flying, idle.trans (waited.idle nofun)⟩
    have idle : Grows (Idle i) sc sc₂ := idle.trans (waited.idle nofun)
    dsimp only
    split
    · exact ⟨flying, idle⟩
    · exact ⟨flying, idle⟩
    · exact ⟨flying, idle⟩

theorem readError_safe (flying : Flying opts i n sc₀ sc) (res : Response) :
    Safe (kept opts) i (readError opts.parseJson res) (fun r sc' => Flying opts i n sc₀ sc' ∧
      Grows (Idle i) sc sc' ∧
        ∀ err, r = .error err → Entry.got i .text (.error err) ∈ sc'.trace) sc := by
  unfold readError
  refine .bind ((flying.await .text).mono ?_)
  rintro (err | text) sc₁ ⟨flying, waited⟩
  · refine ⟨flying, waited.idle nofun, ?_⟩
    intro err' same
    cases same
    exact waited.mem
  · exact ⟨flying, waited.idle nofun, nofun⟩

omit [Host] in
theorem Answered.more {attempt : Nat} {res : Response} (answered : Answered trace i n attempt res)
    (later : Trace) : Answered (trace ++ later) i n attempt res := by
  obtain ⟨body, sentAtMs, a, b, same, mem⟩ := answered
  refine ⟨body, sentAtMs, a, b ++ later, ?_, List.mem_append_left _ mem⟩
  rw [same, List.append_assoc, List.cons_append]

omit [Host] in
/-- Where nothing more was posted, an answer had come before or came with the rest. -/
theorem Answered.split {attempt : Nat} {res : Response} {later : Trace}
    (answered : Answered (trace ++ later) i n attempt res)
    (none : ∀ body sentAtMs, Entry.did i (.posted n attempt body sentAtMs) ∉ later) :
    Answered trace i n attempt res ∨
      ∃ body, Entry.got i (.register n attempt body) (.ok res) ∈ later := by
  obtain ⟨body, sentAtMs, a, b, same, mem⟩ := answered
  rcases List.append_eq_append_iff.mp same with ⟨c, -, tail⟩ | ⟨c, here, tail⟩
  · refine absurd ?_ (none body sentAtMs)
    rw [tail]
    exact List.mem_append_right _ (List.mem_cons_self)
  cases c with
  | nil =>
    refine absurd ?_ (none body sentAtMs)
    rw [List.nil_append] at tail
    rw [← tail]
    exact List.mem_cons_self
  | cons x c =>
    obtain ⟨rfl, rfl⟩ := List.cons_eq_cons.mp tail
    rcases List.mem_append.mp mem with mem | mem
    · exact .inl ⟨body, sentAtMs, a, c, here, mem⟩
    · exact .inr ⟨body, mem⟩

omit [Host] in
theorem Answered.did {attempt : Nat} {res : Response} {deed : Deed}
    (answered : Answered (trace ++ [.did i deed]) i n attempt res) :
    Answered trace i n attempt res := by
  obtain ⟨body, sentAtMs, a, b, same, mem⟩ := answered
  rcases snoc_split same with ⟨-, -, rfl⟩ | ⟨b', rfl, here⟩
  · cases mem
  rcases List.mem_append.mp mem with mem | mem
  · exact ⟨body, sentAtMs, a, b', here, mem⟩
  · cases List.mem_singleton.mp mem

omit [Host] in
/-- The answers to a registration are those it had before. -/
theorem answered_idle (idle : Grows (Idle i) sc sc') {attempt : Nat} {res : Response}
    (answered : Answered sc'.trace i n attempt res) : Answered sc.trace i n attempt res := by
  obtain ⟨later, same, idle⟩ := idle
  rw [same] at answered
  rcases answered.split fun body sentAtMs mem => (idle _ mem).1 _ rfl with answered | ⟨body, mem⟩
  · exact answered
  · exact absurd rfl ((idle _ mem).2 n attempt body (.ok res))

omit [Host] in
theorem Answered.grows {own : SessionEntry → Prop} (grows : Grows own sc sc') {attempt : Nat}
    {res : Response} (answered : Answered sc.trace i n attempt res) :
    Answered sc'.trace i n attempt res := by
  obtain ⟨later, same, -⟩ := grows
  rw [same]
  exact answered.more later

theorem Attempts.idle {attempt : Nat} (attempts : Attempts opts sc.trace i n attempt)
    (flying : Flying opts i n sc₀ sc') (idle : Grows (Idle i) sc sc') :
    Attempts opts sc'.trace i n attempt where
  owns := flying.owns
  flies := flying.flies
  first := attempts.first
  last := attempts.last
  later m issuedAtMs mem :=
    attempts.later m issuedAtMs (idle.mem_before mem fun own => own.1 _ rfl)
  transient m res answered := attempts.transient m res (answered_idle idle answered)
  answered := by
    refine attempts.answered.imp_right fun h => ?_
    obtain ⟨res, answered⟩ := h
    exact ⟨res, answered.grows idle⟩

omit [Host] in
/-- An end that follows no other 4xx. -/
theorem Ends.of_error {err : Thrown} (harmless : ∀ attempt res,
    Answered sc.trace i n attempt res → ¬Permanent res) : Ends sc.trace i n (.error err) where
  installed := nofun
  refused attempt res answered permanent := absurd permanent (harmless attempt res answered)

omit [Host] in
theorem Transient.harmless {res : Response} (transient : Transient res) : ¬Permanent res := by
  rintro ⟨-, below, other⟩
  rcases transient with h | h
  · omega
  · exact other h

omit [Host] in
theorem heldOf_renews (parsed : SolverRegistrationResponse) (sentAtMs : ℚ) :
    let held := heldOf opts parsed sentAtMs
    held.result.expiresAtMs - max 0 (held.result.expiresAtMs - sentAtMs) / 2 ≤ held.renewAtMs :=
  sub_le_sub_left (min_le_right _ _) _

/-- The answer that a token is installed on. -/
structure Taken (opts : SolverSessionOptions) (trace : Trace) (i n : Nat) (raw : Value)
    (sentAtMs : ℚ) : Prop where
  answered : ∃ attempt body res, BodyRead trace i n attempt body sentAtMs res raw ∧ res.ok = true
  harmless : ∀ attempt res, Answered trace i n attempt res → ¬Permanent res

theorem accept_safe (flying : Flying opts i n sc₀ sc) {raw : Value} {sentAtMs : ℚ}
    (taken : Taken opts sc.trace i n raw sentAtMs) :
    Safe (kept opts) i (accept opts n raw sentAtMs)
      (fun r sc' => Flying opts i n sc₀ sc' ∧ Ends sc'.trace i n r) sc := by
  unfold accept
  split
  · exact ⟨flying, .of_error taken.harmless⟩
  next parsed read =>
  split
  · exact ⟨flying, .of_error taken.harmless⟩
  next named =>
  obtain ⟨attempt, body, res, bodyRead, ok⟩ := taken.answered
  have installs : Installs opts sc.trace i n (heldOf opts parsed sentAtMs) sentAtMs :=
    { owns := flying.owns
      answered := ⟨attempt, body, res, raw, parsed, bodyRead, ok, read, not_not.mp named, rfl⟩
      renews := heldOf_renews parsed sentAtMs }
  have flies := flying.did (s := { sc.shared with current := some (heldOf opts parsed sentAtMs) })
    (d := .installed n (heldOf opts parsed sentAtMs) sentAtMs) installs trivial nofun rfl
    ⟨rfl, rfl, rfl⟩
  refine .bind (.keeps_doing fun _ => ⟨flies.inv, flies, ?_, ?_⟩)
  · intro result same
    cases same
    exact ⟨_, sentAtMs, List.mem_append_right _ (List.mem_singleton_self _), rfl⟩
  · intro m res answered permanent
    exact absurd permanent (taken.harmless m res answered.did)

/-- An attempt that was signed, and whose answer has not come. -/
structure Tried (trace : Trace) (i n attempt : Nat) : Prop where
  later : ∀ m issuedAtMs, Entry.did i (.signing n m issuedAtMs) ∈ trace → m ≤ attempt
  transient : ∀ m res, Answered trace i n m res → Transient res

/-- An attempt that was answered. -/
structure Told (trace : Trace) (i n attempt : Nat) (res : Response) : Prop where
  later : ∀ m issuedAtMs, Entry.did i (.signing n m issuedAtMs) ∈ trace → m ≤ attempt
  known : ∀ m other, Answered trace i n m other → Transient other ∨ other = res
  answered : Answered trace i n attempt res

omit [Host] in
theorem Tried.idle {attempt : Nat} (tried : Tried sc.trace i n attempt)
    (idle : Grows (Idle i) sc sc') : Tried sc'.trace i n attempt where
  later m issuedAtMs mem := tried.later m issuedAtMs (idle.mem_before mem fun own => own.1 _ rfl)
  transient m res answered := tried.transient m res (answered_idle idle answered)

omit [Host] in
theorem Tried.did {attempt : Nat} {s : State} {d : Deed} (tried : Tried sc.trace i n attempt)
    (signs : ∀ m issuedAtMs, d = .signing n m issuedAtMs → m ≤ attempt) :
    Tried (sc.did i (s, [d])).trace i n attempt where
  later m issuedAtMs mem := by
    rcases List.mem_append.mp mem with mem | mem
    · exact tried.later m issuedAtMs mem
    · cases List.mem_singleton.mp mem
      exact signs m issuedAtMs rfl
  transient m res answered := tried.transient m res answered.did

omit [Host] in
theorem Attempts.signed {attempt : Nat} {t : ℚ} {s : State}
    (attempts : Attempts opts sc.trace i n attempt) :
    Tried (sc.did i (s, [.signing n attempt t])).trace i n attempt := by
  have tried : Tried sc.trace i n attempt :=
    ⟨fun m t mem => (attempts.later m t mem).le, attempts.transient⟩
  refine tried.did ?_
  intro m t same
  cases same
  exact Nat.le_refl _

omit [Host] in
/-- An entry of the call's own attempts, after the wait for an answer. -/
theorem Waited.before {q : Ask} {a : Except Thrown q.Answer} (waited : Waited i q a sc sc')
    {e : SessionEntry} (mem : e ∈ sc'.trace) (own : ¬Idle i e) :
    e ∈ sc.trace ∨ e = .got i q a := by
  obtain ⟨later, same, others⟩ := waited
  rw [same, ← List.append_assoc] at mem
  rcases List.mem_append.mp mem with mem | mem
  · rcases List.mem_append.mp mem with mem | mem
    · exact .inl mem
    · exact absurd (idle_of_other (others e mem)) own
  · exact .inr (List.mem_singleton.mp mem)

omit [Host] in
theorem Waited.answered {q : Ask} {a : Except Thrown q.Answer} (waited : Waited i q a sc sc')
    {attempt : Nat} {res : Response} (answered : Answered sc'.trace i n attempt res) :
    Answered sc.trace i n attempt res ∨
      ∃ body, (Entry.got i q a : SessionEntry) = .got i (.register n attempt body) (.ok res) := by
  obtain ⟨later, same, others⟩ := waited
  rw [same] at answered
  have none (body : SolverRegistration) (sentAtMs : ℚ) :
      Entry.did i (.posted n attempt body sentAtMs) ∉ later ++ [.got i q a] := by
    intro mem
    rcases List.mem_append.mp mem with mem | mem
    · exact others _ mem rfl
    · cases List.mem_singleton.mp mem
  rcases answered.split none with answered | ⟨body, mem⟩
  · exact .inl answered
  · rcases List.mem_append.mp mem with mem | mem
    · exact absurd rfl (others _ mem)
    · exact .inr ⟨body, (List.mem_singleton.mp mem).symm⟩

omit [Host] in
theorem Waited.bodyRead {sc₁ sc₂ : SessionScene} {s : State} {attempt : Nat}
    {body : SolverRegistration} {sentAtMs : ℚ} {res : Response} {raw : Value}
    (responded : Waited i (.register n attempt body) (.ok res)
      (sc.did i (s, [.posted n attempt body sentAtMs])) sc₁)
    (waited : Waited i .json (.ok raw) sc₁ sc₂) :
    BodyRead sc₂.trace i n attempt body sentAtMs res raw := by
  obtain ⟨between, same, -⟩ := responded
  obtain ⟨later, same', others⟩ := waited
  refine ⟨sc.trace ++ [.did i (.posted n attempt body sentAtMs)] ++ between, later, ?_, ?_, others⟩
  · rw [same', same, Scene.did_trace]
    simp
  · simp

omit [Host] in
theorem Tried.thrown {attempt m : Nat} {body : SolverRegistration} {err : Thrown}
    (tried : Tried sc.trace i n attempt)
    (waited : Waited i (.register n m body) (.error err) sc sc') :
    Tried sc'.trace i n attempt := by
  constructor
  · intro m t mem
    rcases waited.before mem fun idle => idle.1 _ rfl with mem | same
    · exact tried.later m t mem
    · cases same
  · intro m res answered
    rcases waited.answered answered with answered | ⟨body', same⟩
    · exact tried.transient m res answered
    · cases same

omit [Host] in
theorem Tried.told {attempt : Nat} {body : SolverRegistration} {res : Response}
    {sentAtMs : ℚ} {s : State}
    (tried : Tried (sc.did i (s, [.posted n attempt body sentAtMs])).trace i n attempt)
    (waited : Waited i (.register n attempt body) (.ok res)
      (sc.did i (s, [.posted n attempt body sentAtMs])) sc') :
    Told sc'.trace i n attempt res := by
  refine ⟨?_, ?_, ?_⟩
  · intro m t mem
    rcases waited.before mem fun idle => idle.1 _ rfl with mem | same
    · exact tried.later m t mem
    · cases same
  · intro m other answered
    rcases waited.answered answered with answered | ⟨body', same⟩
    · exact .inl (tried.transient m other answered)
    · cases same
      exact .inr rfl
  · obtain ⟨later, same, -⟩ := waited
    refine ⟨body, sentAtMs, sc.trace, later ++ [.got i (.register n attempt body) (.ok res)], ?_,
      List.mem_append_right _ (List.mem_singleton_self _)⟩
    rw [same]
    exact List.append_assoc _ _ _

omit [Host] in
theorem Told.idle {attempt : Nat} {res : Response} (told : Told sc.trace i n attempt res)
    (idle : Grows (Idle i) sc sc') : Told sc'.trace i n attempt res where
  later m issuedAtMs mem := told.later m issuedAtMs (idle.mem_before mem fun own => own.1 _ rfl)
  known m other answered := told.known m other (answered_idle idle answered)
  answered := told.answered.grows idle

omit [Host] in
theorem Told.harmless {attempt : Nat} {res : Response} (told : Told trace i n attempt res)
    (fine : ¬Permanent res) (m : Nat) (other : Response) (answered : Answered trace i n m other) :
    ¬Permanent other := by
  rcases told.known m other answered with transient | rfl
  · exact transient.harmless
  · exact fine

/-- A transient answer lets the next attempt follow, where one is left. -/
theorem Told.next {attempt : Nat} {res : Response} (told : Told sc.trace i n attempt res)
    (flying : Flying opts i n sc₀ sc) (transient : Transient res)
    (left : attempt + 1 ≤ opts.attempts) : Attempts opts sc.trace i n (attempt + 1) where
  owns := flying.owns
  flies := flying.flies
  first := Nat.le_add_left 1 attempt
  last := left
  later m issuedAtMs mem := Nat.lt_succ_of_le (told.later m issuedAtMs mem)
  transient m other answered := by
    rcases told.known m other answered with transient | rfl
    · exact transient
    · exact transient
  answered := .inr ⟨res, told.answered⟩

omit [Host] in
/-- After a refusal: the code the venue's answer comes to. -/
theorem Told.refused {attempt : Nat} {res : Response} {code : String} {detail : Text}
    (told : Told trace i n attempt res) :
    Ends trace i n (.error (.refused code (some res.status) detail)) where
  installed := nofun
  refused m other answered permanent := by
    rcases told.known m other answered with transient | rfl
    · exact absurd permanent transient.harmless
    · exact .inl ⟨code, detail, rfl⟩

omit [Host] in
/-- An answer whose body could not be read. -/
theorem Ends.unread {err : Thrown} (read : Entry.got i .text (.error err) ∈ trace) :
    Ends trace i n (.error err) where
  installed := nofun
  refused _ _ _ _ := .inr ⟨err, read, rfl⟩

theorem attemptOnce_safe {attempt : Nat} (attempts : Attempts opts sc.trace i n attempt)
    (flying : Flying opts i n sc₀ sc) (again : Option (Code SolverRegistrationResult))
    (next : ∀ code, again = some code → attempt + 1 ≤ opts.attempts ∧
      ∀ sc', Flying opts i n sc₀ sc' → Attempts opts sc'.trace i n (attempt + 1) →
        Safe (kept opts) i code
          (fun r sc'' => Flying opts i n sc₀ sc'' ∧ Ends sc''.trace i n r) sc') :
    Safe (kept opts) i (attemptOnce opts n attempt again)
      (fun r sc' => Flying opts i n sc₀ sc' ∧ Ends sc'.trace i n r) sc := by
  unfold attemptOnce
  refine .bind ((bondOf_safe flying).mono ?_)
  rintro (err | bond) sc₁ ⟨flying, idle⟩
  · refine ⟨flying, .of_error fun m res answered => ?_⟩
    exact (attempts.transient m res (answered_idle idle answered)).harmless
  have attempts : Attempts opts sc₁.trace i n attempt := attempts.idle flying idle
  refine .bind (flying.now fun sc₂ flying same issuedAtMs => ?_)
  rw [← same] at attempts
  have signs := flying.did (s := sc₂.shared) (d := .signing n attempt issuedAtMs) attempts
    trivial nofun rfl ⟨rfl, rfl, rfl⟩
  refine .bind (.keeps_doing fun _ => ⟨signs.inv, ?_⟩)
  have tried := attempts.signed (t := issuedAtMs) (s := sc₂.shared)
  refine .bind ((signs.await (.signRegistration bond issuedAtMs)).mono ?_)
  rintro (err | signature) sc₃ ⟨flying, waited⟩
  · have tried := tried.idle (waited.idle nofun)
    exact ⟨flying, .of_error fun m res answered => (tried.transient m res answered).harmless⟩
  have tried := tried.idle (waited.idle nofun)
  refine .bind (flying.now fun sc₄ flying same sentAtMs => ?_)
  rw [← same] at tried
  have afresh : SignedAfresh sc₄.trace i n attempt
      ⟨opts.solverId, bond.chainId, bond.address, issuedAtMs, signature⟩ := by
    obtain ⟨later, grown, others⟩ := waited
    refine ⟨sc₂.trace, later ++ [.got i (.signRegistration bond issuedAtMs) (.ok signature)], ?_,
      List.mem_append_right _ (List.mem_singleton_self _), ?_⟩
    · rw [same, grown]
      exact List.append_assoc _ _ _
    · intro m other t mem
      rcases List.mem_append.mp mem with mem | mem
      · exact others _ mem rfl
      · cases List.mem_singleton.mp mem
  have posts := flying.did (s := sc₄.shared) (d := .posted n attempt _ sentAtMs) ⟨afresh, rfl⟩
    trivial nofun rfl ⟨rfl, rfl, rfl⟩
  refine .bind (.keeps_doing fun _ => ⟨posts.inv, ?_⟩)
  have tried := tried.did (s := sc₄.shared) (d := .posted n attempt
    ⟨opts.solverId, bond.chainId, bond.address, issuedAtMs, signature⟩ sentAtMs) nofun
  refine .bind ((posts.await (.register n attempt _)).mono ?_)
  rintro (err | res) sc₅ ⟨flying, waited⟩
  · have tried := tried.thrown waited
    exact ⟨flying, .of_error fun m res answered => (tried.transient m res answered).harmless⟩
  have told := tried.told waited
  have responded := waited
  dsimp only
  split
  next ok =>
    have fine : ¬Permanent res := by
      rintro ⟨above, -⟩
      simp only [Response.ok, Bool.and_eq_true, decide_eq_true_eq] at ok
      omega
    refine .bind ((flying.await .json).mono ?_)
    rintro (err | raw) sc₆ ⟨flying, waited⟩
    · exact ⟨flying, .of_error ((told.idle (waited.idle nofun)).harmless fine)⟩
    have idle : Grows (Idle i) sc₅ sc₆ := waited.idle nofun
    exact accept_safe flying ⟨⟨attempt, _, res, responded.bodyRead waited, ok⟩,
      (told.idle idle).harmless fine⟩
  refine .bind ((readError_safe flying res).mono ?_)
  rintro (err | ⟨code, detail⟩) sc₆ ⟨flying, idle, read⟩
  · exact ⟨flying, .unread (read err rfl)⟩
  have told := told.idle idle
  dsimp only
  split
  next transient =>
    refine .bind (flying.now fun sc₇ flying same nowMs => ?_)
    rw [← same] at told
    dsimp only
    split
    · exact ⟨flying, .of_error (told.harmless (Transient.harmless transient))⟩
    next code' =>
      obtain ⟨left, safe⟩ := next code' rfl
      refine .bind ((flying.await (.sleep _)).mono ?_)
      rintro (err | ⟨⟩) sc₈ ⟨flying, waited⟩
      · have told := told.idle (waited.idle nofun)
        exact ⟨flying, .of_error (told.harmless (Transient.harmless transient))⟩
      · exact safe sc₈ flying ((told.idle (waited.idle nofun)).next flying transient left)
  next lasting =>
    split
    · exact ⟨flying, told.refused⟩
    next other =>
      refine ⟨flying, .of_error (told.harmless ?_)⟩
      rintro ⟨above, below, -⟩
      exact other ⟨above, below⟩

/-- A registration's attempts, from one on. -/
theorem attemptFrom_safe (left : Nat) {attempt : Nat} (counted : attempt + left = opts.attempts)
    (attempts : Attempts opts sc.trace i n attempt) (flying : Flying opts i n sc₀ sc) :
    Safe (kept opts) i (attemptFrom opts n left)
      (fun r sc' => Flying opts i n sc₀ sc' ∧ Ends sc'.trace i n r) sc := by
  induction left generalizing attempt sc with
  | zero =>
    obtain rfl : attempt = opts.attempts := counted
    exact attemptOnce_safe attempts flying none nofun
  | succ left ih =>
    obtain rfl : attempt = opts.attempts - (left + 1) := by omega
    refine attemptOnce_safe attempts flying _ ?_
    intro code same
    cases same
    exact ⟨by omega, fun sc' flying attempts => ih (by omega) attempts flying⟩

omit [Host] in
theorem Ends.idle {outcome : Except Thrown SolverRegistrationResult}
    (ends : Ends sc.trace i n outcome) (idle : Grows (Idle i) sc sc') :
    Ends sc'.trace i n outcome where
  installed result same := by
    obtain ⟨held, sentAtMs, mem, here⟩ := ends.installed result same
    exact ⟨held, sentAtMs, idle.mem mem, here⟩
  refused attempt res answered permanent := by
    refine (ends.refused attempt res (answered_idle idle answered) permanent).imp_right fun h => ?_
    obtain ⟨err, mem, same⟩ := h
    exact ⟨err, idle.mem mem, same⟩

omit [Host] in
theorem got_idle {q : Ask} {a : Except Thrown q.Answer}
    (other : ∀ m attempt body, q ≠ .register m attempt body) :
    Grows (Idle i) sc (sc.got i q a) := by
  refine ⟨[.got i q a], rfl, fun e mem => ?_⟩
  rw [List.mem_singleton.mp mem]
  refine ⟨nofun, ?_⟩
  intro m attempt body a' same
  cases same
  exact other m attempt body rfl

/-! ## Tokens -/

/-- What the call was told since, while it sent nothing. -/
def Since (i : Nat) (told : Trace → Prop) (sc sc' : SessionScene) : Prop :=
  ∃ later, sc'.trace = sc.trace ++ later ∧ (∀ e ∈ later, Quiet i e) ∧ told later

/-- A registration has ended, with this result where there is one. -/
def Gave (r : Except Thrown SolverRegistrationResult) (later : Trace) : Prop :=
  ∀ result, r = .ok result → ∃ j n, Entry.did j (.flown n (.ok result)) ∈ later

/-- A registration that starts now has no attempt behind it. -/
theorem Inv.attempts (inv : Inv opts sc)
    (launched : Inv opts (sc.did i (sc.shared.launched, [.registering sc.shared.flights]))) :
    Attempts opts (sc.did i (sc.shared.launched, [.registering sc.shared.flights])).trace i
      sc.shared.flights 1 := by
  have unsigned (m : Nat) (t : ℚ) : Entry.did i (.signing sc.shared.flights m t) ∉ sc.trace := by
    intro mem
    obtain ⟨before, after, same, attempts⟩ := inv.law.at mem
    have owned : Owns sc.trace i sc.shared.flights := by
      unfold Owns
      rw [same]
      exact List.mem_append_left _ attempts.owns
    exact absurd (inv.counted i _ owned).1 (Nat.lt_irrefl _)
  have unanswered (m : Nat) (res : Response) :
      ¬Answered sc.trace i sc.shared.flights m res := by
    rintro ⟨body, sentAtMs, a, b, same, -⟩
    obtain ⟨⟨c, d, here, -⟩, -⟩ := inv.law a i _ b same
    refine unsigned m body.issuedAtMs ?_
    rw [same, here]
    simp
  refine ⟨?_, (launched.flies _ rfl).2, Nat.le_refl 1, ?_, ?_, ?_, .inl rfl⟩
  · exact List.mem_append_right _ (List.mem_singleton_self _)
  · unfold SolverSessionOptions.attempts
    omega
  · intro m t mem
    rcases List.mem_append.mp mem with mem | mem
    · exact absurd mem (unsigned m t)
    · cases List.mem_singleton.mp mem
  · intro m res answered
    exact absurd answered.did (unanswered m res)

theorem register_safe (inv : Inv opts sc) (asks : Asks sc.trace i) :
    Safe (kept opts) i (register opts)
      (fun r sc' => Inv opts sc' ∧ Since i (Gave r) sc sc') sc := by
  unfold register
  refine .bind (.keeps_get inv ?_)
  dsimp only
  split
  next n flight =>
    have flies := inv.flies n flight
    have joined := inv.did (i := i) (s := sc.shared) (d := .joined n) flies trivial rfl
      ⟨rfl, rfl, rfl⟩
    refine .bind (.keeps_doing fun _ => ⟨joined, ?_⟩)
    refine .keeps_await fun sc₂ inv₂ grows a answers _ => ⟨inv₂.got _ _, ?_⟩
    have quiet : Grows (Quiet i) sc (sc.did i (sc.shared, [.joined n])) := did_quiet nofun
    have quiet : Grows (Quiet i) sc (sc₂.got i (.flight n) a) :=
      quiet.trans ((quiet_of_others grows).trans (got_quiet _ _))
    obtain ⟨later, same, quiet⟩ := quiet
    refine ⟨later, same, quiet, ?_⟩
    rintro result rfl
    obtain ⟨j, flown⟩ := inv₂.settled n _ answers
    have flown : Entry.did j (.flown n (.ok result)) ∈ (sc₂.got i (.flight n) (.ok result)).trace :=
      List.mem_append_left _ flown
    rw [same] at flown
    rcases List.mem_append.mp flown with early | late
    · exact absurd ⟨j, _, early⟩ flies.2
    · exact ⟨j, n, late⟩
  next idle =>
    have launched := inv.launched idle asks
    have attempts := inv.attempts launched
    refine .bind (.keeps_doing fun _ => ⟨launched, ?_⟩)
    have flying : Flying opts i sc.shared.flights sc
        (sc.did i (sc.shared.launched, [.registering sc.shared.flights])) :=
      ⟨launched, attempts.owns, attempts.flies, did_quiet nofun⟩
    have counted : 1 + (opts.attempts - 1) = opts.attempts := by
      have := attempts.last
      omega
    refine .bind (.attempt ((attemptFrom_safe _ counted attempts flying).mono ?_))
    rintro outcome sc₁ ⟨flying, ends⟩
    refine .bind (.keeps_await fun sc₂ inv₂ grows a turn _ => ?_)
    obtain rfl : a = .ok () := turn
    have flying := (flying.later inv₂ grows).got .turn (.ok ())
    have idle : Grows (Idle i) sc₁ (sc₂.got i .turn (.ok ())) := 
      (idle_of_others grows).trans (got_idle nofun)
    have landed := flying.inv.landed flying.owns flying.flies (ends.idle idle)
    refine .bind (.keeps_doing fun _ => ⟨landed, ?_⟩)
    refine .bind (.keeps_await fun sc₃ inv₃ grows a turn _ => ?_)
    obtain rfl : a = .ok () := turn
    refine .ofExcept ⟨inv₃.got _ _, ?_⟩
    obtain ⟨early, same, quiet⟩ := flying.since
    obtain ⟨later, same', quiet'⟩ := (quiet_of_others grows).trans (got_quiet .turn (.ok ()))
    refine ⟨early ++ .did i (.flown sc.shared.flights outcome) :: later, ?_, ?_, ?_⟩
    · rw [same', Scene.did_trace, same]
      simp
    · intro e mem
      rcases List.mem_append.mp mem with mem | mem
      · exact quiet e mem
      rcases List.mem_cons.mp mem with rfl | mem
      · intro token same
        cases same
      · exact quiet' e mem
    · rintro result rfl
      exact ⟨i, _, List.mem_append_right _ List.mem_cons_self⟩

omit [Host] in
theorem heldAt_installed {held : Held} (holds : heldAt trace = some held) :
    ∃ j n sentAtMs, Entry.did j (.installed n held sentAtMs) ∈ trace := by
  induction trace using List.reverseRecOn generalizing held with
  | nil => cases holds
  | append_singleton trace e ih =>
    have early (holds : heldAt trace = some held) :
        ∃ j n sentAtMs, Entry.did j (.installed n held sentAtMs) ∈ trace ++ [e] := by
      obtain ⟨j, n, sentAtMs, mem⟩ := ih holds
      exact ⟨j, n, sentAtMs, List.mem_append_left _ mem⟩
    rw [heldAt_snoc] at holds
    cases e with
    | got j q a => exact early holds
    | did j deed =>
      cases deed with
      | installed n next sentAtMs =>
        obtain rfl : next = held := Option.some.inj holds
        exact ⟨j, n, sentAtMs, List.mem_append_right _ (List.mem_singleton_self _)⟩
      | dropped => cases holds
      | _ => exact early holds

/-- A token that a call was told is a registered one. -/
theorem SessionLaw.registered (law : SessionLaw opts trace) {later : Trace} {token : String}
    (obtained : Obtained i later token) (part : ∀ e ∈ later, e ∈ trace) :
    Registered trace token := by
  rcases obtained with ⟨held, nowMs, mem, rfl⟩ | ⟨j, n, result, mem, rfl⟩
  · obtain ⟨before, after, same, holds, -⟩ := law.at (part _ mem)
    obtain ⟨j, n, sentAtMs, installed⟩ := heldAt_installed holds
    refine ⟨j, n, held, sentAtMs, ?_, rfl⟩
    rw [same]
    exact List.mem_append_left _ installed
  · obtain ⟨before, after, same, -, -, ends⟩ := law.at (part _ mem)
    obtain ⟨held, sentAtMs, installed, rfl⟩ := ends.installed result rfl
    refine ⟨j, n, held, sentAtMs, ?_, rfl⟩
    rw [same]
    exact List.mem_append_left _ installed

/-- Once no held token will do, a registration gives one. -/
theorem due_safe {nowMs : Option ℚ} (inv : Inv opts sc)
    (due : Lawful opts sc.trace i (.due nowMs)) :
    Safe (kept opts) i
      (do Async.doing id [.due nowMs]; let result ← register opts; pure result.sessionToken)
      (fun r sc' => Inv opts sc' ∧
        Since i (fun later => ∀ t, r = .ok t → Obtained i later t) sc sc') sc := by
  have comes := inv.did (s := sc.shared) due trivial rfl ⟨rfl, rfl, rfl⟩
  refine .bind (.keeps_doing fun _ => ⟨comes, ?_⟩)
  refine .bind ((register_safe comes (.inr ⟨nowMs, by simp⟩)).mono ?_)
  rintro r sc' ⟨inv, later, grown, quiet, gave⟩
  have since (told : Trace → Prop) (h : told (.did i (.due nowMs) :: later)) :
      Since i told sc sc' := by
    refine ⟨.did i (.due nowMs) :: later, ?_, ?_, h⟩
    · rw [grown]
      exact List.append_assoc _ _ _
    · intro e mem
      rcases List.mem_cons.mp mem with rfl | mem
      · intro token same
        cases same
      · exact quiet e mem
  cases r with
  | error err => exact ⟨inv, since _ nofun⟩
  | ok result =>
    refine ⟨inv, since _ ?_⟩
    intro t same
    obtain rfl : result.sessionToken = t := Except.ok.inj same
    obtain ⟨j, n, flown⟩ := gave result rfl
    exact .inr ⟨j, n, result, List.mem_cons_of_mem _ flown, rfl⟩

theorem token_safe (inv : Inv opts sc) :
    Safe (kept opts) i (token opts) (fun r sc' => Inv opts sc' ∧
      Since i (fun later => ∀ t, r = .ok t → Obtained i later t) sc sc') sc := by
  unfold token
  refine .bind (.keeps_get inv ?_)
  dsimp only
  split
  next held current =>
    have holds : heldAt sc.trace = some held := by rw [← inv.holds, current]
    have ticked := inv.ticked (i := i)
    have same : (sc.did i (sc.shared.ticked, [])).trace = sc.trace := by simp
    refine .bind (.keeps fun _ => ⟨ticked, ?_⟩)
    change Safe _ _ (if _ then _ else _) _ _
    split
    next early =>
      have used := ticked.did (i := i) (s := sc.shared.ticked)
        (d := .used held (sc.shared.clock 0)) ⟨by rw [same]; exact holds, early⟩ trivial rfl
        ⟨rfl, rfl, rfl⟩
      refine .bind (.keeps_doing fun _ => ⟨used, used, ?_⟩)
      refine ⟨[.did i (.used held (sc.shared.clock 0))], by simp, ?_, ?_⟩
      · intro e mem token same
        rw [List.mem_singleton.mp mem] at same
        cases same
      · intro t here
        exact .inl ⟨held, _, List.mem_singleton_self _, Except.ok.inj here⟩
    next late =>
      have due : Lawful opts (sc.did i (sc.shared.ticked, [])).trace i
          (.due (some (sc.shared.clock 0))) := by
        intro other holds'
        rw [same, holds] at holds'
        cases holds'
        exact ⟨_, rfl, not_lt.mp late⟩
      have safe := due_safe ticked due
      unfold Since at safe ⊢
      rw [same] at safe
      exact safe
  next current =>
    refine due_safe inv ?_
    intro held holds
    rw [← inv.holds, current] at holds
    cases holds

theorem invalidate_safe (inv : Inv opts sc) (token : String) :
    Safe (kept opts) i (invalidate token) (fun _ sc' => Inv opts sc' ∧
      ∃ forgets, sc'.trace = sc.trace ++ [.did i forgets] ∧
        (forgets = .dropped token ∨ forgets = .kept token)) sc := by
  unfold invalidate
  refine .bind (.keeps_get inv ?_)
  dsimp only
  split
  next same =>
    obtain ⟨held, current, rfl⟩ := Option.map_eq_some_iff.mp same
    have dropped := inv.did (i := i) (s := { sc.shared with current := none })
      (d := .dropped held.result.sessionToken) ⟨held, by rw [← inv.holds, current], rfl⟩ trivial rfl
      ⟨rfl, rfl, rfl⟩
    exact .keeps_doing fun _ => ⟨dropped, dropped, _, rfl, .inl rfl⟩
  next other =>
    have lawful : Lawful opts sc.trace i (.kept token) := by
      rintro held holds rfl
      rw [inv.holds, holds] at other
      exact other rfl
    have kept := inv.did (i := i) (s := sc.shared) lawful trivial rfl ⟨rfl, rfl, rfl⟩
    exact .keeps_doing fun _ => ⟨kept, kept, _, rfl, .inr rfl⟩

/-! ## Requests -/

omit [Host] in
theorem Unsent.append {later : Trace} (unsent : Unsent i trace) (quiet : ∀ e ∈ later, Quiet i e) :
    Unsent i (trace ++ later) := by
  intro token mem
  rcases List.mem_append.mp mem with mem | mem
  · exact unsent token mem
  · exact quiet _ mem token rfl

/-- A request goes out, and is answered. -/
theorem send_safe {token : String} (inv : Inv opts sc)
    (lawful : Lawful opts sc.trace i (.sent token)) :
    Safe (kept opts) i (send token) (fun r sc' => Inv opts sc' ∧
      ∃ later, sc'.trace = sc.trace ++ .did i (.sent token) :: later ∧ (∀ e ∈ later, Quiet i e) ∧
        ∀ res, r = .ok res → Entry.got i (.send token) (.ok res) ∈ later) sc := by
  have sent := inv.did (s := sc.shared) lawful trivial rfl ⟨rfl, rfl, rfl⟩
  refine .bind (.keeps_doing fun _ => ⟨sent, ?_⟩)
  refine .keeps_await fun sc' inv grows a _ _ => ⟨inv.got _ _, ?_⟩
  obtain ⟨later, same, quiet⟩ := quiet_of_others grows
  refine ⟨later ++ [.got i (.send token) a], ?_, ?_, ?_⟩
  · rw [Scene.got_trace, same]
    simp
  · intro e mem other same
    rcases List.mem_append.mp mem with mem | mem
    · exact quiet e mem other same
    · rw [List.mem_singleton.mp mem] at same
      cases same
  · rintro res rfl
    exact List.mem_append_right _ (List.mem_singleton_self _)

theorem authed_safe (inv : Inv opts sc) (unsent : Unsent i sc.trace) :
    Safe (kept opts) i (authed opts) (fun _ sc' => Inv opts sc') sc := by
  unfold authed
  refine .bind ((token_safe inv).mono ?_)
  rintro (err | first) sc₁ ⟨inv, later, same, quiet, told⟩
  · exact inv
  have registered : Registered sc₁.trace first := by
    refine inv.law.registered (told first rfl) fun e mem => ?_
    rw [same]
    exact List.mem_append_right _ mem
  have unsent : Unsent i sc₁.trace := by
    rw [same]
    exact unsent.append quiet
  refine .bind ((send_safe inv ⟨registered, .inl unsent⟩).mono ?_)
  rintro (err | res) sc₂ ⟨inv, b, same₂, quiet, answered⟩
  · exact inv
  dsimp only
  split
  · exact inv
  next refused =>
  refine .bind (.keeps_await fun sc₃ inv₃ grows a _ _ => ?_)
  have inv := inv₃.got (i := i) .cancel a
  obtain ⟨c, same₃, quiet₃⟩ := (quiet_of_others grows).trans (got_quiet .cancel a)
  cases a with
  | error err => exact inv
  | ok _ =>
  refine .bind ((invalidate_safe inv first).mono ?_)
  rintro (err | _) sc₄ ⟨inv, forgets, same₄, forgets_first⟩
  · exact inv
  refine .bind ((token_safe inv).mono ?_)
  rintro (err | again) sc₅ ⟨inv, d, same₅, quiet₅, told⟩
  · exact inv
  have registered : Registered sc₅.trace again := by
    refine inv.law.registered (told again rfl) fun e mem => ?_
    rw [same₅]
    exact List.mem_append_right _ mem
  have resends : Resends sc₅.trace i again := by
    refine ⟨first, forgets, sc₁.trace, b ++ c, d, ?_, forgets_first, ?_, ?_, told again rfl⟩
    · rw [same₅, same₄, same₃, same₂]
      simp
    · rw [List.append_assoc]
      refine unsent.append fun e mem => ?_
      rcases List.mem_append.mp mem with mem | mem
      · rcases List.mem_append.mp mem with mem | mem
        · exact quiet e mem
        · exact quiet₃ e mem
      · exact quiet₅ e mem
    · exact ⟨res, List.mem_append_left _ (answered res rfl), not_not.mp refused⟩
  exact (send_safe inv ⟨registered, .inr resends⟩).mono fun _ _ h => h.1

/-! ## Every interleaving -/

theorem call_safe (call : Call) (inv : Inv opts sc) (alone : ∀ e ∈ sc.trace, e.call ≠ i) :
    Safe (kept opts) i (call.code opts) (fun _ _ => True) sc := by
  cases call with
  | token => exact .bind ((token_safe inv).mono fun r _ _ => by cases r <;> trivial)
  | register =>
    have asked := inv.did (i := i) (s := sc.shared) (d := .asked) trivial trivial rfl
      ⟨rfl, rfl, rfl⟩
    refine .bind (.keeps_doing fun _ => ⟨asked, ?_⟩)
    exact .bind ((register_safe asked (.inl (by simp))).mono fun r _ _ => by cases r <;> trivial)
  | invalidate refused => exact (invalidate_safe inv refused).mono fun _ _ _ => trivial
  | request =>
    have unsent : Unsent i sc.trace := fun token mem => alone _ mem rfl
    exact .bind ((authed_safe inv unsent).mono fun r _ _ => by cases r <;> trivial)

theorem upholds : (kept opts).Upholds (fun _ _ _ _ => False) fresh (Inv opts) := by
  refine Discipline.keeping_upholds ?_ ?_ (fun _ _ q a inv _ _ => inv.got q a)
    fun _ _ _ => trivial
  · rintro w s ⟨current, inFlight, flights, outcomes⟩
    refine ⟨?_, current, ?_, ?_, ?_⟩
    · intro a i deed b same
      simp at same
    · intro n flight
      rw [inFlight] at flight
      cases flight
    · intro j n owns
      cases owns
    · intro n outcome mem
      rw [outcomes] at mem
      cases mem
  · rintro - - - - ⟨⟩

theorem SessionRun.inv {threads : List (Code Unit)} (run : SessionRun opts sc threads) :
    Inv opts sc :=
  Pool.sound upholds (fun call _ _ inv alone => call_safe call inv alone) run trivial

/-- In every interleaving of any calls, on any answers and any clock, each deed of the session comes
after what it should come after. -/
theorem session_law {threads : List (Code Unit)} (run : SessionRun opts sc threads) :
    SessionLaw opts sc.trace := run.inv.law

end

/-! ## A sample -/

/-- A host that lowercases ASCII and reads no date. -/
@[reducible] def solverHost : Host where
  toLowerCase s := String.ofList (s.toList.map Char.toLower)
  toUpperCase s := String.ofList (s.toList.map Char.toUpper)
  dateParse _ := none
  numberText := plainNumber
  numberText_injective := plainNumber_injective
  numberText_plain := plainNumber_plain
  bigIntError raw := raw
  sha256 bytes := bytes
  verifyMessage _ _ := .error "invalid signature"

def sampleOptions : SolverSessionOptions where
  solverId := "0x" ++ String.ofList (List.replicate 40 'A')
  bond := some ⟨1, "0xb"⟩
  maxAttempts := some 2
  renewBeforeMs := none
  parseJson _ := none
  capabilitiesBond _ := none

def sampleReputation : Value :=
  .obj [("solverId", .str "s"), ("fillSuccessRate", .ofInt 1), ("noShowRate", .ofInt 0),
    ("medianLatencyMs", .null), ("volumeUsd", .ofInt 0), ("bondUsd", .ofInt 5),
    ("probation", .bool true), ("eligible", .bool true), ("exposureCapUsd", .ofInt 9),
    ("inFlightUsd", .ofInt 0)]

def sampleRegistration (token : String) : Value :=
  .obj [("solverId", .str ("0x" ++ String.ofList (List.replicate 40 'a'))),
    ("sessionToken", .str token), ("expiresAtMs", .ofInt 1000000),
    ("reputation", sampleReputation)]

/-- A fetch is answered with the status, and a body that is read gives the token. -/
def sampleReply (status : Nat) (token : String) : (q : Ask) → Except Thrown q.Answer
  | .capabilities | .register .. | .send _ => .ok ⟨status, none⟩
  | .signRegistration .. => .ok "0x"
  | .json => .ok (sampleRegistration token)
  | .text => .ok []
  | .sleep _ | .turn | .cancel => .ok ()
  | .flight _ => .error .outside

/-- One request: the venue is not ready, then registers, refuses the token and registers again. -/
def sampleMoves : List (Move Ask Ask.Answer Thrown Call Empty) :=
  .call .request :: [(503, ""), (503, ""), (503, ""), (503, ""), (200, ""), (200, ""), (200, "a"),
    (200, ""), (200, ""), (401, ""), (200, ""), (200, ""), (200, ""), (200, "b"), (200, ""),
    (200, ""), (200, "")].map fun (status, token) => .answer 0 (sampleReply status token)

def sampleStart : Stage Unit State Deed Ask Ask.Answer Thrown where
  scene := ⟨[], (), ⟨none, none, 0, [], fun _ => 0⟩⟩
  threads := []

def sentToken : SessionEntry → Option String
  | .did _ (.sent token) => some token
  | _ => none

/-- A microtask comes, and what else is awaited here may be answered in any way. -/
noncomputable instance (w : Unit) (s : State) : (q : Ask) → (a : Except Thrown q.Answer) →
    Decidable (ready w s q a)
  | .flight _, _ => Classical.propDecidable _
  | .turn, .ok () => .isTrue rfl
  | .turn, .error _ => .isFalse fun same => by cases same
  | .capabilities, _ | .signRegistration .., _ | .register .., _ | .json, _ | .text, _
  | .sleep _, _ | .send _, _ | .cancel, _ => .isTrue trivial

noncomputable def sampleSession : Option (Stage Unit State Deed Ask Ask.Answer Thrown) :=
  letI := solverHost
  playAll (Call.code sampleOptions) ready (fun (_ : Empty) w s => (w, s)) sampleMoves sampleStart

/-- The refused token is forgotten, and the request goes out again with a new one. -/
theorem sample_session_law : ∃ stage, sampleSession = some stage ∧
    stage.scene.trace.filterMap sentToken = ["a", "b"] ∧
    @SessionLaw solverHost sampleOptions stage.scene.trace := by
  let _ := solverHost
  have sent : sampleSession.map (fun stage => stage.scene.trace.filterMap sentToken) =
      some ["a", "b"] := by rfl
  obtain ⟨stage, played, tokens⟩ := Option.map_eq_some_iff.mp sent
  have run : SessionRun sampleOptions stage.scene stage.threads :=
    playAll_pool (by intro v; cases v) (.init ⟨rfl, rfl, rfl, rfl⟩) played
  exact ⟨stage, played, tokens, session_law run⟩

end XochiSdk.Solver.Session
