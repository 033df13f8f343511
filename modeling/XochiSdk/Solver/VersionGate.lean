import Mathlib.Data.List.Induction
import XochiSdk.Library.Settling
import XochiSdk.Library.Traces
import XochiSdk.Solver.Client

/-!
# The venue version gate

After a report that re-arms the gate, no event is acted on before the venue has answered a
capabilities read started since with exactly this SDK's version, as long as no report comes
while a read is under way. One that does is forgotten: the flag it sets is cleared as the read
ends. Any other answer is the last thing of a run.
-/

namespace XochiSdk.Solver.Feed

open XochiSdk.Js XochiSdk.Library

abbrev FeedEntry : Type := Entry Deed Ask Ask.Answer Thrown

/-- The venue's answer that passes the gate. -/
def Exact (answer : Except Thrown Value) : Prop := answer = .ok (.str solverRfcVersion)

/-- A report that re-arms the gate. -/
def Rearms (e : FeedEntry) : Prop :=
  ∃ call report, e = .did call (.reported report) ∧ report.rearms = true

/-- What is not taken back: a bid is signed, or the solver's `fill` is called. -/
def Commits (e : FeedEntry) : Prop :=
  (∃ bid, e = .did 0 (.bidSigned bid)) ∨ ∃ award, e = .did 0 (.fillCalled award)

/-- A capabilities read was started and answered exactly. -/
def Answered (trace : Trace) : Prop :=
  ∃ a b c answer, Exact answer ∧
    trace = a ++ .did 0 .readStarted :: (b ++ .got 0 .capabilities answer :: c)

/-- An event was handed to the run. -/
def Delivered (trace : Trace) : Prop :=
  ∃ event, Entry.got 0 .nextEvent (.ok (some event)) ∈ trace

/-- Every report that an event was handed over after has been answered. -/
def Settled (trace : Trace) : Prop :=
  Followed Rearms (fun after => Delivered after → Answered after) trace

/-- The run's last step but for its own turns was an exact answer. -/
def JustRead (trace : Trace) : Prop :=
  ∃ a b answer, Exact answer ∧ trace = a ++ .got 0 .capabilities answer :: b ∧
    ∀ e ∈ b, e.call = 0 → e = .did 0 .cleared ∨ e = .got 0 .resumed (.ok ())

/-- What a run commits to comes after an exact answer to every report its event came after, and
a fill comes directly after one. -/
structure VersionLaw (trace : Trace) : Prop where
  gated : Preceded Commits Settled trace
  filled : Preceded (fun e => ∃ award, e = .did 0 (.fillCalled award)) JustRead trace

/-- What a run throws whose transport has no capabilities read. -/
def unreadable : Thrown :=
  silent ("this transport does not implement getCapabilities(), so nothing can show it " ++
    s!"speaks {solverRfcVersion} (RFC §12)")

/-- What a capabilities read that was answered so ends the run with. -/
def refusal : Except Thrown Value → Option Thrown
  | .error err => some (silent (unread err))
  | .ok advertised => match checkAdvertised advertised with
    | .error err => some err
    | .ok _ => none

/-- The version gate has no window, in a run that has come to the code `p`. -/
structure Gated (opts : Options) (p : Code Unit) (sc : FeedScene) : Prop where
  law : VersionLaw sc.trace
  /-- An answer that is not exact is the last entry: the run takes no further event, does nothing
  more and throws what the answer is refused with. -/
  refused : ∀ answer, .got 0 .capabilities answer ∈ sc.trace → ¬Exact answer →
    ∃ before err, sc.trace = before ++ [.got 0 .capabilities answer] ∧
      refusal answer = some err ∧ p.Settles (.error err)
  /-- Where no read can be made the run takes no event and does nothing, and throws. -/
  unread : opts.hasCapabilities = false → sc.trace = [] ∧ p.Settles (.error unreadable)

/-- A capabilities read, and the gate around it, is under way. -/
def Reading (trace : Trace) : Prop :=
  ∃ a b, trace = a ++ .did 0 .readStarted :: b ∧ Entry.did 0 .cleared ∉ b

/-- No report comes while a read is under way. -/
def Undisturbed : Trace → Prop := Preceded Rearms fun before => ¬Reading before

/-- A run relies on nothing but its own turns, and may be reported to whenever it waits. -/
def discipline : Discipline Unit Listening Deed Ask Ask.Answer Thrown where
  rely _ := Outside
  guar _ sc sc' := VersionLaw sc.trace → VersionLaw sc'.trace
  ready _ _ q a := match q with
    | .resumed => a = .ok ()
    | _ => True
  admits := Undisturbed

/-- A run of a client, on any answers, that has come to the code `p`. -/
def FeedRun (opts : Options) (fuel : Nat) (now : Int) (p : Code Unit) (sc : FeedScene) : Prop :=
  Reaches discipline 0 (run opts fuel)
    { trace := [], world := (), shared := ⟨false, false, now⟩ } p sc

/-! ## Reports -/

theorem Answered.append {trace : Trace} (answered : Answered trace) (later : Trace) :
    Answered (trace ++ later) := by
  obtain ⟨a, b, c, answer, exact, rfl⟩ := answered
  refine ⟨a, b, c ++ later, answer, exact, ?_⟩
  simp only [List.append_assoc, List.cons_append]

/-- A report the run has not answered is one its flag remembers. -/
def Armed (sc : FeedScene) : Prop :=
  sc.shared.versionRecheckPending = false → Followed Rearms Answered sc.trace

/-- Between two events: no report is forgotten. -/
structure Listens (sc : FeedScene) : Prop where
  armed : Armed sc
  law : VersionLaw sc.trace

/-- While an event is acted on. -/
structure Acts (sc : FeedScene) : Prop where
  armed : Armed sc
  settled : Settled sc.trace
  law : VersionLaw sc.trace

theorem Acts.listens {sc : FeedScene} (acts : Acts sc) : Listens sc :=
  ⟨acts.armed, acts.law⟩

theorem VersionLaw.skip {trace : Trace} {e : FeedEntry} (law : VersionLaw trace)
    (other : ¬Commits e) : VersionLaw (trace ++ [e]) where
  gated := law.gated.skip other
  filled := law.filled.skip fun fills => other (.inr fills)

theorem Settled.snoc {trace : Trace} {e : FeedEntry} (held : Settled trace)
    (other : ∀ event, e ≠ .got 0 .nextEvent (.ok (some event))) : Settled (trace ++ [e]) := by
  refine Followed.snoc held ?_ ?_
  · intro after answered ⟨event, mem⟩
    rcases List.mem_append.mp mem with mem | mem
    · exact (answered ⟨event, mem⟩).append _
    · exact absurd (List.mem_singleton.mp mem).symm (other event)
  · rintro - ⟨event, mem⟩
    cases mem

/-- An entry of the run's own that is no report keeps what the flag remembers. -/
theorem Armed.snoc {sc sc' : FeedScene} {e : FeedEntry} (armed : Armed sc)
    (flag : sc'.shared.versionRecheckPending = sc.shared.versionRecheckPending)
    (same : sc'.trace = sc.trace ++ [e]) (other : ¬Rearms e) : Armed sc' := by
  intro quiet
  rw [flag] at quiet
  rw [same]
  exact (armed quiet).snoc (fun b answered => answered.append _) fun now => absurd now other

theorem Report.heard_rearms {report : Report} {s : Listening} (rearms : report.rearms = true) :
    (report.heard s).versionRecheckPending = true := by
  cases report with
  | feedGap reset =>
    have reset : reset = true := rearms
    simp [Report.heard, reset]
  | unknownEvent => rfl

theorem Report.heard_quiet {report : Report} {s : Listening} (rearms : ¬report.rearms = true) :
    report.heard s = s := by
  cases report with
  | feedGap reset =>
    have quiet : reset = false := by simpa [Report.rearms] using rearms
    simp [Report.heard, quiet]
  | unknownEvent => exact absurd rfl rearms

theorem did_reported_not_commits (report : Report) :
    ¬Commits (.did 1 (.reported report)) := by
  rintro (⟨_, same⟩ | ⟨_, same⟩) <;> cases same

theorem Armed.outside {sc sc' : FeedScene} (armed : Armed sc) (outside : Outside sc sc') :
    Armed sc' := by
  induction outside with
  | none => exact armed
  | time _ now ih => exact ih
  | report _ report _ ih =>
    by_cases rearms : report.rearms = true
    · intro quiet
      rw [Scene.did_shared, Report.heard_rearms rearms] at quiet
      cases quiet
    · refine ih.snoc ?_ rfl ?_
      · rw [Scene.did_shared, Report.heard_quiet rearms]
      · rintro ⟨call, other, same, now⟩
        cases same
        exact rearms now

theorem Listens.outside {sc sc' : FeedScene} (listens : Listens sc) (outside : Outside sc sc') :
    Listens sc' := by
  refine ⟨listens.armed.outside outside, ?_⟩
  induction outside with
  | none => exact listens.law
  | time _ _ ih => exact ih
  | report _ report _ ih => exact ih.skip (did_reported_not_commits report)

theorem Acts.outside {sc sc' : FeedScene} (acts : Acts sc) (outside : Outside sc sc') :
    Acts sc' := by
  obtain ⟨armed, law⟩ := acts.listens.outside outside
  refine ⟨armed, ?_, law⟩
  clear armed law
  induction outside with
  | none => exact acts.settled
  | time _ _ ih => exact ih
  | report _ _ _ ih =>
    refine ih.snoc fun event same => ?_
    cases same

/-! ## The gate -/

theorem Answered.prepend {trace : Trace} (answered : Answered trace) (before : Trace) :
    Answered (before ++ trace) := by
  obtain ⟨a, b, c, answer, exact, rfl⟩ := answered
  exact ⟨before ++ a, b, c, answer, exact, by rw [List.append_assoc]⟩

/-- What comes while a read is under way is of the transport's, and re-arms nothing. -/
theorem Outside.quiet {sc sc' : FeedScene} (outside : Outside sc sc') (reading : Reading sc.trace)
    (undisturbed : Undisturbed sc'.trace) :
    ∃ later, sc'.trace = sc.trace ++ later ∧ ∀ e ∈ later, e.call = 1 ∧ ¬Rearms e := by
  induction outside with
  | none => exact ⟨[], by simp, by simp⟩
  | time _ _ ih => exact ih undisturbed
  | @report sc' before report _ ih =>
    obtain ⟨later, same, quiet⟩ := ih undisturbed.early
    have still : Reading sc'.trace := by
      obtain ⟨a, b, here, uncleared⟩ := reading
      refine ⟨a, b ++ later, ?_, ?_⟩
      · rw [same, here, List.append_assoc, List.cons_append]
      · intro mem
        rcases List.mem_append.mp mem with mem | mem
        · exact uncleared mem
        · have := (quiet _ mem).1
          cases this
    refine ⟨later ++ [.did 1 (.reported report)], ?_, ?_⟩
    · rw [Scene.did_trace, same, List.append_assoc]
      rfl
    · intro e mem
      rcases List.mem_append.mp mem with mem | mem
      · exact quiet e mem
      · rw [List.mem_singleton.mp mem]
        exact ⟨rfl, fun rearms => undisturbed.last rearms still⟩

theorem followed_append {trace later : Trace} (answered : Answered later)
    (quiet : ∀ e ∈ later, ¬Rearms e) : Followed Rearms Answered (trace ++ later) := by
  intro a e b same rearms
  rcases List.append_eq_append_iff.mp same with ⟨c, rfl, rest⟩ | ⟨c, rfl, rest⟩
  · refine absurd rearms (quiet e ?_)
    rw [rest]
    simp
  · rcases c with - | ⟨x, c⟩
    · refine absurd rearms (quiet e ?_)
      rw [List.nil_append] at rest
      rw [← rest]
      simp
    · rw [List.cons_append, List.cons.injEq] at rest
      rw [rest.2]
      exact answered.prepend c

theorem followed_quiet {trace later : Trace} (held : Followed Rearms Answered trace)
    (quiet : ∀ e ∈ later, ¬Rearms e) : Followed Rearms Answered (trace ++ later) := by
  induction later using List.reverseRecOn with
  | nil => simpa using held
  | append_singleton later e ih =>
    rw [← List.append_assoc]
    refine Followed.snoc (ih fun e mem => quiet e (List.mem_append_left _ mem)) ?_ ?_
    · exact fun b answered => answered.append _
    · exact fun rearms => absurd rearms (quiet e (by simp))

theorem checkAdvertised_ok {answer : Value} (passed : checkAdvertised answer = .ok ()) :
    Exact (.ok answer) := by
  unfold checkAdvertised at passed
  split at passed
  · split at passed
    · cases passed
    · split at passed
      · cases passed
      · rename_i same
        rw [not_not] at same
        rw [same]
        rfl
  · cases passed

theorem did_not_rearms {deed : Deed} (call : Nat) (other : ∀ report, deed ≠ .reported report) :
    ¬Rearms (.did call deed) := by
  rintro ⟨_, report, same, -⟩
  cases same
  exact other report rfl

theorem got_not_rearms (call : Nat) (q : Ask) (a : Except Thrown q.Answer) :
    ¬Rearms (.got call q a) := by
  rintro ⟨_, _, same, -⟩
  cases same

theorem got_not_commits (q : Ask) (a : Except Thrown q.Answer) : ¬Commits (.got 0 q a) := by
  rintro (⟨_, same⟩ | ⟨_, same⟩) <;> cases same

/-- An exact answer has come, and the flag is still to be cleared. -/
structure Passed (sc : FeedScene) : Prop where
  answered : Followed Rearms Answered sc.trace
  law : VersionLaw sc.trace
  reading : Reading sc.trace
  just : JustRead sc.trace

theorem Passed.outside {sc sc' : FeedScene} (passed : Passed sc) (outside : Outside sc sc')
    (undisturbed : Undisturbed sc'.trace) : Passed sc' := by
  obtain ⟨later, same, quiet⟩ := outside.quiet passed.reading undisturbed
  have listens : Listens sc := ⟨fun _ => passed.answered, passed.law⟩
  have still := listens.outside outside
  obtain ⟨a, b, here, uncleared⟩ := passed.reading
  obtain ⟨c, d, answer, exact, read, own⟩ := passed.just
  refine ⟨?_, still.law, ?_, ?_⟩
  · rw [same]
    exact followed_quiet passed.answered fun e mem => (quiet e mem).2
  · refine ⟨a, b ++ later, by rw [same, here, List.append_assoc, List.cons_append], ?_⟩
    intro mem
    rcases List.mem_append.mp mem with mem | mem
    · exact uncleared mem
    · cases (quiet _ mem).1
  · refine ⟨c, d ++ later, answer, exact, ?_, ?_⟩
    · rw [same, read, List.append_assoc, List.cons_append]
    · intro e mem mine
      rcases List.mem_append.mp mem with mem | mem
      · exact own e mem mine
      · rw [(quiet e mem).1] at mine
        cases mine

theorem assertVenueRfcVersion_safe (opts : Options) {sc : FeedScene} (listens : Listens sc) :
    Safe discipline 0 (assertVenueRfcVersion opts) (fun r sc => r = .ok () → Passed sc) sc := by
  unfold assertVenueRfcVersion
  cases opts.hasCapabilities with
  | false => intro passed; cases passed
  | true =>
    have plain : ¬Commits (.did 0 .readStarted) := by
      rintro (⟨_, same⟩ | ⟨_, same⟩) <;> cases same
    refine .bind (.doing fun _ => ⟨fun law => law.skip plain, ?_⟩)
    have reading : Reading (sc.did 0 (sc.shared, [.readStarted])).trace :=
      ⟨sc.trace, [], rfl, by simp⟩
    refine .bind (.attempt (.await ?_))
    intro sc₁ outside answer _ undisturbed
    obtain ⟨later, same, quiet⟩ := outside.quiet reading undisturbed.early
    cases answer with
    | error err => intro passed; cases passed
    | ok advertised =>
      refine .ofExcept fun passed => ?_
      have exact := checkAdvertised_ok passed
      have started : Listens (sc.did 0 (sc.shared, [.readStarted])) := by
        refine ⟨?_, listens.law.skip plain⟩
        exact listens.armed.snoc rfl rfl (did_not_rearms 0 (by simp))
      have still := started.outside outside
      have whole : (sc₁.got 0 .capabilities (.ok advertised)).trace =
          sc.trace ++ .did 0 .readStarted :: (later ++ [.got 0 .capabilities (.ok advertised)]) := by
        rw [Scene.got_trace, same, Scene.did_trace]
        simp
      refine ⟨?_, still.law.skip (got_not_commits _ _), ?_, ?_⟩
      · rw [whole]
        refine followed_append ⟨[], later, [], _, exact, rfl⟩ ?_
        intro e mem
        rcases List.mem_cons.mp mem with rfl | mem
        · exact did_not_rearms 0 (by simp)
        rcases List.mem_append.mp mem with mem | mem
        · exact (quiet e mem).2
        · rw [List.mem_singleton.mp mem]
          exact got_not_rearms _ _ _
      · refine ⟨sc.trace, later ++ [.got 0 .capabilities (.ok advertised)], whole, ?_⟩
        intro mem
        rcases List.mem_append.mp mem with mem | mem
        · cases (quiet _ mem).1
        · cases List.mem_singleton.mp mem
      · exact ⟨sc₁.trace, [], _, exact, rfl, by simp⟩

/-- A gate that passes leaves every report answered, and the answer as the run's last step. -/
theorem gate_safe (opts : Options) {sc : FeedScene} (listens : Listens sc) :
    Safe discipline 0 (gate opts)
      (fun r sc => r = .ok () → Acts sc ∧ JustRead sc.trace) sc := by
  unfold gate
  refine .bind ((assertVenueRfcVersion_safe opts listens).mono ?_)
  rintro (err | _) sc passed
  · intro ended; cases ended
  have passed := passed rfl
  refine .bind (.await ?_)
  intro sc₁ outside answer ready undisturbed
  have answer : answer = .ok () := ready
  subst answer
  have passed := passed.outside outside undisturbed.early
  have plain : ¬Commits (.did 0 .cleared) := by
    rintro (⟨_, same⟩ | ⟨_, same⟩) <;> cases same
  refine .doing fun _ => ⟨fun law => law.skip plain, fun _ => ?_⟩
  have answered : Followed Rearms Answered ((sc₁.trace ++ [.got 0 .resumed (.ok ())]) ++
      [.did 0 .cleared]) := by
    rw [List.append_assoc]
    refine followed_quiet passed.answered fun e mem => ?_
    rcases List.mem_cons.mp mem with rfl | mem
    · exact got_not_rearms _ _ _
    · rw [List.mem_singleton.mp mem]
      exact did_not_rearms 0 (by simp)
  obtain ⟨c, d, answer, exact, read, own⟩ := passed.just
  refine ⟨⟨fun _ => answered, answered.imp fun b answered _ => answered, ?_⟩, ?_⟩
  · exact (passed.law.skip (got_not_commits _ _)).skip plain
  · refine ⟨c, d ++ [.got 0 .resumed (.ok ()), .did 0 .cleared], answer, exact, ?_, ?_⟩
    · rw [Scene.did_trace, Scene.got_trace, read]
      simp
    · intro e mem mine
      rcases List.mem_append.mp mem with mem | mem
      · exact own e mem mine
      · simp only [List.mem_cons, List.not_mem_nil, or_false] at mem
        exact mem.symm

/-! ## The run -/

/-- What the run awaits beside the venue's version and its next event. -/
def Ask.plain : Ask → Bool
  | .capabilities | .nextEvent => false
  | _ => true

theorem Acts.got {sc : FeedScene} (acts : Acts sc) (q : Ask) (plain : q.plain = true)
    (a : Except Thrown q.Answer) : Acts (sc.got 0 q a) := by
  refine ⟨?_, ?_, acts.law.skip (got_not_commits q a)⟩
  · exact acts.armed.snoc rfl rfl (got_not_rearms 0 q a)
  · refine acts.settled.snoc fun event same => ?_
    cases same
    cases plain

theorem Acts.ask {sc : FeedScene} (acts : Acts sc) (q : Ask) (plain : q.plain = true) :
    Safe discipline 0 (ask q) (fun _ => Acts) sc :=
  .await fun _ outside a _ _ => (acts.outside outside).got q plain a

/-- A commitment, once its law is met. -/
theorem Acts.commits {sc : FeedScene} (acts : Acts sc) {deed : Deed}
    (fills : (∃ award, deed = .fillCalled award) → JustRead sc.trace)
    (own : ∀ report, deed ≠ .reported report) :
    Safe discipline 0 (Async.doing id [deed]) (fun _ => Acts) sc := by
  have law : VersionLaw sc.trace → VersionLaw (sc.trace ++ [.did 0 deed]) := by
    intro law
    refine ⟨law.gated.snoc fun _ => acts.settled, law.filled.snoc ?_⟩
    rintro ⟨award, same⟩
    cases same
    exact fills ⟨award, rfl⟩
  refine .doing fun _ => ⟨law, ?_, ?_, law acts.law⟩
  · exact acts.armed.snoc rfl rfl (did_not_rearms 0 own)
  · refine acts.settled.snoc fun event same => ?_
    cases same

theorem Acts.did_nothing {sc : FeedScene} (acts : Acts sc) :
    Acts (sc.did 0 (sc.shared, [])) := by
  have same : (sc.did 0 (sc.shared, [])) = sc := by
    simp [Scene.did]
  rw [same]
  exact acts

theorem handleAnnouncement_safe {sc : FeedScene} (acts : Acts sc)
    (announcement : IntentAnnouncement) :
    Safe discipline 0 (handleAnnouncement announcement) (fun _ => Acts) sc := by
  unfold handleAnnouncement
  refine .bind (.get (fun law => by simpa using law) ?_)
  have acts := acts.did_nothing
  by_cases closed : sc.shared.now ≥ announcement.closesAt
  · simp only [closed, if_true]
    exact acts
  simp only [closed, if_false]
  refine .bind ((acts.ask (.quote announcement) rfl).mono ?_)
  rintro (err | _ | draft) sc acts
  · exact acts
  · exact acts
  refine .bind ((acts.ask (.signBid announcement draft) rfl).mono ?_)
  rintro (err | bid) sc acts
  · exact acts
  refine .bind ((acts.commits ?_ ?_).mono ?_)
  · rintro ⟨award, same⟩
    cases same
  · intro report same
    cases same
  rintro (err | _) sc acts
  · exact acts
  · exact acts.ask (.submitBid bid) rfl

theorem handleAward_safe {sc : FeedScene} (acts : Acts sc) (just : JustRead sc.trace)
    (award : Award) : Safe discipline 0 (handleAward award) (fun _ => Acts) sc := by
  unfold handleAward
  refine .bind ((acts.commits (fun _ => just) ?_).mono ?_)
  · intro report same
    cases same
  rintro (err | _) sc acts
  · exact acts
  refine .bind ((acts.ask (.fill award) rfl).mono ?_)
  rintro (err | receipt) sc acts
  · exact acts
  · exact acts.ask (.submitFill receipt) rfl

theorem act_safe (opts : Options) {sc : FeedScene} (acts : Acts sc) (event : SolverEvent)
    (just : ownAward opts event = true → JustRead sc.trace) :
    Safe discipline 0 (act opts event) (fun _ => Acts) sc := by
  cases event with
  | announcement announcement => exact handleAnnouncement_safe acts announcement
  | award award =>
    unfold act
    by_cases own : isForThisSolver opts award.solverId = true
    · simp only [own, if_true]
      exact handleAward_safe acts (just own) award
    · simp only [own]
      exact acts

/-- An event is acted on with every report before it answered. -/
theorem handleEvent_safe (opts : Options) {sc : FeedScene} (listens : Listens sc)
    (event : SolverEvent) :
    Safe discipline 0 (handleEvent opts event) (fun r sc => r = .ok () → Listens sc) sc := by
  have acting : ∀ {sc : FeedScene}, Acts sc → (ownAward opts event = true → JustRead sc.trace) →
      Safe discipline 0 ((act opts event).orElse fun err =>
        if opts.hasOnError then ask (.onError event) else .throw err)
        (fun r sc => r = .ok () → Listens sc) sc := by
    intro sc acts just
    refine .orElse ((act_safe opts acts event just).mono ?_)
    rintro (err | _) sc acts
    · cases opts.hasOnError with
      | true => exact (acts.ask (.onError event) rfl).mono fun _ _ acts _ => acts.listens
      | false => intro ended; cases ended
    · exact fun _ => acts.listens
  unfold handleEvent
  refine .bind (.get (fun law => by simpa using law) ?_)
  have unchanged : (sc.did 0 (sc.shared, [])) = sc := by simp [Scene.did]
  rw [unchanged]
  by_cases gated : (sc.shared.versionRecheckPending || ownAward opts event) = true
  · simp only [gated, if_true]
    refine .bind ((gate_safe opts listens).mono ?_)
    rintro (err | _) sc passed
    · intro ended; cases ended
    · obtain ⟨acts, just⟩ := passed rfl
      exact acting acts fun _ => just
  · simp only [gated]
    have quiet : sc.shared.versionRecheckPending = false ∧ ownAward opts event = false := by
      simpa using gated
    have answered := listens.armed quiet.1
    refine acting ⟨listens.armed, answered.imp fun b answered _ => answered,
      listens.law⟩ fun own => ?_
    rw [quiet.2] at own
    cases own

theorem events_safe (opts : Options) (fuel : Nat) {sc : FeedScene} (listens : Listens sc) :
    Safe discipline 0 (events opts fuel) (fun _ _ => True) sc := by
  induction fuel generalizing sc with
  | zero => trivial
  | succ fuel ih =>
    unfold events
    refine .bind (.await ?_)
    intro sc₁ outside answer _ _
    obtain ⟨armed, law⟩ := listens.outside outside
    have next : Listens (sc₁.got 0 .nextEvent answer) := by
      exact ⟨armed.snoc rfl rfl (got_not_rearms 0 _ _), law.skip (got_not_commits _ _)⟩
    rcases answer with err | _ | event
    · trivial
    · trivial
    refine .bind ((handleEvent_safe opts next event).mono ?_)
    rintro (err | _) sc listens
    · trivial
    · exact ih (listens rfl)

theorem run_safe (opts : Options) (fuel : Nat) {sc : FeedScene} (listens : Listens sc) :
    Safe discipline 0 (run opts fuel) (fun _ _ => True) sc := by
  have quiet : ∀ (flag : Bool) (sc : FeedScene),
      discipline.guar 0 sc (sc.did 0 ({ sc.shared with subscribed := flag }, [])) := by
    intro flag sc law
    simpa using law
  unfold run
  refine .bind (.doing fun _ => ⟨quiet true sc, ?_⟩)
  have started : Listens (sc.did 0 ({ sc.shared with subscribed := true }, [])) := by
    refine ⟨?_, ?_⟩
    · intro flag
      simpa using listens.armed flag
    · simpa using listens.law
  refine .always (.bind ((gate_safe opts started).mono ?_))
  rintro (err | _) sc passed
  · exact .doing fun _ => ⟨quiet false sc, trivial⟩
  · refine (events_safe opts fuel (passed rfl).1.listens).mono ?_
    intro r sc _
    exact .doing fun _ => ⟨quiet false sc, trivial⟩

theorem VersionLaw.outside {sc sc' : FeedScene} (law : VersionLaw sc.trace)
    (outside : Outside sc sc') : VersionLaw sc'.trace := by
  induction outside with
  | none => exact law
  | time _ _ ih => exact ih
  | report _ report _ ih => exact ih.skip (did_reported_not_commits report)

/-! ## Refused answers -/

/-- The answers that end a run. -/
def stops : (q : Ask) → Except Thrown q.Answer → Option Thrown
  | .capabilities, answer => refusal answer
  | _, _ => none

theorem refusal_some {answer : Except Thrown Value} (other : ¬Exact answer) :
    ∃ err, refusal answer = some err := by
  cases answer with
  | error err => exact ⟨_, rfl⟩
  | ok advertised =>
    unfold refusal
    cases checked : checkAdvertised advertised with
    | error err => exact ⟨err, by simp only [checked]⟩
    | ok _ => exact absurd (checkAdvertised_ok checked) other

theorem assertVenueRfcVersion_heeds (opts : Options) :
    (assertVenueRfcVersion opts).Heeds stops := by
  unfold assertVenueRfcVersion
  cases opts.hasCapabilities with
  | false => trivial
  | true =>
    intro s answer
    refine ⟨?_, ?_⟩
    · intro err stopped
      cases answer with
      | error failure =>
        cases stopped
        exact rfl
      | ok advertised =>
        have refused : refusal (.ok advertised) = some err := stopped
        unfold refusal at refused
        change (Async.ofExcept (checkAdvertised advertised) : Code Unit).Settles (.error err)
        cases checked : checkAdvertised advertised with
        | error other =>
          simp only [checked] at refused
          cases refused
          exact .ofExcept _
        | ok _ =>
          simp only [checked] at refused
          cases refused
    · cases answer with
      | error failure => trivial
      | ok advertised => exact (Async.Settles.ofExcept (checkAdvertised advertised)).heeds

theorem ask_unstopped {q : Ask} (plain : q ≠ .capabilities) : (ask q).Unstopped stops := by
  apply Async.Unstopped.await
  intro a
  cases q with
  | capabilities => exact absurd rfl plain
  | _ => rfl

theorem gate_heeds (opts : Options) : (gate opts).Heeds stops := by
  apply (assertVenueRfcVersion_heeds opts).bind
  intro _
  apply (ask_unstopped (by simp)).heeds.bind
  intro _ s
  trivial

theorem act_unstopped (opts : Options) (event : SolverEvent) :
    (act opts event).Unstopped stops := by
  cases event with
  | announcement announcement =>
    intro s
    by_cases closed : s.now ≥ announcement.closesAt
    · simp only [Async.bind, closed, if_true]
      trivial
    · simp only [Async.bind, closed, if_false]
      apply (ask_unstopped (by simp)).bind
      intro draft
      cases draft with
      | none => trivial
      | some draft =>
        apply (ask_unstopped (by simp)).bind
        intro bid s
        exact ask_unstopped (by simp)
  | award award =>
    unfold act
    by_cases own : isForThisSolver opts award.solverId = true
    · simp only [own, if_true]
      intro s
      apply (ask_unstopped (by simp)).bind
      intro receipt
      exact ask_unstopped (by simp)
    · simp only [own]
      trivial

theorem handleEvent_heeds (opts : Options) (event : SolverEvent) :
    (handleEvent opts event).Heeds stops := by
  -- the gate stands outside of what `onError` catches
  have acting : ((act opts event).orElse fun err =>
      if opts.hasOnError then ask (.onError event) else .throw err).Heeds stops := by
    apply Async.Unstopped.heeds
    apply (act_unstopped opts event).orElse
    intro err
    cases opts.hasOnError with
    | true => exact ask_unstopped (by simp)
    | false => trivial
  intro s
  by_cases gated : (s.versionRecheckPending || ownAward opts event) = true
  · simp only [Async.bind, gated, if_true]
    apply (gate_heeds opts).bind
    intro _
    exact acting
  · simp only [Async.bind, gated]
    exact acting

theorem events_heeds (opts : Options) (fuel : Nat) : (events opts fuel).Heeds stops := by
  induction fuel with
  | zero => trivial
  | succ fuel ih =>
    apply (ask_unstopped (by simp)).heeds.bind
    intro event
    cases event with
    | none => trivial
    | some event =>
      apply (handleEvent_heeds opts event).bind
      intro _
      exact ih

theorem run_heeds (opts : Options) (fuel : Nat) : (run opts fuel).Heeds stops := by
  intro s
  apply Async.Heeds.always
  · apply (gate_heeds opts).bind
    intro _
    exact events_heeds opts fuel
  · exact .modify _

theorem run_unread {opts : Options} (fuel : Nat) (none : opts.hasCapabilities = false) :
    (run opts fuel).Settles (.error unreadable) := by
  apply Async.Settles.bind (.modify _)
  apply Async.Settles.always
  · apply Async.Settles.bind_throw
    apply Async.Settles.bind_throw
    unfold assertVenueRfcVersion
    rw [none]
    exact rfl
  · exact .modify _

theorem Outside.reported {sc sc' : FeedScene} (outside : Outside sc sc') :
    ∃ later, sc'.trace = sc.trace ++ later ∧ ∀ e ∈ later, e.call ≠ 0 := by
  induction outside with
  | none => exact ⟨[], by simp, by simp⟩
  | time _ _ ih => exact ih
  | report _ report _ ih =>
    obtain ⟨later, same, others⟩ := ih
    refine ⟨later ++ [.did 1 (.reported report)], ?_, ?_⟩
    · rw [Scene.did_trace, same, List.append_assoc]
      rfl
    · intro e mem
      rcases List.mem_append.mp mem with mem | mem
      · exact others e mem
      · rw [List.mem_singleton.mp mem]
        simp [Entry.call]

/-- In every run in which no report comes while a capabilities read is under way, the gate has
no window. -/
theorem run_gated (opts : Options) (fuel : Nat) (now : Int) (p : Code Unit) (sc : FeedScene)
    (run : FeedRun opts fuel now p sc) (undisturbed : Undisturbed sc.trace) :
    Gated opts p sc := by
  refine ⟨?_, ?_, ?_⟩
  · have law : VersionLaw [] := ⟨.nil, .nil⟩
    have listens : Listens { trace := [], world := (), shared := ⟨false, false, now⟩ } :=
      ⟨fun _ => .nil, law⟩
    refine (run.sound (fun sc => VersionLaw sc.trace) law (run_safe opts fuel listens) ?_ ?_ ?_ ?_
      undisturbed).1
    · intro sc sc' law guar
      exact guar law
    · intro sc sc' q a law outside
      exact (law.outside outside).skip (got_not_commits q a)
    · intro trace later held
      exact held.early
    · intro sc sc' outside
      obtain ⟨later, same, -⟩ := outside.reported
      exact ⟨later, same⟩
  · intro answer mem other
    obtain ⟨err, refused⟩ := refusal_some other
    have last := (run.heeds (run_heeds opts fuel) (fun _ _ => Outside.reported) (by simp)).2
    obtain ⟨settles, before, same⟩ := last .capabilities answer err mem refused
    exact ⟨before, err, same, refused, settles⟩
  · intro none
    obtain ⟨settles, same⟩ := run.settles (run_unread fuel none)
    exact ⟨same, settles⟩

/-! ## Two runs -/

def sampleOptions : Options where
  solverId := "0xab"
  hasCapabilities := true
  hasOnError := true

def sampleAnswer (event : SolverEvent) (handed : Bool) : (q : Ask) → Except Thrown q.Answer
  | .capabilities => .ok (.str solverRfcVersion)
  | .nextEvent => .ok (if handed then none else some event)
  | .quote _ => .ok (some ⟨"1"⟩)
  | .signBid announcement _ => .ok ⟨announcement.auctionId, "0x1c"⟩
  | .fill award => .ok ⟨award.auctionId⟩
  | .resumed | .submitBid _ | .submitFill _ | .onError _ => .ok ()

/-- One event, and a feed reset reported while the run waits after so many entries. -/
def sampleEnv (event : SolverEvent) (reset : Nat) (sc : FeedScene) :
    FeedScene × ((q : Ask) → Except Thrown q.Answer) :=
  (if sc.trace.length = reset ∧ sc.shared.subscribed = true
    then sc.did 1 ((Report.feedGap true).heard sc.shared, [.reported (.feedGap true)]) else sc,
    sampleAnswer event (sc.trace.any fun e => match e with
      | .got _ .nextEvent _ => true
      | _ => false))

/-- Such a run after so many steps: what is left of it, and its scene. -/
def sampleRun (event : SolverEvent) (reset steps : Nat) : Code Unit × FeedScene :=
  (run sampleOptions 2).drive 0 (sampleEnv event reset) steps
    { trace := [], world := (), shared := ⟨false, false, 0⟩ }

theorem sampleRun_run (event : SolverEvent) (reset steps : Nat) :
    FeedRun sampleOptions 2 0 (sampleRun event reset steps).1 (sampleRun event reset steps).2 := by
  refine Reaches.drive steps ?_ ?_ .start
  · intro sc
    unfold sampleEnv
    split
    · rename_i now
      exact .report (.none sc) (.feedGap true) now.2
    · exact .none sc
  · intro sc q
    cases q with
    | resumed => rfl
    | _ => trivial

def sampleAward : SolverEvent := .award ⟨"a", "0xAB"⟩

def sampleAnnouncement : SolverEvent := .announcement ⟨"a", 10⟩

/-- After a gate nothing is being read. -/
theorem not_reading_cleared (trace : Trace) : ¬Reading (trace ++ [.did 0 .cleared]) := by
  rintro ⟨a, b, same, uncleared⟩
  rcases snoc_split same with ⟨-, other, -⟩ | ⟨b', rfl, -⟩
  · cases other
  · exact uncleared (by simp)

/-- A reset reported while the first capabilities read is out: the announcement after it is bid
on with no read started since. -/
theorem reset_during_read :
    ¬∀ opts fuel now p sc, FeedRun opts fuel now p sc → Gated opts p sc := by
  intro every
  have law := (every sampleOptions 2 0 _ _ (sampleRun_run sampleAnnouncement 1 11)).law
  have commits : Commits (.did 0 (.bidSigned ⟨"a", "0x1c"⟩)) := .inl ⟨_, rfl⟩
  have settled := law.gated
    [.did 0 .readStarted, .did 1 (.reported (.feedGap true)),
      .got 0 .capabilities (.ok (.str solverRfcVersion)), .got 0 .resumed (.ok ()),
      .did 0 .cleared, .got 0 .nextEvent (.ok (some sampleAnnouncement)),
      .got 0 (.quote ⟨"a", 10⟩) (.ok (some ⟨"1"⟩)),
      .got 0 (.signBid ⟨"a", 10⟩ ⟨"1"⟩) (.ok ⟨"a", "0x1c"⟩)] _ [] rfl commits
  have answered := settled [.did 0 .readStarted] (.did 1 (.reported (.feedGap true))) _ rfl
    ⟨1, .feedGap true, rfl, rfl⟩ ⟨sampleAnnouncement, by simp⟩
  obtain ⟨a, b, c, answer, -, same⟩ := answered
  have mem : (Entry.did 0 .readStarted : FeedEntry) ∈ a ++ .did 0 .readStarted ::
      (b ++ .got 0 .capabilities answer :: c) := by simp
  rw [← same] at mem
  simp at mem

/-- A reset reported between two events: the award after it is filled, once the venue has
answered again. -/
theorem run_gated_award :
    Gated sampleOptions (sampleRun sampleAward 4 12).1 (sampleRun sampleAward 4 12).2 := by
  refine run_gated sampleOptions 2 0 _ _ (sampleRun_run sampleAward 4 12) ?_
  have read : Undisturbed [.did 0 .readStarted,
      .got 0 .capabilities (.ok (.str solverRfcVersion)), .got 0 .resumed (.ok ())] :=
    ((Preceded.nil.skip (did_not_rearms 0 (by simp))).skip (got_not_rearms 0 _ _)).skip
      (got_not_rearms 0 _ _)
  have cleared := read.skip (x := .did 0 .cleared) (did_not_rearms 0 (by simp))
  have reported := cleared.snoc (x := .did 1 (.reported (.feedGap true))) fun _ =>
    not_reading_cleared _
  have handed := reported.skip (got_not_rearms 0 .nextEvent (.ok (some sampleAward)))
  have again := ((handed.skip (x := .did 0 .readStarted) (did_not_rearms 0 (by simp))).skip
    (got_not_rearms 0 .capabilities (.ok (.str solverRfcVersion)))).skip
      (got_not_rearms 0 .resumed (.ok ()))
  exact (again.skip (x := .did 0 .cleared) (did_not_rearms 0 (by simp))).skip
    (x := .did 0 (.fillCalled ⟨"a", "0xAB"⟩)) (did_not_rearms 0 (by simp))

end XochiSdk.Solver.Feed
