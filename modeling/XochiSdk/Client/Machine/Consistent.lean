import XochiSdk.Client.Machine.Progress

/-!
# Whether the ceremony stands where the status says

A sign flow, the kept signature and the two pull flags should agree with the status. They do
along every run in which no "Sign 2 of 2" tap starts a flow beside an execute: a prompt timer
that fires late ends the execute's flow and leaves its signature behind for such a tap.
-/

namespace XochiSdk.Client

open XochiSdk.Js XochiSdk.Shared XochiSdk.Signer XochiSdk.Library Emits

/-- Where the ceremony stands, by the status. -/
structure Consistent (m : Model) : Prop where
  executes : ∀ flow, m.sign = some flow → flow.stage = .execute → m.intent.status = .executing
  collects : ∀ flow, m.sign = some flow → flow.stage ≠ .execute → m.intent.status = .signing
  awaits : m.awaitingPull = true → m.intent.status = .signing
  rests : m.intent.status ≠ .signing → m.intent.status ≠ .executing → Unsigned m

/-- The approval before the second signature, and the prompt for it. -/
def Effect.pullLeg : Effect → Bool
  | .wallet (.ensureApproval ..) | .wallet (.signTypedData _ .pull ..) => true
  | _ => false

theorem pullLeg_prompts {e : Effect} (silent : e.prompts = false) : e.pullLeg = false := by
  unfold Effect.pullLeg
  split
  · cases silent
  · cases silent
  · rfl

theorem quiet_pullLeg {fx : List Effect} (quiet : Quiet fx) : ∀ e ∈ fx, e.pullLeg = false := by
  intro e he
  have := quiet e he
  cases e with
  | timer | emit => rfl
  | api | wallet => cases this

theorem Consistent.of_unsigned {m : Model} (h : Unsigned m) : Consistent m where
  executes := fun _ live => by rw [h.sign] at live; cases live
  collects := fun _ live => by rw [h.sign] at live; cases live
  awaits := fun awaits => by rw [h.awaiting] at awaits; cases awaits
  rests := fun _ _ => h

theorem Consistent.congr {m m₁ : Model} (con : Consistent m) (sign : m₁.sign = m.sign)
    (pending : m₁.pendingIntentSig = m.pendingIntentSig)
    (awaiting : m₁.awaitingPull = m.awaitingPull) (signing : m₁.isSigningPull = m.isSigningPull)
    (status : m₁.intent.status = m.intent.status) : Consistent m₁ where
  executes := by rw [sign, status]; exact con.executes
  collects := by rw [sign, status]; exact con.collects
  awaits := by rw [awaiting, status]; exact con.awaits
  rests := by
    rw [status]
    intro away idle
    have rest := con.rests away idle
    exact ⟨sign.trans rest.sign, pending.trans rest.pending, awaiting.trans rest.awaiting,
      signing.trans rest.signing⟩

theorem init_consistent {m : Model} (initial : Initial m) : Consistent m := by
  obtain ⟨config, ctx, hidden, rfl⟩ := initial
  exact .of_unsigned ⟨rfl, rfl, rfl, rfl⟩

section

variable [Host]

/-- A "Sign 2 of 2" tap that starts a flow beside an execute. -/
structure StrayTap (m : Model) (msg : Msg) : Prop where
  executing : m.intent.status = .executing
  taps : Taps msg m
  starts : ∃ pull expected verdict, PinRead m pull expected verdict

variable {wall : WallClock} {cause : Cause} {msg : Msg} {m m' : Model} {fx : List Effect}

theorem Act.consistent (inv : CeremonyInv m) (con : Consistent m) (act : Act wall cause m fx m') :
    Consistent m' := by
  have idle {m₁ : Model} (idle : busy m = false) (sign : m₁.sign = m.sign)
      (pending : m₁.pendingIntentSig = m.pendingIntentSig)
      (awaiting : m₁.awaitingPull = m.awaitingPull)
      (signing : m₁.isSigningPull = m.isSigningPull) : Consistent m₁ := by
    have rest := (unsigned_of_idle inv idle).1
    exact .of_unsigned ⟨sign.trans rest.sign, pending.trans rest.pending,
      awaiting.trans rest.awaiting, signing.trans rest.signing⟩
  cases act
  case executeFailed | executeMoved =>
    exact .of_unsigned (moved_unsigned (answeredExecute_ceremonyInv inv _) _ _)
  case lapsed | returned | revealed | signFailed | delivered | swept =>
    exact .of_unsigned (moved_unsigned inv _ _)
  case cleared | reset | walletReset => exact .of_unsigned ⟨rfl, rfl, rfl, rfl⟩
  case resumed adopts =>
    refine idle ?_ rfl rfl rfl rfl
    rw [busy, (buildResumedState_some adopts).1]
    rfl
  case requoted quotable _ _ | unquoted quotable _ _ => exact idle quotable.1 rfl rfl rfl rfl
  case allocationFailed allocatable => exact idle (idle_of_allocatable allocatable) rfl rfl rfl rfl
  case accepted answered _ _ _ _ _ => exact idle answered.idle rfl rfl rfl rfl
  case stopped _ pending awaits signs =>
    refine ⟨by simp, by simp, fun kept => con.awaits (awaits kept), fun away idle => ?_⟩
    have rest := con.rests away idle
    refine ⟨rfl, pending.elim (fun same => same.trans rest.pending) id, ?_, ?_⟩
    · simpa [rest.awaiting] using awaits
    · simpa [rest.signing] using signs
  all_goals exact con.congr rfl rfl rfl rfl rfl

theorem Ceremony.consistent (inv : CeremonyInv m) (con : Consistent m) (astray : ¬StrayTap m msg)
    (h : Ceremony msg m fx m') :
    Consistent m' ∧ ∀ e ∈ fx, e.pullLeg = true → m.intent.status = .signing := by
  have quietly {fy : List Effect} (quiet : Quiet fy) :
      ∀ e ∈ fy, e.pullLeg = true → m.intent.status = .signing := by
    intro e he leg
    rw [quiet_pullLeg quiet e he] at leg
    cases leg
  have signing {m₁ : Model} (status : m₁.intent.status = .signing)
      (collects : ∀ flow, m₁.sign = some flow → flow.stage ≠ .execute) : Consistent m₁ :=
    ⟨fun flow live stage => absurd stage (collects flow live), fun _ _ _ => status,
      fun _ => status, fun away => absurd status away⟩
  cases h with
  | prompted body held signable current pull typed preflight payout before after =>
    refine ⟨signing rfl (by rintro _ ⟨⟩; simp), fun e he leg => ?_⟩
    rcases List.mem_append.mp he with he | he
    · exact quietly before e he leg
    · rcases List.mem_cons.mp he with rfl | he
      · cases leg
      · exact quietly after e he leg
  | executed live status completes awaits before =>
    refine ⟨⟨by simp, by simp, fun here => ?_, by simp⟩, fun _ _ _ => status⟩
    obtain ⟨stage, kept⟩ := awaits here
    rw [inv.first _ live stage] at kept
    cases kept
  | kept body live stage status signs quiet =>
    exact ⟨signing status (by simp), quietly quiet⟩
  | approvalAsked body live stage status pinned before =>
    exact ⟨signing status (by simp), fun _ _ _ => status⟩
  | tapped taps pinned =>
    rcases taps.status inv with status | executing
    · exact ⟨signing status (by simp [tapFlow]), fun _ _ _ => status⟩
    · exact absurd ⟨executing, taps, _, _, _, pinned⟩ astray
  | tapRefused taps read edge quiet =>
    rcases taps.status inv with status | executing
    · rw [status] at edge
      cases edge
    · exact absurd ⟨executing, taps, _, _, _, read⟩ astray
  | pullPrompted body live stage held after =>
    have status := con.collects _ live (by rw [stage]; decide)
    exact ⟨signing status (by simp), fun _ _ _ => status⟩
  | held body refused live stage out sent own executing certain decision quiet =>
    refine ⟨⟨fun _ _ _ => executing, fun flow live' away => ?_, con.awaits, fun _ away => ?_⟩,
      quietly quiet⟩
    · cases live'
      exact absurd stage away
    · exact absurd executing away
  | resent live sent waits executing bound inTime before =>
    obtain ⟨flow, _, _, live', stage, -, -⟩ := awaitingResend_iff.mp waits
    rw [live] at live'
    cases live'
    refine ⟨⟨fun _ _ _ => executing, fun flow live' away => ?_, con.awaits, fun _ away => ?_⟩,
      fun e he leg => ?_⟩
    · cases live'
      exact absurd stage away
    · exact absurd executing away
    · rcases List.mem_append.mp he with he | he
      · exact quietly before e he leg
      · rw [List.mem_singleton.mp he] at leg
        cases leg

theorem Chain.consistent (inv : Inv m) (con : Consistent m)
    (chain : Chain (Act wall cause) m fx m') : Consistent m' := by
  have held : Inv m' ∧ Consistent m' :=
    chain.invariant (P := fun m => Inv m ∧ Consistent m)
      (fun _ _ _ held act => ⟨act.inv held.1, act.consistent held.1.ceremony held.2⟩) ⟨inv, con⟩
  exact held.2

theorem chain_pullLeg (chain : Chain (Act wall cause) m fx m') : ∀ e ∈ fx, e.pullLeg = false :=
  chain.effects (P := fun _ => True)
    (fun _ _ _ _ act => ⟨trivial, fun e he => pullLeg_prompts (act.effects e he).1⟩) trivial

/-! ## Over a run -/

/-- The step leaves the ceremony where the status says, and its pull leg runs while signing. -/
def KeepsCeremony (m : Model) (_ : Input) (fx : List Effect) (m' : Model) : Prop :=
  Consistent m' ∧ ∀ e ∈ fx, e.pullLeg = true → m.intent.status = .signing

/-- The step is no tap that starts a flow beside an execute. -/
def NoStrayTap (m : Model) (i : Input) (_ : List Effect) (_ : Model) : Prop := ¬StrayTap m i.2

theorem Next.consistent {i : Input} (inv : Inv m) (con : Consistent m) (astray : ¬StrayTap m i.2)
    (next : Next m i fx m') : KeepsCeremony m i fx m' := by
  rcases next.cases inv with ⟨rfl, rfl⟩ | ⟨fy, m₁, fz, stepped, settled, rfl⟩
  · exact ⟨con, by simp⟩
  have received : Inv (receive m i.2) := inv.receive i.1 i.2
  have con' : Consistent (receive m i.2) := con.congr rfl rfl rfl rfl rfl
  have rest : ∀ e ∈ fz, e.pullLeg = false := chain_pullLeg settled
  suffices first : Consistent m₁ ∧ ∀ e ∈ fy, e.pullLeg = true → m.intent.status = .signing by
    refine ⟨Chain.consistent (stepped.inv received) first.1 settled, fun e he leg => ?_⟩
    rcases List.mem_append.mp he with he | he
    · exact first.2 e he leg
    · rw [rest e he] at leg
      cases leg
  rcases stepped with chain | ceremony
  · refine ⟨Chain.consistent received con' chain, fun e he leg => ?_⟩
    rw [chain_pullLeg chain e he] at leg
    cases leg
  · refine ceremony.consistent (m := receive m i.2) received.ceremony con' fun stray => astray ?_
    obtain ⟨pull, expected, verdict, read⟩ := stray.starts
    exact ⟨stray.executing, ⟨stray.taps.body, stray.taps.pending, stray.taps.idle,
      stray.taps.unsigned, stray.taps.preflight⟩, pull, expected, verdict,
      ⟨read.held, read.amount, read.pin⟩⟩

/-- A tap whose pin reads starts its flow where the table has no way back. -/
theorem beginPullSign_reads {pull : Eip712TypedData} {expected : Int}
    {verdict : Option SolverPinRejection} (taps : Taps msg m)
    (read : PinRead m pull expected verdict)
    (edge : canTransitionTo m.intent.status .quoted = false) :
    ∃ x, beginPullSign m msg.now = .ok x ∧
      x.value = { m with isSigningPull := true, seq := m.seq + 1, sign := some (tapFlow m) } := by
  obtain ⟨eip712, typed, amount⟩ := read.amount
  have reads (m₁ : Model) (intent : m₁.intent = m.intent) :
      readAmount (expectedPullAmount m₁ eip712) = .ok expected := by
    rw [← amount, expectedPullAmount, expectedPullAmount, intent]
  unfold beginPullSign
  simp only [taps.pending, read.held, taps.idle, taps.unsigned, taps.preflight]
  unfold completePull
  simp only [read.held, typed, nextId]
  rw [reads { m with isSigningPull := true, seq := m.seq + 1, sign := none } rfl]
  dsimp only
  rw [read.pin]
  cases verdict with
  | none => exact ⟨_, rfl, rfl⟩
  | some rejection =>
    refine ⟨_, rfl, ?_⟩
    rw [value_bind]
    exact (transition_of_no_edge (m := { m with isSigningPull := true, seq := m.seq + 1
                                                sign := some (tapFlow m) }) edge).1

theorem StrayTap.inconsistent {i : Input} (stray : StrayTap m i.2) (next : Next m i fx m') :
    ¬Consistent m' := by
  obtain ⟨pull, expected, verdict, read⟩ := stray.starts
  have taps : Taps i.2 (receive m i.2) := ⟨stray.taps.body, stray.taps.pending, stray.taps.idle,
    stray.taps.unsigned, stray.taps.preflight⟩
  obtain ⟨x, begun, value⟩ := beginPullSign_reads (m := receive m i.2) taps
    ⟨read.held, read.amount, read.pin⟩ (by rw [receive, stray.executing]; rfl)
  have stepped : step i.1 (receive m i.2) i.2 = .ok x := by
    rw [step, stray.taps.body]
    exact begun
  obtain ⟨-, rfl⟩ := next.of_step stepped
  have executing : x.value.intent.status = .executing := by
    rw [value]
    exact stray.executing
  have calm : Calm i.2.now x.value :=
    .of_away (.inr (.inl (by rw [executing]; rfl))) (by rw [executing]; decide)
  have still := settle_still calm
  intro con
  have status := con.collects (tapFlow (receive m i.2)) (by rw [still.sign, value])
    (by simp [tapFlow])
  rw [still.intent, executing] at status
  cases status

theorem run_consistent_of_taps {log : Log} (run : Run Initial (Only Next NoStrayTap) log m) :
    Consistent m := by
  induction run with
  | init initial => exact init_consistent initial
  | step before answered ih =>
    exact (answered.1.consistent (MachineRun.inv before.of_only) ih answered.2).1

/-- The ceremony stands where the status says along a run exactly where none of its taps
starts a flow beside an execute. -/
theorem run_consistent_iff {log : Log} :
    Run Initial (Only Next KeepsCeremony) log m ↔ Run Initial (Only Next NoStrayTap) log m := by
  constructor
  · refine Run.only_mono fun log m i fx m' before next keeps stray => ?_
    exact stray.inconsistent next keeps.1
  · refine Run.only_mono fun log m i fx m' before next astray => ?_
    exact next.consistent (MachineRun.inv before.of_only) (run_consistent_of_taps before) astray

end

/-- A prompt timer that fires late, and then a tap: a flow collects its approval while the
order executes. -/
theorem late_tap_inconsistent :
    letI := plainHost
    ∃ m i, Reachable m ∧ i.2.body = .pullSignRequested ∧
      ¬KeepsCeremony m i (answer m i).1 (answer m i).2 := by
  let _ := plainHost
  obtain ⟨flow, m, executes, pending⟩ := sample_executes
  obtain ⟨m₁, trades, executing, free, kept⟩ := timedOut sampleWall sampleNow executes
  have pinned := trades.pinned sample_pullable
  let i := told sampleWall sampleNow .pullSignRequested
  have stray : StrayTap m₁ i.2 :=
    ⟨executing, ⟨rfl, by rw [kept, pending]; decide, trades.on.untapped, free,
      trades.preflight sample_confirmable⟩, samplePull, 1000, none, pinned⟩
  exact ⟨m₁, i, trades.on.reachable, rfl, fun keeps =>
    stray.inconsistent (next_answer m₁ i) keeps.1⟩

end XochiSdk.Client
