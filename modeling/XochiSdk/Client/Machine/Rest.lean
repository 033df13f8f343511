import XochiSdk.Client.Machine.Runs

/-!
# The rules, and the model at rest

What the reactive rules may change, and what holds of a model between two updates: its poll
runs for the phase it is in, and its account watch has seen the wallet.
-/

namespace XochiSdk.Client

open XochiSdk.Js XochiSdk.Shared XochiSdk.Signer XochiSdk.Library Emits

/-- The intent without what is only noted on it: receipts, errors, and doubts. -/
def IntentState.core (intent : IntentState) : IntentState where
  status := intent.status
  intentId := intent.intentId
  quoteId := intent.quoteId
  quote := intent.quote
  quotedAddress := intent.quotedAddress
  quotedChainId := intent.quotedChainId
  quotedFromAmount := intent.quotedFromAmount
  quotedSettlement := intent.quotedSettlement
  depositDeadline := intent.depositDeadline
  attestedDeposit := intent.attestedDeposit
  mayHaveMoved := intent.mayHaveMoved

/-- Two intents are the same trade, in the same status. -/
def SameTrade (a b : IntentState) : Prop := a.core = b.core

namespace SameTrade

variable {a b c : IntentState}

theorem refl (a : IntentState) : SameTrade a a := rfl

theorem trans (first : SameTrade a b) (second : SameTrade b c) : SameTrade a c :=
  Eq.trans first second

theorem read {α : Type} (h : SameTrade a b) (field : IntentState → α) :
    field a.core = field b.core :=
  congrArg field h

theorem status (h : SameTrade a b) : a.status = b.status :=
  h.read (·.status)

theorem intentId (h : SameTrade a b) : a.intentId = b.intentId :=
  h.read (·.intentId)

theorem quote (h : SameTrade a b) : a.quote = b.quote :=
  h.read (·.quote)

theorem quotedAddress (h : SameTrade a b) : a.quotedAddress = b.quotedAddress :=
  h.read (·.quotedAddress)

theorem quotedChainId (h : SameTrade a b) : a.quotedChainId = b.quotedChainId :=
  h.read (·.quotedChainId)

theorem mayHaveMoved (h : SameTrade a b) : a.mayHaveMoved = b.mayHaveMoved :=
  h.read (·.mayHaveMoved)

/-- One move of both keeps them the same trade. -/
theorem move (h : SameTrade a b) (status : IntentStatus) (mayHaveMoved : Bool) :
    SameTrade { a with status := status, mayHaveMoved := mayHaveMoved }
      { b with status := status, mayHaveMoved := mayHaveMoved } := by
  have moved := h.read fun core =>
    ({ core with status := status, mayHaveMoved := mayHaveMoved } : IntentState)
  exact moved

theorem mark (h : SameTrade a b) (mayHaveMoved : Bool) :
    SameTrade { a with mayHaveMoved := mayHaveMoved }
      { b with mayHaveMoved := mayHaveMoved } := by
  have marked := h.read fun core =>
    ({ core with mayHaveMoved := mayHaveMoved } : IntentState)
  exact marked

end SameTrade

/-- The model a rule leaves. -/
def ruled (rule : Rule) (m : Model) : Model := (rule m).value.getD m

theorem runRules_cons (rule : Rule) (rest : List Rule) (m : Model) :
    (runRules (rule :: rest) m).value.1 = (runRules rest (ruled rule m)).value.1 := by
  unfold ruled
  rw [runRules, value_bind]
  cases (rule m).value with
  | none => rfl
  | some next => rfl

/-- The poll is the one this model runs. -/
def Polls (m : Model) : Prop := m.poll.map (·.key) = pollKey m

theorem pollTick_polls {m : Model} {elapsed : Bool} (polls : Polls m) : Polls (pollTick m elapsed).value := by
  unfold pollTick
  cases polled : m.poll with
  | none => exact polls
  | some poll =>
    unfold Polls at polls ⊢
    rw [polled] at polls
    exact polls

/-- What a poll's key says past its intent. -/
def pollPhase (status : IntentStatus) (waiting : Bool) : String :=
  ":" ++ status.text ++ (if waiting then ":resend" else "")

/-- No phase ends in another, so a key names one intent. -/
theorem pollPhase_suffix (a b : IntentStatus) (v w : Bool)
    (h : (pollPhase a v).toList <:+ (pollPhase b w).toList) : pollPhase a v = pollPhase b w := by
  have all : ∀ a ∈ IntentStatus.all, ∀ v ∈ [true, false], ∀ b ∈ IntentStatus.all,
      ∀ w ∈ [true, false], (pollPhase a v).toList <:+ (pollPhase b w).toList →
        pollPhase a v = pollPhase b w := by decide
  exact all a (by cases a <;> decide) v (by cases v <;> decide) b (by cases b <;> decide) w
    (by cases w <;> decide) h

theorem pollKey_intent {id id' : String} {a b : IntentStatus} {v w : Bool}
    (h : id ++ pollPhase a v = id' ++ pollPhase b w) : id = id' := by
  have lists : id.toList ++ (pollPhase a v).toList = id'.toList ++ (pollPhase b w).toList := by
    simpa using congrArg String.toList h
  have phase : pollPhase a v = pollPhase b w := by
    rcases List.append_eq_append_iff.mp lists with ⟨rest, -, tail⟩ | ⟨rest, -, tail⟩
    · exact (pollPhase_suffix _ _ _ _ ⟨rest, tail.symm⟩).symm
    · exact pollPhase_suffix _ _ _ _ ⟨rest, tail.symm⟩
  rw [phase] at lists
  exact String.toList_inj.mp (List.append_cancel_right lists)

theorem pollKey_some {m : Model} {key : String} (h : pollKey m = some key) :
    inFlight m = true ∧ ∃ id waiting, m.intent.intentId = some id ∧
      key = id ++ pollPhase m.intent.status waiting := by
  simp only [pollKey, Option.ite_none_right_eq_some, Bool.and_eq_true, Option.some.injEq] at h
  obtain ⟨⟨⟨-, flying⟩, named⟩, key⟩ := h
  cases own : m.intent.intentId with
  | none => rw [own] at named; cases named
  | some id =>
    rw [own] at key
    refine ⟨flying, id, awaitingResend m, rfl, key.symm.trans ?_⟩
    simp only [pollPhase, String.append_assoc, Option.getD_some]

/-- A poll's key is made of the intent it asks for. -/
def PollNamed (m : Model) : Prop :=
  ∀ poll, m.poll = some poll → ∃ status waiting, poll.key = poll.intentId ++ pollPhase status waiting

/-- The poll of a model at rest is its own intent's. -/
theorem PollNamed.own {m : Model} (named : PollNamed m) (polls : Polls m) {poll : PollState}
    (h : m.poll = some poll) : inFlight m = true ∧ m.intent.intentId = some poll.intentId := by
  unfold Polls at polls
  rw [h] at polls
  obtain ⟨flying, id, waiting, own, key⟩ := pollKey_some polls.symm
  obtain ⟨status, waiting', key'⟩ := named poll h
  rw [own, pollKey_intent (key'.symm.trans key)]
  exact ⟨flying, rfl⟩

section

variable [Host]

theorem walletKey_congr {m m' : Model} (ctx : m'.ctx = m.ctx)
    (same : SameTrade m'.intent m.intent) : walletKey m' = walletKey m := by
  unfold walletKey
  rw [ctx, same.quotedAddress, same.quotedChainId]

/-- What a rule may do to the trade: nothing, let its countdown end it, or reset it for another
account. -/
inductive RuleChange (m : Model) : IntentState → Prop where
  | kept {intent : IntentState} (same : SameTrade intent m.intent) : RuleChange m intent
  | lapsed {intent : IntentState} (quoted : m.intent.status = .quoted)
      (same : SameTrade intent { m.intent with status := .expired }) : RuleChange m intent
  | reset (changed : walletKey m ≠ m.watched.wallet)
      (interruptible : walletInterruptibleStates.contains m.intent.status = true)
      (still : m.intent.mayHaveMoved = false) : RuleChange m initialIntentState

variable {wall : WallClock} {cause : Cause} {now : Int} {m m' : Model} {fx : List Effect}

/-- The inversion of an act of the rules. -/
theorem Act.of_rules (rule : cause.body = none) (act : Act wall cause m fx m') :
    RuleChange m m'.intent ∧ m'.ctx = m.ctx ∧ m'.amount = m.amount ∧ m'.config = m.config ∧
      m'.quotedTrade = m.quotedTrade ∧
      (m'.watched.wallet = m.watched.wallet ∨ m'.watched.wallet = walletKey m) := by
  have asks : ¬Asks cause := fun ⟨_, h, _⟩ => by rw [rule] at h; cases h
  have ends : ¬EndsCeremony cause := fun ⟨_, h, _⟩ => by rw [rule] at h; cases h
  have reads : ¬ReadsUnsent cause := fun ⟨_, h, _⟩ => by rw [rule] at h; cases h
  cases act
  case contextChanged body | amountChanged body | cleared body _ _ | reset body _ |
      resumed body _ | revealed body _ _ _ _ _ _ | swept body _ _ _ _ _ =>
    rw [rule] at body
    cases body
  case accepted answered _ _ _ _ _ | late answered _ _ =>
    have body := answered.body
    rw [rule] at body
    cases body
  case delivered from_ _ =>
    cases from_ with
    | stream body => rw [rule] at body; cases body
    | row body => rw [rule] at body; cases body
  case executeFailed answered _ _ | executeMoved answered _ _ _ =>
    obtain ⟨_, body, -⟩ := answered.body
    rw [rule] at body
    cases body
  case requoted asked _ _ _ | unquoted asked _ _ _ | allocationFailed asked _ =>
    exact absurd asked asks
  case returned ending _ | signFailed ending _ _ _ _ => exact absurd ending ends
  case unsent read _ _ => exact absurd read reads
  case lapsed edge expires =>
    refine ⟨?_, rfl, rfl, rfl, rfl, .inl rfl⟩
    rcases expires with body | ⟨-, body | ⟨-, counted⟩⟩
    · rw [rule] at body; cases body
    · rw [rule] at body; cases body
    · exact .lapsed counted.1 rfl
  case walletReset _ changed interruptible still =>
    exact ⟨.reset changed interruptible still, rfl, rfl, rfl, rfl, .inr rfl⟩
  case watched => exact ⟨.kept rfl, rfl, rfl, rfl, rfl, .inr rfl⟩
  all_goals exact ⟨.kept rfl, rfl, rfl, rfl, rfl, .inl rfl⟩

/-- Nothing in the rules resets this trade. -/
def Unwatched (m : Model) : Prop :=
  m.watched.wallet = walletKey m ∨ walletInterruptibleStates.contains m.intent.status = false ∨
    m.intent.mayHaveMoved = true

theorem Unwatched.congr (h : Unwatched m) (ctx : m'.ctx = m.ctx)
    (same : SameTrade m'.intent m.intent)
    (watched : m'.watched.wallet = m.watched.wallet ∨ m'.watched.wallet = walletKey m) :
    Unwatched m' := by
  unfold Unwatched at h ⊢
  rw [walletKey_congr ctx same, same.status, same.mayHaveMoved]
  rcases watched with same | seen
  · rwa [same]
  · exact .inl seen

/-- Off the quote screen, the rules leave a trade they do not reset alone. -/
theorem settled_same (settled : Settled wall now m fx m') (away : m.intent.status ≠ .quoted)
    (kept : Unwatched m) :
    SameTrade m'.intent m.intent ∧ m'.ctx = m.ctx ∧ m'.amount = m.amount := by
  suffices h : SameTrade m'.intent m.intent ∧ m'.ctx = m.ctx ∧ m'.amount = m.amount ∧
      Unwatched m' from ⟨h.1, h.2.1, h.2.2.1⟩
  refine settled.invariant (P := fun x => SameTrade x.intent m.intent ∧ x.ctx = m.ctx ∧
    x.amount = m.amount ∧ Unwatched x) ?_ ⟨.refl _, rfl, rfl, kept⟩
  rintro x _ x' ⟨same, ctx, amount, unwatched⟩ act
  obtain ⟨change, ctx', amount', -, -, watched⟩ := act.of_rules rfl
  have still : SameTrade x'.intent x.intent := by
    generalize x'.intent = intent at change
    cases change with
    | kept same => exact same
    | lapsed quoted => exact absurd (same.status.symm.trans quoted) away
    | reset changed interruptible still =>
      rcases unwatched with seen | locked | may
      · exact absurd seen.symm changed
      · rw [interruptible] at locked; cases locked
      · rw [still] at may; cases may
  exact ⟨still.trans same, ctx'.trans ctx, amount'.trans amount, unwatched.congr ctx' still watched⟩

/-! ## At rest -/

/-- The account watch has seen the wallet this trade is held against. -/
def Seen (m : Model) : Prop := m.intent.status = .idle ∨ m.watched.wallet = walletKey m

structure AtRest (m : Model) : Prop where
  seen : Seen m
  polls : Polls m

theorem Act.seen (rule : cause.body = none) (seen : Seen m) (act : Act wall cause m fx m') :
    Seen m' := by
  obtain ⟨change, ctx, -, -, -, watched⟩ := act.of_rules rule
  have stays (same : SameTrade m'.intent m.intent) : Seen m' := by
    refine seen.imp (same.status.trans ·) fun seen => ?_
    rw [walletKey_congr ctx same]
    exact watched.elim (·.trans seen) id
  have key (address : m'.intent.quotedAddress = m.intent.quotedAddress)
      (chain : m'.intent.quotedChainId = m.intent.quotedChainId) : walletKey m' = walletKey m := by
    unfold walletKey
    rw [ctx, address, chain]
  generalize hintent : m'.intent = intent at change
  cases change with
  | kept same => exact stays (hintent ▸ same)
  | lapsed quoted same =>
    refine .inr ?_
    rw [key (by rw [hintent]; exact same.quotedAddress) (by rw [hintent]; exact same.quotedChainId)]
    have seen := seen.resolve_left (by rw [quoted]; decide)
    exact watched.elim (·.trans seen) id
  | reset => exact .inl (by rw [hintent]; rfl)

theorem Settled.seen (settled : Settled wall now m fx m') (seen : Seen m) : Seen m' :=
  settled.invariant (fun _ _ _ seen act => act.seen rfl seen) seen

theorem watchWallet_seen (m : Model) : Seen (ruled watchWallet m) := by
  unfold ruled watchWallet
  dsimp only
  split
  · rename_i same
    exact .inr same.symm
  · split
    · exact .inr rfl
    · exact .inl rfl

theorem armPoll_polls (m : Model) : Polls (ruled (armPoll now) m) := by
  have rest : Polls ((startPoll m now).value.getD m) := by
    unfold startPoll
    cases armed : pollKey m with
    | none => exact armed.symm
    | some key =>
      have arms : Polls { m with seq := m.seq + 1, poll := some (armedPoll m key now) } :=
        armed.symm
      dsimp only
      rw [value_bind]
      split
      · exact arms
      · exact pollTick_polls arms
  unfold ruled armPoll
  dsimp only
  split
  · rename_i same
    exact same.symm
  · split
    · split
      · exact rest
      · exact rest
    · exact rest

variable (now) in
/-- One pass of the rules leaves the model at rest. -/
theorem pass_atRest (wall : WallClock) (m : Model) :
    AtRest (runRules (settleRules now) m).value.1 := by
  constructor
  · have later : ∀ r ∈ (settleRules now).tail, ∀ m, Settles wall (rulesCause now) m (r m) :=
      fun r h => rules_settle wall rfl r (List.mem_of_mem_tail h)
    have rest : Settled wall now _ _ _ := runRules_chain later (ruled watchWallet m)
    rw [settleRules, runRules_cons]
    exact rest.seen (watchWallet_seen m)
  · unfold settleRules
    iterate 4 rw [runRules_cons]
    exact armPoll_polls _

theorem AtRest.passes (wall : WallClock) (passes : Nat) (rest : AtRest m) :
    AtRest (settlePasses now passes m).value := by
  induction passes generalizing m with
  | zero => exact rest
  | succ n ih =>
    have last := pass_atRest now wall m
    unfold settlePasses
    rw [value_bind]
    revert last
    rcases (runRules (settleRules now) m).value with ⟨next, changed⟩
    intro last
    dsimp only at last ⊢
    split
    · exact ih last
    · exact last

theorem settle_atRest (wall : WallClock) (m : Model) : AtRest (settle m now).value := by
  have last := pass_atRest now wall m
  unfold settle settlePasses
  rw [value_bind]
  revert last
  rcases (runRules (settleRules now) m).value with ⟨next, changed⟩
  intro last
  dsimp only at last ⊢
  split
  · exact last.passes wall 3
  · exact last

theorem init_atRest (config : MachineConfig) (ctx : Context) (hidden : Bool) :
    AtRest (init config ctx hidden) :=
  ⟨.inl rfl, rfl⟩

theorem Next.atRest {i : Input} (rest : AtRest m) (next : Next m i fx m') : AtRest m' := by
  unfold Next update at next
  cases stepped : step i.1 { m with hidden := i.2.hidden } i.2 with
  | error e =>
    rw [stepped] at next
    rw [next.2]
    exact rest
  | ok x =>
    rw [stepped] at next
    rw [next.2]
    exact settle_atRest i.1 x.value

theorem MachineRun.atRest {log : Log} (run : MachineRun log m) : AtRest m := by
  refine Run.invariant (P := fun _ m => AtRest m) ?_ (fun _ _ _ _ _ _ => Next.atRest) run
  rintro _ ⟨config, ctx, hidden, rfl⟩
  exact init_atRest config ctx hidden

/-! ## The poll's intent -/

theorem Act.pollNamed (named : PollNamed m) (act : Act wall cause m fx m') : PollNamed m' := by
  cases act
  case polled key _ =>
    intro poll h
    rcases key poll h with ⟨old, polls, on⟩ | ⟨-, armed, own⟩
    · obtain ⟨status, waiting, named⟩ := named old polls
      exact ⟨status, waiting, by rw [on.key, on.intentId, named]⟩
    · obtain ⟨-, id, waiting, has, key⟩ := pollKey_some armed
      exact ⟨m.intent.status, waiting, by rw [own, has, key]; rfl⟩
  all_goals exact named

theorem Ceremony.pollNamed {msg : Msg} (named : PollNamed m) (h : Ceremony msg m fx m') :
    PollNamed m' := by
  cases h <;> exact named

theorem pollNamed_law : Law fun _ m => PollNamed m where
  init := by
    rintro _ ⟨config, ctx, hidden, rfl⟩ poll h
    cases h
  handled := fun _ _ _ _ named => named
  act := fun _ _ _ _ _ _ _ named act => act.pollNamed named
  ceremony := fun _ _ msg m _ _ _ named ceremony =>
    ceremony.pollNamed (m := receive m msg) named

/-- What holds of every reachable model. -/
structure Sound (m : Model) : Prop where
  inv : Inv m
  rest : AtRest m
  polls : PollNamed m

theorem Reachable.sound (h : Reachable m) : Sound m :=
  h.elim fun _ run => ⟨run.inv, run.atRest, pollNamed_law.run run⟩

theorem Sound.poll (sound : Sound m) {poll : PollState} (h : m.poll = some poll) :
    inFlight m = true ∧ m.intent.intentId = some poll.intentId :=
  sound.polls.own sound.rest.polls h

end

end XochiSdk.Client
