import XochiSdk.Client.Machine.Polling

/-!
# The poll under the rules

The rules keep the poll, drop it, or arm a new one under an id never drawn before. Run once,
they find nothing more to do to the intent or the poll, whenever they are run again.
-/

namespace XochiSdk.Client

open XochiSdk.Js XochiSdk.Shared XochiSdk.Signer XochiSdk.Library Emits

/-- A poll as the rules arm it: under a fresh generation, with a budget, and at most one read. -/
structure Armed (m : Model) (poll : PollState) : Prop where
  gen : poll.gen = m.seq + 1
  answered : poll.answered = 0
  spent : poll.spent = 0
  budget : 0 < poll.max

/-- What the rules may do to the poll. -/
inductive PollChange (m : Model) : List Effect → Model → Prop where
  | kept {fx : List Effect} {m' : Model} (poll : m'.poll = m.poll) (seq : m.seq ≤ m'.seq)
      (unread : ∀ e ∈ fx, e.NoRead) : PollChange m fx m'
  | dropped {fx : List Effect} {m' : Model} (poll : m'.poll = none) (seq : m.seq ≤ m'.seq)
      (unread : ∀ e ∈ fx, e.NoRead) : PollChange m fx m'
  | armed {fx : List Effect} {m' : Model} {poll : PollState} (polls : m'.poll = some poll)
      (seq : m'.seq = m.seq + 1) (fresh : Armed m poll)
      (reads : ∀ id gen attempt, .api (.status id gen attempt) ∈ fx →
        gen = poll.gen ∧ attempt ≤ poll.polls) : PollChange m fx m'

namespace PollChange

variable {m m' : Model} {fx fy : List Effect}

/-- Effects that read no status, before. -/
theorem after (h : ∀ e ∈ fx, e.NoRead) (rest : PollChange m fy m') : PollChange m (fx ++ fy) m' := by
  have both (unread : ∀ e ∈ fy, e.NoRead) : ∀ e ∈ fx ++ fy, e.NoRead :=
    fun e mem => (List.mem_append.mp mem).elim (h e) (unread e)
  cases rest with
  | kept poll seq unread => exact .kept poll seq (both unread)
  | dropped poll seq unread => exact .dropped poll seq (both unread)
  | armed polls seq fresh reads =>
    refine .armed polls seq fresh fun id gen attempt mem => ?_
    rcases List.mem_append.mp mem with quiet | mem
    · exact absurd (h _ quiet) (by simp [Effect.NoRead, Effect.readsStatus])
    · exact reads id gen attempt mem

end PollChange

/-- A rule's change of the poll. -/
def Changes (m : Model) (x : Machine (Option Model)) : Prop := PollChange m x.log (x.value.getD m)

namespace Changes

variable {m m₁ : Model}

theorem nothing : Changes m (pure none) := .kept rfl (Nat.le_refl _) (by simp)

theorem after {x : Machine Unit} {y : Unit → Machine (Option Model)}
    (h : ∀ e ∈ x.log, e.NoRead) (rest : Changes m (y x.value)) : Changes m (x >>= y) :=
  PollChange.after h rest

theorem unpolled {x : Machine Model} (h : Unpolled m₁ x) (poll : m₁.poll = m.poll)
    (seq : m.seq ≤ m₁.seq) : Changes m (x >>= fun next => pure (some next)) := by
  refine .kept (h.moves.poll.trans poll) (seq.trans h.moves.seq) ?_
  simpa using h.emits

end Changes

/-- The rules moved nothing but their own watches and the countdown. -/
structure Unmoved (m m' : Model) : Prop where
  same : m' = { m with watched := m'.watched, quoteExpiresIn := m'.quoteExpiresIn }

namespace Unmoved

variable {m m' m'' : Model}

theorem refl (m : Model) : Unmoved m m := ⟨rfl⟩

theorem trans (first : Unmoved m m') (second : Unmoved m' m'') : Unmoved m m'' := by
  constructor
  rw [second.same, first.same]

theorem intent (h : Unmoved m m') : m'.intent = m.intent := by rw [h.same]

theorem poll (h : Unmoved m m') : m'.poll = m.poll := by rw [h.same]

end Unmoved

section

variable [Host] {now : Int} {m : Model}

omit [Host] in
theorem pollCeilingAttempts_pos (status : IntentStatus) (deadline : Option Int) (now : Int)
    (finish : Option ℚ) :
    0 < pollCeilingAttempts status deadline now statusPollMs statusPollFlatCeilingMs finish := by
  have flat : 0 < ⌈(statusPollFlatCeilingMs : ℚ) / statusPollMs⌉ := by
    norm_num [statusPollFlatCeilingMs, statusPollMs, statusPollFlatCeilingAttempts]
  unfold pollCeilingAttempts
  dsimp only
  split
  · exact flat
  · split
    · exact flat
    · exact lt_max_of_lt_left flat

theorem watchWallet_changes (m : Model) : Changes m (watchWallet m) := by
  unfold watchWallet
  dsimp only
  split
  · exact .nothing
  · split
    · exact .kept rfl (Nat.le_refl _) (by simp)
    · exact .after (timer_noRead _) (.after (timer_noRead _) (.after (timer_noRead _)
        (.kept rfl (Nat.le_refl _) (by simp))))

theorem upgradePreview_changes (m : Model) : Changes m (upgradePreview now m) := by
  unfold upgradePreview
  dsimp only
  split
  · exact .nothing
  · split
    · exact .kept rfl (Nat.le_refl _) (by simp)
    · exact .unpolled (startQuote_unpolled _ _ _) rfl (Nat.le_refl _)

theorem armExpiry_changes (m : Model) : Changes m (armExpiry now m) := by
  let next : Model := { m with watched := { m.watched with expiry := expiryKey m } }
  have rest : Changes m (startExpiry m next now) := by
    unfold startExpiry
    split
    · exact .kept rfl (Nat.le_refl _) (by simp)
    · exact .after (timer_noRead _) (.unpolled (tickExpiry_unpolled next now) rfl (Nat.le_refl _))
  unfold armExpiry
  dsimp only
  split
  · exact .nothing
  · split
    · exact .after (timer_noRead _) rest
    · exact rest

theorem armPoll_changes (m : Model) : Changes m (armPoll now m) := by
  have rest : Changes m (startPoll m now) := by
    unfold startPoll
    split
    · exact .dropped rfl (Nat.le_refl _) (by simp)
    · rename_i key _
      refine .after (timer_noRead _) ?_
      dsimp only
      split
      · exact .armed rfl rfl ⟨rfl, rfl, rfl, pollCeilingAttempts_pos _ _ _ _⟩ (by simp)
      · refine .armed rfl rfl ⟨rfl, rfl, rfl, pollCeilingAttempts_pos _ _ _ _⟩ ?_
        intro id gen attempt mem
        have read : id = (armedPoll m key now).intentId ∧ gen = (armedPoll m key now).gen ∧
            attempt = (armedPoll m key now).polls + 1 := by
          simpa [pollTick] using mem
        exact ⟨read.2.1, read.2.2.le⟩
  unfold armPoll
  dsimp only
  split
  · exact .nothing
  · split
    · split
      · exact .after (timer_noRead _) rest
      · exact rest
    · exact rest

/-- The rules' changes of the poll, in a row. -/
theorem settle_changes (m : Model) : Chain PollChange m (settle m now).log (settle m now).value := by
  refine settle_chain (fun rule mem m => .single ?_) m
  simp only [settleRules, List.mem_cons, List.not_mem_nil, or_false] at mem
  rcases mem with rfl | rfl | rfl | rfl
  · exact watchWallet_changes m
  · exact upgradePreview_changes m
  · exact armExpiry_changes m
  · exact armPoll_changes m

/-! ## At rest under the rules -/

/-- The key of the preview watch. -/
def upgradeKey (m : Model) : String :=
  jsonArray [jsonString (tradeKey m.ctx), jsonString m.amount,
    jsonBool ((m.intent.quote.map (·.preview)).getD false), jsonString m.intent.status.text]

/-- The rules have nothing to do to the intent or the poll. -/
structure Quiescent (m : Model) : Prop where
  wallet : m.watched.wallet = walletKey m ∨ m.intent.quotedAddress.getD "" = ""
  upgrade : m.watched.upgrade = upgradeKey m ∨ m.intent.status ≠ .quoted
  expiry : m.watched.expiry = expiryKey m ∨ expiryKey m = none
  polls : Polls m

/-- Off the quote, or still the same trade: what the rules leave of a quote's watches. -/
def Lapsed (start m : Model) : Prop :=
  m.intent.status ≠ .quoted ∨
    (m.ctx = start.ctx ∧ m.amount = start.amount ∧ SameTrade m.intent start.intent)

theorem Settled.lapsed {wall : WallClock} {fx : List Effect} {m' : Model}
    (settled : Settled wall now m fx m') : Lapsed m m' := by
  refine settled.invariant (P := Lapsed m) ?_ (.inr ⟨rfl, rfl, .refl _⟩)
  intro x _ x' lapsed act
  obtain ⟨change, ctx, amount, -⟩ := act.of_rules rfl
  unfold Lapsed at lapsed ⊢
  generalize x'.intent = intent at change
  cases change with
  | kept same =>
    refine lapsed.imp (fun away => ?_) fun held => ?_
    · rwa [same.status]
    · exact ⟨ctx.trans held.1, amount.trans held.2.1, same.trans held.2.2⟩
  | lapsed quoted same =>
    refine .inl ?_
    rw [same.status]
    exact IntentStatus.noConfusion
  | reset => exact .inl (by decide)

/-- The account watch knows this wallet, or there is no account to watch. -/
def Watched.Knows (m : Model) : Prop :=
  m.watched.wallet = walletKey m ∨ m.intent.quotedAddress.getD "" = ""

theorem Settled.knows {wall : WallClock} {fx : List Effect} {m' : Model}
    (settled : Settled wall now m fx m') (knows : Watched.Knows m) : Watched.Knows m' := by
  refine settled.invariant (P := Watched.Knows) ?_ knows
  intro x _ x' knows act
  obtain ⟨change, ctx, -, -, -, watched⟩ := act.of_rules rfl
  have stays (address : x'.intent.quotedAddress = x.intent.quotedAddress)
      (chain : x'.intent.quotedChainId = x.intent.quotedChainId) : Watched.Knows x' := by
    have key : walletKey x' = walletKey x := by
      unfold walletKey
      rw [ctx, address, chain]
    unfold Watched.Knows
    rw [key, address]
    refine knows.imp_left fun seen => ?_
    exact watched.elim (·.trans seen) id
  generalize hintent : x'.intent = intent at change
  cases change with
  | kept same =>
    rw [hintent] at stays
    exact stays same.quotedAddress same.quotedChainId
  | lapsed quoted same =>
    rw [hintent] at stays
    exact stays same.quotedAddress same.quotedChainId
  | reset => exact .inr (by rw [hintent]; rfl)

theorem Lapsed.upgrade {m' : Model} (lapsed : Lapsed m m')
    (watched : m'.watched.upgrade = upgradeKey m) :
    m'.watched.upgrade = upgradeKey m' ∨ m'.intent.status ≠ .quoted := by
  refine lapsed.symm.imp_left fun ⟨ctx, amount, same⟩ => ?_
  rw [watched]
  unfold upgradeKey
  rw [ctx, amount, same.quote, same.status]

omit [Host] in
theorem Lapsed.expiry {m' : Model} (lapsed : Lapsed m m')
    (watched : m'.watched.expiry = expiryKey m) :
    m'.watched.expiry = expiryKey m' ∨ expiryKey m' = none := by
  rcases lapsed with away | ⟨-, -, same⟩
  · refine .inr ?_
    unfold expiryKey
    split
    · exact if_neg fun h => away h.1
    · rfl
  · refine .inl ?_
    rw [watched]
    unfold expiryKey
    rw [same.quote, same.status]

/-! ### One pass -/

theorem watchWallet_knows (m : Model) : Watched.Knows (ruled watchWallet m) := by
  unfold ruled watchWallet
  dsimp only
  split
  · rename_i same
    exact .inl same.symm
  · split
    · exact .inl rfl
    · exact .inr rfl

theorem upgradePreview_watched (m : Model) :
    (ruled (upgradePreview now) m).watched.upgrade = upgradeKey m := by
  unfold ruled upgradePreview
  dsimp only
  split
  · rename_i same
    exact same.symm
  · split
    · rfl
    · have starts := startQuote_unpolled
        { m with watched := { m.watched with upgrade := upgradeKey m } } now
        { amount := m.amount, silent := true, forceRefresh := true, allocate := none }
      exact congrArg Watched.upgrade starts.moves.watched

theorem armExpiry_watched (m : Model) :
    (ruled (armExpiry now) m).watched = { m.watched with expiry := expiryKey m } := by
  let next : Model := { m with watched := { m.watched with expiry := expiryKey m } }
  have rest : ((startExpiry m next now).value.getD m).watched = next.watched := by
    unfold startExpiry
    split
    · rfl
    · exact (tickExpiry_unpolled next now).moves.watched
  unfold ruled armExpiry
  dsimp only
  split
  · rename_i same
    rw [same]
    rfl
  · split
    · exact rest
    · exact rest

theorem armPoll_unmoved (m : Model) : ∃ seq poll,
    ruled (armPoll now) m = { m with seq := seq, poll := poll } := by
  have rest : ∃ seq poll, (startPoll m now).value.getD m =
      { m with seq := seq, poll := poll } := by
    unfold startPoll
    split
    · exact ⟨_, _, rfl⟩
    · dsimp only
      rw [value_bind]
      split
      · exact ⟨_, _, rfl⟩
      · exact ⟨_, _, rfl⟩
  unfold ruled armPoll
  dsimp only
  split
  · exact ⟨_, _, rfl⟩
  · split
    · split
      · exact rest
      · exact rest
    · exact rest

variable (now) in
/-- One pass of the rules leaves them nothing to do. -/
theorem pass_quiescent (wall : WallClock) (m : Model) :
    Quiescent (runRules (settleRules now) m).value.1 := by
  have settles : ∀ r ∈ settleRules now, ∀ m, Settles wall (rulesCause now) m (r m) :=
    @rules_settle _ wall (rulesCause now) rfl
  rw [settleRules, runRules_cons, runRules_cons, runRules_cons, runRules_cons]
  set m₁ := ruled watchWallet m with first
  set m₂ := ruled (upgradePreview now) m₁ with second
  set m₃ := ruled (armExpiry now) m₂ with third
  set m₄ := ruled (armPoll now) m₃ with fourth
  change Quiescent m₄
  have to₂ : Settled wall now m₁ _ m₂ := settles (upgradePreview now) (by simp [settleRules]) m₁
  have to₃ : Settled wall now m₂ _ m₃ := settles (armExpiry now) (by simp [settleRules]) m₂
  have to₄ : Settled wall now m₃ _ m₄ := settles (armPoll now) (by simp [settleRules]) m₃
  have watched₄ : m₄.watched = m₃.watched := by
    obtain ⟨seq, poll, same⟩ := armPoll_unmoved m₃
    rw [fourth, same]
  constructor
  · exact Settled.knows (to₂.trans (to₃.trans to₄)) (watchWallet_knows m)
  · refine Settled.lapsed (to₂.trans (to₃.trans to₄)) |>.upgrade ?_
    rw [watched₄, third, armExpiry_watched]
    exact upgradePreview_watched m₁
  · refine Settled.lapsed (to₃.trans to₄) |>.expiry ?_
    rw [watched₄, third, armExpiry_watched]
  · exact armPoll_polls m₃

theorem settle_quiescent (wall : WallClock) (m : Model) : Quiescent (settle m now).value := by
  have passes (n : Nat) : ∀ m, Quiescent m → Quiescent (settlePasses now n m).value := by
    induction n with
    | zero => exact fun m quiet => quiet
    | succ n ih =>
      intro m _
      have last := pass_quiescent now wall m
      unfold settlePasses
      rw [value_bind]
      revert last
      rcases (runRules (settleRules now) m).value with ⟨next, changed⟩
      intro last
      dsimp only at last ⊢
      split
      · exact ih next last
      · exact last
  have last := pass_quiescent now wall m
  unfold settle settlePasses
  rw [value_bind]
  revert last
  rcases (runRules (settleRules now) m).value with ⟨next, changed⟩
  intro last
  dsimp only at last ⊢
  split
  · exact passes 3 next last
  · exact last

/-! ### No pass more -/

theorem Quiescent.unmoved {m' : Model} (quiet : Quiescent m) (moves : Unmoved m m')
    (wallet : m'.watched.wallet = m.watched.wallet ∨ m'.watched.wallet = walletKey m)
    (upgrade : m'.watched.upgrade = m.watched.upgrade ∨ m'.watched.upgrade = upgradeKey m)
    (expiry : m'.watched.expiry = m.watched.expiry ∨ m'.watched.expiry = expiryKey m) :
    Quiescent m' := by
  have keys : walletKey m' = walletKey m ∧ upgradeKey m' = upgradeKey m ∧
      expiryKey m' = expiryKey m ∧ pollKey m' = pollKey m := by
    rw [moves.same]
    exact ⟨rfl, rfl, rfl, rfl⟩
  constructor
  · rw [keys.1, moves.intent]
    exact wallet.elim (fun same => same ▸ quiet.wallet) .inl
  · rw [keys.2.1, moves.intent]
    exact upgrade.elim (fun same => same ▸ quiet.upgrade) .inl
  · rw [keys.2.2.1]
    exact expiry.elim (fun same => same ▸ quiet.expiry) .inl
  · unfold Polls
    rw [keys.2.2.2, moves.poll]
    exact quiet.polls

/-- A rule with nothing to do to the intent or the poll. -/
structure Rests (m : Model) (x : Machine (Option Model)) : Prop where
  unmoved : Unmoved m (x.value.getD m)
  quiet : Quiescent (x.value.getD m)
  unread : ∀ e ∈ x.log, e.NoRead

theorem Quiescent.watchWallet (quiet : Quiescent m) : Rests m (watchWallet m) := by
  unfold XochiSdk.Client.watchWallet
  dsimp only
  split
  · exact ⟨.refl m, quiet, by simp⟩
  · rename_i changed
    have unwatched : m.intent.quotedAddress.getD "" = "" :=
      quiet.wallet.resolve_left fun same => changed same.symm
    rw [if_pos (by simp [unwatched])]
    exact ⟨⟨rfl⟩, quiet.unmoved ⟨rfl⟩ (.inr rfl) (.inl rfl) (.inl rfl), by simp⟩

theorem Quiescent.upgradePreview (quiet : Quiescent m) : Rests m (upgradePreview now m) := by
  unfold XochiSdk.Client.upgradePreview
  dsimp only
  split
  · exact ⟨.refl m, quiet, by simp⟩
  · rename_i changed
    have away : m.intent.status ≠ .quoted :=
      quiet.upgrade.resolve_left fun same => changed same.symm
    rw [if_pos (by simp [shouldUpgradePreviewQuote, away])]
    exact ⟨⟨rfl⟩, quiet.unmoved ⟨rfl⟩ (.inl rfl) (.inr rfl) (.inl rfl), by simp⟩

theorem Quiescent.armExpiry (quiet : Quiescent m) : Rests m (armExpiry now m) := by
  unfold XochiSdk.Client.armExpiry startExpiry
  dsimp only
  split
  · exact ⟨.refl m, quiet, by simp⟩
  · rename_i changed
    have idle : expiryKey m = none := quiet.expiry.resolve_left fun same => changed same.symm
    have rests : Quiescent { m with
        watched := { m.watched with expiry := expiryKey m }, quoteExpiresIn := none } :=
      quiet.unmoved ⟨rfl⟩ (.inl rfl) (.inl rfl) (.inr rfl)
    rw [idle] at rests ⊢
    split
    · exact ⟨⟨rfl⟩, rests, timer_noRead _⟩
    · exact ⟨⟨rfl⟩, rests, by simp⟩

theorem Quiescent.armPoll (quiet : Quiescent m) : Rests m (armPoll now m) := by
  unfold XochiSdk.Client.armPoll
  dsimp only
  rw [if_pos quiet.polls.symm]
  exact ⟨.refl m, quiet, by simp⟩

/-- Rules that have nothing to do, in a row. -/
theorem settle_unmoved (quiet : Quiescent m) : Unmoved m (settle m now).value ∧
    ∀ e ∈ (settle m now).log, e.NoRead := by
  have rests : ∀ rule ∈ settleRules now, ∀ m, Quiescent m → Rests m (rule m) := by
    intro rule mem m quiet
    simp only [settleRules, List.mem_cons, List.not_mem_nil, or_false] at mem
    rcases mem with rfl | rfl | rfl | rfl
    · exact quiet.watchWallet
    · exact quiet.upgradePreview
    · exact quiet.armExpiry
    · exact quiet.armPoll
  let Rest (m : Model) (fx : List Effect) (m' : Model) : Prop :=
    Quiescent m → Unmoved m m' ∧ Quiescent m' ∧ ∀ e ∈ fx, e.NoRead
  have chain : Chain Rest m (settle m now).log (settle m now).value :=
    settle_chain (fun rule mem m => .single fun quiet =>
      ⟨(rests rule mem m quiet).unmoved, (rests rule mem m quiet).quiet,
        (rests rule mem m quiet).unread⟩) m
  constructor
  · refine (chain.invariant (P := fun x => Unmoved m x ∧ Quiescent x) ?_ ⟨.refl m, quiet⟩).1
    rintro x fx x' ⟨moved, quiet⟩ rest
    exact ⟨moved.trans (rest quiet).1, (rest quiet).2.1⟩
  · exact chain.effects (P := Quiescent) (fun x fx x' quiet rest => (rest quiet).2) quiet

end

end XochiSdk.Client
