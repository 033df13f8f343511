import XochiSdk.Client.Machine.PollRules

/-!
# The settle loop ends at a fixpoint

One pass of the rules leaves them nothing to do but to record what they saw, a second records
it, and a third finds nothing at all.
-/

namespace XochiSdk.Client

open XochiSdk.Js XochiSdk.Shared XochiSdk.Signer XochiSdk.Library Emits

section

variable [Host] {now : Int} {m m' : Model}

/-- Every rule has recorded the inputs it would run on. -/
structure Recorded (m : Model) : Prop where
  wallet : m.watched.wallet = walletKey m
  upgrade : m.watched.upgrade = upgradeKey m
  expiry : m.watched.expiry = expiryKey m
  polls : Polls m

/-- No rule does anything to a model they have all recorded. -/
theorem Recorded.inert (recorded : Recorded m) : ∀ rule ∈ settleRules now, rule m = pure none := by
  intro rule mem
  simp only [settleRules, List.mem_cons, List.not_mem_nil, or_false] at mem
  rcases mem with rfl | rfl | rfl | rfl
  · exact if_pos recorded.wallet.symm
  · exact if_pos recorded.upgrade.symm
  · exact if_pos recorded.expiry.symm
  · exact if_pos recorded.polls.symm

omit [Host] in
theorem runRules_inert {rules : List Rule} (inert : ∀ rule ∈ rules, rule m = pure none) :
    runRules rules m = pure (m, false) := by
  induction rules with
  | nil => rfl
  | cons rule rest ih =>
    rw [runRules, inert rule (by simp)]
    exact ih fun r mem => inert r (List.mem_cons_of_mem _ mem)

omit [Host] in
/-- A pass that says it did nothing left the model as it was. -/
theorem runRules_unchanged {rules : List Rule} (h : (runRules rules m).value.2 = false) :
    (runRules rules m).value.1 = m := by
  induction rules generalizing m with
  | nil => rfl
  | cons rule rest ih =>
    rw [runRules, value_bind] at h ⊢
    cases did : (rule m).value with
    | none =>
      rw [did] at h
      exact ih h
    | some next =>
      rw [did] at h
      cases h

/-! ## The second pass -/

theorem Unmoved.keys (moves : Unmoved m m') : walletKey m' = walletKey m ∧
    upgradeKey m' = upgradeKey m ∧ expiryKey m' = expiryKey m := by
  rw [moves.same]
  exact ⟨rfl, rfl, rfl⟩

/-- With no account to watch, the wallet rule records the key alone. -/
theorem Quiescent.wallet_recorded (quiet : Quiescent m) :
    (ruled Client.watchWallet m).watched = { m.watched with wallet := walletKey m } := by
  unfold ruled Client.watchWallet
  dsimp only
  split
  · rename_i same
    have key : walletKey m = m.watched.wallet := same
    change m.watched = _
    rw [key]
  · rename_i changed
    have unwatched : m.intent.quotedAddress.getD "" = "" :=
      quiet.wallet.resolve_left fun same => changed same.symm
    rw [if_pos (by simp [unwatched])]
    rfl

/-- Off the quote screen, the preview rule records the key alone. -/
theorem Quiescent.upgrade_recorded (quiet : Quiescent m) :
    (ruled (Client.upgradePreview now) m).watched = { m.watched with upgrade := upgradeKey m } := by
  unfold ruled Client.upgradePreview
  dsimp only
  split
  · rename_i same
    have key : upgradeKey m = m.watched.upgrade := same
    change m.watched = _
    rw [key]
  · rename_i changed
    have away : m.intent.status ≠ .quoted :=
      quiet.upgrade.resolve_left fun same => changed same.symm
    rw [if_pos (by simp [shouldUpgradePreviewQuote, away])]
    rfl

variable (now) in
/-- A pass over a quiescent model records what every rule saw. -/
theorem pass_recorded (quiet : Quiescent m) :
    Recorded (runRules (settleRules now) m).value.1 := by
  rw [settleRules, runRules_cons, runRules_cons, runRules_cons, runRules_cons]
  set m₁ := ruled Client.watchWallet m with first
  set m₂ := ruled (Client.upgradePreview now) m₁ with second
  set m₃ := ruled (Client.armExpiry now) m₂ with third
  set m₄ := ruled (Client.armPoll now) m₃ with fourth
  change Recorded m₄
  have rests₁ := quiet.watchWallet
  have rests₂ : Rests m₁ (Client.upgradePreview now m₁) := rests₁.quiet.upgradePreview
  have rests₃ : Rests m₂ (Client.armExpiry now m₂) := rests₂.quiet.armExpiry
  have rests₄ : Rests m₃ (Client.armPoll now m₃) := rests₃.quiet.armPoll
  have to₄ : Unmoved m₃ m₄ := rests₄.unmoved
  have to₃ : Unmoved m₂ m₄ := rests₃.unmoved.trans to₄
  have to₂ : Unmoved m₁ m₄ := rests₂.unmoved.trans to₃
  have to₁ : Unmoved m m₄ := rests₁.unmoved.trans to₂
  have watched₁ : m₁.watched = { m.watched with wallet := walletKey m } := quiet.wallet_recorded
  have watched₂ : m₂.watched = { m₁.watched with upgrade := upgradeKey m₁ } :=
    rests₁.quiet.upgrade_recorded
  have watched₃ : m₃.watched = { m₂.watched with expiry := expiryKey m₂ } := armExpiry_watched m₂
  have watched₄ : m₄.watched = m₃.watched := by
    obtain ⟨seq, poll, same⟩ : ∃ seq poll, m₄ = { m₃ with seq := seq, poll := poll } :=
      armPoll_unmoved m₃
    rw [same]
  constructor
  · rw [watched₄, watched₃, watched₂, watched₁]
    exact to₁.keys.1.symm
  · rw [watched₄, watched₃, watched₂]
    exact to₂.keys.2.1.symm
  · rw [watched₄, watched₃]
    exact to₃.keys.2.2.symm
  · exact armPoll_polls m₃

/-! ## The loop -/

theorem settlePasses_recorded (recorded : Recorded m) (k : Nat) :
    settlePasses now k m = pure m := by
  cases k with
  | zero => rfl
  | succ k =>
    rw [settlePasses, runRules_inert recorded.inert]
    rfl

/-- What comes after a pass matters only at the model it left. -/
theorem settlePasses_succ (k : Nat) {rest : Machine Model}
    (h : (if (runRules (settleRules now) m).value.2 then
      settlePasses now k (runRules (settleRules now) m).value.1
      else pure (runRules (settleRules now) m).value.1) = rest) :
    settlePasses now (k + 1) m = (runRules (settleRules now) m >>= fun _ => rest) := by
  rw [settlePasses, ← h]
  rfl

/-- A pass over a quiescent model is the last that does anything. -/
theorem settlePasses_quiescent (quiet : Quiescent m) (k : Nat) :
    settlePasses now (k + 1) m = (runRules (settleRules now) m >>= fun _ =>
      pure (runRules (settleRules now) m).value.1) := by
  apply settlePasses_succ
  split
  · exact settlePasses_recorded (pass_recorded now quiet) k
  · rfl

/-- Whatever the model, two passes do all there is to do. -/
theorem settlePasses_stable (wall : WallClock) (m : Model) (k : Nat) :
    settlePasses now (k + 2) m = settlePasses now 2 m := by
  have quiet := pass_quiescent now wall m
  cases changed : (runRules (settleRules now) m).value.2 with
  | true =>
    rw [settlePasses_succ (k + 1) (if_pos changed), settlePasses_succ 1 (if_pos changed),
      settlePasses_quiescent quiet k, settlePasses_quiescent quiet 0]
  | false =>
    rw [settlePasses_succ (k + 1) (if_neg (by simp [changed])),
      settlePasses_succ 1 (if_neg (by simp [changed]))]

/-- The loop leaves a model that every rule has recorded. -/
theorem settle_recorded (wall : WallClock) (m : Model) : Recorded (settle m now).value := by
  have quiet := pass_quiescent now wall m
  have second : settle m now = settlePasses now 2 m := settlePasses_stable wall m 2
  rw [second]
  cases changed : (runRules (settleRules now) m).value.2 with
  | true =>
    rw [settlePasses_succ 1 (if_pos changed), value_bind, settlePasses_quiescent quiet 0]
    exact pass_recorded now quiet
  | false =>
    have same := runRules_unchanged changed
    rw [settlePasses_succ 1 (if_neg (by simp [changed])), value_bind, value_pure]
    have recorded := pass_recorded now quiet
    rw [same, same] at recorded
    rwa [same]

/-- The loop's limit never cuts it short: more passes do the same, and every rule does nothing to
the model it leaves, at that time and at any later one. -/
theorem settle_fixpoint (m : Model) (now : Int) :
    (∀ k, settlePasses now (k + 2) m = settle m now) ∧
      ∀ later, (settleRules later).Forall fun rule => rule (settle m now).value = pure none := by
  let midnight : TimeValue := ⟨0, by decide⟩
  let wall : WallClock := ⟨midnight, midnight, midnight⟩
  constructor
  · intro k
    exact (settlePasses_stable wall m k).trans (settlePasses_stable wall m 2).symm
  · intro later
    refine List.forall_iff_forall_mem.mpr ?_
    intro rule mem
    exact (settle_recorded wall m).inert rule mem

end

end XochiSdk.Client
