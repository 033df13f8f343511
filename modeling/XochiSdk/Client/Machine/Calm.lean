import XochiSdk.Client.Machine.Rest

/-!
# A calm model

With no preview to upgrade, no price run out and no account changed under its quote, the
reactive rules only keep count: they leave everything a decision about funds reads.
-/

namespace XochiSdk.Client

open XochiSdk.Js XochiSdk.Shared XochiSdk.Signer XochiSdk.Library Emits

section

variable [Host]

/-- The countdown of a quote has run out. -/
def priceLapsed (quote : QuoteResponse) (now : Int) : Bool :=
  quote.expiry != "" &&
    match Host.dateParse quote.expiry with
    | none => false
    | some t => (t.ms - now) / 1000 ≤ 0

/-- Only the counters of a model changed. -/
structure Still (m m' : Model) : Prop where
  same : m' = { m with
    watched := m'.watched, quoteExpiresIn := m'.quoteExpiresIn, poll := m'.poll, seq := m'.seq }
  seq : m.seq ≤ m'.seq
  wallet : m'.watched.wallet = m.watched.wallet ∨ m'.watched.wallet = walletKey m

namespace Still

variable {m m' m'' : Model}

theorem refl (m : Model) : Still m m := ⟨rfl, Nat.le_refl _, .inl rfl⟩

theorem intent (still : Still m m') : m'.intent = m.intent := by
  rw [still.same]

theorem ctx (still : Still m m') : m'.ctx = m.ctx := by
  rw [still.same]

theorem amount (still : Still m m') : m'.amount = m.amount := by
  rw [still.same]

theorem sign (still : Still m m') : m'.sign = m.sign := by
  rw [still.same]

theorem flights (still : Still m m') : m'.flights = m.flights := by
  rw [still.same]

theorem walletKey (still : Still m m') : walletKey m' = walletKey m := by
  unfold XochiSdk.Client.walletKey
  rw [still.intent, still.ctx]

theorem trans (first : Still m m') (second : Still m' m'') : Still m m'' where
  same := by
    rw [second.same, first.same]
  seq := first.seq.trans second.seq
  wallet := by
    rcases second.wallet with same | seen
    · rw [same]
      exact first.wallet
    · exact .inr (seen.trans first.walletKey)

end Still

/-- The account is the one the quote was priced for. -/
structure SameAccount (m : Model) : Prop where
  address : m.intent.quotedAddress.getD "" = "" ∨
    (m.ctx.wallet.address.getD "" ≠ "" ∧ Host.toLowerCase (m.ctx.wallet.address.getD "") =
      Host.toLowerCase (m.intent.quotedAddress.getD ""))
  chainId : m.intent.quotedChainId = none ∨ m.ctx.wallet.chainId = m.intent.quotedChainId

/-- Nothing is there for the rules to do. -/
structure Calm (now : Int) (m : Model) : Prop where
  watched : Unwatched m ∨ SameAccount m
  shown : m.intent.status = .quoted → ∀ quote, m.intent.quote = some quote →
    (quote.preview = false ∨ isChainId m.ctx.fromChainId = false) ∧
      (quote.hasDeposit = true ∨ priceLapsed quote now = false)

variable {now : Int} {m m' : Model}

theorem Calm.of_away (watched : Unwatched m) (away : m.intent.status ≠ .quoted) : Calm now m :=
  ⟨.inl watched, fun quoted => absurd quoted away⟩

theorem Calm.still (calm : Calm now m) (still : Still m m') : Calm now m' where
  watched := by
    refine calm.watched.imp (fun h => ?_) fun same => ⟨?_, ?_⟩
    · exact h.congr still.ctx (by rw [still.intent]; rfl) still.wallet
    · rw [still.intent, still.ctx]
      exact same.address
    · rw [still.intent, still.ctx]
      exact same.chainId
  shown := by
    rw [still.intent, still.ctx]
    exact calm.shown

theorem watchWallet_still (calm : Calm now m) : Still m (ruled watchWallet m) := by
  unfold ruled watchWallet
  dsimp only
  split
  · exact .refl m
  · rename_i changed
    split
    · exact ⟨rfl, Nat.le_refl _, .inr rfl⟩
    · rename_i resets
      simp only [Bool.or_eq_true, not_or, Bool.not_eq_true, Bool.not_eq_true'] at resets
      rcases calm.watched with (seen | locked | may) | ⟨address, chain⟩
      · exact absurd seen.symm changed
      · rw [locked] at resets
        exact absurd resets.1.2 (by decide)
      · rw [may] at resets
        exact absurd resets.2 (by decide)
      · obtain ⟨⟨⟨priced, differs⟩, -⟩, -⟩ := resets
        obtain ⟨held, same⟩ := address.resolve_left (by simpa using priced)
        rcases chain with none | agrees
        · simp [held, same, none] at differs
        · simp [held, same, agrees] at differs

theorem upgradePreview_still (calm : Calm now m) : Still m (ruled (upgradePreview now) m) := by
  have plain : (m.intent.status == .quoted &&
      (m.intent.quote.map (·.preview)).getD false) = false ∨
      isChainId m.ctx.fromChainId = false := by
    cases quoted : m.intent.status == .quoted with
    | false => exact .inl rfl
    | true =>
      cases held : m.intent.quote with
      | none => exact .inl rfl
      | some quote => exact (calm.shown (by simpa using quoted) quote held).1
  unfold ruled upgradePreview
  dsimp only
  split
  · exact .refl m
  · split
    · exact ⟨rfl, Nat.le_refl _, .inl rfl⟩
    · rename_i upgrades
      simp only [shouldUpgradePreviewQuote, Bool.not_eq_true', Bool.not_eq_false,
        Bool.and_eq_true] at upgrades
      rcases plain with plain | deposit
      · rw [upgrades.1.2, upgrades.2] at plain
        cases plain
      · rw [deposit] at upgrades
        exact absurd upgrades.1.1.1.1 (by decide)

theorem tickExpiry_still (live : ∀ quote, m.intent.quote = some quote →
    priceLapsed quote now = false) : Still m (tickExpiry m now).value := by
  unfold tickExpiry
  split
  · exact .refl m
  rename_i expiry shown
  cases held : m.intent.quote with
  | none => rw [held] at shown; cases shown
  | some quote =>
    rw [held] at shown
    obtain ⟨set, rfl⟩ : textSet (some quote.expiry) = true ∧ quote.expiry = expiry := by
      simpa [textOrNone] using shown
    split
    · exact ⟨rfl, Nat.le_refl _, .inl rfl⟩
    · rename_i t parsed
      dsimp only
      rw [if_neg]
      · exact ⟨rfl, Nat.le_refl _, .inl rfl⟩
      · have set : quote.expiry ≠ "" := by simpa [textSet] using set
        have on : 0 < (t.ms - now) / 1000 := by
          simpa [priceLapsed, parsed, set] using live quote held
        omega

theorem armExpiry_still (calm : Calm now m) : Still m (ruled (armExpiry now) m) := by
  have rest {m₁ : Model} (still : Still m m₁) :
      Still m ((startExpiry m m₁ now).value.getD m) := by
    unfold startExpiry
    cases key : expiryKey m with
    | none => exact still.trans ⟨rfl, Nat.le_refl _, .inl rfl⟩
    | some expiry =>
      refine still.trans (tickExpiry_still fun quote held => ?_)
      rw [still.intent] at held
      simp only [expiryKey, held, Option.ite_none_right_eq_some] at key
      refine (calm.shown key.1.1 quote held).2.resolve_left ?_
      rw [key.1.2.2]
      decide
  unfold ruled armExpiry
  dsimp only
  split
  · exact .refl m
  · have keyed : Still m { m with watched := { m.watched with expiry := expiryKey m } } :=
      ⟨rfl, Nat.le_refl _, .inl rfl⟩
    split
    · exact rest keyed
    · exact rest keyed

theorem pollTick_still (elapsed : Bool) : Still m (pollTick m elapsed).value := by
  unfold pollTick
  split
  · exact .refl m
  · exact ⟨rfl, Nat.le_refl _, .inl rfl⟩

theorem armPoll_still : Still m (ruled (armPoll now) m) := by
  have rest : Still m ((startPoll m now).value.getD m) := by
    unfold startPoll
    cases pollKey m with
    | none => exact ⟨rfl, Nat.le_refl _, .inl rfl⟩
    | some key =>
      have arms : Still m { m with seq := m.seq + 1, poll := some (armedPoll m key now) } :=
        ⟨rfl, Nat.le_succ _, .inl rfl⟩
      dsimp only
      rw [value_bind]
      split
      · exact arms
      · exact arms.trans (pollTick_still false)
  unfold ruled armPoll
  dsimp only
  split
  · exact .refl m
  · split
    · split
      · exact rest
      · exact rest
    · exact rest

theorem pass_still (calm : Calm now m) : Still m (runRules (settleRules now) m).value.1 := by
  have first := watchWallet_still calm
  have second := first.trans (upgradePreview_still (calm.still first))
  have third := second.trans (armExpiry_still (calm.still second))
  unfold settleRules
  iterate 4 rw [runRules_cons]
  exact third.trans armPoll_still

theorem settle_still (calm : Calm now m) : Still m (settle m now).value := by
  have passes (n : Nat) : ∀ m, Calm now m → Still m (settlePasses now n m).value := by
    induction n with
    | zero => exact fun m _ => .refl m
    | succ n ih =>
      intro m calm
      have pass := pass_still calm
      unfold settlePasses
      rw [value_bind]
      revert pass
      rcases (runRules (settleRules now) m).value with ⟨next, changed⟩
      intro pass
      dsimp only at pass ⊢
      split
      · exact pass.trans (ih next (calm.still pass))
      · exact pass
  exact passes 4 m calm

end

end XochiSdk.Client
