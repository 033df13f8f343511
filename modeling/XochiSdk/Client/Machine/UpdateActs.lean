import XochiSdk.Client.Machine.ExecuteActs

/-!
# `step` and `settle` as acts

Every message, every timer and every reactive rule, and with them the whole of `update`.
-/

namespace XochiSdk.Client

open XochiSdk.Js XochiSdk.Shared XochiSdk.Signer XochiSdk.Library Emits

theorem expiryKey_counted {key : String} (armed : expiryKey m = some key) : Counted m := by
  unfold expiryKey at armed
  split at armed
  · rename_i quote held
    split at armed
    · rename_i here
      refine ⟨here.1, fun other same => ?_⟩
      rw [held] at same
      cases same
      exact here.2.2
    · cases armed
  · cases armed

section

variable [Host] {wall : WallClock} {cause : Cause} {msg : Msg} {m : Model}

theorem tickExpiry_does (ticks : cause.body = some (.timerFired .expiry) ∨
    (cause.body = none ∧ Counted m)) :
    Does wall cause m (tickExpiry m cause.now) := by
  have counts {m₁ : Model} (quoteExpiresIn : Option Countdown) :
      Act wall cause m₁ [] { m₁ with quoteExpiresIn := quoteExpiresIn } :=
    .noted (Nat.le_refl _)
  unfold tickExpiry
  cases expiry : textOrNone (m.intent.quote.map (·.expiry)) with
  | none => exact .done
  | some expiry =>
    dsimp only
    have held : m.intent.quote.isSome = true := by
      cases h : m.intent.quote
      · rw [h] at expiry
        cases expiry
      · rfl
    split
    · exact .act (counts _)
    · rename_i t _
      refine .ite (fun _ => ?_) fun _ => .act (counts _)
      exact .step (counts (some (.secs (max 0 ((t.ms - cause.now) / 1000)))))
        (.move fun edge => .lapsed edge (.inr ⟨held, ticks⟩))

theorem requestQuote_does (asks : Asks msg.cause) : Does wall msg.cause m (requestQuote m msg.now) := by
  unfold requestQuote
  refine .ite (fun _ => .after (report_quiet _ _ _) .done) fun idle => ?_
  exact .ite (fun _ => startQuote_does (fun _ => asks) (by simpa [busy] using idle) rfl
    (fun h => by cases h)) fun _ => .done

theorem onTimer_steps {timer : TimerName} (coherent : Coherent m) (body : msg.body = .timerFired timer) :
    Steps wall msg m (onTimer m timer msg.now) := by
  cases timer with
  | debounce => exact .acts (requestQuote_does (.of_body body rfl))
  | refresh =>
    refine .acts ?_
    unfold onTimer
    dsimp only
    split
    · exact .done
    · rename_i plan planned
      refine .step .unplanned (.ite (fun _ => .done) fun due => ?_)
      have quoted : m.intent.status = .quoted := by
        by_contra other
        exact due (by simp [shouldRefreshQuote, other])
      refine startQuote_does (fun _ => .of_body body rfl) ?_ (coherent.refresh plan planned)
        (fun h => by cases h)
      unfold busy
      dsimp only
      rw [quoted]
      rfl
  | expiry => exact .acts (tickExpiry_does (.inl (Msg.cause_body body)))
  | poll =>
    unfold onTimer
    refine .ite (fun _ => resendBackstop_steps (.of_body body rfl)) fun _ => ?_
    cases m.poll with
    | none => exact .acts .done
    | some poll => exact .ite (fun _ => .acts .done) fun _ => .acts (pollTick_does true (by simp [Msg.cause]))
  | signPrompt =>
    unfold onTimer
    dsimp only
    cases live : m.sign with
    | none =>
      unfold signFlowFailed
      rw [live]
      exact .acts .done
    | some flow => exact .acts (signFlowFailed_does coherent (.of_body body rfl) live fun _ => ⟨rfl, body⟩)
  | execute => exact resendExecute_steps (.of_body body rfl)

/-! ## Messages -/

theorem onContextChanged_does {ctx : Context} (body : msg.body = .contextChanged ctx) :
    Does wall msg.cause m (onContextChanged m ctx) := by
  have keeps : Act wall msg.cause m [] { m with
      ctx := ctx, flights := if tradeKey ctx = tradeKey m.ctx then m.flights else [] } :=
    .contextChanged (Msg.cause_body body)
  unfold onContextChanged
  refine .ite (fun same => ?_) fun differs => ?_
  · refine .act ?_
    simp only [Bool.or_eq_true, List.isEmpty_iff, beq_iff_eq] at same
    rcases same with empty | key
    · rw [empty, ite_self] at keeps
      rwa [← empty] at keeps
    · rwa [if_pos key] at keeps
  · simp only [Bool.or_eq_true, List.isEmpty_iff, beq_iff_eq, not_or] at differs
    rw [if_neg differs.2] at keeps
    have drops : Does wall msg.cause m (supersedeFlights { m with ctx := ctx }) :=
      .of_parts rfl (supersedeFlights_quiet _) (.single keeps)
    dsimp only
    split
    · exact .after (by simp) drops
    · exact drops

theorem onQuoteRequested_does {amount : String} (body : msg.body = .quoteRequested amount) :
    Does wall msg.cause m (onQuoteRequested m amount) := by
  let next : Model := { m with
    flights := if amount = m.amount then m.flights else []
    allocationKey := none, amount := amount, refresh := none }
  have changes : Act wall msg.cause m [] next := .amountChanged (Msg.cause_body body)
  have rest : Does wall msg.cause m (do
      if amount = "" ∨ amount = "0" then
        if survivesClearedAmount m.intent then pure next
        else abandonSign { next with intent := initialIntentState }
      else do
        setTimer .debounce quoteDebounceMs false
        pure next) := by
    refine .step changes (.ite (fun unset => .ite (fun _ => .done) fun dropped => ?_) fun _ => ?_)
    · exact .of_parts (abandonSign_value _) (abandonSign_quiet _)
        (.single (.cleared (Msg.cause_body body) unset (by simpa using dropped)))
    · exact .after (by simp) .done
  unfold onQuoteRequested
  refine .after (by simp) (.after (by simp) ?_)
  dsimp only
  by_cases same : amount = m.amount
  · rw [if_pos same]
    simp only [next, if_pos same] at rest
    exact rest
  · rw [if_neg same]
    simp only [next, if_neg same] at rest
    exact .after (supersedeFlights_quiet m) rest

theorem onAllocateRequested_does {key ref : String} (body : msg.body = .allocateRequested key ref) :
    Does wall msg.cause m (onAllocateRequested m key ref msg.now) := by
  unfold onAllocateRequested
  refine .ite (fun _ => .after (by simp) .done) fun allowed => ?_
  have allocatable : allocatableStates.contains m.intent.status = true := by
    simp only [allocationRefused, Bool.or_eq_true, not_or, Bool.not_eq_true', Bool.not_eq_false]
      at allowed
    exact allowed.2
  have deposit : isChainId m.ctx.fromChainId = false := by
    simp only [allocationRefused, Bool.or_eq_true, not_or, Bool.not_eq_true] at allowed
    exact allowed.1.1.2
  have named : Act wall msg.cause m [] { m with allocationKey := some (m.allocationKey.getD key) } :=
    .noted (Nat.le_refl _)
  exact .step named
    (startQuote_does (fun _ => .of_body body rfl) (idle_of_allocatable allocatable) rfl
      fun _ => ⟨rfl, deposit⟩)

theorem onCancelSign_does (coherent : Coherent m)
    (body : msg.body = .cancelSignRequested) : Does wall msg.cause m (onCancelSign m) := by
  unfold onCancelSign
  refine .ite (fun _ => .done) fun here => ?_
  have signing : m.intent.status = .signing := by
    rw [not_or, not_not] at here
    exact here.1
  have free : Stops msg.cause m := .of_stage fun flow live stage => by
    rw [coherent.executes flow live stage] at signing
    cases signing
  have clears : Does wall msg.cause m (abandonSign m) :=
    .of_parts (abandonSign_value m) (abandonSign_quiet m)
      (.single (.stopped free (.inr rfl) (by simp) (by simp)))
  exact .bind clears (.move fun edge => .returned (.of_body body rfl) edge)

theorem onReset_does (body : msg.body = .resetRequested) : Does wall msg.cause m (onReset m) := by
  have resets {fx : List Effect} (h : ∀ e ∈ fx, e.quiet = true ∨ e = .wallet .resetApproval) :
      Act wall msg.cause m fx _ := .reset (Msg.cause_body body) h
  have quietly (fx : List Effect) (h : Quiet fx) :
      ∀ e ∈ fx, e.quiet = true ∨ e = .wallet .resetApproval := fun e he => .inl (h e he)
  unfold onReset
  refine .after (by simp) (.after (by simp) (.after (by simp) ?_))
  have rest : Does wall msg.cause m (do
      emit (.wallet .resetApproval)
      let kept ← supersedeFlights m
      pure { kept with
        intent := initialIntentState
        amount := ""
        submittedAt := none
        clientFillMs := none
        awaitingPull := false
        isSigningPull := false
        pendingIntentSig := none
        allocationKey := none
        refresh := none
        quotedTrade := none
        sign := none }) := by
    refine .single (resets fun e he => ?_)
    rcases List.mem_cons.mp he with rfl | he
    · exact .inr rfl
    · exact .inl ((quiet_append.mpr ⟨supersedeFlights_quiet m, quiet_nil⟩) e he)
  dsimp only
  split
  · exact .after (by simp) rest
  · exact rest

theorem onResume_does {intentId owner : String} {status : IntentStatus}
    {depositDeadline : Option Int} {substatus : Option String}
    (body : msg.body = .resumeRequested intentId status owner depositDeadline substatus) :
    Does wall msg.cause m (onResume m intentId status owner depositDeadline substatus) := by
  unfold onResume
  split
  · exact .done
  · rename_i adopted adopts
    have resumes : Act wall msg.cause m [] _ := .resumed (Msg.cause_body body) adopts
    refine .after (by simp) (.of_parts ?_ (quiet_append.mpr ⟨supersedeFlights_quiet m, quiet_nil⟩)
      (.single resumes))
    simp only [value_bind, supersedeFlights_value, value_pure]
    split <;> rfl

theorem onVisible_steps (coherent : Coherent m) (body : msg.body = .visibilityChanged) : Steps wall msg m (onVisible m msg.now) := by
  have polls {m₁ : Model} : Does wall msg.cause m₁ (wakePoll m₁) := by
    unfold wakePoll
    split
    · exact .done
    · refine .ite (fun _ => ?_) fun _ => pollTick_does false (by simp [Msg.cause])
      have unpolled {m₂ : Model} : Act wall msg.cause m₂ [] { m₂ with poll := none } :=
        .polled (Nat.le_refl _) (by simp) (by simp)
      exact .step (.annotated (.inl rfl)) (.act unpolled)
  unfold onVisible
  dsimp only
  split
  · rename_i due
    have shown : m.intent.status = .quoted ∨ m.intent.status = .expired := by
      have := due.2
      unfold shouldRefreshOnReturn at this
      split at this
      · cases this
      · simpa using this
    have unsigned : m.sign = none := by
      by_contra live
      have := coherent.confined (.inl (Option.isSome_iff_ne_none.mpr live))
      rcases shown with h | h <;> rw [h] at this <;> simp at this
    have idle : busy m = false := by
      unfold busy
      rcases shown with h | h <;> rw [h] <;> rfl
    have started : Does wall msg.cause m
        (startQuote m msg.now { quoteOpts m.amount with forceRefresh := true }) :=
      startQuote_does (fun _ => .of_body body rfl) idle rfl fun h => by cases h
    refine .acts (.bind started (.ite (fun waits => ?_) fun _ => polls))
    have still := Chain.sign started unsigned
    dsimp only [Msg.cause_now] at still
    rw [awaitingResend, still] at waits
    cases waits
  · exact .ite (fun _ => resendBackstop_steps (.of_body body rfl)) fun _ => .acts polls

/-- Every step is one outcome of the ceremony or a chain of acts. -/
theorem step_steps {x : Machine Model} (coherent : Coherent m) (stepped : step wall m msg = .ok x) :
    Steps wall msg m x := by
  unfold step at stepped
  cases body : msg.body <;> rw [body] at stepped <;> dsimp only at stepped
  case signReplied => exact onSigned_steps coherent body stepped
  case pullSignRequested => exact beginPullSign_steps coherent body stepped
  all_goals cases stepped
  case contextChanged => exact .acts (onContextChanged_does body)
  case quoteRequested => exact .acts (onQuoteRequested_does body)
  case allocateRequested => exact .acts (onAllocateRequested_does body)
  case refreshRequested => exact .acts (requestQuote_does (.of_body body rfl))
  case signRequested => exact beginSign_steps body
  case cancelSignRequested => exact .acts (onCancelSign_does coherent body)
  case resetRequested => exact .acts (onReset_does body)
  case resumeRequested => exact .acts (onResume_does body)
  case visibilityChanged => exact .ite (fun _ => .acts .done) fun _ => onVisible_steps coherent body
  case streamStatus => exact .acts (onStream_does (Msg.cause_body body))
  case timerFired => exact onTimer_steps coherent body
  case sessionReplied => exact .acts (onSession_does (Msg.cause_body body))
  case quoteReplied => exact .acts (onQuote_does (Msg.cause_body body))
  case approvalReplied => exact onApproval_steps coherent body
  case executeReplied => exact onExecuted_steps body
  case statusReplied => exact .acts (onStatus_does (Msg.cause_body body))

/-! ## Reactive rules -/

/-- A rule's effects and the model it leaves are a chain of acts. -/
def Settles (wall : WallClock) (cause : Cause) (m : Model) (x : Machine (Option Model)) : Prop :=
  Chain (Act wall cause) m x.log (x.value.getD m)

namespace Settles

theorem nothing : Settles wall cause m (pure none) := .refl m

theorem chain {m' : Model} (h : Chain (Act wall cause) m [] m') : Settles wall cause m (pure (some m')) :=
  h

theorem after {x : Machine Unit} {y : Unit → Machine (Option Model)} (h : Quiet x.log)
    (rest : Settles wall cause m (y x.value)) : Settles wall cause m (x >>= y) :=
  Chain.trans (.single (.quiet h)) rest

theorem does {x : Machine Model} (h : Does wall cause m x) :
    Settles wall cause m (x >>= fun next => pure (some next)) := by
  have := Chain.trans h (.refl _)
  exact this

end Settles

theorem watchWallet_settles (rule : cause.body = none) : Settles wall cause m (watchWallet m) := by
  unfold watchWallet
  dsimp only
  split
  · exact .nothing
  · rename_i changed
    have watches : Act wall cause m [] { m with
        watched := { m.watched with wallet := walletKey m } } := .watched rule
    split
    · exact .chain (.single watches)
    · rename_i held
      simp only [Bool.or_eq_true, Bool.not_eq_true', not_or, Bool.not_eq_false,
        Bool.not_eq_true] at held
      exact .after (by simp) (.after (by simp) (.after (by simp)
        (.chain (.single (.walletReset rule changed held.1.2 held.2)))))

theorem upgradePreview_settles : Settles wall cause m (upgradePreview cause.now m) := by
  let key := jsonArray [jsonString (tradeKey m.ctx), jsonString m.amount,
    jsonBool ((m.intent.quote.map (·.preview)).getD false), jsonString m.intent.status.text]
  have notes : Act wall cause m [] { m with watched := { m.watched with upgrade := key } } :=
    .noted (Nat.le_refl _)
  unfold upgradePreview
  dsimp only
  split
  · exact .nothing
  split
  · exact .chain (.single notes)
  · rename_i upgrades
    have quoted : m.intent.status = .quoted := by
      simp only [shouldUpgradePreviewQuote, Bool.not_eq_true', Bool.not_eq_false,
        Bool.and_eq_true, beq_iff_eq] at upgrades
      exact upgrades.1.2
    refine .does (.step notes (startQuote_does (fun h => by cases h) ?_ rfl fun h => by cases h))
    unfold busy
    dsimp only
    rw [quoted]
    rfl

theorem armExpiry_settles (rule : cause.body = none) : Settles wall cause m (armExpiry cause.now m) := by
  let next : Model := { m with watched := { m.watched with expiry := expiryKey m } }
  have notes : Act wall cause m [] next := .noted (Nat.le_refl _)
  have counts : Act wall cause next [] { next with quoteExpiresIn := none } := .noted (Nat.le_refl _)
  have rest : Settles wall cause m (startExpiry m next cause.now) := by
    unfold startExpiry
    cases armed : expiryKey m with
    | none => exact .chain (.snoc (.single notes) counts)
    | some key =>
      exact .after (by simp) (.does (.step notes (tickExpiry_does (.inr ⟨rule, expiryKey_counted armed⟩))))
  unfold armExpiry
  dsimp only
  split
  · exact .nothing
  · split
    · exact .after (by simp) rest
    · exact rest

theorem armPoll_settles (rule : cause.body = none) : Settles wall cause m (armPoll cause.now m) := by
  have rest : Settles wall cause m (startPoll m cause.now) := by
    unfold startPoll
    cases armed : pollKey m with
    | none => exact .chain (.single (.polled (Nat.le_refl _) (by simp) (by simp)))
    | some key =>
      have arms : Act wall cause m [] { m with
          seq := m.seq + 1, poll := some (armedPoll m key cause.now) } :=
        .polled (Nat.le_succ _) (fun p h => by cases h; exact .inr ⟨rule, armed, rfl⟩) (by simp)
      refine .after (by simp) ?_
      dsimp only
      split
      · exact .chain (.single arms)
      · refine .does (.step arms (pollTick_does false fun poll h _ => ?_))
        cases h
        exact armed
  unfold armPoll
  dsimp only
  split
  · exact .nothing
  · split
    · split
      · exact .after (by simp) rest
      · exact rest
    · exact rest

omit [Host] in
/-- The rules in a row, none of which the model before it knows. -/
theorem runRules_chain {change : Model → List Effect → Model → Prop} {rules : List Rule}
    (h : ∀ rule ∈ rules, ∀ m, Chain change m (rule m).log ((rule m).value.getD m)) :
    ∀ m, Chain change m (runRules rules m).log (runRules rules m).value.1 := by
  induction rules with
  | nil => exact fun m => .refl m
  | cons rule rest ih =>
    intro m
    have first := h rule (by simp) m
    have later := ih fun r hr => h r (by simp [hr])
    unfold runRules
    rw [value_bind, log_bind]
    cases ruled : (rule m).value with
    | none =>
      rw [ruled] at first
      exact first.trans (later m)
    | some next =>
      rw [ruled] at first
      simpa using first.trans (later next)

/-- What each rule does is a chain of changes, and so is what they settle. -/
theorem settle_chain {change : Model → List Effect → Model → Prop} {now : Int}
    (h : ∀ rule ∈ settleRules now, ∀ m, Chain change m (rule m).log ((rule m).value.getD m))
    (m : Model) : Chain change m (settle m now).log (settle m now).value := by
  have passes (n : Nat) : ∀ m, Chain change m (settlePasses now n m).log
      (settlePasses now n m).value := by
    induction n with
    | zero => exact fun m => .refl m
    | succ n ih =>
      intro m
      have pass := runRules_chain h m
      unfold settlePasses
      rw [value_bind, log_bind]
      refine pass.trans ?_
      rcases (runRules (settleRules now) m).value with ⟨next, changed⟩
      cases changed with
      | true => exact ih next
      | false => exact .refl next
  exact passes 4 m

variable (wall) in
theorem rules_settle (rule : cause.body = none) :
    ∀ r ∈ settleRules cause.now, ∀ m, Settles wall cause m (r m) := by
  intro r h m
  simp only [settleRules, List.mem_cons, List.not_mem_nil, or_false] at h
  rcases h with rfl | rfl | rfl | rfl
  · exact watchWallet_settles rule
  · exact upgradePreview_settles
  · exact armExpiry_settles rule
  · exact armPoll_settles rule

theorem settle_does (rule : cause.body = none) : Does wall cause m (settle m cause.now) :=
  settle_chain (rules_settle wall rule) m

end

end XochiSdk.Client
