import XochiSdk.Library.Footprint
import XochiSdk.Client.Machine.Calm

/-!
# What the handlers leave of the poll

Every handler but the poll's own leaves the poll and the rules' watches as they were, and reads
no status.
-/

namespace XochiSdk.Client

open XochiSdk.Js XochiSdk.Shared XochiSdk.Signer XochiSdk.Library Emits

def Effect.readsStatus : Effect → Bool
  | .api (.status ..) => true
  | _ => false

/-- An effect that is no status read. -/
abbrev Effect.NoRead (e : Effect) : Prop := e.readsStatus = false

/-- The poll and the watches are as they were; ids are only drawn. -/
structure SamePoll (m m' : Model) : Prop where
  poll : m'.poll = m.poll
  watched : m'.watched = m.watched
  seq : m.seq ≤ m'.seq

theorem SamePoll.refl (m : Model) : SamePoll m m := ⟨rfl, rfl, Nat.le_refl _⟩

theorem SamePoll.of {m m₁ m' : Model} (h : SamePoll m₁ m') (poll : m₁.poll = m.poll)
    (watched : m₁.watched = m.watched) (seq : m.seq ≤ m₁.seq) : SamePoll m m' :=
  ⟨h.poll.trans poll, h.watched.trans watched, seq.trans h.seq⟩

instance : IsTrans Model SamePoll where
  trans _ _ _ first second :=
    ⟨second.poll.trans first.poll, second.watched.trans first.watched, first.seq.trans second.seq⟩

/-- A handler that leaves the poll alone. -/
def Unpolled (m : Model) (x : Machine Model) : Prop := Within SamePoll Effect.NoRead m x

namespace Unpolled

variable {m m₁ : Model} {x : Machine Model} {α : Type}

theorem pure (same : SamePoll m m₁) : Unpolled m (Pure.pure m₁) := Within.pure same

/-- The parts the poll's rules read are as they were. -/
theorem same (poll : m₁.poll = m.poll) (watched : m₁.watched = m.watched)
    (seq : m.seq ≤ m₁.seq) : Unpolled m (Pure.pure m₁) :=
  .pure ⟨poll, watched, seq⟩

theorem bind {f : Model → Machine Model} (first : Unpolled m x)
    (rest : Unpolled x.value (f x.value)) : Unpolled m (x >>= f) :=
  Within.bind first rest

theorem after {y : Machine α} {f : α → Machine Model} (h : ∀ e ∈ y.log, e.NoRead)
    (rest : Unpolled m (f y.value)) : Unpolled m (y >>= f) :=
  Within.after h rest

theorem of (h : Unpolled m₁ x) (poll : m₁.poll = m.poll) (watched : m₁.watched = m.watched)
    (seq : m.seq ≤ m₁.seq) : Unpolled m x :=
  Within.from_ ⟨poll, watched, seq⟩ h

theorem ite {c : Prop} [Decidable c] {y : Machine Model} (yes : c → Unpolled m x)
    (no : ¬c → Unpolled m y) : Unpolled m (if c then x else y) :=
  Within.ite yes no

end Unpolled

theorem noRead_single {e : Effect} (h : e.readsStatus = false) : ∀ e' ∈ [e], e'.NoRead := by
  intro e' mem
  rw [List.mem_singleton.mp mem]
  exact h

theorem timer_noRead (call : TimerCall) : ∀ e ∈ [Effect.timer call], e.NoRead :=
  noRead_single rfl

theorem wallet_noRead (call : WalletCall) : ∀ e ∈ [Effect.wallet call], e.NoRead :=
  noRead_single rfl

theorem report_noRead (level : LogLevel) (message : String) (data : List Value) :
    ∀ e ∈ (report level message data).log, e.NoRead :=
  noRead_single rfl

section

variable {m : Model}

theorem endAllocation_noRead (allocate : Option Allocation) (ok : Bool) :
    ∀ e ∈ (endAllocation allocate ok).log, e.NoRead := by
  unfold endAllocation
  split
  · exact noRead_single rfl
  · simp

theorem endAllocations_noRead (flights : List QuoteFlight) :
    ∀ e ∈ (endAllocations flights).log, e.NoRead := by
  induction flights with
  | nil => simp [endAllocations]
  | cons flight rest ih =>
    intro e mem
    rcases List.mem_append.mp mem with h | h
    · exact endAllocation_noRead _ _ e h
    · exact ih e h

theorem supersedeFlights_unpolled (m : Model) : Unpolled m (supersedeFlights m) :=
  .after (endAllocations_noRead _) (.same rfl rfl (Nat.le_refl _))

theorem abandonSign_unpolled (m : Model) : Unpolled m (abandonSign m) := by
  have clears (c : Bool) (timer : TimerName) {x : Machine Model} (rest : Unpolled m x) :
      Unpolled m (if c then clearTimer timer >>= fun _ => x else x) :=
    .ite (fun _ => .after (timer_noRead _) rest) fun _ => rest
  exact clears _ _ (clears _ _ (.same rfl rfl (Nat.le_refl _)))

theorem transition_unpolled (m : Model) (target : IntentStatus)
    (updates : IntentState → IntentState) : Unpolled m (transition m target updates) := by
  have leaves (source : IntentStatus) (next : Model) : Unpolled next
      (if source == .executing || (source == .signing && !ownExecute next target) then
        abandonSign next
      else pure next) :=
    .ite (fun _ => abandonSign_unpolled next) fun _ => .same rfl rfl (Nat.le_refl _)
  unfold transition
  split
  · exact .after (report_noRead _ _ _) (.same rfl rfl (Nat.le_refl _))
  · rename_i intent _
    refine .of (?_ : Unpolled { m with intent := { intent with notSent := false } } _) rfl rfl
      (Nat.le_refl _)
    dsimp only
    split
    · exact .bind (supersedeFlights_unpolled _) (leaves _ _)
    · exact .bind (.same rfl rfl (Nat.le_refl _)) (leaves _ _)

theorem transitionTo_unpolled (m : Model) (target : WireStatus)
    (updates : IntentState → IntentState) : Unpolled m (transitionTo m target updates) := by
  unfold transitionTo
  split
  · exact transition_unpolled _ _ _
  · exact .after (report_noRead _ _ _) (.same rfl rfl (Nat.le_refl _))

/-! ## Quotes -/

theorem allocationFailed_same (m : Model) (error : ErrorValue) :
    SamePoll m (allocationFailed m error) := by
  unfold allocationFailed
  split
  · exact ⟨rfl, rfl, Nat.le_refl _⟩
  · exact ⟨rfl, rfl, Nat.le_refl _⟩

theorem quoteFailed_same (m : Model) (flight : QuoteFlight) (error : ErrorValue) :
    SamePoll m (quoteFailed m flight error) := by
  unfold quoteFailed
  split
  · exact allocationFailed_same m error
  · exact ⟨rfl, rfl, Nat.le_refl _⟩

theorem dropStaleFlight_unpolled (m : Model) (flight : QuoteFlight) :
    Unpolled m (dropStaleFlight m flight) :=
  .after (report_noRead _ _ _) (.after (endAllocation_noRead _ _) (.same rfl rfl (Nat.le_refl _)))

theorem refuseQuote_unpolled (m : Model) (flight : QuoteFlight) (error : String)
    (quote : Option QuoteResponse) : Unpolled m (refuseQuote m flight error quote) := by
  refine .after (endAllocation_noRead _ _) ?_
  exact .ite (fun _ => .same rfl rfl (Nat.le_refl _)) fun _ => transition_unpolled _ _ _

theorem quoteThrew_unpolled (m : Model) (flight : QuoteFlight) (failure : ErrorReport) :
    Unpolled m (quoteThrew m flight failure) := by
  refine .after (report_noRead _ _ _) (.after (endAllocation_noRead _ _) ?_)
  exact .ite (fun _ => .same rfl rfl (Nat.le_refl _)) fun _ => .pure (quoteFailed_same _ _ _)

variable [Host]

theorem sendQuote_unpolled (m : Model) (flight : QuoteFlight) (now : Int) :
    Unpolled m (sendQuote m flight now) := by
  unfold sendQuote
  dsimp only
  refine .ite (fun _ => ?_) fun _ => ?_
  · refine .after (endAllocation_noRead _ _) (.ite (fun _ => .same rfl rfl (Nat.le_refl _)) fun _ => ?_)
    exact Unpolled.of (transition_unpolled _ _ _) rfl rfl (Nat.le_refl _)
  split
  · refine .after (report_noRead _ _ _) (.after (endAllocation_noRead _ _) ?_)
    exact .ite (fun _ => .same rfl rfl (Nat.le_refl _)) fun _ => .same rfl rfl (Nat.le_refl _)
  · have sends (next : Model) : Unpolled next (do
        emit (.api (.quote flight.id (flightRequest flight now) flight.forceRefresh))
        pure (putFlight next
          { flight with stage := .api, request := some (flightRequest flight now) })) :=
      .after (noRead_single rfl) (.same rfl rfl (Nat.le_refl _))
    split
    · exact .bind (.same rfl rfl (Nat.le_refl _)) (sends _)
    · exact .bind (transition_unpolled _ _ _) (sends _)

theorem startQuote_unpolled (m : Model) (now : Int) (opts : QuoteOpts) :
    Unpolled m (startQuote m now opts) := by
  unfold startQuote
  dsimp only
  refine .ite (fun _ => ?_) fun _ => .ite (fun _ => ?_) fun _ => .ite (fun _ => ?_) fun _ => ?_
  · exact .after (report_noRead _ _ _) (.after (endAllocation_noRead _ _) (.same rfl rfl (Nat.le_refl _)))
  · exact .after (endAllocation_noRead _ _) (.same rfl rfl (Nat.le_refl _))
  · refine .ite (fun _ => .same rfl rfl (Nat.le_succ _)) fun _ => ?_
    exact .after (wallet_noRead _) (.same rfl rfl (Nat.le_succ _))
  · exact Unpolled.of (sendQuote_unpolled _ _ _) rfl rfl (Nat.le_succ _)

theorem onSession_unpolled (m : Model) (id : String) (result : SessionResult) (now : Int) :
    Unpolled m (onSession m id result now) := by
  unfold onSession
  split
  · exact .same rfl rfl (Nat.le_refl _)
  refine .ite (fun _ => dropStaleFlight_unpolled _ _) fun _ => .ite (fun _ => ?_) fun _ => ?_
  · exact sendQuote_unpolled _ _ _
  · refine .after (endAllocation_noRead _ _) (.ite (fun _ => .same rfl rfl (Nat.le_refl _)) fun _ => .pure ?_)
    exact (quoteFailed_same (withoutFlight m id) _ _).of rfl rfl (Nat.le_refl _)

theorem planRefresh_unpolled (m : Model) (flight : QuoteFlight) (quote : QuoteResponse)
    (now : Int) : Unpolled m (planRefresh m flight quote now) := by
  have ends (next : Model) : Unpolled next (do
      endAllocation flight.allocate true
      pure next) :=
    .after (endAllocation_noRead _ _) (.same rfl rfl (Nat.le_refl _))
  unfold planRefresh
  split
  · split
    · exact .after (timer_noRead _) (.bind (.same rfl rfl (Nat.le_refl _)) (ends _))
    · exact .bind (.same rfl rfl (Nat.le_refl _)) (ends _)
  · exact .bind (.same rfl rfl (Nat.le_refl _)) (ends _)

theorem acceptQuote_unpolled (m : Model) (flight : QuoteFlight) (quote : QuoteResponse)
    (attested : Option StoredDepositAttestation) (now : Int) :
    Unpolled m (acceptQuote m flight quote attested now) := by
  unfold acceptQuote
  dsimp only
  refine .ite (fun _ => .ite (fun _ => .same rfl rfl (Nat.le_refl _)) fun _ => ?_) fun _ =>
    .ite (fun _ => ?_) fun _ => ?_
  · exact Unpolled.of (planRefresh_unpolled _ _ _ _) rfl rfl (Nat.le_refl _)
  · exact Unpolled.of (planRefresh_unpolled _ _ _ _) rfl rfl (Nat.le_refl _)
  · refine .bind (transition_unpolled _ _ _) ?_
    split
    · exact Unpolled.of (planRefresh_unpolled _ _ _ _) rfl rfl (Nat.le_refl _)
    · exact planRefresh_unpolled _ _ _ _

theorem onServedQuote_unpolled (wall : WallClock) (m : Model) (flight : QuoteFlight)
    (quote : QuoteResponse) (now : Int) : Unpolled m (onServedQuote wall m flight quote now) := by
  have rejected (verdict : DepositRejection) : Unpolled m (attestationRejected m flight verdict) :=
    .after (report_noRead _ _ _) (refuseQuote_unpolled _ _ _ _)
  unfold onServedQuote
  split
  · exact .after (report_noRead _ _ _) (refuseQuote_unpolled _ _ _ _)
  refine .ite (fun _ => acceptQuote_unpolled _ _ _ _ _) fun _ => ?_
  split
  · exact rejected _
  split
  · exact rejected _
  · exact Unpolled.of (acceptQuote_unpolled _ _ _ _ _) rfl rfl (Nat.le_refl _)

theorem onQuote_unpolled (wall : WallClock) (m : Model) (id : String)
    (result : Outcome QuoteResponse) (now : Int) :
    Unpolled m (onQuote wall m id result now) := by
  unfold onQuote
  split
  · exact .same rfl rfl (Nat.le_refl _)
  refine .ite (fun _ => dropStaleFlight_unpolled _ _) fun _ => ?_
  dsimp only
  split
  · exact Unpolled.of (quoteThrew_unpolled _ _ _) rfl rfl (Nat.le_refl _)
  · exact Unpolled.of (onServedQuote_unpolled _ _ _ _ _) rfl rfl (Nat.le_refl _)

end

/-! ## Sign and execute -/

section

variable {m : Model}

theorem patch_if_same (c : Prop) [Decidable c] (m : Model) (updates : IntentState → IntentState) :
    SamePoll m (if c then patch m updates else m) := by
  split
  · exact ⟨rfl, rfl, Nat.le_refl _⟩
  · exact .refl m

theorem signFlowFailed_unpolled (m : Model) (failure : ErrorReport) :
    Unpolled m (signFlowFailed m failure) := by
  have moves {m₁ : Model} (target : IntentStatus) (updates : IntentState → IntentState)
      (poll : m₁.poll = m.poll) (watched : m₁.watched = m.watched) (seq : m.seq ≤ m₁.seq) :
      Unpolled m (transition m₁ target updates) :=
    Unpolled.of (transition_unpolled _ _ _) poll watched seq
  unfold signFlowFailed
  split
  · exact .same rfl rfl (Nat.le_refl _)
  refine .after (timer_noRead _) ?_
  dsimp only
  split
  · refine .ite (fun _ => moves _ _ rfl rfl (Nat.le_refl _)) fun _ =>
      .ite (fun _ => moves _ _ rfl rfl (Nat.le_refl _)) fun _ => ?_
    exact .after (report_noRead _ _ _) (moves _ _ rfl rfl (Nat.le_refl _))
  · refine .ite (fun _ => moves _ _ rfl rfl (Nat.le_refl _)) fun _ => ?_
    exact .after (report_noRead _ _ _) (.same rfl rfl (Nat.le_refl _))

theorem promptSignature_unpolled (m : Model) (flow : SignFlow) (purpose : Purpose)
    (typed : Eip712TypedData) : Unpolled m (promptSignature m flow purpose typed) :=
  .after (wallet_noRead _) (.after (timer_noRead _) (.same rfl rfl (Nat.le_refl _)))

theorem revealDeposit_unpolled (m : Model) (now : Int) : Unpolled m (revealDeposit m now) := by
  unfold revealDeposit
  refine .ite (fun _ => ?_) fun _ => transition_unpolled _ _ _
  exact .after (report_noRead _ _ _) (transition_unpolled _ _ _)

theorem onApproval_unpolled (m : Model) (flowId : String) (result : Outcome Bool) :
    Unpolled m (onApproval m flowId result) := by
  unfold onApproval
  split
  · exact .same rfl rfl (Nat.le_refl _)
  refine .ite (fun _ => .same rfl rfl (Nat.le_refl _)) fun _ => ?_
  split
  · exact signFlowFailed_unpolled _ _
  · exact transition_unpolled _ _ _
  · split
    · exact .same rfl rfl (Nat.le_refl _)
    · exact promptSignature_unpolled _ _ _ _

theorem runExecute_unpolled (m : Model) (flow : SignFlow) (signature : String)
    (pullSignature : Option String) (now : Int) :
    Unpolled m (runExecute m flow signature pullSignature now) := by
  unfold runExecute
  refine .ite (fun _ => .after (report_noRead _ _ _) (abandonSign_unpolled m)) fun _ => ?_
  dsimp only
  set staged : Model := { m with
    sign := some { flow with
      stage := .execute
      execute := some
        { request :=
            { intentId := m.intent.intentId.getD "", quoteId := m.intent.quoteId.getD ""
              signature := signature, nonce := now, pullSignature := pullSignature }
          resends := 0, resendAt := none, error := none } } } with staged_eq
  have moves : Unpolled m (transition staged .executing id) :=
    Unpolled.of (transition_unpolled _ _ _) rfl rfl (Nat.le_refl _)
  by_cases lands : (transition staged .executing id).value.intent.status = .executing
  · refine .bind moves ?_
    rw [if_neg (not_not.mpr lands)]
    exact .after (noRead_single rfl) (.same rfl rfl (Nat.le_refl _))
  · -- a refused move gives up the ceremony of the model before it
    refine .after moves.emits ?_
    rw [if_pos lands]
    exact abandonSign_unpolled m

theorem applyExecuteDecision_unpolled (m : Model) (response : ExecuteResponse) (unmapped : Bool)
    (now : Int) : Unpolled m (applyExecuteDecision m response unmapped now) := by
  unfold applyExecuteDecision
  split
  · exact transition_unpolled _ _ _
  · rename_i status updates _
    have timed : SamePoll m (timeFill m status now) := by
      unfold timeFill
      split
      · split
        · exact ⟨rfl, rfl, Nat.le_refl _⟩
        · exact .refl m
      · exact .refl m
    refine Unpolled.of (.bind (transitionTo_unpolled (timeFill m status now) _ _) ?_)
      timed.poll timed.watched timed.seq
    exact .pure (patch_if_same _ _ _)

theorem executeResponse_noRead (result : ExecuteResult) (intentId : Option String) :
    ∀ e ∈ (executeResponseUnlessInDoubt result intentId).log, e.NoRead := by
  unfold executeResponseUnlessInDoubt
  split
  · exact report_noRead _ _ _
  · exact report_noRead _ _ _
  · split
    · exact report_noRead _ _ _
    · split
      · exact report_noRead _ _ _
      · split
        · exact report_noRead _ _ _
        · simp

theorem applyStatusUpdate_unpolled (m : Model) (message : StatusMessage) (unmapped : Bool) :
    Unpolled m (applyStatusUpdate m message unmapped) := by
  have marks (next : Model) (status : IntentStatus) :
      SamePoll next (endNotSent (markUnmapped next unmapped) status) := by
    unfold endNotSent markUnmapped
    split <;> split <;> exact ⟨rfl, rfl, Nat.le_refl _⟩
  unfold applyStatusUpdate
  refine .after (report_noRead _ _ _) ?_
  dsimp only
  split
  · split
    · exact .bind (.same rfl rfl (Nat.le_refl _)) (.pure (marks _ _))
    · exact .bind (.same rfl rfl (Nat.le_refl _)) (.pure (marks _ _))
  · exact .bind (transition_unpolled _ _ _) (.pure (marks _ _))

theorem onStream_unpolled (m : Model) (message : StatusMessage) :
    Unpolled m (onStream m message) := by
  unfold onStream
  refine .ite (fun _ => ?_) fun _ => applyStatusUpdate_unpolled _ _ _
  exact .after (report_noRead _ _ _) (.same rfl rfl (Nat.le_refl _))

/-! ## Messages -/

theorem onQuoteRequested_unpolled (m : Model) (amount : String) :
    Unpolled m (onQuoteRequested m amount) := by
  have rest (kept : Model) : Unpolled kept (do
      let next := { kept with allocationKey := none, amount := amount, refresh := none }
      if amount = "" ∨ amount = "0" then
        if survivesClearedAmount m.intent then pure next
        else abandonSign { next with intent := initialIntentState }
      else do
        setTimer .debounce quoteDebounceMs false
        pure next) := by
    refine .ite (fun _ => .ite (fun _ => .same rfl rfl (Nat.le_refl _)) fun _ => ?_) fun _ => ?_
    · exact Unpolled.of (abandonSign_unpolled _) rfl rfl (Nat.le_refl _)
    · exact .after (timer_noRead _) (.same rfl rfl (Nat.le_refl _))
  unfold onQuoteRequested
  refine .after (timer_noRead _) (.after (timer_noRead _) ?_)
  dsimp only
  split
  · exact .bind (.same rfl rfl (Nat.le_refl _)) (rest _)
  · exact .bind (supersedeFlights_unpolled m) (rest _)

theorem onCancelSign_unpolled (m : Model) : Unpolled m (onCancelSign m) := by
  unfold onCancelSign
  refine .ite (fun _ => .same rfl rfl (Nat.le_refl _)) fun _ => ?_
  exact .bind (abandonSign_unpolled m) (transition_unpolled _ _ _)

theorem onReset_unpolled (m : Model) : Unpolled m (onReset m) := by
  have ends (kept : Model) {m₁ : Model} (poll : m₁.poll = kept.poll)
      (watched : m₁.watched = kept.watched) (seq : kept.seq ≤ m₁.seq) : Unpolled kept (pure m₁) :=
    .same poll watched seq
  unfold onReset
  refine .after (timer_noRead _) (.after (timer_noRead _) (.after (timer_noRead _) ?_))
  dsimp only
  split
  · exact .after (timer_noRead _) (.after (wallet_noRead _)
      (.bind (supersedeFlights_unpolled m) (ends _ rfl rfl (Nat.le_refl _))))
  · exact .after (wallet_noRead _)
      (.bind (supersedeFlights_unpolled m) (ends _ rfl rfl (Nat.le_refl _)))

theorem onResume_unpolled (m : Model) (intentId : String) (status : IntentStatus) (owner : String)
    (depositDeadline : Option Int) (substatus : Option String) :
    Unpolled m (onResume m intentId status owner depositDeadline substatus) := by
  unfold onResume
  split
  · exact .same rfl rfl (Nat.le_refl _)
  · refine .after (timer_noRead _) (.bind (supersedeFlights_unpolled m) ?_)
    exact .same rfl rfl (Nat.le_refl _)

variable [Host]

theorem beginIntentSign_unpolled (m : Model) (quote : QuoteResponse) (eip712 : Eip712TypedData)
    (now : Int) : Unpolled m (beginIntentSign m quote eip712 now) := by
  have prompts : Unpolled m (promptIntent m quote eip712) := by
    unfold promptIntent
    split
    · exact .after (report_noRead _ _ _) (.same rfl rfl (Nat.le_refl _))
    · refine .bind (transition_unpolled _ _ _)
        (.ite (fun _ => .same rfl rfl (Nat.le_refl _)) fun _ => ?_)
      exact Unpolled.of (promptSignature_unpolled _ _ _ _) rfl rfl (Nat.le_succ _)
  unfold beginIntentSign
  split
  · exact .same rfl rfl (Nat.le_refl _)
  · exact transition_unpolled _ _ _
  all_goals exact prompts

theorem beginSign_unpolled (m : Model) (now : Int) : Unpolled m (beginSign m now) := by
  have same {m₁ : Model} (poll : m₁.poll = m.poll) (watched : m₁.watched = m.watched)
      (seq : m.seq ≤ m₁.seq) : Unpolled m (pure m₁) :=
    .same poll watched seq
  unfold beginSign
  refine .ite (fun _ => same rfl rfl (Nat.le_refl _)) fun _ => ?_
  dsimp only
  split
  · exact same rfl rfl (Nat.le_refl _)
  refine .ite (fun _ => same rfl rfl (Nat.le_refl _)) fun _ => .ite (fun _ => ?_) fun _ => ?_
  · exact .after (report_noRead _ _ _) (same rfl rfl (Nat.le_refl _))
  refine .ite (fun _ => revealDeposit_unpolled m now) fun _ => ?_
  split
  · exact same rfl rfl (Nat.le_refl _)
  · exact beginIntentSign_unpolled _ _ _ _

theorem completePull_unpolled {flow : SignFlow} {x : Machine Model}
    (completed : completePull m flow = .ok x) : Unpolled m x := by
  rcases completePull_cases completed with ⟨rfl, -⟩ | ⟨-, rfl⟩ | ⟨-, rfl⟩ | ⟨-, value, log⟩
  · exact .same rfl rfl (Nat.le_refl _)
  · exact Unpolled.of (signFlowFailed_unpolled _ _) rfl rfl (Nat.le_refl _)
  · exact .after (report_noRead _ _ _)
      (Unpolled.of (transition_unpolled _ _ _) rfl rfl (Nat.le_refl _))
  · exact ⟨by rw [value]; exact ⟨rfl, rfl, Nat.le_refl _⟩, by rw [log]; exact noRead_single rfl⟩

theorem beginPullSign_unpolled {now : Int} {x : Machine Model}
    (begun : beginPullSign m now = .ok x) : Unpolled m x := by
  have refused (error : String) : Unpolled m (transition { m with awaitingPull := false } .quoted
      fun intent => { intent with error := some (.text error) }) :=
    Unpolled.of (transition_unpolled _ _ _) rfl rfl (Nat.le_refl _)
  unfold beginPullSign at begun
  dsimp only at begun
  split at begun
  · cases begun
    exact .same rfl rfl (Nat.le_refl _)
  rcases signPreflight_cases m now with ⟨refusal, error, pre⟩ | ⟨error, pre⟩ | pre
  · rw [pre] at begun
    cases begun
    exact refused _
  · rw [pre] at begun
    cases begun
    exact refused _
  · rw [pre] at begun
    exact Unpolled.of (completePull_unpolled begun) rfl rfl (Nat.le_succ _)

theorem onSigned_unpolled {flowId : String} {purpose : Purpose} {result : Outcome String}
    {now : Int} {x : Machine Model} (signed : onSigned m flowId purpose result now = .ok x) :
    Unpolled m x := by
  have executes {m₁ : Model} {flow : SignFlow} {signature : String} {pull : Option String}
      (poll : m₁.poll = m.poll) (watched : m₁.watched = m.watched) (seq : m.seq ≤ m₁.seq) :
      Unpolled m (clearTimer .signPrompt >>= fun _ => runExecute m₁ flow signature pull now) :=
    .after (timer_noRead _) (Unpolled.of (runExecute_unpolled _ _ _ _ _) poll watched seq)
  unfold onSigned at signed
  cases live : m.sign with
  | none =>
    rw [live] at signed
    cases signed
    exact .same rfl rfl (Nat.le_refl _)
  | some flow =>
  rw [live] at signed
  dsimp only at signed
  split at signed
  · cases signed
    exact .same rfl rfl (Nat.le_refl _)
  split at signed
  · cases signed
    exact abandonSign_unpolled m
  cases result with
  | error failure =>
    cases signed
    exact .after (timer_noRead _) (signFlowFailed_unpolled _ _)
  | ok signature =>
  cases purpose with
  | pull =>
    cases signed
    exact executes rfl rfl (Nat.le_refl _)
  | intent =>
    dsimp only at signed
    split at signed
    · cases signed
      exact executes rfl rfl (Nat.le_refl _)
    split at signed
    · cases signed
      exact .after (timer_noRead _) (.same rfl rfl (Nat.le_refl _))
    · cases completed : completePull { m with
          pendingIntentSig := some signature, sign := some flow }
        { flow with intentSignature := some signature } with
      | error e =>
        rw [completed] at signed
        cases signed
      | ok x₁ =>
        rw [completed] at signed
        cases signed
        refine .after (timer_noRead _) ?_
        exact Unpolled.of (completePull_unpolled completed) rfl rfl (Nat.le_refl _)

theorem resendExecute_unpolled (m : Model) (now : Int) : Unpolled m (resendExecute m now) := by
  unfold resendExecute
  split
  · exact .same rfl rfl (Nat.le_refl _)
  split
  · exact .same rfl rfl (Nat.le_refl _)
  refine .ite (fun _ => .same rfl rfl (Nat.le_refl _)) fun _ => ?_
  dsimp only
  refine .ite (fun _ => .after (report_noRead _ _ _) (.same rfl rfl (Nat.le_refl _))) fun _ => ?_
  exact .after (noRead_single rfl) (.same rfl rfl (Nat.le_succ _))

theorem resendBackstop_unpolled (m : Model) (now : Int) : Unpolled m (resendBackstop m now) := by
  unfold resendBackstop
  split
  · exact .same rfl rfl (Nat.le_refl _)
  refine .ite (fun _ => .same rfl rfl (Nat.le_refl _)) fun _ => ?_
  exact .after (report_noRead _ _ _) (.after (timer_noRead _) (resendExecute_unpolled m now))

theorem onNotAccepted_unpolled (m : Model) (flow : SignFlow) (failure : ErrorReport) (now : Int) :
    (∀ e ∈ (onNotAccepted m flow failure now).log, e.NoRead) ∧
      ∀ next, (onNotAccepted m flow failure now).value = some next → SamePoll m next := by
  unfold onNotAccepted
  dsimp only
  split
  · exact ⟨report_noRead _ _ _, fun _ h => by cases h⟩
  split
  · exact ⟨report_noRead _ _ _, fun _ h => by cases h⟩
  split
  · exact ⟨report_noRead _ _ _, fun _ h => by cases h; exact ⟨rfl, rfl, Nat.le_refl _⟩⟩
  · refine ⟨?_, fun _ h => by cases h; exact ⟨rfl, rfl, Nat.le_refl _⟩⟩
    intro e mem
    rcases List.mem_append.mp mem with h | h
    · exact report_noRead _ _ _ e h
    · exact timer_noRead _ e h

theorem onExecuted_unpolled (m : Model) (flowId : String) (result : ExecuteResult) (now : Int) :
    Unpolled m (onExecuted m flowId result now) := by
  unfold onExecuted
  split
  · exact .same rfl rfl (Nat.le_refl _)
  rename_i flow _
  refine .ite (fun _ => .same rfl rfl (Nat.le_refl _)) fun _ => ?_
  -- a reply that is no refusal is read as a response
  have reads : Unpolled m (readExecute
      (endSignFlow { m with pendingIntentSig := none } flow) result now) := by
    unfold readExecute
    refine .after (executeResponse_noRead _ _) ?_
    split
    · exact .same rfl rfl (Nat.le_refl _)
    · refine .ite (fun _ => .after (report_noRead _ _ _) (.same rfl rfl (Nat.le_refl _))) fun _ => ?_
      exact Unpolled.of (applyExecuteDecision_unpolled _ _ _ _) rfl rfl (Nat.le_refl _)
  cases refused : notAcceptedReport result with
  | none => exact reads
  | some failure =>
    obtain ⟨mute, kept⟩ := onNotAccepted_unpolled m flow failure now
    refine .after mute ?_
    cases handled : (onNotAccepted m flow failure now).value with
    | some next => exact .pure (kept next handled)
    | none => exact reads

theorem tickExpiry_unpolled (m : Model) (now : Int) : Unpolled m (tickExpiry m now) := by
  unfold tickExpiry
  split
  · exact .same rfl rfl (Nat.le_refl _)
  · split
    · exact .same rfl rfl (Nat.le_refl _)
    · refine .ite (fun _ => ?_) fun _ => .same rfl rfl (Nat.le_refl _)
      exact Unpolled.of (transition_unpolled _ _ _) rfl rfl (Nat.le_refl _)

theorem requestQuote_unpolled (m : Model) (now : Int) : Unpolled m (requestQuote m now) := by
  unfold requestQuote
  refine .ite (fun _ => .after (report_noRead _ _ _) (.same rfl rfl (Nat.le_refl _))) fun _ => ?_
  exact .ite (fun _ => startQuote_unpolled _ _ _) fun _ => .same rfl rfl (Nat.le_refl _)

theorem onContextChanged_unpolled (m : Model) (ctx : Context) :
    Unpolled m (onContextChanged m ctx) := by
  have drops : Unpolled m (supersedeFlights { m with ctx := ctx }) :=
    Unpolled.of (supersedeFlights_unpolled _) rfl rfl (Nat.le_refl _)
  unfold onContextChanged
  refine .ite (fun _ => .same rfl rfl (Nat.le_refl _)) fun _ => ?_
  dsimp only
  split
  · exact .after (timer_noRead _) drops
  · exact drops

theorem onAllocateRequested_unpolled (m : Model) (key ref : String) (now : Int) :
    Unpolled m (onAllocateRequested m key ref now) := by
  unfold onAllocateRequested
  refine .ite (fun _ => .after (noRead_single rfl) (.same rfl rfl (Nat.le_refl _))) fun _ => ?_
  exact Unpolled.of (startQuote_unpolled _ _ _) rfl rfl (Nat.le_refl _)

end

end XochiSdk.Client
