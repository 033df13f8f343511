import XochiSdk.Client.Machine.Resends

/-!
# Where an execute's signatures come from

While signing, the quote and its ids are those Confirm was pressed on. Every first execute of a
run names that quote, carries the wallet's answer to the prompt raised for it, and carries a pull
signature exactly where the quote has a pull, answered after its pin passed and its approval came.
-/

namespace XochiSdk.Client

open XochiSdk.Js XochiSdk.Shared XochiSdk.Signer XochiSdk.Library Emits

/-- The wallet signed what it was asked under this flow. -/
def Signed (log : Log) (id : String) (purpose : Purpose) (signature : String) : Prop :=
  ∃ source wall msg, Happening.handled source (wall, msg) ∈ log ∧
    msg.body = .signReplied id purpose (.ok signature)

section

variable [Host]

/-- Confirm passed its guards on the held quote. -/
structure Confirms (msg : Msg) (m : Model) (quote : QuoteResponse) (eip712 : Eip712TypedData) :
    Prop where
  body : msg.body = .signRequested
  held : m.intent.quote = some quote
  signable : canSignQuote m.intent.status (some quote) = true
  current : holdsCurrentQuote m = true
  route : quote.hasDeposit = false
  typed : quote.eip712Data = some eip712
  preflight : signPreflight m msg.now = .proceed
  payout : validatePayoutPin eip712 quote.toAmount
    (textOrNone (textOrNone (m.ctx.recipientAddress.map trim) <|> m.ctx.wallet.address)) = none

/-- What the ceremony reads of the trade, and what is left of the ceremony. -/
structure SameQuote (m m' : Model) : Prop where
  config : m'.config = m.config
  quote : m'.intent.quote = m.intent.quote
  quoteId : m'.intent.quoteId = m.intent.quoteId
  intentId : m'.intent.intentId = m.intent.intentId
  amount : m'.intent.quotedFromAmount = m.intent.quotedFromAmount

/-- The prompt that opened the ceremony, for the quote that is held still. -/
def Opened (log : Log) (m : Model) (id : String) (quote : QuoteResponse) (since : Log) : Prop :=
  ∃ (pre : Log) (source : Model) (wall : WallClock) (msg : Msg) (fx : List Effect)
      (eip712 : Eip712TypedData),
    log = pre ++ .handled source (wall, msg) :: (fx.map .emitted ++
      .emitted (.wallet (.signTypedData id .intent eip712 source.ctx.wallet.chainId)) :: since) ∧
    Confirms msg (receive source msg) quote eip712 ∧ SameQuote source m

/-- The pull passed its pin, and approval of its amount was asked for. -/
def ApprovalAsked (since : Log) (m : Model) (id : String) (pull : Eip712TypedData) : Prop :=
  ∃ expected, Pinned m pull expected ∧
    .emitted (.wallet (.ensureApproval id (toString expected))) ∈ since

/-- Approval came, and the pull was put to the wallet. -/
def PullAsked (since : Log) (m : Model) (id : String) (pull : Eip712TypedData) : Prop :=
  ∃ before source wall msg after,
    since = before ++ .handled source (wall, msg) ::
      .emitted (.wallet (.signTypedData id .pull pull source.ctx.wallet.chainId)) :: after ∧
    msg.body = .approvalReplied id (.ok true) ∧ ApprovalAsked before m id pull

/-- How far a flow has come since the prompt that opened its ceremony. -/
structure Leg (since : Log) (m : Model) (flow : SignFlow) (opener : String) : Prop where
  first : flow.stage = .intent → flow.id = opener
  signed : flow.stage ≠ .intent → ∃ signature, flow.intentSignature = some signature ∧
    Signed since opener .intent signature
  approval : flow.stage = .approval → ∃ pull, ApprovalAsked since m flow.id pull
  pull : flow.stage = .pull → ∃ pull, PullAsked since m flow.id pull

/-- While signing, the flow and the kept signature are of one opened ceremony. -/
structure Provenance (log : Log) (m : Model) : Prop where
  live : m.intent.status = .signing → ∀ flow, m.sign = some flow →
    ∃ opener quote since, Opened log m opener quote since ∧ Leg since m flow opener
  pending : m.intent.status = .signing → ∀ signature, m.pendingIntentSig = some signature →
    ∃ opener quote since, Opened log m opener quote since ∧ Signed since opener .intent signature

variable {wall : WallClock} {cause : Cause} {msg : Msg} {m m' m'' : Model} {fx : List Effect}
  {log since : Log} {quote : QuoteResponse} {pull : Eip712TypedData} {id opener signature : String}

omit [Host] in
theorem SameQuote.refl (m : Model) : SameQuote m m := ⟨rfl, rfl, rfl, rfl, rfl⟩

omit [Host] in
theorem SameQuote.trans (first : SameQuote m m') (second : SameQuote m' m'') : SameQuote m m'' where
  config := second.config.trans first.config
  quote := second.quote.trans first.quote
  quoteId := second.quoteId.trans first.quoteId
  intentId := second.intentId.trans first.intentId
  amount := second.amount.trans first.amount

theorem SameQuote.pinned (same : SameQuote m m') {expected : Int}
    (pinned : Pinned m pull expected) : Pinned m' pull expected := by
  obtain ⟨held, ⟨eip712, typed, amount⟩, pin⟩ := pinned
  refine ⟨same.quote ▸ held, ⟨eip712, same.quote ▸ typed, ?_⟩, same.config ▸ pin⟩
  unfold expectedPullAmount at amount ⊢
  rw [same.amount]
  exact amount

theorem Opened.more (opened : Opened log m id quote since) (same : SameQuote m m') (later : Log) :
    Opened (log ++ later) m' id quote (since ++ later) := by
  obtain ⟨pre, source, wall, msg, fx, eip712, here, confirms, trade⟩ := opened
  exact ⟨pre, source, wall, msg, fx, eip712, by rw [here]; simp, confirms, trade.trans same⟩

theorem Opened.held (opened : Opened log m id quote since) : m.intent.quote = some quote := by
  obtain ⟨_, _, _, _, _, _, _, confirms, trade⟩ := opened
  exact trade.quote.trans confirms.held

omit [Host] in
theorem Signed.more {purpose : Purpose} (signed : Signed since id purpose signature) (later : Log) :
    Signed (since ++ later) id purpose signature := by
  obtain ⟨source, wall, msg, mem, body⟩ := signed
  exact ⟨source, wall, msg, List.mem_append_left _ mem, body⟩

theorem ApprovalAsked.more (asked : ApprovalAsked since m id pull) (same : SameQuote m m')
    (later : Log) : ApprovalAsked (since ++ later) m' id pull := by
  obtain ⟨expected, pinned, mem⟩ := asked
  exact ⟨expected, same.pinned pinned, List.mem_append_left _ mem⟩

theorem ApprovalAsked.same (asked : ApprovalAsked since m id pull) (same : SameQuote m m') :
    ApprovalAsked since m' id pull := by
  obtain ⟨expected, pinned, mem⟩ := asked
  exact ⟨expected, same.pinned pinned, mem⟩

theorem PullAsked.more (asked : PullAsked since m id pull) (same : SameQuote m m') (later : Log) :
    PullAsked (since ++ later) m' id pull := by
  obtain ⟨before, source, wall, msg, after, here, body, approved⟩ := asked
  exact ⟨before, source, wall, msg, after ++ later, by rw [here]; simp, body, approved.same same⟩

theorem Leg.more {flow : SignFlow} (leg : Leg since m flow opener) (same : SameQuote m m')
    (later : Log) : Leg (since ++ later) m' flow opener where
  first := leg.first
  signed stage := by
    obtain ⟨signature, kept, signed⟩ := leg.signed stage
    exact ⟨signature, kept, signed.more later⟩
  approval stage := by
    obtain ⟨pull, asked⟩ := leg.approval stage
    exact ⟨pull, asked.more same later⟩
  pull stage := by
    obtain ⟨pull, asked⟩ := leg.pull stage
    exact ⟨pull, asked.more same later⟩

/-- More of a log, the trade as it was, and the ceremony kept or let go. -/
theorem Provenance.more (known : Provenance log m) (later : Log)
    (same : m'.intent.status = .signing → m.intent.status = .signing ∧ SameQuote m m')
    (sign : m'.sign = m.sign ∨ m'.sign = none)
    (pending : m'.pendingIntentSig = m.pendingIntentSig ∨ m'.pendingIntentSig = none) :
    Provenance (log ++ later) m' where
  live signing flow live := by
    obtain ⟨before, trade⟩ := same signing
    rcases sign with kept | gone
    · obtain ⟨opener, quote, since, opened, leg⟩ := known.live before flow (kept ▸ live)
      exact ⟨opener, quote, since ++ later, opened.more trade later, leg.more trade later⟩
    · rw [gone] at live
      cases live
  pending signing signature held := by
    obtain ⟨before, trade⟩ := same signing
    rcases pending with kept | gone
    · obtain ⟨opener, quote, since, opened, signed⟩ := known.pending before signature (kept ▸ held)
      exact ⟨opener, quote, since ++ later, opened.more trade later, signed.more later⟩
    · rw [gone] at held
      cases held

theorem Unsigned.provenance (unsigned : Unsigned m) (log : Log) : Provenance log m where
  live _ flow live := by
    rw [unsigned.sign] at live
    cases live
  pending _ signature held := by
    rw [unsigned.pending] at held
    cases held

theorem Provenance.idle (away : m.intent.status ≠ .signing) (log : Log) : Provenance log m :=
  ⟨fun signing => absurd signing away, fun signing => absurd signing away⟩

/-! ## Acts -/

/-- An act ends signing, leaves nothing signed, or keeps the trade as it was. -/
theorem Act.keepsTrade (inv : Inv m) (act : Act wall cause m fx m') : Unsigned m' ∨
    m'.intent.status ≠ .signing ∨ (m'.intent.status = m.intent.status ∧ SameQuote m m' ∧
      (m'.sign = m.sign ∨ m'.sign = none) ∧
      (m'.pendingIntentSig = m.pendingIntentSig ∨ m'.pendingIntentSig = none)) := by
  cases act
  case lapsed | returned | revealed | signFailed | delivered | swept =>
    exact .inl (moved_unsigned inv.ceremony _ _)
  case executeFailed | executeMoved =>
    exact .inl (moved_unsigned (answeredExecute_ceremonyInv inv.ceremony _) _ _)
  case cleared | reset | walletReset => exact .inl ⟨rfl, rfl, rfl, rfl⟩
  case requoted | unquoted | allocationFailed | accepted => exact .inr (.inl (by simp))
  case resumed adopts =>
    obtain ⟨idle, -⟩ := buildResumedState_some adopts
    have rest := (unsigned_of_idle inv.ceremony (by rw [busy, idle]; rfl)).1
    exact .inl ⟨rest.sign, rest.pending, rest.awaiting, rest.signing⟩
  case stopped pending _ _ =>
    exact .inr (.inr ⟨rfl, ⟨rfl, rfl, rfl, rfl, rfl⟩, .inr rfl, pending⟩)
  all_goals exact .inr (.inr ⟨rfl, ⟨rfl, rfl, rfl, rfl, rfl⟩, .inl rfl, .inl rfl⟩)

theorem Provenance.act (inv : Inv m) (known : Provenance log m) (act : Act wall cause m fx m') :
    Provenance (log ++ fx.map .emitted) m' := by
  rcases act.keepsTrade inv with unsigned | away | ⟨status, trade, sign, pending⟩
  · exact unsigned.provenance _
  · exact .idle away _
  · exact known.more _ (fun signing => ⟨status.symm.trans signing, trade⟩) sign pending

/-! ## The ceremony -/

/-- The log once a message was met and answered. -/
theorem Provenance.ceremony (inv : Inv m) (known : Provenance log m)
    (outcome : Ceremony msg (receive m msg) fx m') :
    Provenance (log ++ .handled m (wall, msg) :: fx.map .emitted) m' := by
  have inv' : Inv (receive m msg) := inv.receive wall msg
  have first {flow : SignFlow} {signature : String} (live : m.sign = some flow)
      (stage : flow.stage = .intent) (signing : m.intent.status = .signing)
      (body : msg.body = .signReplied flow.id .intent (.ok signature)) (later : Log) :
      ∃ opener quote since, Opened log m opener quote since ∧
        Signed (since ++ .handled m (wall, msg) :: later) opener .intent signature := by
    obtain ⟨opener, quote, since, opened, leg⟩ := known.live signing flow live
    refine ⟨opener, quote, since, opened, m, wall, msg, by simp, ?_⟩
    rw [← leg.first stage]
    exact body
  cases outcome with
  | @prompted quote eip712 fx fy body held signable current route typed preflight payout _ _ =>
    have quoted : m.intent.status = .quoted := (canSignQuote_some signable).1
    have rest := moved_unsigned inv'.ceremony .signing
      { (receive m msg).intent with status := .signing, refusal := none }
    constructor
    · rintro - _ ⟨⟩
      refine ⟨"s" ++ toString (m.seq + 1), quote, fy.map .emitted,
        ⟨log, m, wall, msg, fx, eip712, by rw [List.map_append]; rfl, ?_, ?_⟩, ?_⟩
      · exact ⟨body, held, signable, current, route, typed, preflight, payout⟩
      · exact ⟨rfl, rfl, rfl, rfl, rfl⟩
      · exact ⟨fun _ => rfl, fun away => absurd rfl away, nofun, nofun⟩
    · intro _ signature pending
      rw [show _ = none from rest.pending] at pending
      cases pending
  | executed => exact .idle (by simp) _
  | kept body live stage signing signs h =>
    constructor
    · rintro - _ ⟨⟩
    · rintro - _ ⟨⟩
      obtain ⟨opener, quote, since, opened, signed⟩ :=
        first live stage signing body (fx.map .emitted)
      refine ⟨opener, quote, _, opened.more ?_ _, signed⟩
      exact ⟨rfl, rfl, rfl, rfl, rfl⟩
  | @approvalAsked flow signature pull expected fx body live stage signing pinned before =>
    obtain ⟨opener, quote, since, opened, signed⟩ := first live stage signing body
      ((fx ++ [Effect.wallet (.ensureApproval flow.id (toString expected))]).map .emitted)
    constructor
    · rintro - _ ⟨⟩
      refine ⟨opener, quote, _, opened.more ?_ _, ?_⟩
      · exact ⟨rfl, rfl, rfl, rfl, rfl⟩
      refine ⟨nofun, fun _ => ⟨signature, rfl, signed⟩, fun _ => ⟨pull, expected, ?_, ?_⟩, nofun⟩
      · refine SameQuote.pinned ?_ pinned
        exact ⟨rfl, rfl, rfl, rfl, rfl⟩
      · simp
    · rintro - _ ⟨⟩
      refine ⟨opener, quote, _, opened.more ?_ _, signed⟩
      exact ⟨rfl, rfl, rfl, rfl, rfl⟩
  | @tapped pull expected taps pinned =>
    constructor
    · rintro signing _ ⟨⟩
      obtain ⟨signature, pending⟩ : ∃ signature, m.pendingIntentSig = some signature := by
        have set := taps.pending
        cases kept : m.pendingIntentSig with
        | some signature => exact ⟨signature, rfl⟩
        | none =>
          rw [show (receive m msg).pendingIntentSig = none from kept] at set
          cases set
      obtain ⟨opener, quote, since, opened, signed⟩ := known.pending signing signature pending
      refine ⟨opener, quote, _, opened.more ?_ _, ?_⟩
      · exact ⟨rfl, rfl, rfl, rfl, rfl⟩
      refine ⟨nofun, fun _ => ⟨signature, pending, signed.more _⟩,
        fun _ => ⟨pull, expected, ?_, ?_⟩, nofun⟩
      · refine SameQuote.pinned ?_ pinned
        exact ⟨rfl, rfl, rfl, rfl, rfl⟩
      · simp
    · intro signing signature pending
      obtain ⟨opener, quote, since, opened, signed⟩ := known.pending signing signature pending
      refine ⟨opener, quote, _, opened.more ?_ _, signed.more _⟩
      exact ⟨rfl, rfl, rfl, rfl, rfl⟩
  | tapRefused taps read edge h =>
    refine .idle (fun signing => ?_) _
    rw [show (receive m msg).intent.status = .signing from signing] at edge
    cases edge
  | @pullPrompted flow pull fy body live stage held after =>
    constructor
    · rintro signing _ ⟨⟩
      obtain ⟨opener, quote, since, opened, leg⟩ := known.live signing flow live
      obtain ⟨signature, kept, signed⟩ := leg.signed (by rw [stage]; decide)
      obtain ⟨pull', expected, pinned, asked⟩ := leg.approval stage
      obtain rfl : pull' = pull := Option.some.inj (pinned.held.symm.trans held)
      refine ⟨opener, quote, _, opened.more ?_ _, ?_⟩
      · exact ⟨rfl, rfl, rfl, rfl, rfl⟩
      refine ⟨nofun, fun _ => ⟨signature, kept, signed.more _⟩, nofun, fun _ => ⟨pull', ?_⟩⟩
      refine ⟨since, m, wall, msg, fy.map .emitted, rfl, body, expected,
        SameQuote.pinned ?_ pinned, asked⟩
      exact ⟨rfl, rfl, rfl, rfl, rfl⟩
    · intro signing signature pending
      obtain ⟨opener, quote, since, opened, signed⟩ := known.pending signing signature pending
      refine ⟨opener, quote, _, opened.more ?_ _, signed.more _⟩
      exact ⟨rfl, rfl, rfl, rfl, rfl⟩
  | held body refused live stage out sent own executing certain decision h =>
    exact .idle (by rw [show _ = IntentStatus.executing from executing]; decide) _
  | resent live sent waits executing bound inTime before =>
    exact .idle (by rw [show _ = IntentStatus.executing from executing]; decide) _

theorem provenance_law : Law Provenance where
  init := by
    rintro _ ⟨config, ctx, hidden, rfl⟩
    exact .idle (by simp [init, initialIntentState]) _
  handled _ _ _ _ known :=
    known.more _ (fun signing => ⟨signing, .refl _⟩) (.inl rfl) (.inl rfl)
  act _ _ _ _ _ _ inv known act := known.act inv act
  ceremony _ _ _ _ _ _ inv known outcome := known.ceremony inv outcome

/-! ## The execute -/

/-- The quote an execute is for, and the signatures it carries. -/
structure Backed (msg : Msg) (m : Model) (opener : String) (quote : QuoteResponse) (since : Log)
    (id : String) (request : ExecuteRequest) : Prop where
  intentId : request.intentId = m.intent.intentId.getD ""
  quoteId : request.quoteId = m.intent.quoteId.getD ""
  /-- Without a pull, the one prompt's answer is sent as it comes. -/
  direct : quote.pullAuthorization = none → request.pullSignature = none ∧
    msg.body = .signReplied opener .intent (.ok request.signature)
  /-- With one, its own answer completes what the first prompt's began. -/
  pulled : ∀ pull, quote.pullAuthorization = some pull →
    Signed since opener .intent request.signature ∧ PullAsked since m id pull ∧
      ∃ signature, request.pullSignature = some signature ∧
        msg.body = .signReplied id .pull (.ok signature)

theorem Provenance.backed (known : Provenance log m) {flow : SignFlow} {signature : String}
    {pullSignature : Option String} (live : m.sign = some flow)
    (signing : m.intent.status = .signing)
    (completes : Completes msg (receive m msg) flow signature pullSignature) :
    ∃ opener quote since, Opened log m opener quote since ∧
      Backed msg m opener quote since flow.id
        (executeRequest (receive m msg) signature pullSignature msg.now) := by
  obtain ⟨opener, quote, since, opened, leg⟩ := known.live signing flow live
  have held := opened.held
  refine ⟨opener, quote, since, opened, rfl, rfl, ?_, ?_⟩
  · intro none
    cases completes with
    | intent body stage pull =>
      rw [← leg.first stage]
      exact ⟨rfl, body⟩
    | pull body stage =>
      obtain ⟨pull, -, _, _, _, _, -, -, expected, pinned, -⟩ := leg.pull stage
      have some_pull := pinned.held
      rw [held] at some_pull
      cases none.symm.trans some_pull
  · intro pull carries
    cases completes with
    | intent body stage without =>
      rw [show (receive m msg).intent.quote = some quote from held] at without
      cases without.symm.trans carries
    | pull body stage =>
      obtain ⟨intentSignature, kept, signed⟩ := leg.signed (by rw [stage]; decide)
      obtain ⟨pull', asked⟩ := leg.pull stage
      obtain ⟨_, _, _, _, _, _, _, expected, pinned, _⟩ := id asked
      have same := pinned.held
      rw [held] at same
      obtain rfl : pull' = pull := Option.some.inj (same.symm.trans carries)
      refine ⟨?_, asked, _, rfl, body⟩
      simp only [executeRequest, kept, Option.getD_some]
      exact signed

/-- A step that sends an execute while signing is an outcome of the ceremony that was opened. -/
theorem Next.sends_first {i : Input} {fx fy : List Effect} {request : ExecuteRequest} (inv : Inv m)
    (next : Next m i (fx ++ .api (.execute id request) :: fy) m')
    (signing : m.intent.status = .signing) :
    ∃ flow signature pullSignature, m.sign = some flow ∧ flow.id = id ∧
      Completes i.2 (receive m i.2) flow signature pullSignature ∧
      request = executeRequest (receive m i.2) signature pullSignature i.2.now := by
  have silent {cause : Cause} {m m' : Model} {fz : List Effect}
      (chain : Chain (Act i.1 cause) m fz m') : ∀ e ∈ fz, e.executes = false :=
    chain.effects (P := fun _ => True) (fun _ _ _ _ act => ⟨trivial, fun e mem =>
      (act.effects e mem).2.1⟩) trivial
  have mem : Effect.api (.execute id request) ∈ fx ++ .api (.execute id request) :: fy := by simp
  rcases next.cases inv with ⟨none, -⟩ | ⟨fz, m₁, fw, stepped, settled, split⟩
  · simp at none
  rw [split] at mem
  rcases List.mem_append.mp mem with mem | mem
  · rcases stepped with chain | ceremony
    · exact absurd (silent chain _ mem) (by simp [Effect.executes])
    cases ceremony with
    | @executed flow signature pullSignature _ _ _ fv live _ completes _ before =>
      rcases List.mem_append.mp mem with mem | mem
      · exact absurd (quiet_silent before _ mem) (by simp [Effect.executes])
      · cases List.mem_singleton.mp mem
        exact ⟨flow, signature, pullSignature, live, rfl, completes, rfl⟩
    | resent live sent waits executing =>
      cases signing.symm.trans executing
    | prompted _ _ _ _ _ _ _ _ before after =>
      rcases List.mem_append.mp mem with mem | mem
      · exact absurd (quiet_silent before _ mem) (by simp [Effect.executes])
      rcases List.mem_cons.mp mem with same | mem
      · cases same
      · exact absurd (quiet_silent after _ mem) (by simp [Effect.executes])
    | kept _ _ _ _ _ h => exact absurd (quiet_silent h _ mem) (by simp [Effect.executes])
    | approvalAsked _ _ _ _ _ before =>
      rcases List.mem_append.mp mem with mem | mem
      · exact absurd (quiet_silent before _ mem) (by simp [Effect.executes])
      · cases List.mem_singleton.mp mem
    | tapped => cases List.mem_singleton.mp mem
    | tapRefused _ _ _ h => exact absurd (quiet_silent h _ mem) (by simp [Effect.executes])
    | pullPrompted _ _ _ _ after =>
      rcases List.mem_cons.mp mem with same | mem
      · cases same
      · exact absurd (quiet_silent after _ mem) (by simp [Effect.executes])
    | held _ _ _ _ _ _ _ _ _ _ h => exact absurd (quiet_silent h _ mem) (by simp [Effect.executes])
  · exact absurd (silent settled _ mem) (by simp [Effect.executes])

/-- Every execute sent from `signing` is for the quote Confirm was pressed on, and carries the
wallet's answers to the prompts raised for it and for its pull. -/
theorem execute_backed (run : MachineRun log m) {pre post : Log} {source : Model} {fx : List Effect}
    {request : ExecuteRequest}
    (here : log = pre ++ .handled source (wall, msg) ::
      (fx.map .emitted ++ sends id request :: post))
    (signing : source.intent.status = .signing) :
    ∃ opener quote since, Opened pre source opener quote since ∧
      Backed msg source opener quote since id request := by
  obtain ⟨fy, m', before, next⟩ := run.at_emitted here
  have inv := MachineRun.inv before
  obtain ⟨flow, signature, pullSignature, live, rfl, completes, rfl⟩ := next.sends_first inv signing
  exact (provenance_law.run before).backed live signing completes

/-- An execute and its resends go back to one that was sent from `signing`. -/
theorem Attempted.begins {pre : Log} {request : ExecuteRequest} {n : Nat}
    (attempted : Attempted pre id request n) (post : Log) :
    ∃ before source wall msg, ∃ (fx : List Effect) (first : String) (later : Log),
      pre ++ sends id request :: post = before ++ .handled source (wall, msg) ::
        (fx.map .emitted ++ sends first request :: later) ∧ source.intent.status = .signing := by
  induction attempted generalizing post with
  | @first log m wall msg flow signature pullSignature fx live signing _ _ _ =>
    exact ⟨log, m, wall, msg, fx, flow.id, post, by simp, signing⟩
  | @again log between m wall msg flow request n deadline fx _ _ _ _ _ _ _ _ ih =>
    rw [List.append_assoc]
    exact ih _

end

/-- The sample's execute is backed. -/
theorem sample_backed :
    letI := plainHost
    ∃ log m, MachineRun log m ∧ ∃ pre source wall msg, ∃ (fx : List Effect) (id : String)
      (request : ExecuteRequest) (post : Log),
      log = pre ++ .handled source (wall, msg) :: (fx.map .emitted ++ sends id request :: post) ∧
      ∃ opener quote since, Opened pre source opener quote since ∧
        Backed msg source opener quote since id request := by
  let _ := plainHost
  obtain ⟨log, m, pre, id, request, post, run, here⟩ := sample_sends
  obtain ⟨n, attempted⟩ := (traced_law.run run).2.lawful id request pre _ post here rfl
  obtain ⟨before, source, wall, msg, fx, first, later, same, signing⟩ := attempted.begins post
  have here := here.trans same
  exact ⟨log, m, run, before, source, wall, msg, fx, first, request, later, here,
    execute_backed run here signing⟩

end XochiSdk.Client
