import XochiSdk.Widget.Bridge

/-!
# What crosses the bridge

A wallet call that settles in the session it was made in is answered by one message, and by no
other; the frame settles its promise by that message, with the JSON of the result or the error the
wallet gave where the whole message stays within the cap. The cap on an error's data is on the data
alone, so a rejection can lose its code to data that is short enough by itself.
-/

namespace XochiSdk.Widget.Bridge

open XochiSdk.Js

/-! ## A reply -/

/-- The reply that carries `member` under `key`. -/
def replyWith (id : RpcId) (key : String) (member : PageValue) : PageValue :=
  .obj [(units "type", .str (units "xochi:rpc:result")), (units "id", id.held), (units key, member)]

theorem rpcResult_result (id : RpcId) (value : PageValue) :
    rpcResult id (.result value) = replyWith id "result" value := rfl

theorem rpcResult_error (id : RpcId) (e : RpcErrorObject) :
    rpcResult id (.error e) = replyWith id "error" e.held := rfl

theorem RpcId.clone_held (id : RpcId) : id.held.clone = .ok id.held := by
  cases id <;> simp [RpcId.held, PageValue.clone]

theorem post_replyWith_ok {id : RpcId} {key : String} {member cloned : PageValue}
    (cloneable : member.clone = .ok cloned) :
    post (replyWith id key member) = .ok (replyWith id key cloned) := by
  simp only [post, replyWith, PageValue.clone, PageValue.cloneMembers, RpcId.clone_held, cloneable]
  rfl

theorem post_replyWith_error {id : RpcId} {key : String} {member : PageValue}
    (stuck : member.clone = .error ()) : post (replyWith id key member) = .error () := by
  simp only [post, replyWith, PageValue.clone, PageValue.cloneMembers, RpcId.clone_held, stuck]
  rfl

/-- An error object as the parsed text that a reply carries. -/
def RpcErrorObject.json (e : RpcErrorObject) : JsonValue :=
  .obj ([(units "code", .num ⟨JsNumber.ofInt e.code, rfl⟩), (units "message", .str e.message)] ++
    match e.data with
    | none => []
    | some data => [(units "data", data)])

theorem RpcErrorObject.held_json (e : RpcErrorObject) : e.json.held = e.held := by
  obtain ⟨code, message, data⟩ := e
  cases data <;> simp [json, RpcErrorObject.held, JsonValue.held, JsonValue.heldMembers]

theorem reply_error (id : RpcId) (e : RpcErrorObject) :
    reply id (.error e) = [replyWith id "error" e.held] := by
  have cloneable : e.held.clone = .ok e.held := by
    rw [← e.held_json]
    exact e.json.clone_held
  rw [reply, rpcResult_error, post_replyWith_ok cloneable]

theorem reply_result {id : RpcId} {value cloned : PageValue}
    (cloneable : value.clone = .ok cloned) :
    reply id (.result value) = [replyWith id "result" cloned] := by
  rw [reply, rpcResult_result, post_replyWith_ok cloneable]

theorem reply_unsendable {id : RpcId} {value : PageValue} (stuck : value.clone = .error ()) :
    reply id (.result value) = reply id unsendable := by
  have sends : reply id unsendable = [replyWith id "error" _] := reply_error id _
  rw [reply, rpcResult_result, post_replyWith_error stuck]
  rw [reply] at sends ⊢
  split at sends <;> simp_all

/-- One reply is posted, whatever the outcome, under the id of the request. -/
theorem reply_one (id : RpcId) (outcome : Outcome) :
    ∃ key member, reply id outcome = [replyWith id key member] := by
  cases outcome with
  | error e => exact ⟨_, _, reply_error id e⟩
  | result value =>
    cases cloned : value.clone with
    | ok c => exact ⟨_, _, reply_result cloned⟩
    | error =>
      rw [reply_unsendable cloned]
      exact ⟨_, _, reply_error id _⟩

/-- The message answers the request of this id. -/
def Answers (id : RpcId) (sent : PageValue) : Prop :=
  sent.get "type" = .str (units "xochi:rpc:result") ∧ sent.get "id" = id.held

theorem get_type (id : RpcId) (key : String) (member : PageValue) :
    (replyWith id key member).get "type" = .str (units "xochi:rpc:result") := by
  simp [replyWith, PageValue.get]

theorem get_id (id : RpcId) (key : String) (member : PageValue) :
    (replyWith id key member).get "id" = id.held := by
  have other : (units "id" == units "type") = false := by decide
  simp [replyWith, PageValue.get, List.lookup_cons, other]

theorem RpcId.held_injective {a b : RpcId} (same : a.held = b.held) : a = b := by
  cases a with
  | text a =>
    cases b with
    | text b => cases same; rfl
    | num b => cases same
  | num a =>
    cases b with
    | text b => cases same
    | num b =>
      have values : (JsNumber.ofInt a).value = (JsNumber.ofInt b).value := by
        rw [PageValue.num.inj same]
      have equal : a = b := by simpa [JsNumber.ofInt] using values
      rw [equal]

theorem mem_reply {id other : RpcId} {outcome : Outcome} {sent : PageValue}
    (mem : sent ∈ reply id outcome) (answers : Answers other sent) : other = id := by
  obtain ⟨key, member, one⟩ := reply_one id outcome
  rw [one, List.mem_singleton] at mem
  subst mem
  refine RpcId.held_injective ?_
  rw [← answers.2, get_id]

/-! ## At the host -/

/-- The call belongs to the document that the frame shows now. -/
def Host.Current (s : Host) (call : Call) : Prop := call.session = s.session ∧ s.destroyed = false

/-- The calls of this session are the pending requests, each under an id of its own. -/
structure Host.Tracked (s : Host) : Prop where
  sessions : ∀ call ∈ s.calls, call.session ≤ s.session
  pending : ∀ call ∈ s.calls, s.Current call → call.id ∈ s.pending
  apart : s.calls.Pairwise fun a b => s.Current a → s.Current b → a.id ≠ b.id

theorem create_tracked (provider : Option Nat) (autoConnect : Bool) :
    (Host.create provider autoConnect).Tracked where
  sessions := nofun
  pending := nofun
  apart := .nil

/-- A host that begins a new session, or is gone, has no current call. -/
theorem Host.Tracked.renewed {s s' : Host} (calls : s'.calls = s.calls)
    (later : ∀ call ∈ s.calls, call.session ≤ s'.session)
    (none : ∀ call ∈ s.calls, ¬ s'.Current call) : s'.Tracked where
  sessions call mem := later call (calls ▸ mem)
  pending call mem current := absurd current (none call (calls ▸ mem))
  apart := by
    rw [calls]
    exact List.pairwise_of_forall_mem_list fun a mem _ _ current => absurd current (none a mem)

/-- Nothing that the tracking reads has changed. -/
theorem Host.Tracked.same {s s' : Host} (tracked : s.Tracked) (calls : s'.calls = s.calls)
    (pending : s'.pending = s.pending) (session : s'.session = s.session)
    (destroyed : s'.destroyed = s.destroyed) : s'.Tracked := by
  have current (call : Call) : s'.Current call ↔ s.Current call := by
    simp only [Host.Current, session, destroyed]
  refine ⟨?_, ?_, ?_⟩
  · rw [calls, session]
    exact tracked.sessions
  · intro call mem now
    rw [pending]
    exact tracked.pending call (calls ▸ mem) ((current call).mp now)
  · rw [calls]
    exact tracked.apart.imp fun apart a b => apart ((current _).mp a) ((current _).mp b)

theorem admit_call {s : Host} {id : RpcId} {message : JsonValue} {call : Call}
    (admitted : s.admit id message = .ok call) : call.id = id ∧ call.session = s.session := by
  unfold Host.admit at admitted
  split at admitted
  · split at admitted
    · cases admitted
    · split at admitted
      · cases admitted
      · split at admitted
        · cases admitted
        · split at admitted
          · cases admitted
          · cases admitted
            exact ⟨rfl, rfl⟩
  · cases admitted

theorem handleRpc_tracked {s : Host} (tracked : s.Tracked) (raw : PageValue)
    (message : JsonValue) : (s.handleRpc raw message).1.Tracked := by
  unfold Host.handleRpc
  split
  · exact tracked
  · next id _ =>
    split
    · exact tracked
    · next fresh =>
      split
      · exact tracked
      · next call admitted =>
        obtain ⟨named, session⟩ := admit_call admitted
        refine ⟨?_, ?_, ?_⟩
        · intro other mem
          rcases List.mem_append.mp mem with mem | mem
          · exact tracked.sessions other mem
          · rw [List.mem_singleton.mp mem]
            exact session.le
        · intro other mem current
          rcases List.mem_append.mp mem with mem | mem
          · exact List.mem_append_left _ (tracked.pending other mem current)
          · rw [List.mem_singleton.mp mem, named]
            exact List.mem_append_right _ List.mem_cons_self
        · refine List.pairwise_append.mpr ⟨tracked.apart, List.pairwise_singleton _ _, ?_⟩
          intro other mem new mem' current _
          rw [List.mem_singleton.mp mem', named]
          rintro rfl
          exact fresh (tracked.pending other mem current)

theorem Host.Tracked.between {s : Host} (tracked : s.Tracked) {i j : Nat} {a b : Call}
    (below : i < j) (first : s.calls[i]? = some a) (second : s.calls[j]? = some b)
    (current : s.Current a) (also : s.Current b) : a.id ≠ b.id := by
  obtain ⟨bound, rfl⟩ := List.getElem?_eq_some_iff.mp first
  obtain ⟨bound', rfl⟩ := List.getElem?_eq_some_iff.mp second
  exact List.pairwise_iff_getElem.mp tracked.apart i j bound bound' below current also

/-- Two current calls at two places have two ids. -/
theorem Host.Tracked.distinct {s : Host} (tracked : s.Tracked) {i j : Nat} {a b : Call}
    (ne : i ≠ j) (first : s.calls[i]? = some a) (second : s.calls[j]? = some b)
    (current : s.Current a) (also : s.Current b) : a.id ≠ b.id := by
  rcases lt_or_gt_of_ne ne with before | after
  · exact tracked.between before first second current also
  · exact (tracked.between after second first also current).symm

theorem settled_calls (s : Host) (call : Call) (outcome : Outcome) :
    (s.settled call outcome).1.calls = s.calls := by
  unfold Host.settled
  simp only
  split <;> rfl

theorem settled_tracked {s : Host} (tracked : s.Tracked) {place : Nat} {call : Call}
    (at_ : s.calls[place]? = some call) (outcome : Outcome) :
    ({ s with calls := s.calls.eraseIdx place }.settled call outcome).1.Tracked := by
  have kept : ∀ other ∈ s.calls.eraseIdx place, other ∈ s.calls := fun _ =>
    List.mem_of_mem_eraseIdx
  have apart := tracked.apart.sublist (List.eraseIdx_sublist s.calls place)
  unfold Host.settled
  simp only
  split
  · refine ⟨fun other mem => tracked.sessions other (kept other mem), ?_, apart⟩
    exact fun other mem current => tracked.pending other (kept other mem) current
  · next here =>
    have current : s.Current call := by
      obtain ⟨mounted, session⟩ := not_or.mp here
      exact ⟨not_not.mp session, Bool.eq_false_iff.mpr mounted⟩
    refine ⟨fun other mem => tracked.sessions other (kept other mem), ?_, apart⟩
    intro other mem also
    refine List.mem_filter.mpr ⟨tracked.pending other (kept other mem) also, ?_⟩
    obtain ⟨i, ne, at'⟩ := List.mem_eraseIdx_iff_getElem?.mp mem
    exact decide_eq_true (tracked.distinct ne at' at_ also current)

theorem onMessage_tracked {s : Host} (tracked : s.Tracked) (raw : PageValue) :
    (s.onMessage raw).1.Tracked := by
  unfold Host.onMessage
  split
  · exact tracked
  · split
    · split
      · refine Host.Tracked.renewed rfl ?_ ?_
        · exact fun call mem => Nat.le_succ_of_le (tracked.sessions call mem)
        · rintro call mem ⟨same, -⟩
          have earlier := tracked.sessions call mem
          have later : call.session = s.session + 1 := same
          omega
      · split
        · exact handleRpc_tracked tracked raw _
        · exact tracked
    · exact tracked

theorem step_tracked {s : Host} (tracked : s.Tracked) (move : Move) :
    (s.step move).1.Tracked := by
  cases move with
  | message raw => exact onMessage_tracked tracked raw
  | answered place answer =>
    simp only [Host.step]
    split
    · exact tracked
    · next call at_ => exact settled_tracked tracked at_ _
  | walletEvent event => exact tracked
  | updateParams =>
    simp only [Host.step]
    split
    · exact tracked
    · refine Host.Tracked.renewed rfl ?_ ?_
      · exact fun call mem => Nat.le_succ_of_le (tracked.sessions call mem)
      · rintro call mem ⟨same, -⟩
        have earlier := tracked.sessions call mem
        have later : call.session = s.session + 1 := same
        omega
  | updateProvider next =>
    simp only [Host.step]
    split
    · exact tracked
    · exact tracked.same rfl rfl rfl rfl
  | destroy =>
    simp only [Host.step]
    split
    · exact tracked
    · refine Host.Tracked.renewed rfl tracked.sessions ?_
      rintro call - ⟨-, mounted⟩
      cases mounted

theorem run_tracked {s : Host} (tracked : s.Tracked) (moves : List Move) :
    (s.run moves).Tracked := by
  induction moves generalizing s with
  | nil => exact tracked
  | cons move moves ih => exact ih (step_tracked tracked move)

theorem handleRpc_answers {s : Host} {raw sent : PageValue} {message : JsonValue} {id : RpcId}
    (mem : sent ∈ (s.handleRpc raw message).2) (answers : Answers id sent) : id ∉ s.pending := by
  unfold Host.handleRpc at mem
  split at mem
  · cases mem
  · split at mem
    · cases mem
    · next fresh =>
      split at mem
      · rw [mem_reply mem answers]
        exact fresh
      · cases mem

theorem announcement_silent (s : Host) (id : RpcId) : ¬ Answers id s.announcement := by
  rintro ⟨type, -⟩
  simp only [Host.announcement, PageValue.get, List.lookup_cons, beq_self_eq_true, Option.getD_some,
    PageValue.str.injEq] at type
  exact absurd type (by decide)

theorem providerEvent_silent (event : String) (data : PageValue) (id : RpcId) :
    ¬ Answers id (providerEvent event data) := by
  rintro ⟨type, -⟩
  simp only [providerEvent, PageValue.get, List.lookup_cons, beq_self_eq_true, Option.getD_some,
    PageValue.str.injEq] at type
  exact absurd type (by decide)

theorem walletEvent_silent {s : Host} {event : WalletEvent} {sent : PageValue} (id : RpcId)
    (mem : sent ∈ s.walletEvent event) : ¬ Answers id sent := by
  unfold Host.walletEvent at mem
  split at mem
  · cases mem
  · cases event with
    | accountsChanged accounts =>
      cases accounts with
      | none => cases mem
      | some accounts =>
        rw [List.mem_singleton.mp mem]
        exact providerEvent_silent _ _ id
    | chainChanged chainId =>
      cases chainId with
      | none => cases mem
      | some chainId =>
        rw [List.mem_singleton.mp mem]
        exact providerEvent_silent _ _ id
    | disconnect error =>
      rw [List.mem_singleton.mp mem]
      exact providerEvent_silent _ _ id

theorem settled_current {s : Host} {call : Call} (current : s.Current call) (outcome : Outcome) :
    (s.settled call outcome).2 = reply call.id outcome := by
  have here : ¬ (s.destroyed = true ∨ call.session ≠ s.session) := by
    rintro (gone | other)
    · rw [current.2] at gone
      cases gone
    · exact other current.1
  unfold Host.settled
  simp only
  rw [if_neg here]

theorem settled_answers {s : Host} {call : Call} {outcome : Outcome} {sent : PageValue}
    {id : RpcId} (mem : sent ∈ (s.settled call outcome).2) (answers : Answers id sent) :
    id = call.id ∧ s.Current call := by
  unfold Host.settled at mem
  simp only at mem
  split at mem
  · cases mem
  · next here =>
    obtain ⟨mounted, session⟩ := not_or.mp here
    exact ⟨mem_reply mem answers, not_not.mp session, Bool.eq_false_iff.mpr mounted⟩

/-- No other move answers a call that still waits. -/
theorem step_silent {s : Host} (tracked : s.Tracked) {place : Nat} {call : Call}
    (at_ : s.calls[place]? = some call) (current : s.Current call) {move : Move}
    (other : ∀ answer, move ≠ .answered place answer) {sent : PageValue}
    (mem : sent ∈ (s.step move).2) : ¬ Answers call.id sent := by
  intro answers
  have pending := tracked.pending call (List.mem_of_getElem? at_) current
  cases move with
  | message raw =>
    simp only [Host.step, Host.onMessage] at mem
    split at mem
    · cases mem
    · split at mem
      · split at mem
        · rw [List.mem_singleton.mp mem] at answers
          exact announcement_silent s call.id answers
        · split at mem
          · exact handleRpc_answers mem answers pending
          · cases mem
      · cases mem
  | answered place' answer =>
    simp only [Host.step] at mem
    split at mem
    · cases mem
    · next call' at' =>
      obtain ⟨same, also⟩ := settled_answers mem answers
      have ne : place ≠ place' := by
        rintro rfl
        exact other answer rfl
      exact tracked.distinct ne at_ at' current also same
  | walletEvent event => exact walletEvent_silent call.id mem answers
  | updateParams =>
    simp only [Host.step] at mem
    split at mem <;> cases mem
  | updateProvider next =>
    simp only [Host.step] at mem
    split at mem
    · cases mem
    · split at mem
      · rw [List.mem_singleton.mp mem] at answers
        exact announcement_silent _ call.id answers
      · cases mem
  | destroy =>
    simp only [Host.step] at mem
    split at mem <;> cases mem

/-! ## At the frame -/

/-- A reply as the JSON the frame reads; a member that is `undefined` is no part of it. -/
def replyJson (id : Int) (key : String) (value : Option JsonValue) : JsonValue :=
  .obj ([(units "type", .str (units "xochi:rpc:result")),
    (units "id", .num ⟨JsNumber.ofInt id, rfl⟩)] ++
    match value with
    | none => []
    | some value => [(units key, value)])

/-- The whole reply stays within the cap. -/
def Fits (id : Int) (key : String) (value : Option JsonValue) : Prop :=
  (replyJson id key value).length ≤ maxMessageLength

theorem toJson_replyWith {id : Int} {key : String} {member : PageValue} {value : Option JsonValue}
    (printed : member.toJson = .ok value) :
    (replyWith (.num id) key member).toJson = .ok (some (replyJson id key value)) := by
  simp only [replyWith, PageValue.toJson, PageValue.membersJson, RpcId.held, printed]
  cases value <;> rfl

theorem toJson_replyWith_error {id : Int} {key : String} {member : PageValue}
    (stuck : member.toJson = .error ()) :
    (replyWith (.num id) key member).toJson = .error () := by
  simp only [replyWith, PageValue.toJson, PageValue.membersJson, RpcId.held, stuck]
  rfl

theorem asJson_fits {id : Int} {key : String} {member : PageValue} {value : Option JsonValue}
    (printed : member.toJson = .ok value) (fits : Fits id key value) :
    asJson (replyWith (.num id) key member) = replyJson id key value := by
  unfold asJson
  rw [toJson_replyWith printed]
  exact if_pos fits

theorem asJson_oversized {id : Int} {key : String} {member : PageValue} {value : Option JsonValue}
    (printed : member.toJson = .ok value) (large : ¬ Fits id key value) :
    asJson (replyWith (.num id) key member) = .null := by
  unfold asJson
  rw [toJson_replyWith printed]
  exact if_neg large

theorem asJson_stuck {id : Int} {key : String} {member : PageValue}
    (stuck : member.toJson = .error ()) : asJson (replyWith (.num id) key member) = .null := by
  unfold asJson
  rw [toJson_replyWith_error stuck]

/-- A frame that waits for a reply settles its promise by it, and forgets the request. -/
theorem frame_settles {f : Frame} {origin : String} {id : Int} (mounted : f.destroyed = false)
    (pinned : f.origin = some origin) (waits : id ∈ f.pending) (key : String)
    (member : PageValue) :
    f.onMessage origin (replyWith (.num id) key member) =
      ({ f with pending := f.pending.filter (· ≠ id) },
        [answerTo id (asJson (replyWith (.num id) key member))]) := by
  have number : (JsNumber.ofInt id).toInteger = some id := by
    simp [JsNumber.toInteger, JsNumber.ofInt]
  have provider : ¬ units "xochi:rpc:result" = units "xochi:provider" := by decide
  simp only [Frame.onMessage, mounted, get_type, pinned, Frame.handle, Frame.onRpcResult, get_id,
    RpcId.held, number, if_pos waits, if_neg provider, Bool.false_eq_true, if_true, if_false]

theorem get_error_none (id : Int) (value : Option JsonValue) :
    (replyJson id "result" value).get "error" = none := by
  have type : (units "error" == units "type") = false := by decide
  have named : (units "error" == units "id") = false := by decide
  have result : (units "error" == units "result") = false := by decide
  cases value <;> simp [replyJson, JsonValue.get, List.lookup_cons, type, named, result]

theorem get_member (id : Int) (key : String) (value : Option JsonValue)
    (type : (units key == units "type") = false) (named : (units key == units "id") = false) :
    (replyJson id key value).get key = value := by
  cases value <;> simp [replyJson, JsonValue.get, List.lookup_cons, type, named]

theorem answerTo_result (id : Int) (value : Option JsonValue) :
    answerTo id (replyJson id "result" value) = .resolved id value := by
  have member := get_member id "result" value (by decide) (by decide)
  have plain := get_error_none id value
  unfold replyJson at member plain ⊢
  simp only [answerTo, plain, member]

theorem answerTo_error (id : Int) (value : JsonValue) :
    answerTo id (replyJson id "error" (some value)) = .rejected id (rpcError (some value)) := by
  have member := get_member id "error" (some value) (by decide) (by decide)
  unfold replyJson at member ⊢
  simp only [answerTo, member]

/-! ## An error -/

/-- What either end leaves of an error as it is. -/
structure RpcErrorObject.Settled (e : RpcErrorObject) : Prop where
  code : e.code.natAbs < 2 ^ 53
  message : e.message.length ≤ maxErrorMessageLength

theorem safeInteger_bound {x : PageValue} {i : Int} (safe : x.safeInteger = some i) :
    i.natAbs < 2 ^ 53 := by
  cases x with
  | num n =>
    obtain ⟨-, bound⟩ := Option.filter_eq_some_iff.mp safe
    exact of_decide_eq_true bound
  | _ => cases safe

theorem safeInteger_ofInt {i : Int} (bound : i.natAbs < 2 ^ 53) :
    (PageValue.num (JsNumber.ofInt i)).safeInteger = some i := by
  have number : (JsNumber.ofInt i).toInteger = some i := by
    simp [JsNumber.toInteger, JsNumber.ofInt]
  simp only [PageValue.safeInteger, number, Option.filter_some, decide_eq_true bound, if_true]

theorem errorCode_bound (rawCode : PageValue) : (errorCode rawCode).natAbs < 2 ^ 53 := by
  unfold errorCode
  cases safe : rawCode.safeInteger with
  | none => decide
  | some i => exact safeInteger_bound safe

theorem length_truncate (text : Units) {max : Nat} (positive : 0 < max) :
    (truncate text max).length ≤ max := by
  unfold truncate
  split
  · assumption
  · rw [List.length_append, List.length_take, List.length_singleton]
    omega

theorem length_errorMessage (rawMessage : PageValue) :
    (errorMessage rawMessage).length ≤ maxErrorMessageLength := by
  have generic : (units "Internal error").length ≤ maxErrorMessageLength := by decide
  unfold errorMessage
  split
  · split
    · exact length_truncate _ (by decide)
    · exact generic
  · exact generic

theorem internalError_settled : internalError.Settled where
  code := by decide
  message := by decide

theorem toRpcError_settled (err : Rejection) : (toRpcError err).Settled := by
  unfold toRpcError
  split
  · exact internalError_settled
  · exact internalError_settled
  · exact ⟨errorCode_bound _, length_errorMessage _⟩
  · exact internalError_settled

/-- The frame reads the error that the host sent. -/
theorem rpcError_json {e : RpcErrorObject} (settled : e.Settled) : rpcError (some e.json) = e := by
  obtain ⟨code, message, data⟩ := e
  have safe := safeInteger_ofInt settled.code
  have short : truncate message maxErrorMessageLength = message := if_pos settled.message
  have message_code : (units "message" == units "code") = false := by decide
  have data_code : (units "data" == units "code") = false := by decide
  have data_message : (units "data" == units "message") = false := by decide
  cases data <;>
    simp [RpcErrorObject.json, rpcError, JsonValue.get, JsonValue.held, List.lookup_cons,
      message_code, data_code, data_message, safe, short]

/-- What the frame learns of an object that a wallet rejects with. -/
structure Relayed (code message data : PageValue) (e : RpcErrorObject) : Prop where
  code : ∀ i, code.safeInteger = some i → e.code = i
  message : ∀ text, message = .str text → text ≠ [] →
    e.message = truncate text maxErrorMessageLength
  data : ∀ value, data.toJson = .ok (some value) → value ≠ .null →
    value.length ≤ maxMessageLength → e.data = some value

theorem toRpcError_relayed (code message data : PageValue) :
    Relayed code message data (toRpcError (.record (.ok code) (.ok message) (.ok data))) where
  code i safe := by
    change errorCode code = i
    rw [errorCode, safe]
    rfl
  message text is_text nonempty := by
    subst is_text
    exact if_pos nonempty
  data value printed nonnull small := by
    have read : asJson data = value := by
      unfold asJson
      rw [printed]
      exact if_pos small
    change errorData data = some value
    unfold errorData
    split
    · cases printed
    · rw [read]
      cases value with
      | null => exact absurd rfl nonnull
      | _ => rfl

theorem error_arrives {id : Int} {e : RpcErrorObject} (settled : e.Settled)
    (fits : Fits id "error" (some e.json)) :
    answerTo id (asJson (replyWith (.num id) "error" e.held)) = .rejected id e := by
  rw [← e.held_json, asJson_fits e.json.toJson_held fits, answerTo_error, rpcError_json settled]

theorem error_oversized {id : Int} {e : RpcErrorObject}
    (large : ¬ Fits id "error" (some e.json)) :
    answerTo id (asJson (replyWith (.num id) "error" e.held)) = .rejected id oversizedAnswer := by
  rw [← e.held_json, asJson_oversized e.json.toJson_held large]
  rfl

/-! ## Across -/

/-- The internal error, under whichever of the bridge's messages. -/
def FrameDid.Internal (id : Int) (did : FrameDid) : Prop :=
  ∃ message, did = .rejected id ⟨RpcErrorCode.internal, message, none⟩

/-- The promise rejects with this code, and with the message, where that is a text with something
in it, cut to its cap. -/
def Told (id code : Int) (message : Except Unit PageValue) (did : FrameDid) : Prop :=
  ∃ e, did = .rejected id e ∧ e.code = code ∧
    ∀ text, message = .ok (.str text) → text ≠ [] →
      e.message = truncate text maxErrorMessageLength

/-- The internal error that a rejection is replaced with which cannot be read, or whose message
does not fit. -/
def replacement (id : Int) (message data : Except Unit PageValue) : RpcErrorObject :=
  match message, data with
  | .ok _, .ok _ => oversizedAnswer
  | _, _ =>
    if (replyJson id "error" (some internalError.json)).length ≤ maxMessageLength then internalError
    else oversizedAnswer

/-- A rejection with this code crosses: its message and its data can be read, and with them the
reply fits; or it says what it is replaced with. -/
def Tellable (id code : Int) (message data : Except Unit PageValue) : Prop :=
  (∃ m d, message = .ok m ∧ data = .ok d ∧
    Fits id "error" (some (RpcErrorObject.mk code (errorMessage m) (errorData d)).json)) ∨
  code = RpcErrorCode.internal ∧ ∀ text, message = .ok (.str text) → text ≠ [] →
    (replacement id message data).message = truncate text maxErrorMessageLength

/-- How the promise of request `id` settles when the wallet call behind it settled so. -/
structure Crosses (id : Int) (answer : Answer) (did : FrameDid) : Prop where
  result : ∀ value cloned json, answer = .fulfilled value → value.clone = .ok cloned →
    cloned.toJson = .ok json → Fits id "result" json → did = .resolved id json
  noResult : ∀ value, answer = .fulfilled value →
    (∀ cloned json, value.clone = .ok cloned → cloned.toJson = .ok json →
      ¬ Fits id "result" json) → did.Internal id
  rejection : ∀ code message data,
    answer = .rejected (.record (.ok code) (.ok message) (.ok data)) →
    Fits id "error" (some (toRpcError (.record (.ok code) (.ok message) (.ok data))).json) →
    ∃ e, did = .rejected id e ∧ Relayed code message data e
  oversized : ∀ err, answer = .rejected err →
    ¬ Fits id "error" (some (toRpcError err).json) → did.Internal id
  unreadable : ∀ err, answer = .rejected err →
    (∀ code message data, err ≠ .record (.ok code) (.ok message) (.ok data)) → did.Internal id
  told : ∀ code message data own, answer = .rejected (.record (.ok code) message data) →
    code.safeInteger = some own → (Told id own message did ↔ Tellable id own message data)

theorem internal_crosses (id : Int) {e : RpcErrorObject} (settled : e.Settled)
    (internal : e.code = RpcErrorCode.internal) (bare : e.data = none) :
    (answerTo id (asJson (replyWith (.num id) "error" e.held))).Internal id := by
  by_cases fits : Fits id "error" (some e.json)
  · refine ⟨e.message, ?_⟩
    rw [error_arrives settled fits, ← internal, ← bare]
  · exact ⟨_, error_oversized fits⟩

theorem toRpcError_own {code m d : PageValue} {own : Int} (safe : code.safeInteger = some own) :
    toRpcError (.record (.ok code) (.ok m) (.ok d)) =
      ⟨own, errorMessage m, errorData d⟩ := by
  change RpcErrorObject.mk (errorCode code) (errorMessage m) (errorData d) = _
  rw [errorCode, safe]
  rfl

theorem toRpcError_unread {code message data : Except Unit PageValue}
    (unread : ¬∃ c m d, code = .ok c ∧ message = .ok m ∧ data = .ok d) :
    toRpcError (.record code message data) = internalError := by
  unfold toRpcError
  split
  · rfl
  · rfl
  · rename_i same
    cases same
    exact absurd ⟨_, _, _, rfl, rfl, rfl⟩ unread
  · rfl

/-- A rejection that is replaced with an internal error is told by it where it says the same. -/
theorem told_replaced {id own : Int} {message : Except Unit PageValue} {e : RpcErrorObject}
    (internal : e.code = RpcErrorCode.internal) :
    Told id own message (.rejected id e) ↔ own = RpcErrorCode.internal ∧
      ∀ text, message = .ok (.str text) → text ≠ [] →
        e.message = truncate text maxErrorMessageLength := by
  constructor
  · rintro ⟨e', same, code, text⟩
    cases same
    exact ⟨code.symm.trans internal, text⟩
  · rintro ⟨code, text⟩
    exact ⟨e, rfl, internal.trans code.symm, text⟩

/-- A rejection with a code of its own settles the promise with it exactly when it is tellable. -/
theorem rejection_told {id own : Int} {code : PageValue} {message data : Except Unit PageValue}
    (safe : code.safeInteger = some own) :
    Told id own message (answerTo id (asJson (replyWith (.num id) "error"
      (toRpcError (.record (.ok code) message data)).held))) ↔ Tellable id own message data := by
  by_cases read : ∃ m d, message = .ok m ∧ data = .ok d
  · obtain ⟨m, d, rfl, rfl⟩ := read
    have settled := toRpcError_settled (.record (.ok code) (.ok m) (.ok d))
    rw [toRpcError_own safe] at settled ⊢
    by_cases fits : Fits id "error" (some (RpcErrorObject.mk own (errorMessage m)
        (errorData d)).json)
    · rw [error_arrives settled fits]
      constructor
      · intro _
        exact .inl ⟨m, d, rfl, rfl, fits⟩
      · intro _
        refine ⟨_, rfl, rfl, ?_⟩
        intro text is_text nonempty
        cases is_text
        exact if_pos nonempty
    · rw [error_oversized fits, told_replaced rfl]
      constructor
      · intro told
        exact .inr told
      · intro tellable
        rcases tellable with ⟨m', d', same, same', fits'⟩ | told
        · cases same
          cases same'
          exact absurd fits' fits
        · exact told
  · have unread : ¬∃ c m d, (Except.ok code : Except Unit PageValue) = .ok c ∧ message = .ok m ∧
        data = .ok d := by
      rintro ⟨_, m, d, -, same, same'⟩
      exact read ⟨m, d, same, same'⟩
    have replaced : answerTo id (asJson (replyWith (.num id) "error" internalError.held)) =
        .rejected id (replacement id message data) := by
      have which : replacement id message data =
          if (replyJson id "error" (some internalError.json)).length ≤ maxMessageLength
            then internalError else oversizedAnswer := by
        unfold replacement
        split
        · exact absurd ⟨_, _, rfl, rfl⟩ read
        · rfl
      rw [which]
      by_cases fits : (replyJson id "error" (some internalError.json)).length ≤ maxMessageLength
      · rw [if_pos fits]
        exact error_arrives internalError_settled fits
      · rw [if_neg fits]
        exact error_oversized fits
    have internal : (replacement id message data).code = RpcErrorCode.internal := by
      unfold replacement
      split
      · rfl
      · split <;> rfl
    rw [toRpcError_unread unread, replaced, told_replaced internal]
    constructor
    · intro told
      exact .inr told
    · intro tellable
      rcases tellable with ⟨m, d, same, same', -⟩ | told
      · exact absurd ⟨m, d, same, same'⟩ read
      · exact told

theorem rejected_crosses (id : Int) (err : Rejection) :
    Crosses id (.rejected err)
      (answerTo id (asJson (replyWith (.num id) "error" (toRpcError err).held))) := by
  refine ⟨nofun, nofun, ?_, ?_, ?_, ?_⟩
  · rintro code message data ⟨⟩ fits
    exact ⟨_, error_arrives (toRpcError_settled _) fits, toRpcError_relayed code message data⟩
  · rintro _ ⟨⟩ large
    exact ⟨_, error_oversized large⟩
  · rintro _ ⟨⟩ unread
    have generic : toRpcError err = internalError := by
      unfold toRpcError
      split
      · rfl
      · rfl
      · exact absurd rfl (unread _ _ _)
      · rfl
    rw [generic]
    exact internal_crosses id internalError_settled rfl rfl
  · rintro code message data own ⟨⟩ safe
    exact rejection_told safe

theorem fulfilled_crosses (id : Int) {value cloned : PageValue}
    (cloneable : value.clone = .ok cloned) :
    Crosses id (.fulfilled value)
      (answerTo id (asJson (replyWith (.num id) "result" cloned))) := by
  refine ⟨?_, ?_, nofun, nofun, nofun, nofun⟩
  · rintro _ cloned' json ⟨⟩ again printed fits
    cases cloneable.symm.trans again
    rw [asJson_fits printed fits, answerTo_result]
  · rintro _ ⟨⟩ unfit
    refine ⟨oversizedAnswer.message, ?_⟩
    cases printed : cloned.toJson with
    | error =>
      rw [asJson_stuck printed]
      rfl
    | ok json =>
      rw [asJson_oversized printed (unfit cloned json cloneable printed)]
      rfl

/-- Whatever a wallet call settles with, one reply is posted, and it settles the promise so. -/
theorem reply_crosses (id : Int) (answer : Answer) :
    ∃ key member, reply (.num id) answer.outcome = [replyWith (.num id) key member] ∧
      Crosses id answer (answerTo id (asJson (replyWith (.num id) key member))) := by
  cases answer with
  | rejected err => exact ⟨_, _, reply_error _ _, rejected_crosses id err⟩
  | fulfilled value =>
    cases cloneable : value.clone with
    | ok cloned => exact ⟨_, _, reply_result cloneable, fulfilled_crosses id cloneable⟩
    | error =>
      refine ⟨_, _, (reply_unsendable cloneable).trans (reply_error _ _), ?_⟩
      refine ⟨?_, ?_, nofun, nofun, nofun, nofun⟩
      · rintro _ cloned json ⟨⟩ cloned'
        rw [cloneable] at cloned'
        cases cloned'
      · rintro _ ⟨⟩ -
        exact internal_crosses id ⟨by decide, by decide⟩ rfl rfl

/-- What holds of a host and the calls it waits for. -/
structure OutcomeLaw (s : Host) : Prop where
  /-- A call of this session that settles is answered by one message, which settles the promise
  of the frame that waits for it. -/
  replies : ∀ place call answer, s.calls[place]? = some call → s.Current call →
    ∃ sent, (s.step (.answered place answer)).2 = [sent] ∧ Answers call.id sent ∧
      (s.step (.answered place answer)).1.calls = s.calls.eraseIdx place ∧
      ∀ (f : Frame) origin id, f.destroyed = false → f.origin = some origin → call.id = .num id →
        id ∈ f.pending →
        ∃ did, f.onMessage origin sent = ({ f with pending := f.pending.filter (· ≠ id) }, [did]) ∧
          Crosses id answer did
  /-- Until then nothing else answers it. -/
  once : ∀ place call move, s.calls[place]? = some call → s.Current call →
    (∀ answer, move ≠ .answered place answer) → ∀ sent ∈ (s.step move).2, ¬ Answers call.id sent

/-- In every run of the host, the outcome of a wallet call crosses the bridge: a result always, and
a rejection with its own code and message exactly when these and its data can be read and fit one
message, or say what they are replaced with. -/
theorem wallet_outcomes_cross (provider : Option Nat) (autoConnect : Bool) (moves : List Move) :
    OutcomeLaw ((Host.create provider autoConnect).run moves) := by
  have tracked := run_tracked (create_tracked provider autoConnect) moves
  refine ⟨?_, fun place call move at_ current other sent => step_silent tracked at_ current other⟩
  intro place call answer at_ current
  have posted : (((Host.create provider autoConnect).run moves).step (.answered place answer)).2 =
      reply call.id answer.outcome := by
    simp only [Host.step, at_]
    exact settled_current (s := { (Host.create provider autoConnect).run moves with
      calls := ((Host.create provider autoConnect).run moves).calls.eraseIdx place }) current _
  have gone :
      (((Host.create provider autoConnect).run moves).step (.answered place answer)).1.calls =
        ((Host.create provider autoConnect).run moves).calls.eraseIdx place := by
    simp only [Host.step, at_]
    exact settled_calls _ _ _
  obtain ⟨key, member, one⟩ := reply_one call.id answer.outcome
  refine ⟨replyWith call.id key member, posted.trans one,
    ⟨get_type _ _ _, get_id _ _ _⟩, gone, ?_⟩
  intro f origin id mounted pinned named waits
  obtain ⟨key', member', one', crosses⟩ := reply_crosses id answer
  rw [named] at one
  rw [named, ← List.singleton_inj.mp (one'.symm.trans one)]
  exact ⟨_, frame_settles mounted pinned waits key' member', crosses⟩

/-! ## Data that costs a rejection its code -/

/-- What the frame posts once it has loaded, and its first request. -/
def readyMessage : PageValue := .obj [(units "type", .str (units "xochi:ready"))]

def firstRequest : PageValue :=
  .obj [(units "type", .str (units "xochi:rpc")), (units "id", .num (JsNumber.ofInt 1)),
    (units "method", .str (units "personal_sign"))]

def askedHost : Host :=
  (Host.create (some 0) false).run [.message readyMessage, .message firstRequest]

def askedFrame : Frame := ⟨none, some "https://host.example", false, true, false, [1]⟩

/-- A user's refusal, with the data that its object carries. -/
def refused (data : Except Unit PageValue) : Answer :=
  .rejected (.record (.ok (.num (JsNumber.ofInt 4001))) (.ok (.str (units "User rejected"))) data)

theorem length_ofList_append (a b : List Char) :
    utf16Length (String.ofList (a ++ b)) =
      utf16Length (String.ofList a) + utf16Length (String.ofList b) := by
  simp [utf16Length]

/-- A value is shorter than a text that has its own inside a bracket. -/
theorem length_inside {outer inner : JsonValue} (mark : Char) (before after : List Char)
    (stands : outer.text = mark :: (before ++ inner.text ++ after)) :
    inner.length < outer.length := by
  have marked : 0 < utf16Length (String.ofList [mark]) := by
    simp only [utf16Length, String.toList_ofList, List.map_cons, List.map_nil, List.sum_cons,
      List.sum_nil]
    split <;> omega
  rw [JsonValue.length, JsonValue.length, stands, ← List.singleton_append, length_ofList_append,
    length_ofList_append, length_ofList_append]
  omega

/-- An error is longer than the data it carries. -/
theorem length_data_lt {e : RpcErrorObject} {data : JsonValue} (carried : e.data = some data) :
    data.length < e.json.length := by
  obtain ⟨code, message, _⟩ := e
  cases carried
  refine length_inside '\x7b' (Wire.quote (units "code") ++
    ':' :: (JsNumber.ofInt code).text.toList ++ ',' :: (Wire.quote (units "message") ++
      ':' :: Wire.quote message ++ ',' :: (Wire.quote (units "data") ++ [':']))) ['\x7d'] ?_
  simp [RpcErrorObject.json, JsonValue.text, JsonValue.membersText]

theorem length_reply_lt (id : Int) (key : String) (value : JsonValue) :
    value.length < (replyJson id key (some value)).length := by
  refine length_inside '\x7b' (Wire.quote (units "type") ++
    ':' :: Wire.quote (units "xochi:rpc:result") ++ ',' :: (Wire.quote (units "id") ++
      ':' :: (JsNumber.ofInt id).text.toList ++ ',' :: (Wire.quote (units key) ++ [':'])))
    ['\x7d'] ?_
  simp [replyJson, JsonValue.text, JsonValue.membersText]

theorem quoteBody_letters : ∀ n, Wire.quoteBody (List.replicate n 97) = List.replicate n 'a'
  | 0 => rfl
  | 1 => rfl
  | n + 2 => by
    have rest := quoteBody_letters (n + 1)
    rw [List.replicate_succ, List.replicate_succ, Wire.quoteBody, ← List.replicate_succ, rest]
    rfl

theorem length_letters (n : Nat) : (JsonValue.str (List.replicate n 97)).length = n + 2 := by
  simp [JsonValue.length, JsonValue.text, Wire.quote, quoteBody_letters, utf16Length]
  omega

/-- Data whose own text is as long as a message may be. -/
def longData : PageValue := .str (List.replicate 131070 97)

theorem toRpcError_long :
    (toRpcError (.record (.ok (.num (JsNumber.ofInt 4001))) (.ok (.str (units "User rejected")))
      (.ok longData))).data = some (.str (List.replicate 131070 97)) := by
  have small : (JsonValue.str (List.replicate 131070 97)).length ≤ maxMessageLength := by
    rw [length_letters]
    decide
  have printed : longData.toJson = .ok (some (.str (List.replicate 131070 97))) := by
    rw [longData, PageValue.toJson]
  exact (toRpcError_relayed _ _ longData).data _ printed nofun small

/-- The user's refusal reaches the frame as an internal error where its data cannot be read, and
where its data fills the message. -/
theorem refusal_code_lost :
    (∃ sent, (askedHost.step (.answered 0 (refused (.error ())))).2 = [sent] ∧
      (askedFrame.onMessage "https://host.example" sent).2 = [.rejected 1 internalError]) ∧
    (∃ sent, (askedHost.step (.answered 0 (refused (.ok longData)))).2 = [sent] ∧
      (askedFrame.onMessage "https://host.example" sent).2 = [.rejected 1 oversizedAnswer]) ∧
    internalError.code ≠ 4001 ∧ oversizedAnswer.code ≠ 4001 := by
  refine ⟨⟨_, rfl, rfl⟩, ⟨_, (settled_current ⟨rfl, rfl⟩ _).trans (reply_error _ _), ?_⟩,
    by decide, by decide⟩
  have inner := length_data_lt toRpcError_long
  have outer := length_reply_lt 1 "error" (toRpcError (.record (.ok (.num (JsNumber.ofInt 4001)))
    (.ok (.str (units "User rejected"))) (.ok longData))).json
  rw [length_letters] at inner
  have large : ¬ Fits 1 "error" (some (toRpcError (.record (.ok (.num (JsNumber.ofInt 4001)))
      (.ok (.str (units "User rejected"))) (.ok longData))).json) := by
    unfold Fits maxMessageLength
    omega
  rw [frame_settles rfl rfl (by decide)]
  exact congrArg (fun did => [did]) (error_oversized large)

end XochiSdk.Widget.Bridge
