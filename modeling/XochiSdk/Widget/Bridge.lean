import XochiSdk.Js.PageValue

/-!
# The wallet bridge

`packages/widget-lib/src/widget.ts`, `frame.ts` and `internal.ts`: the host page answers the
requests of the frame with its wallet, one message for each, and the frame settles the promise it
handed out. What either end posts reaches the other as a structured clone.
-/

namespace XochiSdk.Widget.Bridge

open XochiSdk.Js

/-! ## protocol.ts and internal.ts -/

def allowedRpcMethods : List String :=
  ["eth_requestAccounts", "eth_accounts", "eth_chainId", "wallet_switchEthereumChain",
    "wallet_addEthereumChain", "eth_signTypedData_v4", "personal_sign", "eth_sendTransaction"]

def maxMessageLength : Nat := 128 * 1024

def maxPendingRpc : Nat := 16

def maxIdLength : Nat := 128

def maxErrorMessageLength : Nat := 1000

namespace RpcErrorCode

def unsupportedMethod : Int := 4200

def disconnected : Int := 4900

def invalidRequest : Int := -32600

def invalidParams : Int := -32602

def internal : Int := -32603

def limitExceeded : Int := -32005

end RpcErrorCode

inductive RpcId where
  | text (id : Units)
  | num (id : Int)
  deriving DecidableEq

def RpcId.held : RpcId → PageValue
  | .text id => .str id
  | .num id => .num (JsNumber.ofInt id)

/-- `RpcErrorObject`; `data` is `none` where the object has no such member. -/
structure RpcErrorObject where
  code : Int
  message : Units
  data : Option JsonValue

def RpcErrorObject.held (e : RpcErrorObject) : PageValue :=
  .obj ([(units "code", .num (JsNumber.ofInt e.code)), (units "message", .str e.message)] ++
    match e.data with
    | none => []
    | some data => [(units "data", data.held)])

def truncate (text : Units) (max : Nat) : Units :=
  if text.length ≤ max then text else text.take (max - 1) ++ [0x2026]

/-- Re-parsing a printed text reads back what was printed. -/
def asJson (data : PageValue) : JsonValue :=
  match data.toJson with
  | .ok (some value) => if value.length ≤ maxMessageLength then value else .null
  | .ok none => .null
  | .error () => .null

/-! ## widget.ts -/

/-- What a wallet rejects with, as `toRpcError` reads it. -/
inductive Rejection where
  /-- No object, an array or a function. -/
  | other
  /-- A revoked proxy, which `Array.isArray` throws on. -/
  | revoked
  /-- An object, and what reading each member comes to. -/
  | record (code message data : Except Unit PageValue)

/-- How a wallet call settles. -/
inductive Answer where
  | fulfilled (result : PageValue)
  | rejected (err : Rejection)

/-- What the host answers a request with. -/
inductive Outcome where
  | result (value : PageValue)
  | error (error : RpcErrorObject)

def internalError : RpcErrorObject := ⟨RpcErrorCode.internal, units "Internal error", none⟩

/-- `code`, when it is a safe integer. -/
def errorCode (rawCode : PageValue) : Int := rawCode.safeInteger.getD RpcErrorCode.internal

def errorMessage : PageValue → Units
  | .str text => if text ≠ [] then truncate text maxErrorMessageLength else units "Internal error"
  | _ => units "Internal error"

def errorData (rawData : PageValue) : Option JsonValue :=
  match rawData with
  | .undefined => none
  | rawData =>
    match asJson rawData with
    | .null => none
    | data => some data

def toRpcError : Rejection → RpcErrorObject
  | .other => internalError
  | .revoked => internalError
  | .record (.ok rawCode) (.ok rawMessage) (.ok rawData) =>
    ⟨errorCode rawCode, errorMessage rawMessage, errorData rawData⟩
  | .record _ _ _ => internalError

def Answer.outcome : Answer → Outcome
  | .fulfilled result => .result result
  | .rejected err => .error (toRpcError err)

/-- `{ type: MESSAGE.rpcResult, id, ...outcome }`. -/
def rpcResult (id : RpcId) (outcome : Outcome) : PageValue :=
  .obj [(units "type", .str (units "xochi:rpc:result")), (units "id", id.held),
    match outcome with
    | .result value => (units "result", value)
    | .error e => (units "error", e.held)]

def unsendable : Outcome :=
  .error ⟨RpcErrorCode.internal, units "The wallet's answer could not be sent", none⟩

/-- `post`: what arrives, or what the structured clone throws. -/
def post (message : PageValue) : Except Unit PageValue := message.clone

/-- `reply`, as the messages that arrive. -/
def reply (id : RpcId) (outcome : Outcome) : List PageValue :=
  match post (rpcResult id outcome) with
  | .ok sent => [sent]
  | .error () =>
    match post (rpcResult id unsendable) with
    | .ok sent => [sent]
    | .error () => []

/-- A request that the wallet was asked and has not settled. -/
structure Call where
  id : RpcId
  session : Nat
  method : String
  params : Option JsonValue
  wallet : Nat

/-- The host's variables. `calls` are the promises it waits for. -/
structure Host where
  provider : Option Nat
  autoConnect : Bool
  destroyed : Bool
  ready : Bool
  session : Nat
  pending : List RpcId
  inFlight : Nat
  connected : Bool
  calls : List Call

/-- `createXochiWidget`. -/
def Host.create (provider : Option Nat) (autoConnect : Bool) : Host where
  provider := provider
  autoConnect := autoConnect
  destroyed := false
  ready := false
  session := 0
  pending := []
  inFlight := 0
  connected := autoConnect
  calls := []

/-- `isRpcId`. -/
def rpcId : PageValue → Option RpcId
  | .str text => if 0 < text.length ∧ text.length ≤ maxIdLength then some (.text text) else none
  | x => x.safeInteger.map .num

def typeof : Option JsonValue → String
  | none => "undefined"
  | some .null => "object"
  | some (.bool _) => "boolean"
  | some (.num _) => "number"
  | some (.str _) => "string"
  | some (.arr _) => "object"
  | some (.obj _) => "object"

/-- The method when the host forwards it, else the name it is refused under. -/
def allowedMethod (method : Option JsonValue) : Except Units String :=
  match method with
  | some (.str text) =>
    match allowedRpcMethods.find? fun name => units name == text with
    | some name => .ok name
    | none => .error (truncate text 64)
  | other => .error (units (typeof other))

def badParams : Option JsonValue → Bool
  | none => false
  | some (.arr _) => false
  | some (.obj _) => false
  | some _ => true

def refusal (code : Int) (message : Units) : Outcome := .error ⟨code, message, none⟩

/-- Why `handleRpc` answers a request itself, or the call it makes. -/
def Host.admit (s : Host) (id : RpcId) (message : JsonValue) : Except Outcome Call :=
  match message with
  | .obj _ =>
    match allowedMethod (message.get "method") with
    | .error name =>
      .error (refusal RpcErrorCode.unsupportedMethod (units "Unsupported method: " ++ name))
    | .ok method =>
      if badParams (message.get "params") then
        .error (refusal RpcErrorCode.invalidParams (units "params must be an array or an object"))
      else
        match s.provider with
        | none =>
          .error (refusal RpcErrorCode.disconnected (units "No wallet is attached to the widget"))
        | some wallet =>
          if maxPendingRpc ≤ s.inFlight then
            .error (refusal RpcErrorCode.limitExceeded
              (units "More than 16 wallet requests in flight"))
          else .ok ⟨id, s.session, method, message.get "params", wallet⟩
  | _ =>
    .error (refusal RpcErrorCode.invalidRequest
      (units "Request is not JSON or exceeds 131072 characters"))

def Host.handleRpc (s : Host) (raw : PageValue) (message : JsonValue) : Host × List PageValue :=
  match rpcId (raw.get "id") with
  | none => (s, [])
  | some id =>
    if id ∈ s.pending then (s, [])
    else
      match s.admit id message with
      | .error outcome => (s, reply id outcome)
      | .ok call =>
        ({ s with
          pending := s.pending ++ [id]
          inFlight := s.inFlight + 1
          calls := s.calls ++ [call] }, [])

/-- The frame has seen accounts of the host's wallet. -/
def connects (method : String) : Outcome → Bool
  | .result value =>
    (method == "eth_requestAccounts" || method == "eth_accounts") && value.isFilledArray
  | .error _ => false

/-- The last continuation of a wallet call, once the call has settled. -/
def Host.settled (s : Host) (call : Call) (outcome : Outcome) : Host × List PageValue :=
  let s := { s with inFlight := s.inFlight - 1 }
  if s.destroyed ∨ call.session ≠ s.session then (s, [])
  else
    ({ s with
      pending := s.pending.filter (· ≠ call.id)
      connected := s.connected || connects call.method outcome }, reply call.id outcome)

/-- `{ type: MESSAGE.provider, available, autoConnect }`. -/
def Host.announcement (s : Host) : PageValue :=
  .obj [(units "type", .str (units "xochi:provider")), (units "available", .bool s.provider.isSome),
    (units "autoConnect", .bool s.autoConnect)]

/-- A message of the frame's own window and origin. A resize and a trade event touch the page and
the listeners only. -/
def Host.onMessage (s : Host) (raw : PageValue) : Host × List PageValue :=
  if s.destroyed then (s, [])
  else
    match raw.get "type" with
    | .str type =>
      if type = units "xochi:ready" then
        ({ s with
          session := s.session + 1
          pending := []
          connected := s.autoConnect
          ready := true }, [s.announcement])
      else if type = units "xochi:rpc" then s.handleRpc raw (asJson raw)
      else (s, [])
    | _ => (s, [])

/-- An event of the attached wallet, with the argument as the handler reads it. -/
inductive WalletEvent where
  | accountsChanged (accounts : Option (List Units))
  | chainChanged (chainId : Option Units)
  | disconnect (error : Rejection)

def providerEvent (event : String) (data : PageValue) : PageValue :=
  .obj [(units "type", .str (units "xochi:provider:event")), (units "event", .str (units event)),
    (units "data", data)]

/-- `providerHandlers`; `none` stands for an argument of another shape. -/
def Host.walletEvent (s : Host) (event : WalletEvent) : List PageValue :=
  if !s.ready || s.destroyed || !s.connected then []
  else
    match event with
    | .accountsChanged (some accounts) =>
      [providerEvent "accountsChanged" (.arr (accounts.map .str))]
    | .chainChanged (some chainId) => [providerEvent "chainChanged" (.str chainId)]
    | .disconnect error => [providerEvent "disconnect" (toRpcError error).held]
    | .accountsChanged none => []
    | .chainChanged none => []

/-- What happens at the host. -/
inductive Move where
  | message (raw : PageValue)
  /-- The call at this place of `calls` settles. -/
  | answered (place : Nat) (answer : Answer)
  | walletEvent (event : WalletEvent)
  /-- `updateParams`, on params that encode otherwise. -/
  | updateParams
  | updateProvider (next : Option Nat)
  | destroy

/-- One move, and the messages that reach the frame. -/
def Host.step (s : Host) : Move → Host × List PageValue
  | .message raw => s.onMessage raw
  | .answered place answer =>
    match s.calls[place]? with
    | none => (s, [])
    | some call => { s with calls := s.calls.eraseIdx place }.settled call answer.outcome
  | .walletEvent event => (s, s.walletEvent event)
  | .updateParams =>
    if s.destroyed then (s, [])
    else
      ({ s with
        ready := false
        session := s.session + 1
        pending := []
        connected := s.autoConnect }, [])
  | .updateProvider next =>
    if s.destroyed || next == s.provider then (s, [])
    else
      let s := { s with provider := next }
      (s, if s.ready then [s.announcement] else [])
  | .destroy =>
    if s.destroyed then (s, [])
    else ({ s with destroyed := true, provider := none, pending := [] }, [])

def Host.run (s : Host) (moves : List Move) : Host := moves.foldl (fun s move => (s.step move).1) s

/-! ## frame.ts -/

/-- What the frame hands its callers. -/
inductive FrameDid where
  | resolved (id : Int) (result : Option JsonValue)
  | rejected (id : Int) (error : RpcErrorObject)
  | accountsChanged (accounts : List Units)
  | chainChanged (chainId : Units)
  | disconnect (error : RpcErrorObject)
  | availability (available : Bool)

/-- The frame's variables. `pending` are the ids of the promises it has not settled. -/
structure Frame where
  hostOrigin : Option String
  origin : Option String
  destroyed : Bool
  isAvailable : Bool
  hostAutoConnect : Bool
  pending : List Int

def malformedError : RpcErrorObject :=
  ⟨RpcErrorCode.internal, units "malformed error from the host wallet", none⟩

def rpcError (value : Option JsonValue) : RpcErrorObject :=
  match value with
  | some (.obj ms) =>
    match ((JsonValue.obj ms).get "code").bind fun c => c.held.safeInteger,
        (JsonValue.obj ms).get "message" with
    | some code, some (.str message) =>
      ⟨code, truncate message maxErrorMessageLength, (JsonValue.obj ms).get "data"⟩
    | _, _ => malformedError
  | _ => malformedError

def oversizedAnswer : RpcErrorObject :=
  ⟨RpcErrorCode.internal,
    units "The wallet's answer is not JSON or exceeds 131072 characters", none⟩

def Frame.setAvailable (f : Frame) (next : Bool) : Frame × List FrameDid :=
  if next = f.isAvailable then (f, [])
  else if next then ({ f with isAvailable := true }, [.availability true])
  else
    let detached := ⟨RpcErrorCode.disconnected, units "the host detached its wallet", none⟩
    ({ f with isAvailable := false, pending := [] },
      f.pending.map (.rejected · detached) ++ [.disconnect detached, .availability false])

/-- The `available` of a well-formed `xochi:provider`. -/
def announced (message : JsonValue) : Option Bool :=
  match message.get "available" with
  | some (.bool available) => some available
  | _ => none

/-- The answer to one request: what its promise settles with. -/
def answerTo (id : Int) (message : JsonValue) : FrameDid :=
  match message with
  | .obj _ =>
    match message.get "error" with
    | some error => .rejected id (rpcError (some error))
    | none => .resolved id (message.get "result")
  | _ => .rejected id oversizedAnswer

def Frame.onRpcResult (f : Frame) (raw : PageValue) (message : JsonValue) :
    Frame × List FrameDid :=
  match raw.get "id" with
  | .num n =>
    match n.toInteger with
    | none => (f, [])
    | some id =>
      if id ∈ f.pending then
        ({ f with pending := f.pending.filter (· ≠ id) }, [answerTo id message])
      else (f, [])
  | _ => (f, [])

def textsOf (xs : List JsonValue) : List Units :=
  xs.filterMap fun x => match x with
    | .str text => some text
    | _ => none

def onProviderEvent (message : JsonValue) : List FrameDid :=
  match message.get "event", message.get "data" with
  | some (.str event), data =>
    if event = units "accountsChanged" then
      match data with
      | some (.arr xs) => [.accountsChanged (textsOf xs)]
      | _ => []
    else if event = units "chainChanged" then
      match data with
      | some (.str chainId) => [.chainChanged chainId]
      | _ => []
    else if event = units "disconnect" then [.disconnect (rpcError data)]
    else []
  | _, _ => []

def Frame.onProvider (f : Frame) (message : JsonValue) : Frame × List FrameDid :=
  match announced message with
  | none => (f, [])
  | some available =>
    let autoConnect := match message.get "autoConnect" with
      | some (.bool b) => b
      | _ => false
    { f with hostAutoConnect := autoConnect }.setAvailable available

/-- The branches of `onMessage`'s `switch`. -/
def Frame.handle (f : Frame) (type : Units) (raw : PageValue) (message : JsonValue) :
    Frame × List FrameDid :=
  if type = units "xochi:provider" then f.onProvider message
  else if type = units "xochi:rpc:result" then f.onRpcResult raw message
  else if type = units "xochi:provider:event" then (f, onProviderEvent message)
  else (f, [])

/-- A message may pin the origin it comes from. -/
def Frame.pins (f : Frame) (origin : String) (message : JsonValue) : Bool :=
  (match message.get "type" with
    | some (.str type) => type == units "xochi:provider"
    | _ => false) &&
  (announced message).isSome &&
  match f.hostOrigin with
  | none => origin != "null"
  | some expected => origin == expected

/-- A message of the parent window, from `origin`. -/
def Frame.onMessage (f : Frame) (origin : String) (raw : PageValue) : Frame × List FrameDid :=
  if f.destroyed then (f, [])
  else
    match raw.get "type" with
    | .str type =>
      let message := asJson raw
      match f.origin with
      | none =>
        if f.pins origin message then
          { f with origin := some origin }.handle type raw message
        else (f, [])
      | some pinned => if origin = pinned then f.handle type raw message else (f, [])
    | _ => (f, [])

end XochiSdk.Widget.Bridge
