import Mathlib.Algebra.Order.Field.Rat
import XochiSdk.Js.Host
import XochiSdk.Js.Value
import XochiSdk.Library.Async
import XochiSdk.Library.Utf16

/-!
# The solver session

`packages/solver-sdk/src/session.ts` and `authed` of `client.ts`: one session, called by any number
of callers, each of which runs until it awaits something. A registration runs in the call that
started it; the others await the promise it shares.
-/

namespace XochiSdk.Solver.Session

open XochiSdk.Js XochiSdk.Library

structure SolverBondRef where
  chainId : Nat
  address : String
  deriving DecidableEq

/-- The signed body of a registration. -/
structure SolverRegistration where
  solverId : String
  bondChainId : Nat
  bond : String
  issuedAtMs : ℚ
  signature : String
  deriving DecidableEq

structure SolverRegistrationResponse where
  solverId : String
  sessionToken : String
  expiresAtMs : Nat
  reputation : Value

structure SolverRegistrationResult where
  solverId : String
  sessionToken : String
  expiresAtMs : Nat
  reputation : Value

/-- What a fetch answers before its body is read. -/
structure Response where
  status : Nat
  retryAfter : Option String
  deriving DecidableEq

/-- `res.ok`. -/
def Response.ok (res : Response) : Bool := 200 ≤ res.status && res.status < 300

/-- A text's UTF-16 code units. -/
abbrev Text : Type := List UInt16

def units (s : String) : Text := s.toList.flatMap Utf16.encodeChar

inductive Thrown where
  /-- `SolverRegistrationRefusedError`. -/
  | refused (code : String) (status : Option Nat) (detail : Text)
  /-- `SolverRegistrationUnavailableError`. -/
  | unavailable (code : String) (status attempts : Nat) (retryAfterMs : Option ℚ) (detail : Text)
  | error (message : Text)
  | schema
  /-- What an awaited call threw. -/
  | outside

structure SolverSessionOptions where
  solverId : String
  bond : Option SolverBondRef
  maxAttempts : Option Int
  renewBeforeMs : Option ℚ
  /-- `JSON.parse`; `none` is a throw. -/
  parseJson : Text → Option Value
  /-- What `VenueCapabilitiesSchema` and `.admission?.bond` make of a body; `none` is a throw. -/
  capabilitiesBond : Value → Option (Option SolverBondRef)

namespace SolverSessionOptions

variable (opts : SolverSessionOptions)

/-- `this.maxAttempts`. -/
def attempts : Nat := (max 1 (opts.maxAttempts.getD 5)).toNat

/-- `this.renewBeforeMs`. -/
def renewBefore : ℚ := opts.renewBeforeMs.getD 60000

end SolverSessionOptions

/-- `this.current`. -/
structure Held where
  result : SolverRegistrationResult
  renewAtMs : ℚ

/-- The session and its clock, reading by reading. -/
structure State where
  current : Option Held
  inFlight : Option Nat
  /-- How many registrations were started. -/
  flights : Nat
  /-- What the shared promises have settled with. -/
  outcomes : List (Nat × Except Thrown SolverRegistrationResult)
  clock : Nat → ℚ

inductive Ask where
  /-- `fetch` of the capabilities. -/
  | capabilities
  | signRegistration (bond : SolverBondRef) (issuedAtMs : ℚ)
  /-- `fetch` of an attempt's `POST /solver/register`. -/
  | register (n attempt : Nat) (body : SolverRegistration)
  /-- `res.json()`. -/
  | json
  /-- `res.text()`. -/
  | text
  | sleep (ms : ℚ)
  /-- The promise that registration `n` shares. -/
  | flight (n : Nat)
  /-- The next microtask. -/
  | turn
  /-- An authenticated `fetch`. -/
  | send (token : String)
  /-- `res.body?.cancel()`. -/
  | cancel
  deriving DecidableEq

@[reducible] def Ask.Answer : Ask → Type
  | .capabilities | .register .. | .send _ => Response
  | .signRegistration .. => String
  | .json => Value
  | .text => Text
  | .sleep _ | .turn | .cancel => Unit
  | .flight _ => SolverRegistrationResult

/-- What is seen of a session. -/
inductive Deed where
  /-- `register` is called by the session's user. -/
  | asked
  | registering (n : Nat)
  | joined (n : Nat)
  | signing (n attempt : Nat) (issuedAtMs : ℚ)
  | posted (n attempt : Nat) (body : SolverRegistration) (sentAtMs : ℚ)
  | installed (n : Nat) (held : Held) (sentAtMs : ℚ)
  | flown (n : Nat) (outcome : Except Thrown SolverRegistrationResult)
  /-- `token` answers from the held token. -/
  | used (held : Held) (nowMs : ℚ)
  /-- `token` registers: none is held, or one is at this reading of the clock. -/
  | due (nowMs : Option ℚ)
  /-- `invalidate` forgets the token. -/
  | dropped (token : String)
  /-- `invalidate` finds another token, or none. -/
  | kept (token : String)
  | sent (token : String)

abbrev Code (α : Type) : Type := Async State Deed Ask Ask.Answer Thrown α

/-! ## Registering -/

/-- The clock is read. -/
def State.ticked (s : State) : State := { s with clock := fun k => s.clock (k + 1) }

/-- `this.now()`. -/
def now : Code ℚ := .act (fun s => (s.ticked, [])) fun s => .pure (s.clock 0)

/-- `readError`. -/
def readError (parseJson : Text → Option Value) (res : Response) : Code (String × Text) := do
  let text ← Async.await Ask.text
  let http := "http_" ++ toString res.status
  pure <|
    match parseJson text with
    | none | some .null | some .undefined => (http, text.take 200)
    | some body =>
      (match body.member "error" with | .str error => error | _ => http,
        match body.member "message" with | .str message => units message | _ => text.take 200)

def maxRetryAfterMs : ℚ := 300000

/-- `parseRetryAfter`. -/
def parseRetryAfter [Host] (header : Option String) (nowMs : ℚ) : Option ℚ :=
  header.bind fun text =>
    let value := trim text
    let ms : Option ℚ :=
      if isDecimal value then some (readDigits 10 value.toList * 1000)
      else (Host.dateParse value).map fun at_ => at_.ms - nowMs
    ms.map fun ms => min (max ms 0) maxRetryAfterMs

/-- The wait before the next attempt, where the venue names none. -/
def backoffMs (attempt : Nat) : ℚ := min (1000 * 2 ^ (attempt - 1)) 30000

/-- The number in a `z.number().int().nonnegative()`. -/
def nonnegativeInt : Value → Option Nat
  | .num n => n.toInteger.bind fun k => if 0 ≤ k ∧ k < 2 ^ 53 then some k.toNat else none
  | _ => none

def isText : Value → Bool
  | .str _ => true
  | _ => false

def isNumber : Value → Bool
  | .num n => n.isFinite
  | _ => false

def isBool : Value → Bool
  | .bool _ => true
  | _ => false

def isNull : Value → Bool
  | .null => true
  | _ => false

/-- `SolverReputationSchema`. -/
def isReputation (v : Value) : Bool :=
  match v with
  | .obj o =>
    isText (Obj.get o "solverId") && isNumber (Obj.get o "fillSuccessRate") &&
      isNumber (Obj.get o "noShowRate") &&
      (isNumber (Obj.get o "medianLatencyMs") || isNull (Obj.get o "medianLatencyMs")) &&
      isNumber (Obj.get o "volumeUsd") && isNumber (Obj.get o "bondUsd") &&
      isBool (Obj.get o "probation") && isBool (Obj.get o "eligible") &&
      isNumber (Obj.get o "exposureCapUsd") && isNumber (Obj.get o "inFlightUsd")
  | _ => false

/-- `SolverRegistrationResponseSchema`; `none` is a `ZodError`. -/
def registrationResponse (raw : Value) : Option SolverRegistrationResponse :=
  match raw.member "solverId", raw.member "sessionToken",
    nonnegativeInt (raw.member "expiresAtMs") with
  | .str solverId, .str sessionToken, some expiresAtMs =>
    let reputation := raw.member "reputation"
    if isHexOfLength 40 solverId && sessionToken != "" && isReputation reputation then
      some ⟨solverId, sessionToken, expiresAtMs, reputation⟩
    else none
  | _, _, _ => none

section

variable [Host] (opts : SolverSessionOptions)

/-- `advertisedBond`. -/
def advertisedBond : Code SolverBondRef := do
  let res ← Async.await Ask.capabilities
  if !res.ok then do
    let text ← Async.await Ask.text
    .throw (.error (units ("solver capabilities " ++ toString res.status ++ ": ") ++ text))
  else do
    let raw ← Async.await Ask.json
    match opts.capabilitiesBond raw with
    | none => .throw .schema
    | some none =>
      .throw (.refused "solver_registration_not_enabled" none (units
        ("the venue advertises no SolverBond (admission.bond on GET /solver/capabilities), " ++
          "so it admits no self-registered solver")))
    | some (some bond) => pure bond

/-- The bond a registration names. -/
def bondOf : Code SolverBondRef :=
  match opts.bond with
  | some bond => pure bond
  | none => advertisedBond opts

/-- The token as `accept` holds it. -/
def heldOf (parsed : SolverRegistrationResponse) (sentAtMs : ℚ) : Held :=
  let lifetime := max 0 (parsed.expiresAtMs - sentAtMs)
  { result := ⟨opts.solverId, parsed.sessionToken, parsed.expiresAtMs, parsed.reputation⟩
    renewAtMs := parsed.expiresAtMs - min opts.renewBefore (lifetime / 2) }

/-- `accept`. -/
def accept (n : Nat) (raw : Value) (sentAtMs : ℚ) : Code SolverRegistrationResult :=
  match registrationResponse raw with
  | none => .throw .schema
  | some parsed =>
    if Host.toLowerCase parsed.solverId ≠ Host.toLowerCase opts.solverId then
      .throw (.error (units ("solver register answered a session for " ++ parsed.solverId ++
        ", not " ++ opts.solverId)))
    else do
      let held := heldOf opts parsed sentAtMs
      Async.doing (fun s => { s with current := some held }) [.installed n held sentAtMs]
      pure held.result

/-- One attempt of a registration; `again` is what follows a wait, where an attempt is left. -/
def attemptOnce (n attempt : Nat) (again : Option (Code SolverRegistrationResult)) :
    Code SolverRegistrationResult := do
  let bond ← bondOf opts
  let issuedAtMs ← now
  Async.doing id [.signing n attempt issuedAtMs]
  let signature ← Async.await (Ask.signRegistration bond issuedAtMs)
  let body : SolverRegistration :=
    ⟨opts.solverId, bond.chainId, bond.address, issuedAtMs, signature⟩
  let sentAtMs ← now
  Async.doing id [.posted n attempt body sentAtMs]
  let res ← Async.await (Ask.register n attempt body)
  if res.ok then do
    let raw ← Async.await Ask.json
    accept opts n raw sentAtMs
  else do
    let (code, detail) ← readError opts.parseJson res
    if res.status = 503 ∨ res.status = 429 then do
      let nowMs ← now
      let retryAfterMs := parseRetryAfter res.retryAfter nowMs
      match again with
      | none => .throw (.unavailable code res.status attempt retryAfterMs detail)
      | some next => do
        Async.await (Ask.sleep (retryAfterMs.getD (backoffMs attempt)))
        next
    else if 400 ≤ res.status ∧ res.status < 500 then
      .throw (.refused code (some res.status) detail)
    else
      .throw (.error (units ("solver register " ++ toString res.status ++ " " ++ code ++ ": ") ++
        detail))

/-- `registerOnce` from an attempt on, with so many left after it. -/
def attemptFrom (n : Nat) : Nat → Code SolverRegistrationResult
  | 0 => attemptOnce opts n opts.attempts none
  | left + 1 => attemptOnce opts n (opts.attempts - (left + 1)) (some (attemptFrom n left))

/-- `registerOnce`. -/
def registerOnce (n : Nat) : Code SolverRegistrationResult :=
  attemptFrom opts n (opts.attempts - 1)

def State.launched (s : State) : State :=
  { s with inFlight := some s.flights, flights := s.flights + 1 }

def State.landed (s : State) (n : Nat) (outcome : Except Thrown SolverRegistrationResult) : State :=
  { s with inFlight := none, outcomes := s.outcomes ++ [(n, outcome)] }

/-- `register`. -/
def register : Code SolverRegistrationResult := do
  let s ← Async.get
  match s.inFlight with
  | some n => do
    Async.doing id [.joined n]
    Async.await (Ask.flight n)
  | none => do
    let n := s.flights
    Async.doing State.launched [.registering n]
    let outcome ← (registerOnce opts n).attempt
    -- `finally`
    Async.await Ask.turn
    Async.doing (·.landed n outcome) [.flown n outcome]
    Async.await Ask.turn
    Async.ofExcept outcome

/-- `token`. -/
def token : Code String := do
  let s ← Async.get
  match s.current with
  | some held => do
    let nowMs ← now
    if nowMs < held.renewAtMs then do
      Async.doing id [.used held nowMs]
      pure held.result.sessionToken
    else do
      Async.doing id [.due (some nowMs)]
      let result ← register opts
      pure result.sessionToken
  | none => do
    Async.doing id [.due none]
    let result ← register opts
    pure result.sessionToken

/-- `invalidate`. -/
def invalidate (token : String) : Code Unit := do
  let s ← Async.get
  if s.current.map (·.result.sessionToken) = some token then
    Async.doing (fun s => { s with current := none }) [.dropped token]
  else Async.doing id [.kept token]

/-! ## Requests -/

/-- `send` of `authed`. -/
def send (token : String) : Code Response := do
  Async.doing id [.sent token]
  Async.await (Ask.send token)

/-- `authed`. -/
def authed : Code Response := do
  let first ← token opts
  let res ← send first
  if res.status ≠ 401 then pure res
  else do
    Async.await Ask.cancel
    invalidate first
    let again ← token opts
    send again

/-- A call of the session or of its transport. -/
inductive Call where
  | token
  | register
  | invalidate (token : String)
  | request

/-- The call's code, whatever it returns. -/
def Call.code : Call → Code Unit
  | .token => (Session.token opts).bind fun _ => .pure ()
  | .register => do
    Async.doing id [.asked]
    (Session.register opts).bind fun _ => .pure ()
  | .invalidate refused => Session.invalidate refused
  | .request => (authed opts).bind fun _ => .pure ()

end

abbrev SessionEntry : Type := Entry Deed Ask Ask.Answer Thrown

abbrev Trace : Type := List SessionEntry

abbrev SessionScene : Type := Scene Unit State Deed Ask Ask.Answer Thrown

/-- A shared promise answers what its registration came to; a microtask comes. -/
def ready (_ : Unit) (s : State) : (q : Ask) → Except Thrown q.Answer → Prop
  | .flight n, a => (n, a) ∈ s.outcomes
  | .turn, a => a = .ok ()
  | _, _ => True

/-- A session that has done nothing. -/
def fresh (_ : Unit) (s : State) : Prop :=
  s.current = none ∧ s.inFlight = none ∧ s.flights = 0 ∧ s.outcomes = []

/-- Every interleaving of any calls, on any answers. -/
def SessionRun [Host] (opts : SolverSessionOptions) (sc : SessionScene)
    (threads : List (Code Unit)) : Prop :=
  Pool (Call.code opts) ready (fun _ _ _ _ => False) fresh sc threads

end XochiSdk.Solver.Session
