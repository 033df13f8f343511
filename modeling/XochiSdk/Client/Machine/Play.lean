import XochiSdk.Library.Numerals
import XochiSdk.Client.Machine.Rest

/-!
# Playing a run

Runs as a computation, so that a run on concrete messages can be evaluated, and a host to
evaluate it with.
-/

namespace XochiSdk.Client

open XochiSdk.Js XochiSdk.Shared XochiSdk.Signer XochiSdk.Library Emits

section

variable [Host]

/-- The effects and the model an input is answered with. -/
def answer (m : Model) (i : Input) : List Effect × Model :=
  match update i.1 m i.2 with
  | .ok out => (out.log, out.value)
  | .error _ => ([], m)

theorem next_answer (m : Model) (i : Input) : Next m i (answer m i).1 (answer m i).2 := by
  unfold Next answer
  cases update i.1 m i.2 with
  | ok out => exact ⟨rfl, rfl⟩
  | error e => exact ⟨rfl, rfl⟩

/-- The log and the model after the inputs, in order. -/
def play : List Input → Log × Model → Log × Model
  | [], run => run
  | i :: rest, run =>
    let answered := answer run.2 i
    play rest (run.1 ++ .handled run.2 i :: answered.1.map .emitted, answered.2)

theorem play_run (inputs : List Input) {run : Log × Model} (before : MachineRun run.1 run.2) :
    MachineRun (play inputs run).1 (play inputs run).2 := by
  induction inputs generalizing run with
  | nil => exact before
  | cons i rest ih => exact ih (before.step (next_answer run.2 i))

/-- The model after the inputs, from the initial one. -/
def played (config : MachineConfig) (ctx : Context) (inputs : List Input) : Model :=
  (play inputs ([], init config ctx false)).2

theorem played_reachable (config : MachineConfig) (ctx : Context) (inputs : List Input) :
    Reachable (played config ctx inputs) :=
  ⟨_, play_run inputs (.init ⟨config, ctx, false, rfl⟩)⟩

end

/-! ## A plain host -/

/-- A host whose texts are ASCII and whose one date is the sample quote's expiry. -/
@[reducible] def plainHost : Host where
  toLowerCase s := String.ofList (s.toList.map Char.toLower)
  toUpperCase s := String.ofList (s.toList.map Char.toUpper)
  dateParse s :=
    if s = "2030-01-01T00:00:00.000Z" then some ⟨1893456000000, by decide⟩ else none
  numberText := plainNumber
  numberText_injective := plainNumber_injective
  numberText_plain := plainNumber_plain
  bigIntError raw := "Cannot convert " ++ raw ++ " to a BigInt"
  sha256 bytes := bytes
  verifyMessage _ _ := .error "invalid signature"

/-- The first of January 2025, for every reading of the wall clock. -/
def sampleWall : WallClock where
  intentCheck := ⟨1735689600000, by decide⟩
  pullCheck := ⟨1735689600000, by decide⟩
  depositCheck := ⟨1735689600000, by decide⟩

def sampleNow : Int := 1735689600000

/-- A form not filled in yet, and no wallet. -/
def blankContext : Context where
  fromChainId := 1
  toChainId := 1
  fromToken := ""
  toToken := ""
  settlementPreference := .public
  trustScore := 0
  slippageBps := 0
  recipientAddress := none
  refundAddress := none
  stealthMetaAddress := none
  ref := none
  promo := none
  paused := false
  wallet := { address := none, chainId := none, stepwise := false }

def sampleConfig : MachineConfig where
  solverPin := { erc3009Allowlist := [], permit2Allowlist := [], requirePin := false }
  pullRecipients := none
  depositAttestationSigner := none

/-- A message at the sample's time. -/
def said (body : MsgBody) : Input := (sampleWall, { body := body, now := sampleNow, hidden := false })

/-- An order of an earlier session, taken up again. -/
def resumed (status : IntentStatus) (substatus : Option String) : Input :=
  said (.resumeRequested "i" status "o" none substatus)

/-- A bare frame of the status stream, for that order. -/
def frame (status : IntentStatus) (substatus : Option String) : StatusMessage where
  intentId := "i"
  status := status
  txHash := none
  receivingTxHash := none
  settlementTxHash := none
  settlementChainId := none
  reconciling := none
  substatus := substatus
  error := none
  refundReason := none

end XochiSdk.Client
