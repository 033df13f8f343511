import XochiSdk.Sdk.Diffusion

/-!
# Execution plans

`execution-orchestrator.ts`: split planning, venue assignment and diffusion composed into one plan.
-/

namespace XochiSdk.Sdk

open XochiSdk.Js

structure ExecutionConfig where
  splitConfig : SplitConfig
  maxGasBudget : Int
  maxSlippagePerSubTrade : Double
  diffusionWindow : Double
  venuePreference : List VenueId

/-- `Partial<ExecutionConfig>`. -/
structure ExecutionOptions where
  splitConfig : SplitOptions := {}
  maxGasBudget : Option Int := none
  maxSlippagePerSubTrade : Option Double := none
  diffusionWindow : Option Double := none
  venuePreference : Option (List VenueId) := none

structure ExecutionPlan where
  tradeId : String
  subTrades : List ScheduledSubTrade
  totalAmount : Int
  config : ExecutionConfig

def defaultExecutionConfig : ExecutionConfig where
  splitConfig := defaultSplitConfig
  maxGasBudget := 0
  maxSlippagePerSubTrade := (50 : Nat)
  diffusionWindow := (0 : Nat)
  venuePreference := [.public]

/-- `{ ...DEFAULT_EXECUTION_CONFIG, ...config, splitConfig: { ... } }`. -/
def ExecutionOptions.resolve (config : ExecutionOptions) : ExecutionConfig where
  splitConfig := config.splitConfig.resolve
  maxGasBudget := config.maxGasBudget.getD defaultExecutionConfig.maxGasBudget
  maxSlippagePerSubTrade :=
    config.maxSlippagePerSubTrade.getD defaultExecutionConfig.maxSlippagePerSubTrade
  diffusionWindow := config.diffusionWindow.getD defaultExecutionConfig.diffusionWindow
  venuePreference := config.venuePreference.getD defaultExecutionConfig.venuePreference

variable [Host]

def validateExecutionConfig (config : ExecutionConfig) : Except String Unit :=
  if config.maxGasBudget < 0 then
    .error s!"maxGasBudget must be >= 0, got {config.maxGasBudget}"
  else if config.maxSlippagePerSubTrade.lt (1 : Nat) ||
      Double.lt (10000 : Nat) config.maxSlippagePerSubTrade then
    .error ("maxSlippagePerSubTrade must be in [1, 10000] bps, got " ++
      config.maxSlippagePerSubTrade.text)
  else if config.diffusionWindow.lt (0 : Nat) then
    .error s!"diffusionWindow must be >= 0, got {config.diffusionWindow.text}"
  else if config.venuePreference.length = 0 then .error "venuePreference must not be empty"
  else .ok ()

/-- One run's randomness: the trade's nonce and the draws of the scheduler. -/
structure PlanDraws where
  nonce : List UInt8
  random : Nat → UInt32

def planExecution (coder : TradeIdCoder) (totalAmount : Int) (jurisdictionId : Nat)
    (submitter : String) (constraints : VenueConstraints) (config : ExecutionOptions)
    (draws : PlanDraws) : Except String ExecutionPlan := do
  let resolved := config.resolve
  validateExecutionConfig resolved
  let splitPlan ← planSplit coder totalAmount jurisdictionId submitter
    resolved.splitConfig.options draws.nonce
  let venueAssignments ← assignVenues splitPlan.subTrades resolved.venuePreference constraints
    resolved.maxGasBudget
  let venues := venueAssignments.map (·.venue)
  let scheduled ← scheduleDiffusion splitPlan.subTrades venues resolved.diffusionWindow
    draws.random
  return ⟨splitPlan.tradeId, scheduled, splitPlan.totalAmount, resolved⟩

end XochiSdk.Sdk
