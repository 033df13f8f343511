import XochiSdk.Js.Double
import Mathlib.Data.List.Defs

/-!
# Splitting a trade

`split.ts`: the amounts of a trade's sub-trades, split evenly with the remainder on the last one.
The trade id is a hash of the packed arguments; the packing and the hash are the library's.
-/

namespace XochiSdk.Sdk

structure SplitConfig where
  splitThreshold : Int
  maxSubTrades : Int
  minSubTradeSize : Int
  deriving DecidableEq, Repr

/-- `Partial<SplitConfig>`. -/
structure SplitOptions where
  splitThreshold : Option Int := none
  maxSubTrades : Option Int := none
  minSubTradeSize : Option Int := none

structure SubTrade where
  index : Int
  amount : Int
  deriving DecidableEq, Repr

structure SplitPlan where
  tradeId : String
  subTrades : List SubTrade
  totalAmount : Int
  splitConfig : SplitConfig
  deriving DecidableEq, Repr

/-- 10 ETH. -/
def minSplitThreshold : Int := 10 * 10 ^ 18

def defaultSplitConfig : SplitConfig where
  splitThreshold := 100 * 10 ^ 18
  maxSubTrades := 10
  minSubTradeSize := 1 * 10 ^ 18

/-- `{ ...DEFAULT_SPLIT_CONFIG, ...config }`. -/
def SplitOptions.resolve (config : SplitOptions) : SplitConfig where
  splitThreshold := config.splitThreshold.getD defaultSplitConfig.splitThreshold
  maxSubTrades := config.maxSubTrades.getD defaultSplitConfig.maxSubTrades
  minSubTradeSize := config.minSubTradeSize.getD defaultSplitConfig.minSubTradeSize

/-- The whole of a configuration as options: what `planExecution` hands on. -/
def SplitConfig.options (config : SplitConfig) : SplitOptions :=
  ⟨some config.splitThreshold, some config.maxSubTrades, some config.minSubTradeSize⟩

def validateConfig (config : SplitConfig) : Except String Unit :=
  if config.splitThreshold < minSplitThreshold then
    .error s!"splitThreshold must be >= 10 ETH ({minSplitThreshold}), got {config.splitThreshold}"
  else if config.maxSubTrades < 2 ∨ config.maxSubTrades > 100 then
    .error s!"maxSubTrades must be in [2, 100], got {config.maxSubTrades}"
  else if config.minSubTradeSize ≤ 0 then
    .error s!"minSubTradeSize must be > 0, got {config.minSubTradeSize}"
  else .ok ()

/-- viem's `keccak256(encodePacked(...))` of a trade's total, jurisdiction, nonce and submitter:
the packing refuses an argument outside its Solidity type. -/
structure TradeIdCoder where
  tradeId : Int → Nat → List UInt8 → String → Except String String
  /-- A `uint256` does not hold more than 256 bits. -/
  wide : ∀ {total jurisdiction nonce submitter}, 2 ^ 256 ≤ total →
    ∃ message, tradeId total jurisdiction nonce submitter = .error message
  /-- Whether the other arguments pack does not depend on the total. -/
  narrow : ∀ {total other jurisdiction nonce submitter id}, 0 ≤ total → total < 2 ^ 256 →
    tradeId other jurisdiction nonce submitter = .ok id →
    ∃ id, tradeId total jurisdiction nonce submitter = .ok id

/-- The sub-trades of a total cut in `n`: `n - 1` of the base amount, the last with the rest. -/
def cut (totalAmount : Int) (n : Nat) (baseAmount : Int) : List SubTrade :=
  (List.range (n - 1)).map (fun i => ⟨i, baseAmount⟩) ++
    [⟨(n - 1 : Nat), totalAmount - baseAmount * (n - 1 : Nat)⟩]

/-- The loop that lowers `n` while the base amount is below the minimum; at 1 there is no split. -/
def reduceSplit (totalAmount minSubTradeSize : Int) : Nat → List SubTrade
  | n + 2 =>
    let baseAmount := totalAmount / (n + 2 : Nat)
    if baseAmount ≥ minSubTradeSize then cut totalAmount (n + 2) baseAmount
    else reduceSplit totalAmount minSubTradeSize (n + 1)
  | _ => [⟨0, totalAmount⟩]

/-- The first `n`, clamped to `[2, maxSubTrades]`. The quotient is converted to a number, which
rounds it past `2^53`: it is then above every cap all the same. -/
def initialCount (totalAmount : Int) (config : SplitConfig) : Int :=
  let n := (totalAmount + config.splitThreshold - 1) / config.splitThreshold
  let n := if n < 2 then 2 else n
  if n > config.maxSubTrades then config.maxSubTrades else n

variable (coder : TradeIdCoder)

def planSplit (totalAmount : Int) (jurisdictionId : Nat) (submitter : String)
    (config : SplitOptions) (nonce : List UInt8) : Except String SplitPlan := do
  let resolved := config.resolve
  validateConfig resolved
  if totalAmount ≤ 0 then throw s!"totalAmount must be > 0, got {totalAmount}"
  let tradeId ← coder.tradeId totalAmount jurisdictionId nonce submitter
  let subTrades :=
    if totalAmount ≤ resolved.splitThreshold then [⟨0, totalAmount⟩]
    else reduceSplit totalAmount resolved.minSubTradeSize (initialCount totalAmount resolved).toNat
  return ⟨tradeId, subTrades, totalAmount, resolved⟩

end XochiSdk.Sdk
