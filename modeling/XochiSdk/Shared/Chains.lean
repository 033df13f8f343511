import XochiSdk.Js.Host

/-!
# Chains and stealth factories

`packages/client/src/shared/chains.ts` and `stealth.ts`. A chain id is its number: the
`ChainId` union is what `isChainId` accepts.
-/

namespace XochiSdk.Shared

open XochiSdk.Js

/-- `CHAIN_REGISTRY`, in declaration order: id and display name. -/
def chainRegistry : List (Int × String) :=
  [(1, "Ethereum"), (10, "Optimism"), (137, "Polygon"), (42161, "Arbitrum"), (8453, "Base"),
    (4663, "Robinhood"), (5042, "Arc"), (100, "Gnosis")]

def tronChainId : Int := 728126428

def supportedChainIds : List Int := chainRegistry.map Prod.fst

def isChainId (id : Int) : Bool := supportedChainIds.contains id

def isTronChainId (id : Int) : Bool := id == tronChainId

/-- `EXTENDED_CHAIN_NAMES[id]`, as a template literal prints it. -/
def extendedChainName (id : Int) : String :=
  ((chainRegistry ++ [(0, "Xochi"), (tronChainId, "Tron")]).lookup id).getD "undefined"

def simpleAccountFactory : String := "0x13E9ed32155810FDbd067D4522C492D6f68E5944"

def stealthAccountSalt : Int := 0

/-- `TRUSTED_STEALTH_FACTORIES[chainId]`. -/
def trustedStealthFactories (chainId : Int) : Option (List String) :=
  [(1, [simpleAccountFactory]), (8453, [simpleAccountFactory])].lookup chainId

/-- Whether a factory may be used to derive a stealth payout on this chain. -/
def isTrustedStealthFactory [Host] (address : Option String) (chainId : Option Int) : Bool :=
  match address, chainId with
  | some address, some chainId =>
    if address == "" then false
    else
      match trustedStealthFactories chainId with
      | none => false
      | some allowed =>
        allowed.any fun f => Host.toLowerCase f == Host.toLowerCase address
  | _, _ => false

end XochiSdk.Shared
