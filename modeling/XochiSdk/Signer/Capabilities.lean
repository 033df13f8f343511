import XochiSdk.Js.Double
import XochiSdk.Js.Value
import XochiSdk.Signer.AttestationText
import XochiSdk.Signer.Primitives

/-!
# The solver's capability matrix

`packages/signer/src/capabilities.ts`: the tolerant parser of a served `/xochi/capabilities`
body and the accessors that look a chain or a token up in it. A row that is added to a body can
make a lookup ambiguous, never point it elsewhere.
-/

namespace XochiSdk.Signer.Capabilities

open XochiSdk.Js

inductive VmType where
  | evm
  | tvm
  | svm
  | cvm
  deriving DecidableEq

inductive AddressFormat where
  | hex20
  | base58check
  | base58
  | canton_party
  deriving DecidableEq

inductive PullMethod where
  | erc3009
  | permit2
  | deposit_address
  deriving DecidableEq

/-- `ChainCapability`; both `vmType` and `addressFormat` are `null` for a VM not recognised. -/
structure ChainCapability where
  chainId : Nat
  chainName : String
  vmType : Option VmType
  addressFormat : Option AddressFormat
  unrecognisedVmType : Option String
  minStealthNotionalUsd : Option ℚ
  stealthFactoryAddress : Option String

structure TokenChainPull where
  method : PullMethod
  gaslessOrigin : Bool

structure TokenCapability where
  symbol : String
  decimals : Option ℚ
  pullMethod : Option PullMethod
  gaslessOrigin : Bool
  roles : List String
  addresses : List (Nat × String)
  pullMethods : List (Nat × TokenChainPull)

structure ConversionPair where
  /-- `from` and `to`. -/
  source : String
  target : String
  sameChain : Bool

structure PullRecipients where
  erc3009 : Option String
  permit2 : Option String

structure SolverCapabilities where
  crossChainOnly : Bool
  specVersion : Option String
  /-- `orderBoundsUsd.min` and `.max`. -/
  orderMinUsd : Option ℚ
  orderMaxUsd : Option ℚ
  depositAttestationSigner : Option String
  depositAttestationVersion : Option String
  depositAttestationVectorsUrl : Option String
  depositAttestationVectorsSha256 : Option String
  pullRecipients : List (Nat × PullRecipients)
  pullDeadlineBufferSeconds : Option Int
  stealthChains : Option (List Nat)
  executeOwnership : Bool
  chains : List ChainCapability
  tokens : List TokenCapability
  corridors : List Obj
  conversionPairs : List Obj
  raw : Obj

/-- The address encoding a VM family uses. -/
def addressFormatForVm : VmType → AddressFormat
  | .tvm => .base58check
  | .svm => .base58
  | .cvm => .canton_party
  | .evm => .hex20

/-! ## Readers of one member -/

/-- `value !== null && typeof value === "object" && !Array.isArray(value)`. -/
def asRecord : Value → Option Obj
  | .obj fields => some fields
  | _ => none

/-- A text that is not empty. -/
def asString : Value → Option String
  | .str s => if s = "" then none else some s
  | _ => none

/-- The digits, point and exponent of an unsigned decimal literal, exactly. -/
def readDecimalLiteral (cs : List Char) : Option ℚ :=
  let whole := cs.takeWhile isDigit
  let rest := cs.dropWhile isDigit
  let (fraction, rest) := match rest with
    | '.' :: rest => (rest.takeWhile isDigit, rest.dropWhile isDigit)
    | rest => ([], rest)
  if whole.isEmpty && fraction.isEmpty then none
  else
    let mantissa : ℚ := readDigits 10 (whole ++ fraction)
    let scaled (e : Int) : ℚ := mantissa * (10 : ℚ) ^ (e - fraction.length)
    match rest with
    | [] => some (scaled 0)
    | e :: rest =>
      if e == 'e' || e == 'E' then
        let (negative, digits) := match rest with
          | '-' :: digits => (true, digits)
          | '+' :: digits => (false, digits)
          | digits => (false, digits)
        if digits.isEmpty || !digits.all isDigit then none
        else
          let n : Int := readDigits 10 digits
          some (scaled (if negative then -n else n))
      else none

/-- `Number(text)`, where it is finite. -/
def numberOfText (text : String) : Option ℚ :=
  let cs := trimChars text.toList
  let exact := match readIntegerLiteral cs with
    | some n => some (n : ℚ)
    | none =>
      match cs with
      | '-' :: rest => (readDecimalLiteral rest).map (- ·)
      | '+' :: rest => readDecimalLiteral rest
      | cs => readDecimalLiteral cs
  exact.bind fun q => match Double.ofRat q with
    | .finite q => some q
    | _ => none

/-- A finite number, from a number or from a text of one. -/
def asNumber : Value → Option ℚ
  | .num n => n.value
  | .str s => if trim s = "" then none else numberOfText s
  | _ => none

def asNonNegativeInteger (value : Value) : Option Int :=
  (asNumber value).bind fun q => if q.den = 1 ∧ 0 ≤ q.num then some q.num else none

/-- `/^(0|[1-9]\d*)$/`. -/
def isCanonicalDecimal (s : String) : Bool :=
  match s.toList with
  | [] => false
  | ['0'] => true
  | c :: rest => c != '0' && isDigit c && rest.all isDigit

/-- A chain id, from a value or an object key: canonical decimal only. -/
def asChainIdValue : Value → Option Nat
  | .num n => n.toInteger.bind fun n => if n > 0 then some n.toNat else none
  | .str s =>
    if isCanonicalDecimal s then
      (roundToDouble (readDigits 10 s.toList)).bind fun n => if n > 0 then some n else none
    else none
  | _ => none

/-- Assigns into a chain-keyed map, refusing a duplicate. -/
def setChainKey {α : Type} (out : List (Nat × α)) (chainId : Nat) (value : α) : List (Nat × α) :=
  if (out.lookup chainId).isSome then out else out ++ [(chainId, value)]

/-- Absent means EVM; `null` is a VM this parser does not know. -/
def asVmType (value : Value) : Option VmType :=
  if value.isNullish then some .evm
  else match asString value with
    | some "evm" => some .evm
    | some "tvm" => some .tvm
    | some "svm" => some .svm
    | some "cvm" => some .cvm
    | _ => none

def asAddressFormat (value : Value) : Option AddressFormat :=
  match asString value with
  | some "hex20" => some .hex20
  | some "base58check" => some .base58check
  | some "base58" => some .base58
  | some "canton_party" => some .canton_party
  | _ => none

/-- An EVM address by shape. -/
def asEvmAddress (value : Value) : Option String :=
  (asString value).filter isEvmAddress

def asPullMethod (value : Value) : Option PullMethod :=
  match asString value with
  | some "erc3009" => some .erc3009
  | some "permit2" => some .permit2
  | some "deposit_address" => some .deposit_address
  | _ => none

/-- `value === true`. -/
def isTrue : Value → Bool
  | .bool b => b
  | _ => false

/-- `Array.isArray(value) ? value : []`. -/
def asRows : Value → List Value
  | .arr xs => xs
  | _ => []

/-! ## Rows -/

def parseChain (raw : Value) : Option ChainCapability := do
  let r ← asRecord raw
  let chainId ← asChainIdValue (Obj.get r "chain_id")
  let chainName := (asString (Obj.get r "chain_name")).getD (toString chainId)
  let minStealthNotionalUsd := asNumber (Obj.get r "min_stealth_notional_usd")
  let stealthFactoryAddress := asEvmAddress (Obj.get r "stealth_factory_address")
  match asVmType (Obj.get r "vm_type") with
  | none =>
    -- Kept, not dropped: it counts as a duplicate of its chain id.
    pure
      { chainId, chainName, vmType := none, addressFormat := none
        unrecognisedVmType := match Obj.get r "vm_type" with
          | .str served => some served
          | served => jsonText served
        minStealthNotionalUsd, stealthFactoryAddress }
  | some vmType =>
    pure
      { chainId, chainName, vmType := some vmType
        addressFormat := some
          ((asAddressFormat (Obj.get r "address_format")).getD (addressFormatForVm vmType))
        unrecognisedVmType := none
        minStealthNotionalUsd, stealthFactoryAddress }

/-- The entries of a chain-keyed record that `entry` reads. -/
def parseChainKeyed {α : Type} (entry : Value → Option α) (raw : Value) : List (Nat × α) :=
  match asRecord raw with
  | none => []
  | some r => r.foldl (fun out member =>
      match asChainIdValue (.str member.1), entry member.2 with
      | some chainId, some value => setChainKey out chainId value
      | _, _ => out) []

def parseAddresses (raw : Value) : List (Nat × String) := parseChainKeyed asString raw

def parseTokenPullMethods (raw : Value) : List (Nat × TokenChainPull) :=
  parseChainKeyed (fun value => do
    let entry ← asRecord value
    let method ← asPullMethod (Obj.get entry "method")
    pure { method, gaslessOrigin := isTrue (Obj.get entry "gasless_origin") }) raw

def parseToken (raw : Value) : Option TokenCapability := do
  let r ← asRecord raw
  let symbol ← asString (Obj.get r "symbol")
  pure
    { symbol
      decimals := asNumber (Obj.get r "decimals")
      pullMethod := asPullMethod (Obj.get r "pull_method")
      gaslessOrigin := isTrue (Obj.get r "gasless_origin")
      roles := (asRows (Obj.get r "roles")).filterMap fun
        | .str s => some s
        | _ => none
      addresses := parseAddresses (Obj.get r "addresses")
      pullMethods := parseTokenPullMethods (Obj.get r "pull_methods") }

def parsePullRecipients (raw : Value) : List (Nat × PullRecipients) :=
  parseChainKeyed (fun value => (asRecord value).map fun entry =>
    { erc3009 := asEvmAddress (Obj.get entry "erc3009")
      permit2 := asEvmAddress (Obj.get entry "permit2") }) raw

/-- `stealth_chains`, or `null` when absent or not a list. -/
def parseStealthChains : Value → Option (List Nat)
  | .arr xs => some (xs.foldl (fun out value =>
      match asChainIdValue value with
      | some chainId => if out.contains chainId then out else out ++ [chainId]
      | none => out) [])
  | _ => none

def parseObjectList (raw : Value) : List Obj := (asRows raw).filterMap asRecord

/-- `parseCapabilities`, of a body that is an object. -/
def parseBody (r : Obj) : SolverCapabilities :=
  let bounds := (asRecord (Obj.get r "order_bounds_usd")).getD []
  { crossChainOnly := match Obj.get r "cross_chain_only" with
      | .bool b => b
      | _ => true
    specVersion := asString (Obj.get r "spec_version")
    orderMinUsd := (asNumber (Obj.get bounds "min")).filter fun q => decide (0 ≤ q)
    orderMaxUsd := (asNumber (Obj.get bounds "max")).filter fun q => decide (0 < q)
    depositAttestationSigner := asEvmAddress (Obj.get r "deposit_attestation_signer")
    depositAttestationVersion := asString (Obj.get r "deposit_attestation_version")
    depositAttestationVectorsUrl := asString (Obj.get r "deposit_attestation_vectors_url")
    depositAttestationVectorsSha256 := asString (Obj.get r "deposit_attestation_vectors_sha256")
    pullRecipients := parsePullRecipients (Obj.get r "pull_recipients")
    pullDeadlineBufferSeconds := asNonNegativeInteger (Obj.get r "pull_deadline_buffer_seconds")
    stealthChains := parseStealthChains (Obj.get r "stealth_chains")
    executeOwnership := isTrue (Obj.get r "execute_ownership")
    chains := (asRows (Obj.get r "chains")).filterMap parseChain
    tokens := (asRows (Obj.get r "tokens")).filterMap parseToken
    corridors := parseObjectList (Obj.get r "corridors")
    conversionPairs := parseObjectList (Obj.get r "conversion_pairs")
    raw := r }

/-- `null` only when the payload is not an object. -/
def parseCapabilities (raw : Value) : Option SolverCapabilities := (asRecord raw).map parseBody

/-! ## Accessors -/

/-- `matches.length === 1 ? matches[0] : null`. -/
def only {α : Type} : List α → Option α
  | [x] => some x
  | _ => none

/-- The chain entry, or `null` when unadvertised or duplicated. -/
def chainCapability (caps : SolverCapabilities) (chainId : JsNumber) : Option ChainCapability :=
  only (caps.chains.filter fun c => decide (chainId.value = some (c.chainId : ℚ)))

/-- VM family for a chain. -/
def chainVmType (caps : SolverCapabilities) (chainId : JsNumber) : Option VmType :=
  (chainCapability caps chainId).bind (·.vmType)

/-- Address encoding for a chain. -/
def chainAddressFormat (caps : SolverCapabilities) (chainId : JsNumber) : Option AddressFormat :=
  (chainCapability caps chainId).bind (·.addressFormat)

/-- The entry of a chain-keyed map under a number, which is an integer. -/
def atChain {α : Type} (map : List (Nat × α)) (chainId : JsNumber) : Option α :=
  match chainId.toInteger with
  | some (.ofNat n) => map.lookup n
  | _ => none

section

variable [Host]

/-- The token entry for a symbol, or `null` when unadvertised or duplicated. -/
def tokenCapability (caps : SolverCapabilities) (symbol : String) : Option TokenCapability :=
  only (caps.tokens.filter fun t => Host.toLowerCase t.symbol == Host.toLowerCase symbol)

/-- The pull method for a token on a chain: the chain's own before the token's. -/
def originPullMethod (caps : SolverCapabilities) (symbol : String) (chainId : JsNumber) :
    Option PullMethod :=
  match tokenCapability caps symbol with
  | none => none
  | some token =>
    if chainId.toInteger.isNone then none
    else if (chainVmType caps chainId).isNone then none
    else ((atChain token.pullMethods chainId).map (·.method)) <|> token.pullMethod

/-- The token address the solver advertises for a symbol on a chain, verbatim. -/
def advertisedTokenAddress (caps : SolverCapabilities) (symbol : String) (chainId : JsNumber) :
    Option String :=
  match tokenCapability caps symbol with
  | none => none
  | some token =>
    if chainId.toInteger.isNone then none
    else if (chainVmType caps chainId).isNone then none
    else atChain token.addresses chainId

end

/-- The stealth notional floor for a chain. -/
def stealthNotionalFloor (caps : SolverCapabilities) (chainId : JsNumber) : Option ℚ :=
  (chainCapability caps chainId).bind (·.minStealthNotionalUsd)

/-- The factory the server says owns stealth accounts on a chain: a single EVM entry's, of a
chain listed in `stealth_chains`. -/
def stealthFactoryFor (caps : SolverCapabilities) (chainId : JsNumber) : Option String :=
  if (caps.stealthChains.getD []).any fun listed => decide (chainId.value = some (listed : ℚ)) then
    match chainCapability caps chainId with
    | some chain => if chain.vmType = some .evm then chain.stealthFactoryAddress else none
    | none => none
  else none

/-- The keys of a static table whose chains the venue serves. -/
def servedChainKeys (caps : SolverCapabilities) (chains : List (String × JsNumber)) : List String :=
  (chains.filter fun chain => (chainVmType caps chain.2).isSome).map (·.1)

/-! ## Added rows -/

/-- A body with rows added, anywhere and in any number, to its chains and its tokens. -/
structure Extended (doc doc' : Obj) : Prop where
  chains : (asRows (Obj.get doc "chains")).Sublist (asRows (Obj.get doc' "chains"))
  tokens : (asRows (Obj.get doc "tokens")).Sublist (asRows (Obj.get doc' "tokens"))
  others : ∀ key, key ≠ "chains" → key ≠ "tokens" → Obj.get doc' key = Obj.get doc key

/-- An answer that stays, or becomes ambiguous. -/
def Keeps {α : Type} (answer answer' : Option α) : Prop :=
  ∀ x, answer = some x → answer' = some x ∨ answer' = none

theorem keeps_only {α : Type} {xs ys : List α} (rows : xs.Sublist ys) :
    Keeps (only xs) (only ys) := by
  intro x found
  match xs, found with
  | [x], rfl =>
    match ys, rows with
    | [], rows => cases rows
    | [y], rows =>
      have : x = y := by simpa using rows
      exact .inl (by rw [this]; rfl)
    | _ :: _ :: _, _ => exact .inr rfl

theorem Keeps.bind {α β : Type} {answer answer' : Option α} (keeps : Keeps answer answer')
    (f : α → Option β) : Keeps (answer.bind f) (answer'.bind f) := by
  intro y found
  obtain ⟨x, here, value⟩ := Option.bind_eq_some_iff.mp found
  rcases keeps x here with same | gone
  · exact .inl (by rw [same]; exact value)
  · exact .inr (by rw [gone]; rfl)

section

variable {doc doc' : Obj}

theorem Extended.others_same (ext : Extended doc doc') :
    parseBody doc' = { parseBody doc with
      chains := (parseBody doc').chains
      tokens := (parseBody doc').tokens
      raw := doc' } := by
  simp only [parseBody, ext.others, ne_eq, String.reduceEq, not_false_eq_true]

theorem chainCapability_keeps (ext : Extended doc doc') (chainId : JsNumber) :
    Keeps (chainCapability (parseBody doc) chainId) (chainCapability (parseBody doc') chainId) :=
  keeps_only ((ext.chains.filterMap parseChain).filter _)

theorem tokenCapability_keeps [Host] (ext : Extended doc doc') (symbol : String) :
    Keeps (tokenCapability (parseBody doc) symbol) (tokenCapability (parseBody doc') symbol) :=
  keeps_only ((ext.tokens.filterMap parseToken).filter _)

theorem chainVmType_keeps (ext : Extended doc doc') (chainId : JsNumber) :
    Keeps (chainVmType (parseBody doc) chainId) (chainVmType (parseBody doc') chainId) :=
  (chainCapability_keeps ext chainId).bind _

/-- What is read of a token, on a chain this client can address. -/
theorem addressable_keeps [Host] {α : Type} (ext : Extended doc doc') (symbol : String)
    (chainId : JsNumber) (read : TokenCapability → Option α) :
    Keeps (match tokenCapability (parseBody doc) symbol with
      | none => none
      | some token =>
        if chainId.toInteger.isNone then none
        else if (chainVmType (parseBody doc) chainId).isNone then none
        else read token)
      (match tokenCapability (parseBody doc') symbol with
      | none => none
      | some token =>
        if chainId.toInteger.isNone then none
        else if (chainVmType (parseBody doc') chainId).isNone then none
        else read token) := by
  intro x found
  cases token : tokenCapability (parseBody doc) symbol with
  | none =>
    rw [token] at found
    cases found
  | some t =>
    rw [token] at found
    dsimp only at found
    split at found
    · cases found
    next integer =>
    cases vm : chainVmType (parseBody doc) chainId with
    | none =>
      rw [vm] at found
      cases found
    | some v =>
      rw [vm] at found
      rcases tokenCapability_keeps ext symbol t token with same | gone
      · rw [same]
        rcases chainVmType_keeps ext chainId v vm with known | lost
        · refine .inl ?_
          dsimp only
          rw [if_neg integer, known]
          exact found
        · refine .inr ?_
          dsimp only
          rw [if_neg integer, lost]
          rfl
      · refine .inr ?_
        rw [gone]

/-- Added rows never point a lookup elsewhere: what it answered stays, or is ambiguous; and what
is not looked up by row is as it was. -/
theorem rows_never_shadow [Host] {doc doc' : Obj} (ext : Extended doc doc') :
    ∃ caps caps', parseCapabilities (.obj doc) = some caps ∧
      parseCapabilities (.obj doc') = some caps' ∧
      (∀ chainId, Keeps (chainCapability caps chainId) (chainCapability caps' chainId)) ∧
      (∀ chainId, Keeps (chainVmType caps chainId) (chainVmType caps' chainId)) ∧
      (∀ chainId, Keeps (chainAddressFormat caps chainId) (chainAddressFormat caps' chainId)) ∧
      (∀ chainId, Keeps (stealthNotionalFloor caps chainId) (stealthNotionalFloor caps' chainId)) ∧
      (∀ chainId, Keeps (stealthFactoryFor caps chainId) (stealthFactoryFor caps' chainId)) ∧
      (∀ symbol, Keeps (tokenCapability caps symbol) (tokenCapability caps' symbol)) ∧
      (∀ symbol chainId,
        Keeps (originPullMethod caps symbol chainId) (originPullMethod caps' symbol chainId)) ∧
      (∀ symbol chainId, Keeps (advertisedTokenAddress caps symbol chainId)
        (advertisedTokenAddress caps' symbol chainId)) ∧
      (∀ chains key, key ∈ servedChainKeys caps chains → key ∈ servedChainKeys caps' chains ∨
        ∃ chainId, (key, chainId) ∈ chains ∧ chainCapability caps' chainId = none) ∧
      caps' = { caps with chains := caps'.chains, tokens := caps'.tokens, raw := doc' } := by
  refine ⟨parseBody doc, parseBody doc', rfl, rfl, chainCapability_keeps ext,
    chainVmType_keeps ext, fun chainId => (chainCapability_keeps ext chainId).bind _,
    fun chainId => (chainCapability_keeps ext chainId).bind _, ?_, tokenCapability_keeps ext,
    fun symbol chainId => addressable_keeps ext symbol chainId _,
    fun symbol chainId => addressable_keeps ext symbol chainId _, ?_, ext.others_same⟩
  · intro chainId x found
    have listed : (parseBody doc').stealthChains = (parseBody doc).stealthChains := by
      rw [ext.others_same]
    unfold stealthFactoryFor at found ⊢
    rw [listed]
    split at found
    · next served =>
      rw [if_pos served]
      cases chain : chainCapability (parseBody doc) chainId with
      | none =>
        rw [chain] at found
        cases found
      | some c =>
        rw [chain] at found
        rcases chainCapability_keeps ext chainId c chain with same | gone
        · exact .inl (by rw [same]; exact found)
        · exact .inr (by rw [gone])
    · cases found
  · intro chains key mem
    obtain ⟨⟨key, chainId⟩, served, rfl⟩ := List.mem_map.mp mem
    obtain ⟨listed, known⟩ := List.mem_filter.mp served
    obtain ⟨vm, here⟩ := Option.isSome_iff_exists.mp known
    obtain ⟨chain, found, vmType⟩ := Option.bind_eq_some_iff.mp here
    rcases chainCapability_keeps ext chainId chain found with same | gone
    · refine .inl (List.mem_map.mpr ⟨(key, chainId), List.mem_filter.mpr ⟨listed, ?_⟩, rfl⟩)
      unfold chainVmType
      rw [same]
      exact Option.isSome_iff_exists.mpr ⟨vm, vmType⟩
    · exact .inr ⟨chainId, listed, gone⟩

end

/-! ## A row put before the real one -/

/-- A Base row. -/
def baseRow : Value :=
  .obj [("chain_id", .ofInt 8453), ("chain_name", .str "Base"), ("vm_type", .str "evm")]

/-- The same chain, as a VM no client knows. -/
def shadowRow : Value :=
  .obj [("chain_id", .str "8453"), ("vm_type", .str "tvm2")]

def tokenRow : Value :=
  .obj [("symbol", .str "USDC"), ("pull_method", .str "erc3009"),
    ("addresses", .obj [("8453", .str "0x833589fCD6eDb6E08f4c7C32D4f71b54bdA02913")])]

def sampleBody : Obj := [("chains", .arr [baseRow]), ("tokens", .arr [tokenRow])]

def shadowedBody : Obj := [("chains", .arr [shadowRow, baseRow]), ("tokens", .arr [tokenRow])]

theorem shadowedBody_extended : Extended sampleBody shadowedBody where
  chains := .cons _ (.refl _)
  tokens := .refl _
  others key chains tokens := by
    simp [Obj.get, sampleBody, shadowedBody, List.lookup_cons, beq_false_of_ne chains,
      beq_false_of_ne tokens]

/-- Base's VM is answered, and lost to the row put before it, with the token's address. -/
theorem rows_never_shadow_sample :
    letI := asciiHost
    chainVmType (parseBody sampleBody) (.ofInt 8453) = some .evm ∧
      advertisedTokenAddress (parseBody sampleBody) "usdc" (.ofInt 8453) =
        some "0x833589fCD6eDb6E08f4c7C32D4f71b54bdA02913" ∧
      Keeps (chainVmType (parseBody sampleBody) (.ofInt 8453))
        (chainVmType (parseBody shadowedBody) (.ofInt 8453)) ∧
      chainVmType (parseBody shadowedBody) (.ofInt 8453) = none := by
  let _ := asciiHost
  obtain ⟨caps, caps', parsed, parsed', -, vm, -⟩ := rows_never_shadow shadowedBody_extended
  cases parsed
  cases parsed'
  exact ⟨by decide +kernel, by decide +kernel, vm _, by decide +kernel⟩

end XochiSdk.Signer.Capabilities
