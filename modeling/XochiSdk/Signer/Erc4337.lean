import XochiSdk.Library.Abi
import XochiSdk.Library.Outcome
import XochiSdk.Signer.Compare
import XochiSdk.Signer.Xsp

/-!
# User operations

`packages/signer/src/erc4337.ts`: the hash of a served user operation, recomputed from its
fields, and the two calls a stealth claim makes. A field is checked where it is used. What is
hashed is the packed operation, which stands here apart from the hash.
-/

namespace XochiSdk.Signer.Erc4337

open XochiSdk.Js XochiSdk.Library

/-- What is thrown: `UserOperationError`, or an error that is no such one. -/
inductive UserOpThrown where
  | userOperation (message : String)
  | unexpected (message : String)
  deriving DecidableEq

abbrev UserOp (α : Type) := Except UserOpThrown α

/-- What the module takes from `ethers`' ABI coder past the encoding of words. -/
class CallCoder where
  /-- `coder.decode(["address", "uint256"], data)`; `none` is its throw. -/
  pair : List UInt8 → Option (Bytes 20 × Nat)
  /-- `coder.decode(["address", "uint256", "bytes"], data)`; `none` is its throw. -/
  call : List UInt8 → Option (Bytes 20 × Nat × List UInt8)
  /-- What the coder throws for a `uint256` that has no word. -/
  outOfBounds : Nat → String
  pair_words : ∀ {data : List UInt8} {a : Bytes 20} {n : Nat}, pair data = some (a, n) →
    Abi.numberAt data 0 = some a.toNat ∧ Abi.numberAt data 32 = some n
  call_words : ∀ {data inner : List UInt8} {a : Bytes 20} {n : Nat},
    call data = some (a, n, inner) →
    Abi.numberAt data 0 = some a.toNat ∧ Abi.numberAt data 32 = some n ∧
      ∃ start, Abi.numberAt data 64 = some start ∧ Abi.numberAt data start = some inner.length ∧
        (data.drop (start + 32)).take inner.length = inner

/-- `ENTRYPOINT_V08_ADDRESS`. -/
def entryPointV08Address : String := "0x4337084d9e255ff0702461cf8895ce9e3b5ff108"

/-- `SIMPLE_ACCOUNT_EXECUTE_SELECTOR`, `0xb61d27f6`. -/
def simpleAccountExecuteSelector : List UInt8 := [0xb6, 0x1d, 0x27, 0xf6]

/-- `ERC20_TRANSFER_SELECTOR`, `0xa9059cbb`. -/
def erc20TransferSelector : List UInt8 := [0xa9, 0x05, 0x9c, 0xbb]

/-- `SIMPLE_ACCOUNT_CREATE_ACCOUNT_SELECTOR`, `0x5fbfb9cf`. -/
def simpleAccountCreateAccountSelector : List UInt8 := [0x5f, 0xbf, 0xb9, 0xcf]

def packedUserOpTypeString : String :=
  "PackedUserOperation(address sender,uint256 nonce,bytes initCode,bytes callData," ++
  "bytes32 accountGasLimits,uint256 preVerificationGas,bytes32 gasFees,bytes paymasterAndData)"

def domainName : String := "ERC4337"
def domainVersion : String := "1"

def maxUint128 : Nat := 2 ^ 128 - 1

/-- A user operation as it is served: a parsed document. -/
abbrev UserOperationV08 := Value

/-! ## Fields -/

/-- `/^(0x[0-9a-fA-F]+|[0-9]+)$/`. -/
def isQuantityText (s : String) : Bool := (startsWithHex s && isHexText s) || isDecimal s

/-- The quantity a value spells. -/
def quantity : Value → Option Nat
  | .num x => (safeInteger x).bind fun n => if n < 0 then none else some n.toNat
  | .str s => if isQuantityText (trim s) then (bigInt (trim s)).map Int.toNat else none
  | _ => none

/-- Parses a hex or decimal quantity, and rejects anything else. -/
def toBigInt (value : Value) (field : String) : UserOp Nat :=
  match quantity value with
  | some n => .ok n
  | none => .error (.userOperation ("UserOperation." ++ field ++ " is " ++ jsonShown value ++
      ", which is not a non-negative integer quantity -- the userOpHash cannot be recomputed " ++
      "over it, so what this signature would authorise is unknown. Refusing to sign."))

/-- A byte string once it is read: the text, and the bytes it spells. -/
structure HexText where
  text : String
  bytes : List UInt8
  spells : getBytes text = some bytes

def HexText.empty : HexText := ⟨"0x", [], rfl⟩

/-- `/^0x([0-9a-fA-F]{2})*$/`, with the bytes. -/
def hexText (s : String) : Option HexText :=
  if startsWithHex s then
    match spells : getBytes s with
    | some bytes => some ⟨s, bytes, spells⟩
    | none => none
  else none

/-- `String.prototype.slice` from the start. -/
def sliceTo (n : Nat) (s : String) : String := String.ofList (s.toList.take n)

/-- A `bytes` field: an absent one is empty. -/
def toBytes (value : Value) (field : String) : UserOp HexText :=
  let reject := .error (.userOperation ("UserOperation." ++ field ++ " is " ++ jsonShown value ++
    ", which is not an even-length 0x-prefixed byte string. Refusing to sign a hash " ++
    "recomputed over a guess."))
  match value with
  | .undefined | .null => .ok .empty
  | .str s => (hexText s).elim reject .ok
  | _ => reject

/-- An address, by its shape. -/
def toAddress (value : Value) (field : String) : UserOp (Bytes 20) :=
  let reject := .error (.userOperation ("UserOperation." ++ field ++ " is " ++ jsonShown value ++
    ", which is not an EVM address. Refusing to sign."))
  match value with
  | .str s => (hexBytes 20 s).elim reject .ok
  | _ => reject

/-- One half of a packed word: a wider value is refused. -/
def toUint128Word (value : Nat) (field : String) : UserOp (Bytes 16) :=
  if maxUint128 < value then
    .error (.userOperation ("UserOperation." ++ field ++ " is " ++ toString value ++
      ", which does not fit in the 128 bits ERC-4337 packs it into. Refusing to sign: a value " ++
      "this size means the served op is not the one that would execute."))
  else .ok (Bytes.ofNat 16 value)

/-- A quantity packed into one half of a word. -/
def uint128Field (op : UserOperationV08) (field : String) : UserOp (Bytes 16) := do
  let value ← toBigInt (op.member field) field
  toUint128Word value field

/-! ## The packed operation -/

/-- `initCode`: the factory and its call, or nothing where the account is deployed. -/
def initCodeOf (op : UserOperationV08) : UserOp (List UInt8) :=
  if (op.member "factory").isNullish then .ok []
  else do
    let factory ← toAddress (op.member "factory") "factory"
    let factoryData ← toBytes (op.member "factoryData") "factoryData"
    pure (factory.bytes ++ factoryData.bytes)

/-- `paymasterAndData`: the paymaster, its two gas limits and its data. -/
def paymasterAndDataOf (op : UserOperationV08) : UserOp (List UInt8) :=
  if (op.member "paymaster").isNullish then .ok []
  else do
    let paymaster ← toAddress (op.member "paymaster") "paymaster"
    let verificationGas ← uint128Field op "paymasterVerificationGasLimit"
    let postOpGas ← uint128Field op "paymasterPostOpGasLimit"
    let data ← toBytes (op.member "paymasterData") "paymasterData"
    pure (paymaster.bytes ++ verificationGas.bytes ++ postOpGas.bytes ++ data.bytes)

/-- The operation the EntryPoint hashes: its numbers have words. -/
structure PackedUserOperation where
  sender : Bytes 20
  nonce : Nat
  initCode : List UInt8
  callData : List UInt8
  verificationGasLimit : Bytes 16
  callGasLimit : Bytes 16
  preVerificationGas : Nat
  maxPriorityFeePerGas : Bytes 16
  maxFeePerGas : Bytes 16
  paymasterAndData : List UInt8
  nonce_fits : nonce ≤ uint256Max
  preVerificationGas_fits : preVerificationGas ≤ uint256Max
  deriving DecidableEq

/-- Two halves of a word. -/
def halves (a b : Bytes 16) : Word :=
  ⟨a.bytes ++ b.bytes, by rw [List.length_append, a.length_bytes, b.length_bytes]⟩

theorem halves_inj {a b a' b' : Bytes 16} (h : halves a b = halves a' b') : a = a' ∧ b = b' := by
  obtain ⟨first, second⟩ := Bytes.join_cons_inj (congrArg Bytes.bytes h)
  exact ⟨first, Bytes.ext second⟩

section Hashes

variable [CallCoder]

/-- A `uint256` given to the coder. -/
def encodable (n : Nat) : UserOp {n : Nat // n ≤ uint256Max} :=
  if fits : n ≤ uint256Max then .ok ⟨n, fits⟩
  else .error (.unexpected (CallCoder.outOfBounds n))

/-- The fields of an operation, read in the order the struct hash reads them. -/
def pack (op : UserOperationV08) : UserOp PackedUserOperation := do
  let verificationGasLimit ← uint128Field op "verificationGasLimit"
  let callGasLimit ← uint128Field op "callGasLimit"
  let maxPriorityFeePerGas ← uint128Field op "maxPriorityFeePerGas"
  let maxFeePerGas ← uint128Field op "maxFeePerGas"
  let sender ← toAddress (op.member "sender") "sender"
  let nonce ← toBigInt (op.member "nonce") "nonce"
  let initCode ← initCodeOf op
  let callData ← toBytes (op.member "callData") "callData"
  let preVerificationGas ← toBigInt (op.member "preVerificationGas") "preVerificationGas"
  let paymasterAndData ← paymasterAndDataOf op
  let nonce ← encodable nonce
  let preVerificationGas ← encodable preVerificationGas
  pure {
    sender, nonce := nonce.1, initCode, callData := callData.bytes, verificationGasLimit,
    callGasLimit, preVerificationGas := preVerificationGas.1, maxPriorityFeePerGas, maxFeePerGas,
    paymasterAndData, nonce_fits := nonce.2, preVerificationGas_fits := preVerificationGas.2 }

variable [Ethers]

def structWords (op : PackedUserOperation) : List Word :=
  [ethersId packedUserOpTypeString, addressWord op.sender, uintWord op.nonce,
    keccak256 op.initCode, keccak256 op.callData,
    halves op.verificationGasLimit op.callGasLimit, uintWord op.preVerificationGas,
    halves op.maxPriorityFeePerGas op.maxFeePerGas, keccak256 op.paymasterAndData]

/-- The EIP-712 struct hash for the packed operation. -/
def computeStructHash (op : UserOperationV08) : UserOp Word := do
  pure (hashWords (structWords (← pack op)))

def separatorWords (chainId : Nat) (entryPoint : Bytes 20) : List Word :=
  [ethersId eip712DomainTypeString, ethersId domainName, ethersId domainVersion,
    uintWord chainId, addressWord entryPoint]

/-- The EIP-712 domain separator, bound to a chain and an EntryPoint. -/
def computeUserOpDomainSeparator (chainId : Value) (entryPoint : String) : UserOp Word := do
  let chainId ← toBigInt chainId "chainId"
  let entryPoint ← toAddress (.str entryPoint) "entryPoint"
  let chainId ← encodable chainId
  pure (hashWords (separatorWords chainId.1 entryPoint))

/-- Recomputes the `userOpHash` a client is asked to sign. -/
def computeUserOpHash (op : UserOperationV08) (entryPoint : String) (chainId : Value) :
    UserOp Word := do
  let separator ← computeUserOpDomainSeparator chainId entryPoint
  let structHash ← computeStructHash op
  pure (typedDigest separator structHash)

end Hashes

/-! ## Calls -/

/-- `execute(token, value, transfer(to, amount))`. An address prints checksummed. -/
structure DecodedErc20TransferCall where
  token : Bytes 20
  value : Nat
  to_ : Bytes 20
  amount : Nat
  deriving DecidableEq

/-- `createAccount(owner, salt)`. -/
structure DecodedCreateAccountCall where
  owner : Bytes 20
  salt : Nat
  deriving DecidableEq

/-- What follows a selector. -/
def afterSelector (selector data : List UInt8) : Option (List UInt8) :=
  if data.take 4 = selector then some (data.drop 4) else none

def refuseCallData {α : Type} (why : String) : UserOp α :=
  .error (.userOperation ("UserOperation.callData " ++ why ++ " -- a stealth claim is always " ++
    "execute(token, 0, transfer(recipient, amount)), so this op does something else with the " ++
    "account holding your settled funds. Refusing to sign."))

def refuseFactoryData {α : Type} (why : String) : UserOp α :=
  .error (.userOperation ("UserOperation.factoryData " ++ why ++
    " -- a stealth claim deploys its account with createAccount(owner, salt), so who would own " ++
    "the account cannot be read. Refusing to sign."))

variable [CallCoder]

/-- The only `callData` shape a stealth claim has. -/
def decodeErc20TransferExecute (callData : Value) : UserOp DecodedErc20TransferCall := do
  let data ← toBytes callData "callData"
  match afterSelector simpleAccountExecuteSelector data.bytes with
  | none => refuseCallData ("does not call execute(address,uint256,bytes) (selector " ++
      sliceTo 10 data.text ++ ")")
  | some arguments =>
    match CallCoder.call arguments with
    | none => refuseCallData "does not decode as execute(address,uint256,bytes)"
    | some (token, value, inner) =>
      match afterSelector erc20TransferSelector inner with
      | none => refuseCallData (if inner = [] then
          "wraps an empty call, not transfer(address,uint256)"
          else "wraps " ++ sliceTo 10 (hexlify inner) ++ ", not transfer(address,uint256)")
      | some arguments =>
        match CallCoder.pair arguments with
        | none => refuseCallData "wraps a call that does not decode as transfer(address,uint256)"
        | some (to_, amount) => pure { token, value, to_, amount }

/-- The only `factoryData` shape a stealth claim has. -/
def decodeCreateAccountCall (factoryData : Value) : UserOp DecodedCreateAccountCall := do
  let data ← toBytes factoryData "factoryData"
  match afterSelector simpleAccountCreateAccountSelector data.bytes with
  | none => refuseFactoryData ("does not call createAccount(address,uint256) (selector " ++
      sliceTo 10 data.text ++ ")")
  | some arguments =>
    match CallCoder.pair arguments with
    | none => refuseFactoryData "does not decode as createAccount(address,uint256)"
    | some (owner, salt) => pure { owner, salt }

/-! ## What is read -/

omit [CallCoder] in
theorem toBigInt_ok {value : Value} {field : String} {n : Nat} :
    toBigInt value field = .ok n ↔ quantity value = some n := by
  unfold toBigInt
  split
  · next m read => simp [read]
  · next read => simp [read]

omit [CallCoder] in
theorem toAddress_ok {value : Value} {field : String} {a : Bytes 20} :
    toAddress value field = .ok a ↔ ∃ s, value = .str s ∧ hexBytes 20 s = some a := by
  unfold toAddress
  split
  · next s =>
    cases read : hexBytes 20 s with
    | none => simp [read]
    | some b => simp [read]
  · next other =>
    simp only [reduceCtorEq, false_iff]
    rintro ⟨s, rfl, _⟩
    exact other s rfl

omit [CallCoder] in
/-- Printed bytes are read back. -/
theorem toBytes_hexlify (bytes : List UInt8) (field : String) :
    toBytes (.str (hexlify bytes)) field =
      .ok ⟨hexlify bytes, bytes, getBytes_hexlify bytes⟩ := by
  have starts : startsWithHex (hexlify bytes) = true := by
    unfold startsWithHex
    rw [toList_hexlify]
    rfl
  have read : hexText (hexlify bytes) = some ⟨hexlify bytes, bytes, getBytes_hexlify bytes⟩ := by
    unfold hexText
    rw [if_pos starts]
    split
    · next same spells =>
      rw [getBytes_hexlify, Option.some.injEq] at spells
      subst spells
      rfl
    · next spells =>
      rw [getBytes_hexlify] at spells
      cases spells
  change (hexText (hexlify bytes)).elim _ _ = _
  rw [read]
  rfl

theorem encodable_ok {n : Nat} {m : {n : Nat // n ≤ uint256Max}} :
    encodable n = .ok m ↔ n = m.1 := by
  unfold encodable
  split
  · next fits =>
    rw [Except.ok.injEq]
    exact ⟨fun h => by rw [← h], fun h => Subtype.ext h⟩
  · next wide =>
    simp only [reduceCtorEq, false_iff]
    intro same
    exact wide (same ▸ m.2)

omit [CallCoder] in
theorem afterSelector_some {selector data rest : List UInt8} (four : selector.length = 4) :
    afterSelector selector data = some rest ↔ data = selector ++ rest := by
  unfold afterSelector
  constructor
  · intro h
    split at h
    · next starts =>
      cases h
      rw [← starts, List.take_append_drop]
    · cases h
  · rintro rfl
    rw [if_pos (List.take_left' four), List.drop_left' four]

/-- The parts of an operation once it is packed. -/
theorem pack_ok {op : UserOperationV08} {packed : PackedUserOperation}
    (h : pack op = .ok packed) :
    toAddress (op.member "sender") "sender" = .ok packed.sender ∧
      initCodeOf op = .ok packed.initCode ∧
      (∃ data, toBytes (op.member "callData") "callData" = .ok data ∧
        data.bytes = packed.callData) ∧
      paymasterAndDataOf op = .ok packed.paymasterAndData := by
  simp only [pack, Outcome.bind_ok, Outcome.pure_ok] at h
  obtain ⟨-, -, -, -, -, -, -, -, sender, sender_ok, -, -, initCode, init_ok, data, data_ok, -, -,
    sponsor, sponsor_ok, -, -, -, -, rfl⟩ := h
  exact ⟨sender_ok, init_ok, ⟨data, data_ok, rfl⟩, sponsor_ok⟩

/-- A document of no fields has no gas limit to pack. -/
theorem pack_truthy {op : UserOperationV08} {packed : PackedUserOperation}
    (h : pack op = .ok packed) : op.truthy = true := by
  obtain ⟨sender, -⟩ := pack_ok h
  obtain ⟨s, member, -⟩ := toAddress_ok.mp sender
  cases op with
  | obj fields => rfl
  | undefined | null | bool _ | num _ | str _ | arr _ => cases member

omit [CallCoder] in
/-- A deployment starts with the factory's address. -/
theorem initCodeOf_ok {op : UserOperationV08} {factory : Bytes 20} {data : List UInt8} :
    initCodeOf op = .ok (factory.bytes ++ data) ↔
      toAddress (op.member "factory") "factory" = .ok factory ∧
        ∃ read, toBytes (op.member "factoryData") "factoryData" = .ok read ∧ read.bytes = data := by
  unfold initCodeOf
  split
  · next absent =>
    constructor
    · intro h
      have empty := congrArg List.length (Except.ok.inj h)
      rw [List.length_append, factory.length_bytes] at empty
      simp only [List.length_nil] at empty
      omega
    · rintro ⟨address, -⟩
      obtain ⟨s, member, -⟩ := toAddress_ok.mp address
      rw [member] at absent
      cases absent
  · simp only [Outcome.bind_ok, Outcome.pure_ok]
    constructor
    · rintro ⟨a, address, read, data_ok, same⟩
      obtain ⟨rfl, rfl⟩ := Bytes.join_cons_inj same
      exact ⟨address, read, data_ok, rfl⟩
    · rintro ⟨address, read, data_ok, rfl⟩
      exact ⟨factory, address, read, data_ok, rfl⟩

omit [CallCoder] in
/-- Only an operation of no paymaster has nothing to say of one. -/
theorem paymasterAndDataOf_ok {op : UserOperationV08} {data : List UInt8}
    (h : paymasterAndDataOf op = .ok data) :
    data ≠ [] ↔ (op.member "paymaster").isNullish = false := by
  unfold paymasterAndDataOf at h
  split at h
  · next absent =>
    cases h
    simp [absent]
  · next present =>
    simp only [Outcome.bind_ok, Outcome.pure_ok] at h
    obtain ⟨paymaster, -, -, -, -, -, -, -, rfl⟩ := h
    refine iff_of_true ?_ (Bool.eq_false_iff.mpr present)
    intro empty
    have size := congrArg List.length empty
    simp only [List.length_append, paymaster.length_bytes, List.length_nil] at size
    omega

/-- An accepted hash is over the packed operation, on a chain that has a word. -/
theorem computeUserOpHash_ok [Ethers] {op : UserOperationV08} {entryPoint : String}
    {chainId : Value} {w : Word} :
    computeUserOpHash op entryPoint chainId = .ok w ↔
      ∃ chain address packed, quantity chainId = some chain ∧ chain ≤ uint256Max ∧
        hexBytes 20 entryPoint = some address ∧ pack op = .ok packed ∧
        w = typedDigest (hashWords (separatorWords chain address))
          (hashWords (structWords packed)) := by
  simp only [computeUserOpHash, computeUserOpDomainSeparator, computeStructHash, Outcome.bind_ok,
    Outcome.pure_ok, toBigInt_ok, toAddress_ok, Value.str.injEq, encodable_ok]
  constructor
  · rintro ⟨_, ⟨chain, read, address, ⟨_, rfl, spelled⟩, fits, rfl, rfl⟩, _,
      ⟨packed, packed_ok, rfl⟩, rfl⟩
    exact ⟨fits.1, address, packed, read, fits.2, spelled, packed_ok, rfl⟩
  · rintro ⟨chain, address, packed, read, fits, spelled, packed_ok, rfl⟩
    exact ⟨_, ⟨chain, read, address, ⟨_, rfl, spelled⟩, ⟨chain, fits⟩, rfl, rfl⟩, _,
      ⟨packed, packed_ok, rfl⟩, rfl⟩

theorem decodeErc20TransferExecute_ok {callData : Value} {d : DecodedErc20TransferCall} :
    decodeErc20TransferExecute callData = .ok d ↔
      ∃ data, toBytes callData "callData" = .ok data ∧ ∃ outer rest,
        data.bytes = simpleAccountExecuteSelector ++ outer ∧
        CallCoder.call outer = some (d.token, d.value, erc20TransferSelector ++ rest) ∧
        CallCoder.pair rest = some (d.to_, d.amount) := by
  simp only [decodeErc20TransferExecute, Outcome.bind_ok]
  refine exists_congr fun data => and_congr_right fun _ => ?_
  constructor
  · intro h
    split at h
    · cases h
    · next outer outer_ok =>
      split at h
      · cases h
      · next token value inner call_ok =>
        split at h
        · cases h
        · next rest inner_ok =>
          split at h
          · cases h
          · next to_ amount pair_ok =>
            cases h
            rw [afterSelector_some rfl] at outer_ok inner_ok
            exact ⟨outer, rest, outer_ok, inner_ok ▸ call_ok, pair_ok⟩
  · rintro ⟨outer, rest, starts, call_ok, pair_ok⟩
    rw [← afterSelector_some rfl] at starts
    have inner_ok : afterSelector erc20TransferSelector (erc20TransferSelector ++ rest) =
        some rest := (afterSelector_some rfl).mpr rfl
    simp only [starts, call_ok, inner_ok, pair_ok]
    rfl

theorem decodeCreateAccountCall_ok {factoryData : Value} {d : DecodedCreateAccountCall} :
    decodeCreateAccountCall factoryData = .ok d ↔
      ∃ data, toBytes factoryData "factoryData" = .ok data ∧ ∃ rest,
        data.bytes = simpleAccountCreateAccountSelector ++ rest ∧
        CallCoder.pair rest = some (d.owner, d.salt) := by
  simp only [decodeCreateAccountCall, Outcome.bind_ok]
  refine exists_congr fun data => and_congr_right fun _ => ?_
  constructor
  · intro h
    split at h
    · cases h
    · next rest rest_ok =>
      split at h
      · cases h
      · next owner salt pair_ok =>
        cases h
        exact ⟨rest, (afterSelector_some rfl).mp rest_ok, pair_ok⟩
  · rintro ⟨rest, starts, pair_ok⟩
    rw [← afterSelector_some rfl] at starts
    simp only [starts, pair_ok]
    rfl

end XochiSdk.Signer.Erc4337
