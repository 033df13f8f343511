import XochiSdk.Signer.ClaimLaw
import XochiSdk.Signer.Ethers
import XochiSdk.Signer.ShieldedDigests

/-!
# What a digest signs away

The digest fixes every field of the packed operation, so two operations accepted under one are
one claim, and the words the chain reads are that claim's.
-/

namespace XochiSdk.Signer.ClaimVerify

open XochiSdk.Js XochiSdk.Library Erc4337

section Law

variable [CallCoder] [Ethers]

/-! ## One digest, one claim -/

/-- What the digest of an operation hashes. -/
def preimages (chain : Nat) (op : PackedUserOperation) : List (List UInt8) :=
  [typedPreimage (hashWords (separatorWords chain entryPointV08)) (hashWords (structWords op)),
    encodeWords (separatorWords chain entryPointV08), encodeWords (structWords op), op.initCode,
    op.callData, op.paymasterAndData]

/-- What is hashed to check an operation. -/
def VerifyClaimUserOpParams.used (p : VerifyClaimUserOpParams) : List (List UInt8) :=
  match quantity (.num p.servedChainId), pack p.userOperation with
  | some chain, .ok op => preimages chain op
  | _, _ => []

theorem used_of_packed {p : VerifyClaimUserOpParams} {chain : Nat} {op : PackedUserOperation}
    (served : quantity (.num p.servedChainId) = some chain)
    (packed : pack p.userOperation = .ok op) : p.used = preimages chain op := by
  rw [VerifyClaimUserOpParams.used, served, packed]

omit [CallCoder] in
/-- A digest fixes the chain and every field of the operation. -/
theorem userOpDigest_inj {chain chain' : Nat} {op op' : PackedUserOperation}
    {used : List (List UInt8)} (apart : Distinguishes keccak256 used)
    (sub : preimages chain op ⊆ used) (sub' : preimages chain' op' ⊆ used)
    (fits : chain ≤ uint256Max) (fits' : chain' ≤ uint256Max)
    (same : userOpDigest chain op = userOpDigest chain' op') : chain = chain' ∧ op = op' := by
  obtain ⟨separators, structs⟩ := typedPreimage_injective
    (apart.eq (sub (by simp [preimages])) (sub' (by simp [preimages])) same)
  have domains := hashWords_inj apart (sub (by simp [preimages])) (sub' (by simp [preimages]))
    separators
  have members := hashWords_inj apart (sub (by simp [preimages])) (sub' (by simp [preimages]))
    structs
  simp only [separatorWords, List.cons.injEq, and_true, true_and] at domains
  simp only [structWords, List.cons.injEq, and_true, true_and] at members
  obtain ⟨sender, nonce, initCode, callData, limits, preVerification, fees, sponsor⟩ := members
  obtain ⟨verification, call⟩ := halves_inj limits
  obtain ⟨priority, maxFee⟩ := halves_inj fees
  refine ⟨uintWord_inj fits fits' domains, ?_⟩
  have sender := addressWord_inj sender
  have nonce := uintWord_inj op.nonce_fits op'.nonce_fits nonce
  have preVerification :=
    uintWord_inj op.preVerificationGas_fits op'.preVerificationGas_fits preVerification
  have initCode := apart.eq (sub (by simp [preimages])) (sub' (by simp [preimages])) initCode
  have callData := apart.eq (sub (by simp [preimages])) (sub' (by simp [preimages])) callData
  have sponsor := apart.eq (sub (by simp [preimages])) (sub' (by simp [preimages])) sponsor
  cases op
  cases op'
  simp only [PackedUserOperation.mk.injEq]
  exact ⟨sender, nonce, initCode, callData, verification, call, preVerification, priority, maxFee,
    sponsor⟩

/-- What the chain reads of the operation, word by word. -/
structure StealthClaim.Words (c : StealthClaim) : Prop where
  call : c.op.callData.take 4 = simpleAccountExecuteSelector ∧
    Abi.numberAt (c.op.callData.drop 4) 0 = some c.token.toNat ∧
    Abi.numberAt (c.op.callData.drop 4) 32 = some 0
  transfer : ∃ start, Abi.numberAt (c.op.callData.drop 4) 64 = some start ∧
    (c.op.callData.drop (4 + start + 32)).take 4 = erc20TransferSelector ∧
    Abi.numberAt (c.op.callData.drop (4 + start + 36)) 0 = some c.recipient.toNat ∧
    Abi.numberAt (c.op.callData.drop (4 + start + 36)) 32 = some c.amount
  deployment : c.op.initCode.take 20 = c.factory.bytes ∧
    (c.op.initCode.drop 20).take 4 = simpleAccountCreateAccountSelector ∧
    Abi.numberAt (c.op.initCode.drop 24) 0 = some c.owner.toNat ∧
    Abi.numberAt (c.op.initCode.drop 24) 32 = some c.salt

omit [Ethers] in
theorem StealthClaim.Stated.words {c : StealthClaim} (h : c.Stated) : c.Words := by
  obtain ⟨outer, rest, starts, call, pair⟩ := h.call
  obtain ⟨data, code, deploy⟩ := h.deployment
  obtain ⟨token, value, start, place, length, content⟩ := CallCoder.call_words call
  obtain ⟨recipient, amount⟩ := CallCoder.pair_words pair
  obtain ⟨owner, salt⟩ := CallCoder.pair_words deploy
  have arguments : c.op.callData.drop 4 = outer := by rw [starts]; rfl
  obtain ⟨after, body⟩ : ∃ after, outer.drop (start + 32) =
      erc20TransferSelector ++ (rest ++ after) := by
    refine ⟨(outer.drop (start + 32)).drop (erc20TransferSelector ++ rest).length, ?_⟩
    have halved := List.take_append_drop (erc20TransferSelector ++ rest).length
      (outer.drop (start + 32))
    rwa [content, List.append_assoc, eq_comm] at halved
  have inner : c.op.callData.drop (4 + start + 32) = erc20TransferSelector ++ (rest ++ after) := by
    rw [Nat.add_assoc, ← List.drop_drop, arguments, body]
  have transfer : c.op.callData.drop (4 + start + 36) = rest ++ after := by
    rw [show 4 + start + 36 = 4 + start + 32 + 4 by omega, ← List.drop_drop, inner]
    rfl
  have factory : c.op.initCode.take 20 = c.factory.bytes := by
    rw [code, List.take_left' c.factory.length_bytes]
  have creates : c.op.initCode.drop 20 = simpleAccountCreateAccountSelector ++ data := by
    rw [code, List.drop_left' c.factory.length_bytes]
  have owned : c.op.initCode.drop 24 = data := by
    rw [show 24 = 20 + 4 from rfl, ← List.drop_drop, creates]
    rfl
  exact
    { call := ⟨by rw [starts]; rfl, by rw [arguments, token], by rw [arguments, value]⟩
      transfer := by
        refine ⟨start, by rw [arguments, place], by rw [inner]; rfl, ?_, ?_⟩
        · rw [transfer]
          exact Abi.numberAt_append after recipient
        · rw [transfer]
          exact Abi.numberAt_append after amount
      deployment := ⟨factory, by rw [creates]; rfl, by rw [owned, owner], by rw [owned, salt]⟩ }

/-- Two accepted operations under one digest are one claim: they are packed the same, on one
chain, and move the same amount of the same token from the same account to the same recipient,
for the same owner, whatever was served and announced around them. The words the chain reads
are that claim's. -/
theorem digest_fixes_claim {p q : VerifyClaimUserOpParams} {d e : VerifiedClaimTransfer}
    {a b : ClaimAnnouncement} (hp : verifyClaimUserOp p = .ok d a)
    (hq : verifyClaimUserOp q = .ok e b)
    (same : asciiLower p.servedUserOpHash = asciiLower q.servedUserOpHash)
    (apart : Distinguishes keccak256 (p.used ++ q.used)) :
    d = e ∧ ∃ c : StealthClaim, c.Words ∧ c.Expected p a ∧ c.Expected q b := by
  obtain ⟨-, c, stated, expected, rfl⟩ := claim_of_accepted hp
  obtain ⟨-, c', stated', expected', rfl⟩ := claim_of_accepted hq
  have used : preimages c.chain c.op ⊆ p.used ++ q.used := by
    rw [used_of_packed expected.served expected.packed]
    exact List.subset_append_left _ _
  have used' : preimages c'.chain c'.op ⊆ p.used ++ q.used := by
    rw [used_of_packed expected'.served expected'.packed]
    exact List.subset_append_right _ _
  have digests : userOpDigest c.chain c.op = userOpDigest c'.chain c'.op := by
    have printed := expected.digest.symm.trans (same.trans expected'.digest)
    have read := congrArg getBytes printed
    rw [getBytes_hexlify, getBytes_hexlify, Option.some.injEq] at read
    exact Bytes.ext read
  have fits {n : Nat} {x : JsNumber} (h : quantity (.num x) = some n) : n ≤ uint256Max := by
    have small := (quantity_num.mp h).2
    unfold uint256Max
    omega
  obtain ⟨chain, op⟩ := userOpDigest_inj apart used used' (fits expected.served)
    (fits expected'.served) digests
  obtain rfl := stated.inj stated' chain op
  exact ⟨rfl, c, stated.words, expected, expected'⟩

end Law

/-! ## A claim served twice -/

/-- The coder's readings of calls: a `bytes` is there up to whole words. -/
abbrev documentedCalls : CallCoder where
  pair data := do
    let a ← Abi.uintAt 160 data 0
    let n ← Abi.numberAt data 32
    pure (Bytes.ofNat 20 a, n)
  call data := do
    let a ← Abi.uintAt 160 data 0
    let n ← Abi.numberAt data 32
    let start ← Abi.numberAt data 64
    let length ← Abi.numberAt data start
    let content := (data.drop (start + 32)).take length
    if start + 32 + length + Abi.gap length ≤ data.length then
      some (Bytes.ofNat 20 a, n, content)
    else none
  outOfBounds _ := "value out-of-bounds"
  pair_words := by
    intro data a n h
    simp only [Option.bind_eq_bind, Option.bind_eq_some_iff, Abi.uintAt, Option.filter_eq_some_iff,
      pure, Option.some.injEq, Prod.mk.injEq, decide_eq_true_eq] at h
    obtain ⟨k, ⟨first, small⟩, m, second, rfl, rfl⟩ := h
    refine ⟨?_, second⟩
    rw [first, Bytes.toNat_ofNat, Nat.mod_eq_of_lt (lt_of_lt_of_eq small (by norm_num))]
  call_words := by
    intro data inner a n h
    simp only [Option.bind_eq_bind, Option.bind_eq_some_iff, Abi.uintAt, Option.filter_eq_some_iff,
      decide_eq_true_eq] at h
    obtain ⟨k, ⟨first, small⟩, m, second, start, third, length, size, h⟩ := h
    split at h
    · next room =>
      simp only [Option.some.injEq, Prod.mk.injEq] at h
      obtain ⟨rfl, rfl, rfl⟩ := h
      have filled : ((data.drop (start + 32)).take length).length = length := by
        rw [List.length_take, List.length_drop]
        omega
      refine ⟨?_, second, start, third, by rw [size, filled], by rw [filled]⟩
      rw [first, Bytes.toNat_ofNat, Nat.mod_eq_of_lt (lt_of_lt_of_eq small (by norm_num))]
    · cases h

def sampleAddress (byte : UInt8) : Bytes 20 := ⟨List.replicate 20 byte, rfl⟩

/-- `execute(token, 0, transfer(recipient, 1000))`. -/
def sampleCall : List UInt8 :=
  simpleAccountExecuteSelector ++ (addressWord (sampleAddress 0xaa)).bytes ++ (uintWord 0).bytes ++
    (uintWord 96).bytes ++ (uintWord 68).bytes ++ erc20TransferSelector ++
    (addressWord (sampleAddress 0xbb)).bytes ++ (uintWord 1000).bytes ++ List.replicate 28 0

/-- `createAccount(owner, 7)`. -/
def sampleDeployment : List UInt8 :=
  simpleAccountCreateAccountSelector ++ (addressWord (sampleAddress 0xcc)).bytes ++
    (uintWord 7).bytes

/-- A sponsored operation of the two calls, with its nonce and its sender spelled as given. -/
def sampleOperation (sender nonce : String) (deployment call : List UInt8) : UserOperationV08 :=
  .obj [("sender", .str sender), ("nonce", .str nonce),
    ("factory", .str (hexlify (sampleAddress 0xdd).bytes)),
    ("factoryData", .str (hexlify deployment)), ("callData", .str (hexlify call)),
    ("callGasLimit", .str "0x186a0"), ("verificationGasLimit", .str "0x30d40"),
    ("preVerificationGas", .str "50000"), ("maxFeePerGas", .str "0x3b9aca00"),
    ("maxPriorityFeePerGas", .str "0x3b9aca00"),
    ("paymaster", .str (hexlify (sampleAddress 0xee).bytes)),
    ("paymasterVerificationGasLimit", .str "0x7530"), ("paymasterPostOpGasLimit", .str "0x0"),
    ("paymasterData", .str "0x01")]

/-- What is served for it, and what the client expects. -/
def sampleParams (sender nonce digest token : String) : VerifyClaimUserOpParams where
  userOperation := sampleOperation sender nonce sampleDeployment sampleCall
  entryPoint := some entryPointV08Address
  servedUserOpHash := digest
  servedChainId := .ofInt 10
  expectedChainId := .ofInt 10
  counterfactualAddress := "0xabababababababababababababababababababab"
  recipientAddress := hexlify (sampleAddress 0xbb).bytes
  expectedOwner := hexlify (sampleAddress 0xcc).bytes
  announced := some ⟨token, hexlify (sampleAddress 0xdd).bytes, 7⟩

/-- The operation, packed. -/
def samplePacked (deployment call : List UInt8) : PackedUserOperation where
  sender := sampleAddress 0xab
  nonce := 5
  initCode := (sampleAddress 0xdd).bytes ++ deployment
  callData := call
  verificationGasLimit := Bytes.ofNat 16 200000
  callGasLimit := Bytes.ofNat 16 100000
  preVerificationGas := 50000
  maxPriorityFeePerGas := Bytes.ofNat 16 1000000000
  maxFeePerGas := Bytes.ofNat 16 1000000000
  paymasterAndData := (sampleAddress 0xee).bytes ++ (Bytes.ofNat 16 30000).bytes ++
    (Bytes.ofNat 16 0).bytes ++ [1]
  nonce_fits := by decide
  preVerificationGas_fits := by decide

def sampleClaim : StealthClaim where
  chain := 10
  op := samplePacked sampleDeployment sampleCall
  token := sampleAddress 0xaa
  recipient := sampleAddress 0xbb
  amount := 1000
  factory := sampleAddress 0xdd
  owner := sampleAddress 0xcc
  salt := 7

theorem sampleOperation_packed {sender nonce : String} (deployment call : List UInt8)
    (spelled : hexBytes 20 sender = some (sampleAddress 0xab))
    (read : quantity (.str nonce) = some 5) :
    letI := documentedCalls
    pack (sampleOperation sender nonce deployment call) = .ok (samplePacked deployment call) := by
  let := documentedCalls
  have quantities : [quantity (.str "0x186a0"), quantity (.str "0x30d40"),
      quantity (.str "50000"), quantity (.str "0x3b9aca00"), quantity (.str "0x7530"),
      quantity (.str "0x0")] =
      [some 100000, some 200000, some 50000, some 1000000000, some 30000, some 0] := by
    decide +kernel
  simp only [List.cons.injEq, and_true] at quantities
  obtain ⟨callGas, verificationGas, preGas, fee, paymasterGas, postOpGas⟩ := quantities
  have data : Erc4337.toBytes (.str "0x01") "paymasterData" = .ok ⟨"0x01", [1], by decide⟩ := rfl
  simp [pack, sampleOperation, uint128Field, toBigInt, toUint128Word, toAddress, initCodeOf,
    paymasterAndDataOf, Value.member, Obj.get, List.lookup_cons, Value.isNullish, encodable,
    spelled, read, callGas, verificationGas, preGas, fee, paymasterGas, postOpGas, data,
    toBytes_hexlify, bind, Except.bind, pure, Except.pure, maxUint128, uint256Max, samplePacked]

/-- The served operation is the sweep, in any spelling of its sender, its nonce and its digest. -/
theorem sampleParams_accepted {sender nonce digest token : String}
    (spelled : hexBytes 20 sender = some (sampleAddress 0xab))
    (read : quantity (.str nonce) = some 5)
    (hashed : letI := documentedEthers
      asciiLower digest =
        hexlify (userOpDigest 10 (samplePacked sampleDeployment sampleCall)).bytes)
    (announced : token = "" ∨ Spells token (sampleAddress 0xaa)) :
    letI := documentedEthers
    letI := documentedCalls
    verifyClaimUserOp (sampleParams sender nonce digest token) =
      .ok ⟨sampleAddress 0xaa, 1000⟩ ⟨token, hexlify (sampleAddress 0xdd).bytes, 7⟩ := by
  let := documentedEthers
  let := documentedCalls
  have stated : sampleClaim.Stated :=
    { call := ⟨sampleCall.drop 4, (addressWord (sampleAddress 0xbb)).bytes ++
        (uintWord 1000).bytes, by decide +kernel⟩
      deployment := ⟨sampleDeployment.drop 4, by decide +kernel⟩
      sponsored := by decide +kernel }
  have ten : quantity (.num (JsNumber.ofInt 10)) = some 10 := by decide +kernel
  have account : Spells "0xabababababababababababababababababababab" (sampleAddress 0xab) :=
    spells_of_hexBytes (by decide +kernel)
  exact accepted_of_claim rfl stated
    { packed := sampleOperation_packed sampleDeployment sampleCall spelled read
      entryPoint := ⟨_, rfl, by decide +kernel⟩
      digest := hashed
      served := ten
      scanned := ten
      account := account
      recipient := asciiLower_hexlify _
      owner := asciiLower_hexlify _
      token := announced
      factory := asciiLower_hexlify _
      salt := rfl }

theorem sampleDigest :
    letI := documentedEthers
    userOpDigest 10 (samplePacked sampleDeployment sampleCall) = Bytes.ofNat 32
      0x760c4fa7a9edcda6f93349cec323b2d1c756a99d62f88c9b12eb8f9a32d634f6 := by
  apply Bytes.toNat_injective
  decide +kernel

/-- The hash tells apart what the operation is hashed from. -/
theorem samplePreimages_apart :
    letI := documentedEthers
    Distinguishes keccak256 (preimages 10 (samplePacked sampleDeployment sampleCall)) := by
  let := documentedEthers
  have apart : ((preimages 10 (samplePacked sampleDeployment sampleCall)).map fun bytes =>
      (keccak256 bytes).toNat % 2 ^ 16).Nodup := by
    decide +kernel
  refine Distinguishes.of_nodup (List.Nodup.of_map (fun w : Word => w.toNat % 2 ^ 16) ?_)
  rwa [List.map_map]

/-- The token is announced. -/
def plainParams : VerifyClaimUserOpParams :=
  sampleParams "0xabababababababababababababababababababab" "0x5"
    "0x760c4fa7a9edcda6f93349cec323b2d1c756a99d62f88c9b12eb8f9a32d634f6"
    "0xaAaAaaaaaaaaaaaaaaaaaaaaaaaaaaaaaaaaAaAa"

/-- Nothing is said of the token, and the same operation is spelled another way. -/
def respelledParams : VerifyClaimUserOpParams :=
  sampleParams "0xABABABababababababababababababababababab" " 05 "
    "0x760C4FA7A9EDCDA6F93349CEC323B2D1C756A99D62F88C9B12EB8F9A32D634F6" ""

/-- One digest, served with two spellings of its operation. -/
theorem digest_fixes_claim_respelled :
    letI := documentedEthers
    letI := documentedCalls
    ∃ c : StealthClaim, c.Words ∧ c.Expected plainParams
        ⟨"0xaAaAaaaaaaaaaaaaaaaaaaaaaaaaaaaaaaaaAaAa", hexlify (sampleAddress 0xdd).bytes, 7⟩ ∧
      c.Expected respelledParams ⟨"", hexlify (sampleAddress 0xdd).bytes, 7⟩ := by
  let := documentedEthers
  let := documentedCalls
  have spelled : hexBytes 20 "0xabababababababababababababababababababab" =
      some (sampleAddress 0xab) := by decide +kernel
  have respelled : hexBytes 20 "0xABABABababababababababababababababababab" =
      some (sampleAddress 0xab) := by decide +kernel
  have hex : quantity (.str "0x5") = some 5 := by decide +kernel
  have decimal : quantity (.str " 05 ") = some 5 := by decide +kernel
  have lower : asciiLower "0x760c4fa7a9edcda6f93349cec323b2d1c756a99d62f88c9b12eb8f9a32d634f6" =
      hexlify (userOpDigest 10 (samplePacked sampleDeployment sampleCall)).bytes := by
    rw [sampleDigest]
    decide +kernel
  have upper : asciiLower "0x760C4FA7A9EDCDA6F93349CEC323B2D1C756A99D62F88C9B12EB8F9A32D634F6" =
      hexlify (userOpDigest 10 (samplePacked sampleDeployment sampleCall)).bytes := by
    rw [sampleDigest]
    decide +kernel
  have token : Spells "0xaAaAaaaaaaaaaaaaaaaaaaaaaaaaaaaaaaaaAaAa" (sampleAddress 0xaa) := by
    unfold Spells
    decide +kernel
  have ten : quantity (.num (JsNumber.ofInt 10)) = some 10 := by decide +kernel
  have used : plainParams.used = preimages 10 (samplePacked sampleDeployment sampleCall) :=
    used_of_packed ten (sampleOperation_packed sampleDeployment sampleCall spelled hex)
  have used' : respelledParams.used = preimages 10 (samplePacked sampleDeployment sampleCall) :=
    used_of_packed ten (sampleOperation_packed sampleDeployment sampleCall respelled decimal)
  have apart : Distinguishes keccak256 (plainParams.used ++ respelledParams.used) := by
    rw [used, used']
    exact samplePreimages_apart.mono (by simp)
  exact (digest_fixes_claim (sampleParams_accepted spelled hex lower (.inr token))
    (sampleParams_accepted respelled decimal upper (.inl rfl)) (lower.trans upper.symm) apart).2

end XochiSdk.Signer.ClaimVerify
