import XochiSdk.Js.HexCase
import XochiSdk.Signer.ClaimVerify

/-!
# What an accepted claim moves

A served operation is accepted exactly where it is the claim the client knows of, on the packed
operation that the digest is over.
-/

namespace XochiSdk.Signer.ClaimVerify

open XochiSdk.Js XochiSdk.Library Erc4337

/-- The text spells the address, in any letter case. -/
def Spells (s : String) (a : Bytes 20) : Prop := asciiLower s = hexlify a.bytes

/-- The address of the v0.8 EntryPoint. -/
def entryPointV08 : Bytes 20 :=
  ⟨[0x43, 0x37, 0x08, 0x4d, 0x9e, 0x25, 0x5f, 0xf0, 0x70, 0x24, 0x61, 0xcf, 0x88, 0x95, 0xce,
    0x9e, 0x3b, 0x5f, 0xf1, 0x08], rfl⟩

/-! ## Letter case -/

/-- A letter whose lower case is a hex digit is one. -/
theorem isHexDigit_lower {c : Char} (h : isHexDigit (asciiLowerChar c) = true) :
    isHexDigit c = true := by
  unfold asciiLowerChar at h
  split at h
  · next capital =>
    have known : ∀ n < 91, 65 ≤ n → isHexDigit (Char.ofNat (n + 32)) = true →
        isHexDigit (Char.ofNat n) = true := by decide
    simp only [Bool.and_eq_true, decide_eq_true_eq] at capital
    have low : 65 ≤ c.toNat := capital.1
    have high : c.toNat ≤ 90 := capital.2
    have := known c.toNat (by omega) low h
    rwa [Char.ofNat_toNat] at this
  · exact h

theorem spells_of_hexBytes {s : String} {a : Bytes 20} (h : hexBytes 20 s = some a) :
    Spells s a :=
  (hexBytes_lower h (hexBytes_hexlify a)).trans (asciiLower_hexlify a.bytes)

theorem Spells.inj {s : String} {a b : Bytes 20} (ha : Spells s a) (hb : Spells s b) : a = b := by
  have same := congrArg getBytes (Eq.trans (Eq.symm ha) hb)
  rw [getBytes_hexlify, getBytes_hexlify, Option.some.injEq] at same
  exact Bytes.ext same

/-- The characters of a text that spells an address. -/
theorem Spells.shape {s : String} {a : Bytes 20} (h : Spells s a) :
    ∃ x cs, s.toList = '0' :: x :: cs ∧ asciiLowerChar x = 'x' ∧ cs.length = 40 ∧
      ∀ c ∈ cs, isHexDigit c = true := by
  obtain ⟨digits, length, -⟩ := pairBytes_printed a.bytes
  have chars : s.toList.map asciiLowerChar = '0' :: 'x' :: a.bytes.flatMap byteChars := by
    have := congrArg String.toList h
    rwa [asciiLower, String.toList_ofList, toList_hexlify] at this
  obtain ⟨z, rest, shape, zero, tail⟩ := List.map_eq_cons_iff.mp chars
  obtain ⟨x, cs, shape', letter, digits'⟩ := List.map_eq_cons_iff.mp tail
  have first : z = '0' := by
    have hex : isHexDigit z = true := isHexDigit_lower (by rw [zero]; rfl)
    have known : (hexChars.all fun c => decide (asciiLowerChar c = '0' → c = '0')) = true := by
      decide
    exact of_decide_eq_true (hexChars_all known hex) zero
  refine ⟨x, cs, by rw [shape, shape', first], letter, ?_, ?_⟩
  · rw [← List.length_map asciiLowerChar, digits', length, a.length_bytes]
  · intro c hc
    refine isHexDigit_lower (digits _ ?_)
    rw [← digits']
    exact List.mem_map_of_mem hc

theorem Spells.isHexText {s : String} {a : Bytes 20} (h : Spells s a) : isHexText s = true := by
  obtain ⟨x, cs, shape, letter, length, digits⟩ := h.shape
  have either : x = 'x' ∨ x = 'X' := by
    unfold asciiLowerChar at letter
    split at letter
    · next capital =>
      have known : ∀ n < 91, 65 ≤ n → Char.ofNat (n + 32) = 'x' → Char.ofNat n = 'X' := by
        decide
      simp only [Bool.and_eq_true, decide_eq_true_eq] at capital
      have low : 65 ≤ x.toNat := capital.1
      have high : x.toNat ≤ 90 := capital.2
      have := known x.toNat (by omega) low letter
      rw [Char.ofNat_toNat] at this
      exact .inr this
    · exact .inl letter
  have filled : cs.isEmpty = false := by
    cases cs with
    | nil => cases length
    | cons c cs => rfl
  unfold Js.isHexText
  rw [shape]
  simpa [filled] using ⟨either, digits⟩

/-- The comparison of two texts, one of which spells an address. -/
theorem sameAddressish_spells {s t : String} {a : Bytes 20} (hs : Spells s a) :
    sameAddressish s t = true ↔ Spells t a := by
  rw [sameAddressish_iff]
  unfold normAddressish
  rw [if_pos hs.isHexText, hs]
  constructor
  · intro same
    split at same
    · exact same.symm
    · rw [Spells, ← same, asciiLower_hexlify]
  · intro ht
    rw [if_pos ht.isHexText, ht]

theorem checksum_spells [Ethers] (a : Bytes 20) : Spells (Ethers.checksum a) a :=
  Ethers.checksum_lower a

/-! ## Chains -/

theorem quantity_num {x : JsNumber} {n : Nat} :
    quantity (.num x) = some n ↔ x.value = some (n : ℚ) ∧ n ≤ 2 ^ 53 - 1 := by
  simp only [quantity, safeInteger, JsNumber.toInteger, Option.bind_eq_some_iff]
  constructor
  · rintro ⟨k, ⟨m, ⟨q, value, whole⟩, safe⟩, positive⟩
    split at whole
    · next integral =>
      cases whole
      split at safe
      · next small =>
        cases safe
        split at positive
        · cases positive
        · next nonneg =>
          cases positive
          obtain ⟨m, num⟩ := Int.eq_ofNat_of_zero_le (show 0 ≤ q.num by omega)
          have exact := Rat.coe_int_num_of_den_eq_one integral
          rw [num, Int.cast_natCast] at exact
          rw [num, Int.toNat_natCast]
          exact ⟨by rw [value, exact], by omega⟩
      · cases safe
    · cases whole
  · rintro ⟨value, small⟩
    refine ⟨n, ⟨n, ⟨n, value, ?_⟩, ?_⟩, ?_⟩
    · rw [if_pos (Rat.den_natCast n), Rat.num_natCast]
    · rw [if_pos (by simpa using small)]
    · rw [if_neg (by omega), Int.toNat_natCast]

theorem text_of_quantity {x : JsNumber} {n : Nat} (h : quantity (.num x) = some n) :
    x.text = toString (n : Int) := by
  obtain ⟨value, small⟩ := quantity_num.mp h
  refine x.text_of_safe n ?_ (by simp only [Int.natAbs_natCast]; omega)
  rw [value, Int.cast_natCast]

theorem bigInt_repr (n : Nat) : bigInt n.repr = some (n : Int) := by
  have read := uintSpelling_repr n true
  change (if isDecimal n.repr then bigInt n.repr else none) = _ at read
  split at read
  · exact read
  · cases read

theorem asBigInt_quantity {x : JsNumber} {n : Nat} (h : quantity (.num x) = some n) :
    (Value.num x).asBigInt = some (n : Int) := by
  change bigInt x.text = _
  rw [text_of_quantity h]
  exact bigInt_repr n

/-- A number that is the quantity `n` is strictly equal to those that are. -/
theorem strictEq_quantity {x y : JsNumber} {n : Nat} (h : quantity (.num x) = some n) :
    (Value.num x).strictEq (.num y) = true ↔ quantity (.num y) = some n := by
  obtain ⟨value, small⟩ := quantity_num.mp h
  have finite : x.isFinite = true := by rw [JsNumber.isFinite, value]; rfl
  have number : (x.text != "NaN") = true := by
    rw [bne_iff_ne]
    intro nan
    have read := bigInt_repr n
    rw [← show x.text = n.repr from text_of_quantity h, nan,
      show bigInt "NaN" = none by decide] at read
    cases read
  simp only [Value.strictEq, number, finite, Bool.true_and, Bool.true_or, Bool.and_true,
    beq_iff_eq, quantity_num, value]
  exact ⟨fun same => ⟨same.symm, small⟩, fun same => same.1.symm⟩

/-! ## Outcomes -/

theorem refuseIf_ok {bad : Bool} {message : String} {u : Unit} :
    refuseIf bad message = .ok u ↔ bad = false := by
  cases bad <;> simp [refuseIf]

theorem refused_ok {α : Type} {x : UserOp α} {a : α} : refused x = .ok a ↔ x = .ok a := by
  match x with
  | .ok b => simp [refused]
  | .error (.userOperation _) => simp [refused]
  | .error (.unexpected _) => simp [refused]

theorem claimText_ok {x : Value} {s : String} : claimText x = .ok s ↔ x.text = some s := by
  unfold claimText
  split
  · next t read => simp [read]
  · next read => simp [read]

section Law

variable [CallCoder] [Ethers]

/-! ## The claim an operation is -/

/-- The digest of a packed operation, on a chain. -/
def userOpDigest (chain : Nat) (op : PackedUserOperation) : Word :=
  typedDigest (hashWords (separatorWords chain entryPointV08)) (hashWords (structWords op))

/-- A sweep of what one stealth payment settled. -/
structure StealthClaim where
  chain : Nat
  op : PackedUserOperation
  token : Bytes 20
  recipient : Bytes 20
  amount : Nat
  factory : Bytes 20
  owner : Bytes 20
  salt : Nat

/-- The operation is the claim: its one call transfers the amount, with no native value, the
account is deployed for the owner, and another account pays the gas. -/
structure StealthClaim.Stated (c : StealthClaim) : Prop where
  call : ∃ outer rest, c.op.callData = simpleAccountExecuteSelector ++ outer ∧
    CallCoder.call outer = some (c.token, 0, erc20TransferSelector ++ rest) ∧
    CallCoder.pair rest = some (c.recipient, c.amount)
  deployment : ∃ rest, c.op.initCode =
      c.factory.bytes ++ (simpleAccountCreateAccountSelector ++ rest) ∧
    CallCoder.pair rest = some (c.owner, c.salt)
  sponsored : c.op.paymasterAndData ≠ []

/-- The claim is the one the client knows of, and the one it is asked to sign. -/
structure StealthClaim.Expected (c : StealthClaim) (p : VerifyClaimUserOpParams)
    (announced : ClaimAnnouncement) : Prop where
  packed : pack p.userOperation = .ok c.op
  entryPoint : ∃ text, p.entryPoint = some text ∧ hexBytes 20 text = some entryPointV08
  digest : asciiLower p.servedUserOpHash = hexlify (userOpDigest c.chain c.op).bytes
  served : quantity (.num p.servedChainId) = some c.chain
  scanned : quantity (.num p.expectedChainId) = some c.chain
  account : Spells p.counterfactualAddress c.op.sender
  recipient : Spells p.recipientAddress c.recipient
  owner : Spells p.expectedOwner c.owner
  token : announced.token = "" ∨ Spells announced.token c.token
  factory : Spells announced.factory c.factory
  salt : announced.salt = c.salt

omit [Ethers] in
/-- An operation is one claim. -/
theorem StealthClaim.Stated.inj {c d : StealthClaim} (hc : c.Stated) (hd : d.Stated)
    (chain : c.chain = d.chain) (op : c.op = d.op) : c = d := by
  obtain ⟨outer, rest, shape, call, pair⟩ := hc.call
  obtain ⟨outer', rest', shape', call', pair'⟩ := hd.call
  obtain ⟨data, init, deploy⟩ := hc.deployment
  obtain ⟨data', init', deploy'⟩ := hd.deployment
  rw [op, shape'] at shape
  have outers := List.append_cancel_left shape
  rw [← outers, call', Option.some.injEq, Prod.mk.injEq, Prod.mk.injEq] at call
  obtain ⟨tokens, -, inners⟩ := call
  rw [← List.append_cancel_left inners, pair', Option.some.injEq, Prod.mk.injEq] at pair
  rw [op, init'] at init
  obtain ⟨factories, calls⟩ := Bytes.join_cons_inj init
  rw [← List.append_cancel_left calls, deploy', Option.some.injEq, Prod.mk.injEq] at deploy
  cases c
  cases d
  simp only [StealthClaim.mk.injEq]
  exact ⟨chain, op, tokens.symm, pair.1.symm, pair.2.symm, factories.symm, deploy.1.symm,
    deploy.2.symm⟩

/-! ## Acceptance -/

omit [CallCoder] in
/-- The transfer is the one asked for, where the token is the announced one. -/
theorem checkTransfer_ok {p : VerifyClaimUserOpParams} {announced : ClaimAnnouncement}
    {d : DecodedErc20TransferCall} {token : Bytes 20} {amount : Nat} :
    checkTransfer p.userOperation (p.expectation announced) d = .ok (.verified token amount) ↔
      Spells p.recipientAddress d.to_ ∧ d.value = 0 ∧
        (p.userOperation.member "paymaster").isNullish = false ∧
        (announced.token = "" ∨ Spells announced.token d.token) ∧
        d.token = token ∧ d.amount = amount := by
  have recipient := @sameAddressish_spells _ p.recipientAddress _ (checksum_spells d.to_)
  have tokens := @sameAddressish_spells _ announced.token _ (checksum_spells d.token)
  simp only [checkTransfer, VerifyClaimUserOpParams.expectation, Outcome.bind_ok, Outcome.pure_ok,
    refuseIf_ok, ClaimVerification.verified.injEq, exists_const, Bool.not_eq_false', recipient,
    Bool.and_eq_false_imp, tokens, bne_iff_ne, ne_eq, bne_eq_false_iff_eq, or_iff_not_imp_left]

/-- The operation is the sender's, on the scanned chain, and its call is the transfer. -/
theorem checkBound_ok {p : VerifyClaimUserOpParams} {announced : ClaimAnnouncement}
    {packed : PackedUserOperation} {chain : Nat} {token : Bytes 20} {amount : Nat}
    (packed_ok : pack p.userOperation = .ok packed)
    (served : quantity (.num p.servedChainId) = some chain)
    (scanned : quantity (.num p.expectedChainId) = some chain) :
    checkBound p.prepared (p.expectation announced) = .ok (.verified token amount) ↔
      Spells p.counterfactualAddress packed.sender ∧
        packed.paymasterAndData ≠ [] ∧
        (announced.token = "" ∨ Spells announced.token token) ∧
        ∃ recipient outer rest, packed.callData = simpleAccountExecuteSelector ++ outer ∧
          CallCoder.call outer = some (token, 0, erc20TransferSelector ++ rest) ∧
          CallCoder.pair rest = some (recipient, amount) ∧
          Spells p.recipientAddress recipient := by
  obtain ⟨sender, -, ⟨data, data_ok, bytes⟩, sponsor⟩ := pack_ok packed_ok
  obtain ⟨text, member, spelled⟩ := toAddress_ok.mp sender
  have sent : claimText ((p.userOperation.member "sender").orElse (.str "")) = .ok text :=
    claimText_ok.mpr (by rw [member]; rfl)
  have account := @sameAddressish_spells _ p.counterfactualAddress _ (spells_of_hexBytes spelled)
  have chains : sameNumeric (.num p.servedChainId) (.num p.expectedChainId) = true :=
    sameNumeric_iff.mpr ⟨chain, asBigInt_quantity served, asBigInt_quantity scanned⟩
  have sponsored := paymasterAndDataOf_ok sponsor
  have transfers {d : DecodedErc20TransferCall} :
      decodeErc20TransferExecute (p.userOperation.member "callData") = .ok d ↔
      ∃ outer rest, packed.callData = simpleAccountExecuteSelector ++ outer ∧
        CallCoder.call outer = some (d.token, d.value, erc20TransferSelector ++ rest) ∧
        CallCoder.pair rest = some (d.to_, d.amount) := by
    rw [decodeErc20TransferExecute_ok]
    simp only [data_ok, Except.ok.injEq, exists_eq_left', bytes]
  have shape : checkBound p.prepared (p.expectation announced) = .ok (.verified token amount) ↔
      Spells p.counterfactualAddress packed.sender ∧ ∃ d,
        decodeErc20TransferExecute (p.userOperation.member "callData") = .ok d ∧
        checkTransfer p.userOperation (p.expectation announced) d =
          .ok (.verified token amount) := by
    simp only [checkBound, VerifyClaimUserOpParams.prepared, Outcome.bind_ok, sent, Except.ok.injEq,
      exists_eq_left', refuseIf_ok, exists_const, Bool.not_eq_false']
    rw [show (p.expectation announced).counterfactualAddress = p.counterfactualAddress from rfl,
      show (p.expectation announced).settlementChainId = .num p.expectedChainId from rfl, account,
      if_neg (by simp [Value.isNullish])]
    simp only [Outcome.bind_ok, refuseIf_ok, exists_const, chains, Bool.not_true, true_and,
      refused_ok]
  rw [shape, sponsored]
  refine and_congr_right fun _ => ?_
  simp only [transfers, checkTransfer_ok]
  constructor
  · rintro ⟨⟨_, _, recipient, _⟩, ⟨outer, rest, starts, call, pair⟩, spelled, rfl, paid, tokens,
      rfl, rfl⟩
    exact ⟨paid, tokens, recipient, outer, rest, starts, call, pair, spelled⟩
  · rintro ⟨paid, tokens, recipient, outer, rest, starts, call, pair, spelled⟩
    exact ⟨⟨token, 0, recipient, amount⟩, ⟨outer, rest, starts, call, pair⟩, spelled, rfl, paid,
      tokens, rfl, rfl⟩

omit [CallCoder] [Ethers] in
theorem entryPoint_truthy {entryPoint : Option String} {text : String} {a : Bytes 20}
    (named : entryPoint = some text) (spelled : hexBytes 20 text = some a) :
    (Value.ofText entryPoint).truthy = true := by
  have filled : text ≠ "" := by
    rintro rfl
    rw [show hexBytes 20 "" = none by decide] at spelled
    cases spelled
  rw [named]
  simp [Value.ofText, Value.truthy, filled]

/-- The protocol half accepts an operation that the served digest is the hash of. -/
theorem assertPrepared_ok {p : VerifyClaimUserOpParams} {announced : ClaimAnnouncement}
    {token : Bytes 20} {amount : Nat} :
    assertPreparedClaimMatchesRequest p.prepared (p.expectation announced) =
        .ok (.verified token amount) ↔
      ∃ chain packed text, p.entryPoint = some text ∧ hexBytes 20 text = some entryPointV08 ∧
        quantity (.num p.servedChainId) = some chain ∧ pack p.userOperation = .ok packed ∧
        asciiLower p.servedUserOpHash = hexlify (userOpDigest chain packed).bytes ∧
        checkBound p.prepared (p.expectation announced) = .ok (.verified token amount) := by
  have pinned {text : String} {a : Bytes 20} (spelled : hexBytes 20 text = some a) :
      asciiLower text = asciiLower entryPointV08Address ↔ a = entryPointV08 := by
    have own : asciiLower entryPointV08Address = hexlify entryPointV08.bytes := by decide
    rw [own]
    constructor
    · exact fun lower => (spells_of_hexBytes spelled).inj lower
    · rintro rfl
      exact spells_of_hexBytes spelled
  have fatal (reason : String) :
      gap (p.expectation announced) reason ≠ .ok (.verified token amount) := by
    simp [gap, VerifyClaimUserOpParams.expectation]
  unfold assertPreparedClaimMatchesRequest
  constructor
  · intro h
    split at h
    · exact absurd h (fatal _)
    · next present =>
      simp only [VerifyClaimUserOpParams.prepared, Bool.or_eq_true, Bool.not_eq_true',
        not_or, Bool.not_eq_false] at present
      simp only [Outcome.bind_ok, claimText_ok, refuseIf_ok, exists_const, refused_ok,
        bne_eq_false_iff_eq] at h
      obtain ⟨text, text_ok, entry, -, w, hash, served, served_ok, digest, rest⟩ := h
      obtain ⟨chain, address, packed, read, -, spelled, packed_ok, rfl⟩ :=
        computeUserOpHash_ok.mp hash
      obtain rfl := (pinned spelled).mp entry
      have named : p.entryPoint = some text := by
        cases shown : p.entryPoint with
        | none => rw [shown] at present; exact absurd present.2 (by decide)
        | some t =>
          simp only [VerifyClaimUserOpParams.prepared, shown, Value.ofText, Value.text] at text_ok
          exact text_ok
      cases served_ok
      refine ⟨chain, packed, text, named, spelled, read, packed_ok, ?_, rest⟩
      rw [asciiLower_hexlify] at digest
      exact digest.symm
  · rintro ⟨chain, packed, text, named, spelled, read, packed_ok, digest, rest⟩
    have op : p.prepared.userOperation.truthy = true := pack_truthy packed_ok
    have entry : p.prepared.entryPoint.truthy = true := entryPoint_truthy named spelled
    have present : ¬ ((!p.prepared.userOperation.truthy || !p.prepared.entryPoint.truthy) =
        true) := by
      rw [op, entry]
      decide
    have fits : chain ≤ uint256Max := by
      have small := (quantity_num.mp read).2
      unfold uint256Max
      omega
    rw [if_neg present]
    simp only [Outcome.bind_ok, claimText_ok, refuseIf_ok, exists_const, refused_ok,
      bne_eq_false_iff_eq]
    refine ⟨text, by simp [VerifyClaimUserOpParams.prepared, named, Value.ofText, Value.text],
      (pinned spelled).mpr rfl, rfl, userOpDigest chain packed,
      computeUserOpHash_ok.mpr ⟨chain, _, packed, read, fits, spelled, packed_ok, rfl⟩,
      p.servedUserOpHash, rfl, ?_, rest⟩
    rw [asciiLower_hexlify, digest]

/-- The deployment is the announced one, for the key about to sign. -/
theorem checkDeployment_ok {p : VerifyClaimUserOpParams} {announced a : ClaimAnnouncement}
    {packed : PackedUserOperation} {decoded d : VerifiedClaimTransfer}
    (packed_ok : pack p.userOperation = .ok packed) :
    checkDeployment p announced decoded = .ok d a ↔
      (∃ factory owner salt rest, packed.initCode =
          factory.bytes ++ (simpleAccountCreateAccountSelector ++ rest) ∧
        CallCoder.pair rest = some (owner, salt) ∧ Spells announced.factory factory ∧
        Spells p.expectedOwner owner ∧ announced.salt = (salt : Int)) ∧
      decoded = d ∧ announced = a := by
  obtain ⟨-, init, -, -⟩ := pack_ok packed_ok
  constructor
  · intro h
    unfold checkDeployment at h
    split at h
    · next factory member =>
      split at h
      · cases h
      · next same =>
        split at h
        · cases h
        · next deployment decode =>
          split at h
          · cases h
          · next owned =>
            split at h
            · cases h
            · next salted =>
              cases h
              simp only [bne_iff_ne, ne_eq, not_not] at same owned salted
              obtain ⟨data, data_ok, rest, shape, pair⟩ := decodeCreateAccountCall_ok.mp decode
              have present : ¬ (p.userOperation.member "factory").isNullish = true := by
                rw [member]
                exact Bool.false_ne_true
              simp only [initCodeOf, if_neg present, Outcome.bind_ok, Outcome.pure_ok, data_ok,
                Except.ok.injEq, exists_eq_left', shape] at init
              obtain ⟨address, address_ok, code⟩ := init
              obtain ⟨text, named, spelled⟩ := toAddress_ok.mp address_ok
              rw [member, Value.str.injEq] at named
              subst named
              refine ⟨⟨address, deployment.owner, deployment.salt, rest, code.symm, pair, ?_, ?_,
                salted.symm⟩, rfl, rfl⟩
              · exact same.symm.trans (spells_of_hexBytes spelled)
              · exact owned.symm.trans (checksum_spells deployment.owner)
    · cases h
  · rintro ⟨⟨factory, owner, salt, rest, code, pair, factories, owned, salted⟩, rfl, rfl⟩
    rw [code] at init
    obtain ⟨address, data, data_ok, bytes⟩ := initCodeOf_ok.mp init
    obtain ⟨text, member, spelled⟩ := toAddress_ok.mp address
    have decode : decodeCreateAccountCall (p.userOperation.member "factoryData") =
        .ok ⟨owner, salt⟩ :=
      decodeCreateAccountCall_ok.mpr ⟨data, data_ok, rest, bytes, pair⟩
    have same : asciiLower text = asciiLower announced.factory :=
      (spells_of_hexBytes spelled).trans (Eq.symm factories)
    have held : asciiLower (Ethers.checksum owner) = asciiLower p.expectedOwner :=
      Eq.trans (checksum_spells owner) (Eq.symm owned)
    unfold checkDeployment
    simp [member, decode, same, held, salted]

/-- An accepted operation is a claim: the one the client expects. -/
theorem claim_of_accepted {p : VerifyClaimUserOpParams} {decoded : VerifiedClaimTransfer}
    {announced : ClaimAnnouncement} (h : verifyClaimUserOp p = .ok decoded announced) :
    p.announced = some announced ∧ ∃ c : StealthClaim, c.Stated ∧ c.Expected p announced ∧
      decoded = ⟨c.token, c.amount⟩ := by
  unfold verifyClaimUserOp at h
  split at h
  · cases h
  · split at h
    · cases h
    · next told told_ok =>
      split at h
      · cases h
      · next same =>
        simp only [Bool.not_eq_true', Bool.not_eq_false] at same
        split at h
        · next token amount accepted =>
          obtain ⟨chain, packed, text, named, spelled, served, packed_ok, digest, bound⟩ :=
            assertPrepared_ok.mp accepted
          have scanned := (strictEq_quantity served).mp same
          obtain ⟨account, paid, tokens, recipient, outer, rest, starts, call, pair, sent⟩ :=
            (checkBound_ok packed_ok served scanned).mp bound
          obtain ⟨⟨factory, owner, salt, data, code, deploy, factories, owned, salted⟩, rfl,
            rfl⟩ := (checkDeployment_ok packed_ok).mp h
          exact ⟨told_ok, ⟨chain, packed, token, recipient, amount, factory, owner, salt⟩,
            ⟨⟨outer, rest, starts, call, pair⟩, ⟨data, code, deploy⟩, paid⟩,
            { packed := packed_ok, entryPoint := ⟨text, named, spelled⟩, digest, served, scanned,
              account, recipient := sent, owner := owned, token := tokens,
              factory := factories, salt := salted }, rfl⟩
        · cases h
        · cases h
        · cases h

/-- The claim the client expects is accepted. -/
theorem accepted_of_claim {p : VerifyClaimUserOpParams} {announced : ClaimAnnouncement}
    {c : StealthClaim} (told : p.announced = some announced) (stated : c.Stated)
    (expected : c.Expected p announced) :
    verifyClaimUserOp p = .ok ⟨c.token, c.amount⟩ announced := by
  obtain ⟨text, named, spelled⟩ := expected.entryPoint
  obtain ⟨outer, rest, starts, call, pair⟩ := stated.call
  obtain ⟨data, code, deploy⟩ := stated.deployment
  have present : ¬ ((!p.userOperation.truthy || !(Value.ofText p.entryPoint).truthy) =
      true) := by
    rw [pack_truthy expected.packed, entryPoint_truthy named spelled]
    decide
  have same := (strictEq_quantity expected.served).mpr expected.scanned
  have bound := (checkBound_ok expected.packed expected.served expected.scanned).mpr
    ⟨expected.account, stated.sponsored, expected.token, c.recipient, outer, rest, starts, call,
      pair, expected.recipient⟩
  have accepted := assertPrepared_ok.mpr ⟨c.chain, c.op, text, named, spelled, expected.served,
    expected.packed, expected.digest, bound⟩
  have deployed : checkDeployment p announced ⟨c.token, c.amount⟩ =
      .ok ⟨c.token, c.amount⟩ announced := (checkDeployment_ok expected.packed).mpr
    ⟨⟨c.factory, c.owner, c.salt, data, code, deploy, expected.factory, expected.owner,
      expected.salt⟩, rfl, rfl⟩
  unfold verifyClaimUserOp
  rw [if_neg present]
  simp only [told, same, Bool.not_true, Bool.false_eq_true, if_false, accepted]
  exact deployed

/-- A served operation is accepted exactly where, packed, it is a claim: the one the client
expects, under the digest it is asked to sign. What is shown of it is what its call moves. -/
theorem verifyClaimUserOp_ok_iff (p : VerifyClaimUserOpParams) (decoded : VerifiedClaimTransfer)
    (announced : ClaimAnnouncement) :
    verifyClaimUserOp p = .ok decoded announced ↔
      p.announced = some announced ∧ ∃ c : StealthClaim, c.Stated ∧ c.Expected p announced ∧
        decoded = ⟨c.token, c.amount⟩ := by
  constructor
  · exact claim_of_accepted
  · rintro ⟨told, c, stated, expected, rfl⟩
    exact accepted_of_claim told stated expected

end Law

end XochiSdk.Signer.ClaimVerify
