import XochiSdk.Signer.Primitives
import XochiSdk.Signer.Uint

/-!
# Value rules of the shielded encodings

`packages/signer/src/shielded-values.ts`: one refusal vocabulary, one parser for each kind of
value. A parser's result is the canonical value its text spells; two texts with one result
differ in letter case or in the spelling of a number alone.
-/

namespace XochiSdk.Signer

open XochiSdk.Js XochiSdk.Library

/-- BN254 scalar field order. -/
def aztecFieldModulus : Nat := 0x30644e72e131a029b85045b68181585d2833e84879b9709143e1f593f0000001

/-- Largest amount a shielded encoding admits. -/
def shieldedAmountMax : Nat := 2 ^ 128 - 1

/-- The rules that refuse: the shared ones, then those of the recipient and the acknowledgement
modules, then what `ethers` throws. -/
inductive RefusalCode where
  | notBytes32 | aztecZero | aztecOutOfField | amountNotCanonical | amountZero | amountOverMax
  | notEvmAddress | evmAddressZero | uintNotCanonical | uintOutOfRange | chainIdZero
  | environmentEmpty | digestZero | purposeMismatch
  | classNotPinned | signingKeyInvalid | ivpkInvalid | addressMismatch
  | sendersNotCanonical | sendersEmpty | backupFormatMismatch | bindingMismatch | nonceMismatch
  | challengeExpired | signatureInvalid | nonceReplayed | descriptorMismatch | recipientMismatch
  | networkMismatch | expiryMismatch | tokenMismatch | subjectMismatch
  | invalidArgument
  deriving DecidableEq, Repr

def RefusalCode.text : RefusalCode → String
  | notBytes32 => "not_bytes32"
  | aztecZero => "aztec_zero"
  | aztecOutOfField => "aztec_out_of_field"
  | amountNotCanonical => "amount_not_canonical"
  | amountZero => "amount_zero"
  | amountOverMax => "amount_over_max"
  | notEvmAddress => "not_evm_address"
  | evmAddressZero => "evm_address_zero"
  | uintNotCanonical => "uint_not_canonical"
  | uintOutOfRange => "uint_out_of_range"
  | chainIdZero => "chain_id_zero"
  | environmentEmpty => "environment_empty"
  | digestZero => "digest_zero"
  | purposeMismatch => "purpose_mismatch"
  | classNotPinned => "class_not_pinned"
  | signingKeyInvalid => "signing_key_invalid"
  | ivpkInvalid => "ivpk_invalid"
  | addressMismatch => "address_mismatch"
  | sendersNotCanonical => "senders_not_canonical"
  | sendersEmpty => "senders_empty"
  | backupFormatMismatch => "backup_format_mismatch"
  | bindingMismatch => "binding_mismatch"
  | nonceMismatch => "nonce_mismatch"
  | challengeExpired => "challenge_expired"
  | signatureInvalid => "signature_invalid"
  | nonceReplayed => "nonce_replayed"
  | descriptorMismatch => "descriptor_mismatch"
  | recipientMismatch => "recipient_mismatch"
  | networkMismatch => "network_mismatch"
  | expiryMismatch => "expiry_mismatch"
  | tokenMismatch => "token_mismatch"
  | subjectMismatch => "subject_mismatch"
  | invalidArgument => "INVALID_ARGUMENT"

/-- The module's own subclass of `RefusalError`, or what `ethers` threw. -/
inductive RefusalClass where
  | shielded
  | recipient
  | ack
  | readiness
  | ethers
  deriving DecidableEq, Repr

/-- A refused input: the rule, the input's field, the specifics. -/
structure RefusalError where
  name : RefusalClass
  code : RefusalCode
  field : String
  detail : String
  deriving DecidableEq, Repr

def RefusalError.message (e : RefusalError) : String :=
  s!"{e.field}: {e.code.text} ({e.detail})"

abbrev Checked (α : Type) := Except RefusalError α

/-- `refuser(E)`. -/
def refuser {α : Type} (name : RefusalClass) (code : RefusalCode) (field detail : String) :
    Checked α :=
  .error ⟨name, code, field, detail⟩

def refuseShielded {α : Type} (code : RefusalCode) (field detail : String) : Checked α :=
  refuser .shielded code field detail

/-- A value-rule refusal of `fn` raised again as `E`. -/
def withRefusalsAs {α : Type} (name : RefusalClass) (fn : Checked α) : Checked α :=
  fn.mapError fun e => if e.name = .shielded then { e with name } else e

/-- One rule of a parser. -/
def require (holds : Bool) (code : RefusalCode) (field detail : String) : Checked Unit :=
  if holds then .ok () else refuseShielded code field detail

def bytes32 (field value : String) : Checked Word :=
  match hexBytes 32 value with
  | some w => .ok w
  | none => refuseShielded .notBytes32 field s!"expected 0x + 64 hex, got {jsonString value}"

/-- Below the field order; zero allowed. -/
def aztecField (field value : String) : Checked Nat := do
  let w ← bytes32 field value
  require (w.toNat < aztecFieldModulus) .aztecOutOfField field "not below the BN254 modulus"
  pure w.toNat

/-- A nonzero field element. -/
def assertAztecBytes32 (field value : String) : Checked Word := do
  let w ← bytes32 field value
  require (w.toNat != 0) .aztecZero field "zero"
  require (w.toNat < aztecFieldModulus) .aztecOutOfField field "not below the BN254 modulus"
  pure w

/-- A canonical positive decimal text, at most `2 ^ 128 - 1`. -/
def parseShieldedAmount (field value : String) : Checked Nat := do
  require (isCanonicalDecimal value) .amountNotCanonical field
    s!"expected a canonical decimal, got {jsonString value}"
  let v := ((uintSpelling false (.text value)).getD 0).toNat
  require (v != 0) .amountZero field "zero"
  require (v ≤ shieldedAmountMax) .amountOverMax field "above 2^128 - 1"
  pure v

def evmAddress (field value : String) : Checked (Bytes 20) :=
  match hexBytes 20 value with
  | some a => do
    require (a.toNat != 0) .evmAddressZero field "zero address"
    pure a
  | none => refuseShielded .notEvmAddress field s!"expected 0x + 40 hex, got {jsonString value}"

def uint (field : String) (value : UintLike) (max : Nat) : Checked Nat :=
  match uintSpelling false value with
  | some v =>
    if 0 ≤ v ∧ v ≤ max then .ok v.toNat
    else refuseShielded .uintOutOfRange field s!"{v} outside [0, {max}]"
  | none => refuseShielded .uintNotCanonical field s!"got {jsonString value.shown}"

def chainId (field : String) (value : UintLike) : Checked Nat := do
  let v ← uint field value uint256Max
  require (v != 0) .chainIdZero field "zero (no virtual-chain stand-in)"
  pure v

/-- An Aztec value typed `uint256`: nonzero and in the field. -/
def aztecUint (field : String) (value : UintLike) : Checked Nat := do
  let v ← uint field value uint256Max
  require (v != 0) .aztecZero field "zero"
  require (v < aztecFieldModulus) .aztecOutOfField field "not below the BN254 modulus"
  pure v

def environmentHash [Ethers] (environment : String) : Checked Word := do
  require (environment != "") .environmentEmpty "environment" "a domain must name its environment"
  pure (ethersId environment)

/-! ## What an accepted text spells -/

theorem checked_bind {α β : Type} {x : Checked α} {f : α → Checked β} {b : β} :
    (x >>= f) = .ok b ↔ ∃ a, x = .ok a ∧ f a = .ok b := by
  cases x <;> simp [bind, Except.bind]

theorem require_ok {holds : Bool} {code : RefusalCode} {field detail : String} {u : Unit} :
    require holds code field detail = .ok u ↔ holds = true := by
  cases holds <;> simp [require, refuseShielded, refuser]

theorem pure_ok {α : Type} {a b : α} : (pure a : Checked α) = .ok b ↔ a = b := by
  simp [pure, Except.pure]

theorem withRefusalsAs_ok {α : Type} {name : RefusalClass} {fn : Checked α} {a : α} :
    withRefusalsAs name fn = .ok a ↔ fn = .ok a := by
  cases fn <;> simp [withRefusalsAs, Except.mapError]

/-- Two hex texts of one value. -/
def SameHex (s t : String) : Prop := asciiLower s = asciiLower t

/-- Two spellings of one integer. -/
def SameUint (x y : UintLike) : Prop := uintSpelling false x = uintSpelling false y

theorem bytes32_ok {field value : String} {w : Word} :
    bytes32 field value = .ok w ↔ hexBytes 32 value = some w := by
  unfold bytes32
  split <;> simp_all [refuseShielded, refuser]

theorem assertAztecBytes32_ok {field value : String} {w : Word}
    (h : assertAztecBytes32 field value = .ok w) : hexBytes 32 value = some w := by
  simp only [assertAztecBytes32, checked_bind, require_ok, exists_const, pure_ok] at h
  obtain ⟨w', read, _, _, same⟩ := h
  cases same
  exact bytes32_ok.mp read

theorem evmAddress_ok {field value : String} {a : Bytes 20} (h : evmAddress field value = .ok a) :
    hexBytes 20 value = some a := by
  unfold evmAddress at h
  split at h
  · next a' read =>
    simp only [checked_bind, require_ok, exists_and_left, pure_ok, exists_const] at h
    obtain ⟨_, same⟩ := h
    cases same
    exact read
  · cases h

theorem uint_ok {field : String} {value : UintLike} {max v : Nat}
    (h : uint field value max = .ok v) : uintSpelling false value = some (v : Int) ∧ v ≤ max := by
  unfold uint at h
  split at h
  · next n spelled =>
    split at h
    · next range =>
      cases h
      rw [spelled, Int.toNat_of_nonneg range.1]
      exact ⟨rfl, by omega⟩
    · cases h
  · cases h

theorem chainId_ok {field : String} {value : UintLike} {v : Nat}
    (h : chainId field value = .ok v) :
    uintSpelling false value = some (v : Int) ∧ 0 < v ∧ v ≤ uint256Max := by
  simp only [chainId, checked_bind, require_ok, exists_const, pure_ok] at h
  obtain ⟨v', read, nonzero, same⟩ := h
  cases same
  have := uint_ok read
  exact ⟨this.1, Nat.pos_of_ne_zero (by simpa using nonzero), this.2⟩

theorem aztecUint_ok {field : String} {value : UintLike} {v : Nat}
    (h : aztecUint field value = .ok v) :
    uintSpelling false value = some (v : Int) ∧ v ≤ uint256Max := by
  simp only [aztecUint, checked_bind, require_ok, exists_const, pure_ok] at h
  obtain ⟨v', read, _, _, same⟩ := h
  cases same
  exact uint_ok read

theorem parseShieldedAmount_ok {field value : String} {v : Nat}
    (h : parseShieldedAmount field value = .ok v) :
    uintSpelling false (.text value) = some (v : Int) ∧ v ≤ uint256Max := by
  simp only [parseShieldedAmount, checked_bind, require_ok, exists_const, pure_ok,
    bne_iff_ne, ne_eq, decide_eq_true_eq] at h
  obtain ⟨_, nonzero, bound, same⟩ := h
  cases same
  cases spelled : uintSpelling false (.text value) with
  | none => simp [spelled] at nonzero
  | some n =>
    rw [spelled, Option.getD_some] at nonzero bound
    have positive : 0 ≤ n := by omega
    rw [Option.getD_some, Int.toNat_of_nonneg positive]
    refine ⟨rfl, ?_⟩
    unfold shieldedAmountMax at bound
    unfold uint256Max
    omega

theorem environmentHash_ok [Ethers] {environment : String} {w : Word}
    (h : environmentHash environment = .ok w) : w = ethersId environment := by
  simp only [environmentHash, checked_bind, require_ok, exists_const, pure_ok] at h
  obtain ⟨_, same⟩ := h
  cases same
  rfl

/-! ## What a printed word is read as -/

@[simp] theorem bytes32_hex64 (field : String) (n : Nat) :
    bytes32 field (hex64 n) = .ok (.ofNat 32 n) := by
  rw [bytes32_ok]
  exact hexBytes_hexlify (Bytes.ofNat 32 n)

theorem toNat_word {n : Nat} (below : n < aztecFieldModulus) : (Bytes.ofNat 32 n).toNat = n := by
  rw [Bytes.toNat_ofNat]
  refine Nat.mod_eq_of_lt (below.trans ?_)
  decide

theorem aztecField_hex64 (field : String) {n : Nat} (below : n < aztecFieldModulus) :
    aztecField field (hex64 n) = .ok n := by
  simp only [aztecField, bytes32_hex64, checked_bind, require_ok, pure_ok, exists_const,
    decide_eq_true_eq]
  exact ⟨_, rfl, by rw [toNat_word below]; exact below, toNat_word below⟩

theorem assertAztecBytes32_hex64 (field : String) {n : Nat} (positive : n ≠ 0)
    (below : n < aztecFieldModulus) :
    assertAztecBytes32 field (hex64 n) = .ok (.ofNat 32 n) := by
  simp only [assertAztecBytes32, bytes32_hex64, checked_bind, require_ok, pure_ok, exists_const]
  refine ⟨_, rfl, ?_, ?_, rfl⟩
  · rw [toNat_word below]
    simpa using positive
  · rw [toNat_word below]
    simpa using below

theorem sameHex_of {n : Nat} {s t : String} {v w : Bytes n} (hs : hexBytes n s = some v)
    (ht : hexBytes n t = some w) (same : v = w) : SameHex s t := by
  subst same
  exact hexBytes_lower hs ht

theorem sameUint_of {x y : UintLike} {v w : Nat} (hx : uintSpelling false x = some (v : Int))
    (hy : uintSpelling false y = some (w : Int)) (same : v = w) : SameUint x y := by
  subst same
  exact hx.trans hy.symm

end XochiSdk.Signer
