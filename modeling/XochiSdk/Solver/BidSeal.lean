import XochiSdk.Signer.AttestationText
import XochiSdk.Signer.Ethers
import XochiSdk.Solver.Bid

/-!
# One spelling of a seal

What the verifier of bids answers, class by class: a signed bid verifies, verified bids of one
digest and signature are one bid, and a bid that is spelled otherwise gets its documented class.
-/

namespace XochiSdk.Solver

open XochiSdk.Js XochiSdk.Library XochiSdk.Signer

/-! ## Spellings -/

theorem canonical_isDecimal {s : String} (h : isCanonicalDecimal s = true) :
    isDecimal s = true := by
  unfold isCanonicalDecimal at h
  unfold isDecimal
  split at h
  · cases h
  · next shape =>
    rw [shape]
    rfl
  · next c rest _ shape =>
    rw [shape]
    simp only [Bool.and_eq_true, decide_eq_true_eq] at h
    obtain ⟨⟨low, high⟩, digits⟩ := h
    have first : Js.isDigit c = true := by
      unfold Js.isDigit
      have : '0' ≤ c := Nat.le_trans (by decide) low
      simp [this, high]
    simp [first, digits]

theorem decimalValue_eq {s : String} (digits : ∀ c ∈ s.toList, Js.isDigit c = true) :
    decimalValue s = Nat.ofDigitChars 10 s.toList 0 :=
  readDigits_ten digits 0

theorem repr_digits (n : Nat) : ∀ c ∈ n.repr.toList, Js.isDigit c = true := by
  intro c mem
  rw [Nat.toList_repr] at mem
  rw [isDigit_iff]
  exact Nat.isDigit_of_mem_toDigits (by decide) (by decide) mem

@[simp] theorem decimalValue_repr (n : Nat) : decimalValue n.repr = n := by
  rw [decimalValue_eq (repr_digits n), Nat.toList_repr, Nat.ofDigitChars_ten_toDigits]

theorem digitChar_isDigit {c : Char} (digit : Js.isDigit c = true) :
    c.toNat - 48 < 10 ∧ (c.toNat - 48).digitChar = c := by
  simp only [Js.isDigit, Bool.and_eq_true, decide_eq_true_eq] at digit
  have low : 48 ≤ c.toNat := digit.1
  have high : c.toNat ≤ 57 := digit.2
  refine ⟨by omega, Char.toNat_inj.mp ?_⟩
  rw [Nat.toNat_digitChar_of_lt_ten (by omega)]
  omega

theorem toDigits_ofDigitChars {cs : List Char} {n : Nat} (positive : 0 < n)
    (digits : ∀ c ∈ cs, Js.isDigit c = true) :
    Nat.toDigits 10 n ++ cs = Nat.toDigits 10 (Nat.ofDigitChars 10 cs n) := by
  induction cs generalizing n with
  | nil => simp
  | cons c cs ih =>
    obtain ⟨small, shown⟩ := digitChar_isDigit (digits c (by simp))
    have next : Nat.toDigits 10 n ++ [c] = Nat.toDigits 10 (10 * n + (c.toNat - 48)) := by
      have joined := Nat.toDigits_append_toDigits (b := 10) (n := n) (d := c.toNat - 48)
        (by decide) positive small
      rw [Nat.toDigits_of_lt_base small, shown] at joined
      exact joined
    rw [Nat.ofDigitChars_cons]
    change _ = Nat.toDigits 10 (Nat.ofDigitChars 10 cs (10 * n + (c.toNat - 48)))
    rw [← ih (by omega) (fun d mem => digits d (by simp [mem])), ← next, List.append_assoc]
    rfl

/-- A canonical decimal is how its value prints. -/
theorem canonical_repr {s : String} (h : isCanonicalDecimal s = true) :
    (decimalValue s).repr = s := by
  have decimal := canonical_isDecimal h
  unfold isDecimal at decimal
  simp only [Bool.and_eq_true, List.all_eq_true] at decimal
  apply String.toList_injective
  rw [Nat.toList_repr, decimalValue_eq decimal.2]
  unfold isCanonicalDecimal at h
  split at h
  · cases h
  · next shape =>
    rw [shape]
    rfl
  · next c rest _ shape =>
    simp only [Bool.and_eq_true, decide_eq_true_eq] at h
    obtain ⟨⟨low, -⟩, -⟩ := h
    obtain ⟨small, shown⟩ := digitChar_isDigit (decimal.2 c (by rw [shape]; simp))
    have positive : 0 < c.toNat - 48 := by
      have : 49 ≤ c.toNat := low
      omega
    rw [shape, Nat.ofDigitChars_cons]
    change Nat.toDigits 10 (Nat.ofDigitChars 10 rest (10 * 0 + (c.toNat - 48))) = _
    rw [← toDigits_ofDigitChars (by omega) fun d mem => decimal.2 d (by rw [shape]; simp [mem]),
      Nat.mul_zero, Nat.zero_add, Nat.toDigits_of_lt_base small, shown]
    rfl

theorem repr_isDecimal (n : Nat) : isCanonicalDecimal n.repr = true := toDigits_canonical n

theorem lowerHex_isHex {n : Nat} {s : String} (h : isLowerHexOfLength n s = true) :
    isHexOfLength n s = true := by
  refine isHexOfLength_iff.mpr ?_
  unfold isLowerHexOfLength at h
  split at h
  · next rest shape =>
    simp only [Bool.and_eq_true, List.all_eq_true, beq_iff_eq] at h
    refine ⟨rest, shape, h.1, fun c mem => ?_⟩
    have lower := h.2 c mem
    unfold isLowerHexDigit at lower
    unfold isHexDigit
    rw [lower, Bool.true_or]
  · cases h

theorem asciiLowerChar_lower {c : Char} (h : isLowerHexDigit c = true) : asciiLowerChar c = c := by
  have bound : c.toNat < 128 := by
    simp only [isLowerHexDigit, Js.isDigit, Bool.or_eq_true, Bool.and_eq_true,
      decide_eq_true_eq] at h
    rcases h with h | h
    · exact Nat.lt_of_le_of_lt h.2 (by decide)
    · exact Nat.lt_of_le_of_lt h.2 (by decide)
  have known : ∀ n < 128, isLowerHexDigit (Char.ofNat n) = true →
      asciiLowerChar (Char.ofNat n) = Char.ofNat n := by decide
  have := known c.toNat bound
  rw [Char.ofNat_toNat] at this
  exact this h

theorem asciiLower_lowerHex {n : Nat} {s : String} (h : isLowerHexOfLength n s = true) :
    asciiLower s = s := by
  unfold isLowerHexOfLength at h
  split at h
  · next rest shape =>
    simp only [Bool.and_eq_true, List.all_eq_true] at h
    have rests : rest.map asciiLowerChar = rest := by
      conv_rhs => rw [← List.map_id rest]
      exact List.map_congr_left fun c mem => asciiLowerChar_lower (h.2 c mem)
    unfold asciiLower
    apply String.toList_injective
    rw [String.toList_ofList, shape, List.map_cons, List.map_cons, rests]
    rfl
  · cases h

/-- Lower-case hex of one value is one text. -/
theorem lowerHex_injective {n : Nat} {s t : String} {w : Bytes n}
    (hs : isLowerHexOfLength (2 * n) s = true) (ht : isLowerHexOfLength (2 * n) t = true)
    (readS : hexBytes n s = some w) (readT : hexBytes n t = some w) : s = t := by
  have same := hexBytes_lower readS readT
  rwa [asciiLower_lowerHex hs, asciiLower_lowerHex ht] at same

/-- What `hexlify` prints is lower-case. -/
theorem hexlify_lowerHex {n : Nat} (w : Bytes n) :
    isLowerHexOfLength (2 * n) (hexlify w.bytes) = true := by
  obtain ⟨-, length, -⟩ := pairBytes_printed w.bytes
  have digit : ∀ m < 16, isLowerHexDigit (hexDigit m) = true := by decide
  have digits : ∀ c ∈ w.bytes.flatMap byteChars, isLowerHexDigit c = true := by
    intro c mem
    obtain ⟨b, -, mem⟩ := List.mem_flatMap.mp mem
    have byte := b.toNat_lt
    simp only [byteChars, List.mem_cons, List.not_mem_nil, or_false] at mem
    rcases mem with rfl | rfl
    · exact digit _ (by omega)
    · exact digit _ (by omega)
  unfold isLowerHexOfLength
  rw [toList_hexlify]
  simp only [Bool.and_eq_true, beq_iff_eq, List.all_eq_true]
  exact ⟨by rw [length, w.length_bytes], digits⟩

/-! ## What can be signed -/

theorem isBidMs_iff {v : JsNumber} :
    isBidMs v = true ↔ ∃ n : Nat, v.toInteger = some (n : Int) ∧ n ≤ maxBidMs := by
  unfold isBidMs
  cases read : v.toInteger with
  | none => simp
  | some n =>
    simp only [Option.any_some, Bool.and_eq_true, decide_eq_true_eq, Option.some.injEq]
    constructor
    · rintro ⟨positive, bound⟩
      exact ⟨n.toNat, by omega, by omega⟩
    · rintro ⟨m, rfl, bound⟩
      omega

/-- A safe integer is one number. -/
theorem number_eq {x y : JsNumber} {n : Int} (hx : x.toInteger = some n)
    (hy : y.toInteger = some n) (safe : n.natAbs ≤ 2 ^ 53) : x = y := by
  have value {z : JsNumber} (h : z.toInteger = some n) : z.value = some (n : ℚ) := by
    unfold JsNumber.toInteger at h
    obtain ⟨q, is, h⟩ := Option.bind_eq_some_iff.mp h
    split at h
    · next whole =>
      cases h
      rw [is, Rat.den_eq_one_iff q |>.mp whole]
    · cases h
  have texts : x.text = y.text := by
    rw [x.text_of_safe n (value hx) safe, y.text_of_safe n (value hy) safe]
  have values := (value hx).trans (value hy).symm
  cases x
  cases y
  simp only at texts values
  subst texts values
  rfl

/-- Every check of `bidTypedData`. -/
structure Signable (m : SolverBidMessage) : Prop where
  orderId : isLowerHexOfLength 64 m.orderId = true
  auctionId : loneSurrogate m.auctionId = false
  intentId : loneSurrogate m.intentId = false
  output : isCanonicalDecimal m.output = true
  fits : decimalValue m.output ≤ uint256Max
  validUntilMs : isBidMs m.validUntilMs = true
  minExclusiveMs : isBidMs m.minExclusiveMs = true

theorem bidTypedData_of {m : SolverBidMessage} (h : Signable m) : bidTypedData m = .ok m := by
  unfold bidTypedData checkMs
  rw [h.orderId, h.auctionId, h.intentId, h.output, h.validUntilMs, h.minExclusiveMs]
  simp only [Bool.not_true, Bool.false_eq_true, if_false, if_true, Nat.not_lt.mpr h.fits]
  rfl

theorem bidTypedData_ok {m m' : SolverBidMessage} (h : bidTypedData m = .ok m') :
    m' = m ∧ Signable m := by
  unfold bidTypedData at h
  split at h
  · cases h
  next orderId =>
  split at h
  · cases h
  next auctionId =>
  split at h
  · cases h
  next intentId =>
  split at h
  · cases h
  next output =>
  split at h
  · cases h
  next fits =>
  unfold checkMs at h
  cases valid : isBidMs m.validUntilMs with
  | false =>
    rw [valid] at h
    cases h
  | true =>
    cases exclusive : isBidMs m.minExclusiveMs with
    | false =>
      rw [valid, exclusive] at h
      cases h
    | true =>
      rw [valid, exclusive] at h
      cases h
      exact ⟨rfl,
        { orderId := by simpa using orderId
          auctionId := by simpa using auctionId
          intentId := by simpa using intentId
          output := by simpa using output
          fits := Nat.not_lt.mp fits
          validUntilMs := valid
          minExclusiveMs := exclusive }⟩

/-- What a message reads as, member by member. -/
structure Reads (m : SolverBidMessage) where
  orderId : Word
  auctionId : List Char
  intentId : List Char
  validUntilMs : Nat
  minExclusiveMs : Nat
  orderId_eq : hexBytes 32 m.orderId = some orderId
  auctionId_eq : Utf16.decode m.auctionId = some auctionId
  intentId_eq : Utf16.decode m.intentId = some intentId
  validUntilMs_eq : m.validUntilMs.toInteger = some (validUntilMs : Int)
  minExclusiveMs_eq : m.minExclusiveMs.toInteger = some (minExclusiveMs : Int)
  validUntilMs_le : validUntilMs ≤ maxBidMs
  minExclusiveMs_le : minExclusiveMs ≤ maxBidMs

theorem decode_of {s : List UInt16} (h : loneSurrogate s = false) :
    ∃ cs, Utf16.decode s = some cs := by
  have whole := Utf16.decode_isSome s
  unfold loneSurrogate at h
  rw [h] at whole
  exact Option.isSome_iff_exists.mp whole

theorem Signable.reads {m : SolverBidMessage} (h : Signable m) : Nonempty (Reads m) := by
  obtain ⟨orderId, orderId_eq⟩ := hexBytes_isSome (n := 32) (lowerHex_isHex h.orderId)
  obtain ⟨auctionId, auctionId_eq⟩ := decode_of h.auctionId
  obtain ⟨intentId, intentId_eq⟩ := decode_of h.intentId
  obtain ⟨validUntilMs, valid_eq, valid_le⟩ := isBidMs_iff.mp h.validUntilMs
  obtain ⟨minExclusiveMs, exclusive_eq, exclusive_le⟩ := isBidMs_iff.mp h.minExclusiveMs
  exact ⟨⟨orderId, auctionId, intentId, validUntilMs, minExclusiveMs, orderId_eq, auctionId_eq,
    intentId_eq, valid_eq, exclusive_eq, valid_le, exclusive_le⟩⟩

section Digest

variable [Ethers]

/-- The words of a message that reads. -/
def Reads.words {m : SolverBidMessage} (r : Reads m) : List Word :=
  [ethersId solverBidType, r.orderId, ethersId (String.ofList r.auctionId),
    ethersId (String.ofList r.intentId), uintWord (decimalValue m.output),
    uintWord r.validUntilMs, uintWord r.minExclusiveMs]

theorem Reads.words_eq {m : SolverBidMessage} (r : Reads m) : solverBidWords m = some r.words := by
  unfold solverBidWords
  rw [r.orderId_eq, r.auctionId_eq, r.intentId_eq, r.validUntilMs_eq, r.minExclusiveMs_eq]
  rfl

theorem Reads.hash_eq {m : SolverBidMessage} (r : Reads m) : solverBidHash m =
    some (typedDigest (hashWords solverBidSeparatorWords) (hashWords r.words)) := by
  unfold solverBidHash
  rw [r.words_eq]
  rfl

/-- The digest depends on the output by its value alone. -/
theorem solverBidHash_output {m : SolverBidMessage} {output : String}
    (same : decimalValue output = decimalValue m.output) :
    solverBidHash { m with output } = solverBidHash m := by
  unfold solverBidHash solverBidWords
  simp only [same]

/-- What the digest of a message is hashed from. -/
def SolverBidMessage.used (m : SolverBidMessage) : List (List UInt8) :=
  ((Utf16.decode m.auctionId).toList ++ (Utf16.decode m.intentId).toList).map
      (fun cs => utf8 (String.ofList cs)) ++
    (solverBidWords m).toList.flatMap fun words => [encodeWords words,
      typedPreimage (hashWords solverBidSeparatorWords) (hashWords words)]

/-- Messages of one digest that can be signed are one message. -/
theorem Signable.eq_of_hash {m m' : SolverBidMessage} {digest : Word} (h : Signable m)
    (h' : Signable m') (is : solverBidHash m = some digest) (is' : solverBidHash m' = some digest)
    (apart : Distinguishes Ethers.keccak256 (m.used ++ m'.used)) : m = m' := by
  obtain ⟨r⟩ := h.reads
  obtain ⟨r'⟩ := h'.reads
  have sub : m.used ⊆ m.used ++ m'.used := List.subset_append_left _ _
  have sub' : m'.used ⊆ m.used ++ m'.used := List.subset_append_right _ _
  rw [r.hash_eq, Option.some.injEq] at is
  rw [r'.hash_eq, Option.some.injEq] at is'
  have typed := apart.eq (sub (by simp [SolverBidMessage.used, r.words_eq]))
    (sub' (by simp [SolverBidMessage.used, r'.words_eq])) (is.trans is'.symm)
  have structs := (typedPreimage_injective typed).2
  have words := encodeWords_injective (apart.eq
    (sub (by simp [SolverBidMessage.used, r.words_eq]))
    (sub' (by simp [SolverBidMessage.used, r'.words_eq])) structs)
  simp only [Reads.words, List.cons.injEq, and_true, true_and] at words
  obtain ⟨orderIds, auctionIds, intentIds, outputs, valids, exclusives⟩ := words
  have text {cs ds : List Char} (mem : utf8 (String.ofList cs) ∈ m.used)
      (mem' : utf8 (String.ofList ds) ∈ m'.used)
      (same : ethersId (String.ofList cs) = ethersId (String.ofList ds)) : cs = ds :=
    String.ofList_injective (utf8_injective (apart.eq (sub mem) (sub' mem') same))
  have auctions := text (by simp [SolverBidMessage.used, r.auctionId_eq])
    (by simp [SolverBidMessage.used, r'.auctionId_eq]) auctionIds
  have intents := text (by simp [SolverBidMessage.used, r.intentId_eq])
    (by simp [SolverBidMessage.used, r'.intentId_eq]) intentIds
  have small : maxBidMs ≤ uint256Max := by decide
  have safe {n : Nat} (bound : n ≤ maxBidMs) : (n : Int).natAbs ≤ 2 ^ 53 := by
    unfold maxBidMs at bound
    omega
  have valid := uintWord_inj (r.validUntilMs_le.trans small) (r'.validUntilMs_le.trans small) valids
  have exclusive :=
    uintWord_inj (r.minExclusiveMs_le.trans small) (r'.minExclusiveMs_le.trans small) exclusives
  have output := uintWord_inj h.fits h'.fits outputs
  have orders := r'.orderId_eq
  rw [← orderIds] at orders
  have auctionTexts := r'.auctionId_eq
  rw [← auctions] at auctionTexts
  have intentTexts := r'.intentId_eq
  rw [← intents] at intentTexts
  have validTimes := r'.validUntilMs_eq
  rw [← valid] at validTimes
  have exclusiveTimes := r'.minExclusiveMs_eq
  rw [← exclusive] at exclusiveTimes
  have outputTexts : m.output = m'.output := by
    rw [← canonical_repr h.output, ← canonical_repr h'.output, output]
  have sameOrder := lowerHex_injective h.orderId h'.orderId r.orderId_eq orders
  have sameAuction := Utf16.decode_injective r.auctionId_eq auctionTexts
  have sameIntent := Utf16.decode_injective r.intentId_eq intentTexts
  have sameValid := number_eq r.validUntilMs_eq validTimes (safe r.validUntilMs_le)
  have sameExclusive := number_eq r.minExclusiveMs_eq exclusiveTimes (safe r.minExclusiveMs_le)
  cases m
  cases m'
  simp only at sameOrder sameAuction sameIntent outputTexts sameValid sameExclusive
  rw [sameOrder, sameAuction, sameIntent, outputTexts, sameValid, sameExclusive]

end Digest

/-! ## What the verifier answers -/

section Verifier

variable [Ethers] [BidKeys] [Host]

/-- The fields of a bid can be hashed. -/
structure Encodable (bid : Bid) : Prop where
  output : isDecimal bid.output = true
  fits : decimalValue bid.output ≤ uint256Max
  orderId : isLowerHexOfLength 64 bid.orderId = true
  auctionId : loneSurrogate bid.auctionId = false
  intentId : loneSurrogate bid.intentId = false
  validUntilMs : isBidMs bid.validUntilMs = true
  minExclusiveMs : isBidMs bid.minExclusiveMs = true

/-- The message the verifier hashes. -/
def Bid.canonical (bid : Bid) : SolverBidMessage :=
  { bid.toSolverBidMessage with output := canonicalOutput bid.output }

/-- The address that the signature recovers to over the bid's own digest, in the one spelling. -/
def Recovers (bid : Bid) (a : Bytes 20) : Prop :=
  isCanonicalBidSignature bid.signature = true ∧ ∃ digest bytes,
    solverBidHash bid.toSolverBidMessage = some digest ∧
    hexBytes 65 bid.signature = some bytes ∧ BidKeys.recover digest bytes = .ok a

/-- The recovered signer is the claimed one. -/
def Claimed (bid : Bid) (a : Bytes 20) : Prop :=
  Host.toLowerCase (Ethers.checksum a) = Host.toLowerCase bid.solverId

omit [Ethers] [BidKeys] [Host] in
theorem Encodable.signable {bid : Bid} (h : Encodable bid) : Signable bid.canonical where
  orderId := h.orderId
  auctionId := h.auctionId
  intentId := h.intentId
  output := repr_isDecimal _
  fits := by
    change decimalValue (decimalValue bid.output).repr ≤ uint256Max
    rw [decimalValue_repr]
    exact h.fits
  validUntilMs := h.validUntilMs
  minExclusiveMs := h.minExclusiveMs

omit [Ethers] [BidKeys] [Host] in
theorem Encodable.of_signable {bid : Bid} (decimal : isDecimal bid.output = true)
    (h : Signable bid.canonical) : Encodable bid where
  output := decimal
  fits := by
    have fits := h.fits
    change decimalValue (decimalValue bid.output).repr ≤ uint256Max at fits
    rwa [decimalValue_repr] at fits
  orderId := h.orderId
  auctionId := h.auctionId
  intentId := h.intentId
  validUntilMs := h.validUntilMs
  minExclusiveMs := h.minExclusiveMs

omit [BidKeys] [Host] in
theorem canonical_hash (bid : Bid) :
    solverBidHash bid.canonical = solverBidHash bid.toSolverBidMessage :=
  solverBidHash_output (decimalValue_repr _)

omit [Host] in
/-- A recovery of the encodable bid's message, in the one spelling of a signature. -/
theorem verifyTypedData_cases {bid : Bid} (h : Encodable bid)
    (canonical : isCanonicalBidSignature bid.signature = true) :
    (∃ a, verifyTypedData bid.canonical bid.signature = .ok (Ethers.checksum a) ∧ Recovers bid a) ∨
    ((∃ message, verifyTypedData bid.canonical bid.signature = .error message) ∧
      ∀ a, ¬Recovers bid a) := by
  obtain ⟨r⟩ := h.signable.reads
  have hash := r.hash_eq
  obtain ⟨bytes, read⟩ := hexBytes_isSome (n := 65) (lowerHex_isHex canonical)
  unfold verifyTypedData
  rw [hash, read]
  simp only
  rw [canonical_hash] at hash
  cases answer : BidKeys.recover _ bytes with
  | ok a => exact .inl ⟨a, rfl, canonical, _, bytes, hash, read, answer⟩
  | error message =>
    refine .inr ⟨⟨message, rfl⟩, ?_⟩
    rintro a ⟨-, digest, bytes', hash', read', other⟩
    rw [hash, Option.some.injEq] at hash'
    rw [read, Option.some.injEq] at read'
    rw [← hash', ← read', answer] at other
    cases other

/-- What each answer says of the bid. -/
def Classified (bid : Bid) : BidVerification → Prop
  | .unencodable _ => ¬Encodable bid
  | .badSignature _ => Encodable bid ∧ ∀ a, ¬Recovers bid a
  | .signerMismatch signer _ => Encodable bid ∧
      ∃ a, Recovers bid a ∧ signer = Ethers.checksum a ∧ ¬Claimed bid a
  | .nonCanonical signer _ => Encodable bid ∧ isCanonicalDecimal bid.output = false ∧
      ∃ a, Recovers bid a ∧ signer = Ethers.checksum a ∧ Claimed bid a
  | .verified signer => Encodable bid ∧ isCanonicalDecimal bid.output = true ∧
      ∃ a, Recovers bid a ∧ signer = Ethers.checksum a ∧ Claimed bid a

theorem verify_classified (bid : Bid) : Classified bid (verifyBidDetailed bid) := by
  unfold verifyBidDetailed
  rw [show { bid.toSolverBidMessage with output := canonicalOutput bid.output } = bid.canonical
    from rfl]
  split
  · next undecimal =>
    rintro ⟨decimal, -⟩
    simp [decimal] at undecimal
  next decimal =>
  have decimal : isDecimal bid.output = true := by simpa using decimal
  split
  · next message refused =>
    intro encodable
    rw [bidTypedData_of encodable.signable] at refused
    cases refused
  next typedData accepted =>
  obtain ⟨rfl, signable⟩ := bidTypedData_ok accepted
  have encodable := Encodable.of_signable decimal signable
  split
  · next respelled =>
    refine ⟨encodable, ?_⟩
    rintro a ⟨canonical, -⟩
    simp [canonical] at respelled
  next canonical =>
  have canonical : isCanonicalBidSignature bid.signature = true := by simpa using canonical
  rcases verifyTypedData_cases encodable canonical with ⟨a, recovered, recovers⟩ |
    ⟨⟨message, failed⟩, none⟩
  · rw [recovered]
    simp only
    split
    · next other =>
      exact ⟨encodable, a, recovers, rfl, by simpa [Claimed] using other⟩
    next claimed =>
    have claimed : Claimed bid a := by simpa [Claimed] using claimed
    split
    · next odd => exact ⟨encodable, by simpa using odd, a, recovers, rfl, claimed⟩
    · next plain => exact ⟨encodable, by simpa using plain, a, recovers, rfl, claimed⟩
  · rw [failed]
    exact ⟨encodable, none⟩

omit [Host] in
theorem Recovers.unique {bid : Bid} {a a' : Bytes 20} (h : Recovers bid a) (h' : Recovers bid a') :
    a = a' := by
  obtain ⟨-, digest, bytes, hash, read, is⟩ := h
  obtain ⟨-, digest', bytes', hash', read', is'⟩ := h'
  rw [hash, Option.some.injEq] at hash'
  rw [read, Option.some.injEq] at read'
  rw [← hash', ← read', is] at is'
  exact Except.ok.inj is'

/-- A bid that the claimed signer's seal is over verifies, but for the spelling of its output. -/
theorem verify_claimed {bid : Bid} {a : Bytes 20} (encodable : Encodable bid)
    (recovers : Recovers bid a) (claimed : Claimed bid a) :
    (isCanonicalDecimal bid.output = true ∧
      verifyBidDetailed bid = .verified (Ethers.checksum a)) ∨
    (isCanonicalDecimal bid.output = false ∧
      ∃ detail, verifyBidDetailed bid = .nonCanonical (Ethers.checksum a) detail) := by
  have classified := verify_classified bid
  cases answer : verifyBidDetailed bid with
  | unencodable detail =>
    rw [answer] at classified
    exact absurd encodable classified
  | badSignature detail =>
    rw [answer] at classified
    exact absurd recovers (classified.2 a)
  | signerMismatch signer detail =>
    rw [answer] at classified
    obtain ⟨-, a', recovers', -, other⟩ := classified
    rw [← recovers.unique recovers'] at other
    exact absurd claimed other
  | nonCanonical signer detail =>
    rw [answer] at classified
    obtain ⟨-, odd, a', recovers', rfl, -⟩ := classified
    rw [recovers.unique recovers']
    exact .inr ⟨odd, detail, rfl⟩
  | verified signer =>
    rw [answer] at classified
    obtain ⟨-, plain, a', recovers', rfl, -⟩ := classified
    rw [recovers.unique recovers']
    exact .inl ⟨plain, rfl⟩

theorem verify_unencodable {bid : Bid} (h : ¬Encodable bid) :
    ∃ detail, verifyBidDetailed bid = .unencodable detail := by
  have classified := verify_classified bid
  cases answer : verifyBidDetailed bid with
  | unencodable detail => exact ⟨detail, rfl⟩
  | badSignature | signerMismatch | nonCanonical | verified =>
    rw [answer] at classified
    exact absurd classified.1 h

theorem verify_badSignature {bid : Bid} (encodable : Encodable bid)
    (none : ∀ a, ¬Recovers bid a) : ∃ detail, verifyBidDetailed bid = .badSignature detail := by
  have classified := verify_classified bid
  cases answer : verifyBidDetailed bid with
  | unencodable detail =>
    rw [answer] at classified
    exact absurd encodable classified
  | badSignature detail => exact ⟨detail, rfl⟩
  | signerMismatch signer detail =>
    rw [answer] at classified
    obtain ⟨-, a, recovers, -⟩ := classified
    exact absurd recovers (none a)
  | nonCanonical signer detail =>
    rw [answer] at classified
    obtain ⟨-, -, a, recovers, -⟩ := classified
    exact absurd recovers (none a)
  | verified signer =>
    rw [answer] at classified
    obtain ⟨-, -, a, recovers, -⟩ := classified
    exact absurd recovers (none a)

/-! ## One spelling of a seal -/

/-- Half the order of secp256k1. -/
def secp256k1HalfOrder : Nat :=
  0x7fffffffffffffffffffffffffffffff5d576e7357a4501ddfe92f46681b20a0

/-- `s` of `r || s || v` is the lower one. -/
def isLowS (signature : Bytes 65) : Bool :=
  decide (ofBytes ((signature.bytes.drop 32).take 32) ≤ secp256k1HalfOrder)

/-- What the verifier answers where a bid it verified is spelled otherwise. -/
structure Respelled (b : Bid) (signer : String) : Prop where
  zeros : ∀ n, 0 < n → ∃ detail, verifyBidDetailed
    { b with output := String.ofList (List.replicate n '0' ++ b.output.toList) } =
      .nonCanonical signer detail
  signature : ∀ s, isCanonicalBidSignature s = false →
    ∃ detail, verifyBidDetailed { b with signature := s } = .badSignature detail
  highS : ∀ s bytes, hexBytes 65 s = some bytes → isLowS bytes = false →
    ∃ detail, verifyBidDetailed { b with signature := s } = .badSignature detail
  auctionId : ∀ s, loneSurrogate s = true →
    ∃ detail, verifyBidDetailed { b with auctionId := s } = .unencodable detail
  intentId : ∀ s, loneSurrogate s = true →
    ∃ detail, verifyBidDetailed { b with intentId := s } = .unencodable detail
  validUntilMs : ∀ v, isBidMs v = false →
    ∃ detail, verifyBidDetailed { b with validUntilMs := v } = .unencodable detail
  minExclusiveMs : ∀ v, isBidMs v = false →
    ∃ detail, verifyBidDetailed { b with minExclusiveMs := v } = .unencodable detail

theorem verified_classified {b : Bid} {signer : String}
    (h : verifyBidDetailed b = .verified signer) : Encodable b ∧
      isCanonicalDecimal b.output = true ∧
      ∃ a, Recovers b a ∧ signer = Ethers.checksum a ∧ Claimed b a := by
  have classified := verify_classified b
  rw [h] at classified
  exact classified

omit [Ethers] [BidKeys] [Host] in
theorem zeros_output {n : Nat} {s : String} (decimal : isDecimal s = true) :
    isDecimal (String.ofList (List.replicate n '0' ++ s.toList)) = true ∧
      decimalValue (String.ofList (List.replicate n '0' ++ s.toList)) = decimalValue s := by
  unfold isDecimal at decimal
  simp only [Bool.and_eq_true, Bool.not_eq_true', List.isEmpty_eq_false_iff,
    List.all_eq_true] at decimal
  have digits : ∀ c ∈ List.replicate n '0' ++ s.toList, Js.isDigit c = true := by
    intro c mem
    rcases List.mem_append.mp mem with zero | mem
    · rw [List.eq_of_mem_replicate zero]
      rfl
    · exact decimal.2 c mem
  constructor
  · unfold isDecimal
    rw [String.toList_ofList]
    simp only [Bool.and_eq_true, Bool.not_eq_true', List.isEmpty_eq_false_iff, List.all_eq_true]
    exact ⟨by simp [decimal.1], digits⟩
  · rw [decimalValue_eq (by rwa [String.toList_ofList]), decimalValue_eq decimal.2,
      String.toList_ofList, Nat.ofDigitChars_append, Nat.ofDigitChars_replicate_zero,
      Nat.mul_zero]

omit [Ethers] [BidKeys] [Host] in
theorem zeros_not_canonical {n : Nat} {s : String} (positive : 0 < n)
    (decimal : isDecimal s = true) :
    isCanonicalDecimal (String.ofList (List.replicate n '0' ++ s.toList)) = false := by
  unfold isDecimal at decimal
  simp only [Bool.and_eq_true, Bool.not_eq_true', List.isEmpty_eq_false_iff] at decimal
  obtain ⟨m, rfl⟩ : ∃ m, n = m + 1 := ⟨n - 1, by omega⟩
  unfold isCanonicalDecimal
  rw [String.toList_ofList, List.replicate_succ, List.cons_append]
  have rest : List.replicate m '0' ++ s.toList ≠ [] := by simp [decimal.1]
  split
  · next shape => cases shape
  · next shape => exact absurd (List.cons.inj shape).2 rest
  · next c cs _ shape =>
    obtain ⟨rfl, -⟩ := List.cons.inj shape
    have low : decide ('1' ≤ '0') = false := by decide
    rw [low]
    rfl

theorem respelled {b : Bid} {signer : String}
    (lowS : ∀ (digest : Word) (signature : Bytes 65) (a : Bytes 20),
      BidKeys.recover digest signature = .ok a → isLowS signature = true)
    (h : verifyBidDetailed b = .verified signer) : Respelled b signer := by
  obtain ⟨encodable, canonical, a, recovers, rfl, claimed⟩ := verified_classified h
  refine
    { zeros := fun n positive => ?_
      signature := fun s odd => ?_
      highS := fun s bytes read high => ?_
      auctionId := fun s lone => verify_unencodable fun other => ?_
      intentId := fun s lone => verify_unencodable fun other => ?_
      validUntilMs := fun v out => verify_unencodable fun other => ?_
      minExclusiveMs := fun v out => verify_unencodable fun other => ?_ }
  · obtain ⟨decimal, value⟩ := zeros_output (n := n) encodable.output
    obtain ⟨spelled, digest, bytes, hash, read, is⟩ := recovers
    have encodable' : Encodable
        { b with output := String.ofList (List.replicate n '0' ++ b.output.toList) } :=
      { encodable with
        output := decimal
        fits := value.trans_le encodable.fits }
    have recovers' : Recovers
        { b with output := String.ofList (List.replicate n '0' ++ b.output.toList) } a :=
      ⟨spelled, digest, bytes, (solverBidHash_output value).trans hash, read, is⟩
    rcases verify_claimed encodable' recovers' claimed with ⟨plain, -⟩ | ⟨-, answered⟩
    · rw [zeros_not_canonical positive encodable.output] at plain
      cases plain
    · exact answered
  · refine verify_badSignature { encodable with } ?_
    rintro a ⟨spelled, -⟩
    rw [odd] at spelled
    cases spelled
  · refine verify_badSignature { encodable with } ?_
    rintro a ⟨-, digest, bytes', -, read', is⟩
    rw [read, Option.some.injEq] at read'
    have low := lowS digest bytes' a is
    rw [← read', high] at low
    cases low
  · have whole := other.auctionId
    rw [lone] at whole
    cases whole
  · have whole := other.intentId
    rw [lone] at whole
    cases whole
  · have within := other.validUntilMs
    rw [out] at within
    cases within
  · have within := other.minExclusiveMs
    rw [out] at within
    cases within

omit [BidKeys] [Host] in
theorem bidDigest_ok {m : SolverBidMessage} {digest : Word} (h : bidDigest m = .ok digest) :
    Signable m ∧ solverBidHash m = some digest := by
  unfold bidDigest at h
  cases accepted : bidTypedData m with
  | error e =>
    rw [accepted] at h
    cases h
  | ok message =>
    obtain ⟨rfl, signable⟩ := bidTypedData_ok accepted
    rw [accepted] at h
    simp only [bind, Except.bind] at h
    split at h
    · next hash =>
      cases h
      exact ⟨signable, hash⟩
    · cases h

/-- A bid that was signed verifies, as signed by the wallet. -/
theorem signBid_verified {wallet : BidKeys.Key} {announcement : IntentAnnouncement}
    {draft : BidDraft} {bid : Bid}
    (signs : ∀ (wallet : BidKeys.Key) (digest : Word),
      BidKeys.recover digest (BidKeys.sign wallet digest) = .ok (BidKeys.address wallet))
    (h : signBid wallet announcement draft = .ok bid) :
    verifyBidDetailed bid = .verified (Ethers.checksum (BidKeys.address wallet)) := by
  unfold signBid at h
  cases hashed : bidDigest (bidFields announcement draft) with
  | error e =>
    rw [hashed] at h
    cases h
  | ok digest =>
    rw [hashed] at h
    obtain ⟨signable, hash⟩ := bidDigest_ok hashed
    cases h
    have encodable : Encodable
        { bidFields announcement draft with
          solverId := Ethers.checksum (BidKeys.address wallet)
          signature := hexlify (BidKeys.sign wallet digest).bytes } :=
      { signable with output := canonical_isDecimal signable.output }
    have recovers : Recovers
        { bidFields announcement draft with
          solverId := Ethers.checksum (BidKeys.address wallet)
          signature := hexlify (BidKeys.sign wallet digest).bytes } (BidKeys.address wallet) :=
      ⟨hexlify_lowerHex _, digest, _, hash, hexBytes_hexlify _, signs wallet digest⟩
    rcases verify_claimed encodable recovers rfl with ⟨-, verified⟩ | ⟨odd, -⟩
    · exact verified
    · have plain := signable.output
      rw [odd] at plain
      cases plain

/-- Verified bids of one digest and one signature are one bid, but for their solver's letters. -/
theorem verified_unique {b b' : Bid} {signer signer' : String} {digest : Word}
    (h : verifyBidDetailed b = .verified signer) (h' : verifyBidDetailed b' = .verified signer')
    (is : bidDigest b.toSolverBidMessage = .ok digest)
    (is' : bidDigest b'.toSolverBidMessage = .ok digest)
    (bytesSame : hexBytes 65 b.signature = hexBytes 65 b'.signature)
    (apart : Distinguishes Ethers.keccak256
      (b.toSolverBidMessage.used ++ b'.toSolverBidMessage.used)) :
    b.toSolverBidMessage = b'.toSolverBidMessage ∧ b.signature = b'.signature ∧
      Host.toLowerCase b.solverId = Host.toLowerCase b'.solverId := by
  obtain ⟨-, -, a, ⟨spelled, d, bytes, hash, read, recovered⟩, -, claimed⟩ :=
    verified_classified h
  obtain ⟨-, -, a', ⟨spelled', d', bytes', hash', read', recovered'⟩, -, claimed'⟩ :=
    verified_classified h'
  obtain ⟨signable, digest_ok⟩ := bidDigest_ok is
  obtain ⟨signable', digest_ok'⟩ := bidDigest_ok is'
  rw [digest_ok, Option.some.injEq] at hash
  rw [digest_ok', Option.some.injEq] at hash'
  rw [read, read', Option.some.injEq] at bytesSame
  rw [← hash', hash, ← bytesSame, recovered, Except.ok.injEq] at recovered'
  rw [← bytesSame] at read'
  refine ⟨signable.eq_of_hash signable' digest_ok digest_ok' apart,
    lowerHex_injective (n := 65) spelled spelled' read read', ?_⟩
  rw [← claimed, ← claimed', recovered']

/-- One seal has one admissible spelling: what is signed verifies; verified bids of one digest and
signature differ in the letter case of the solver alone; any other spelling of a verified bid gets
the class that is documented for it; and every answer is the one its class describes. -/
theorem one_admissible_spelling
    (signs : ∀ (wallet : BidKeys.Key) (digest : Word),
      BidKeys.recover digest (BidKeys.sign wallet digest) = .ok (BidKeys.address wallet))
    (lowS : ∀ (digest : Word) (signature : Bytes 65) (a : Bytes 20),
      BidKeys.recover digest signature = .ok a → isLowS signature = true) :
    (∀ (wallet : BidKeys.Key) announcement draft bid,
      signBid wallet announcement draft = .ok bid →
        verifyBidDetailed bid = .verified (Ethers.checksum (BidKeys.address wallet))) ∧
    (∀ (b b' : Bid) (signer signer' : String) (digest : Word),
      verifyBidDetailed b = .verified signer → verifyBidDetailed b' = .verified signer' →
      bidDigest b.toSolverBidMessage = .ok digest → bidDigest b'.toSolverBidMessage = .ok digest →
      hexBytes 65 b.signature = hexBytes 65 b'.signature →
      Distinguishes Ethers.keccak256
        (b.toSolverBidMessage.used ++ b'.toSolverBidMessage.used) →
      b.toSolverBidMessage = b'.toSolverBidMessage ∧ b.signature = b'.signature ∧
        Host.toLowerCase b.solverId = Host.toLowerCase b'.solverId) ∧
    (∀ (b : Bid) (signer : String), verifyBidDetailed b = .verified signer →
      Respelled b signer) ∧
    ∀ b : Bid, Classified b (verifyBidDetailed b) :=
  ⟨fun _ _ _ _ => signBid_verified signs, fun _ _ _ _ _ => verified_unique,
    fun _ _ => respelled lowS, verify_classified⟩

end Verifier

/-! ## The baseline vector -/

def sampleBidSignature : Bytes 65 :=
  Bytes.ofNat 65 ((0x9747d7929f9ca437a3fc90814a99846f9927ce23dbfd9791a550511b9f63cb7f * 2 ^ 256 +
    0x41a9b8bd59129985be48e72ba83e75018ca60aa249ddb646d8975021ffe4f625) * 2 ^ 8 + 0x1c)

/-- One key, with its signature of one digest. -/
@[reducible] def sampleBidKeys : BidKeys where
  Key := Unit
  address _ := Bytes.ofNat 20 0x70997970c51812dc3a010c7d01b50e0d17dc79c8
  sign _ _ := sampleBidSignature
  recover _ signature :=
    if signature = sampleBidSignature then
      .ok (Bytes.ofNat 20 0x70997970c51812dc3a010c7d01b50e0d17dc79c8)
    else .error "invalid signature"

/-- The code units of an ASCII text. -/
def asciiUnits (s : String) : List UInt16 := s.toList.map fun c => UInt16.ofNat c.toNat

def sampleBidFields : SolverBidMessage where
  orderId := "0xe9f0165c274aefaeb888d41292fe8311c318c8b7ef7eaef285df9996e0f35f16"
  auctionId := asciiUnits "auction-0001"
  intentId := asciiUnits "intent-0001"
  output := "99700000"
  validUntilMs := .ofInt 1900000000000
  minExclusiveMs := .ofInt 30000

def sampleAnnouncement : IntentAnnouncement where
  orderId := sampleBidFields.orderId
  auctionId := sampleBidFields.auctionId
  intentId := sampleBidFields.intentId

def sampleDraft : BidDraft where
  output := sampleBidFields.output
  validUntilMs := sampleBidFields.validUntilMs
  minExclusiveMs := sampleBidFields.minExclusiveMs

/-- The published digest, the bid under it, and the bid with its output spelled otherwise. -/
theorem one_admissible_spelling_vector :
    letI := documentedEthers
    letI := sampleBidKeys
    letI := asciiHost
    bidDigest sampleBidFields =
      .ok (Bytes.ofNat 32 0xc2904b618e3ef7c3af08233dd5770fd12128e26e57cf09e8d537d0d479aab214) ∧
    ∃ bid, signBid () sampleAnnouncement sampleDraft = .ok bid ∧
      verifyBidDetailed bid = .verified "0x70997970C51812dc3A010C7d01b50e0d17dc79C8" ∧
      ∃ detail, verifyBidDetailed
        { bid with output := String.ofList (List.replicate 2 '0' ++ bid.output.toList) } =
          .nonCanonical "0x70997970C51812dc3A010C7d01b50e0d17dc79C8" detail := by
  let := documentedEthers
  let := sampleBidKeys
  let := asciiHost
  have signs (wallet : BidKeys.Key) (digest : Word) :
      BidKeys.recover digest (BidKeys.sign wallet digest) = .ok (BidKeys.address wallet) :=
    if_pos rfl
  have lowS (digest : Word) (signature : Bytes 65) (a : Bytes 20)
      (h : BidKeys.recover digest signature = .ok a) : isLowS signature = true := by
    change (if signature = sampleBidSignature then _ else _) = _ at h
    split at h
    · next same =>
      rw [same]
      decide +kernel
    · cases h
  have computed : bidDigest sampleBidFields =
        .ok (Bytes.ofNat 32 0xc2904b618e3ef7c3af08233dd5770fd12128e26e57cf09e8d537d0d479aab214) ∧
      Ethers.checksum (Bytes.ofNat 20 0x70997970c51812dc3a010c7d01b50e0d17dc79c8) =
        "0x70997970C51812dc3A010C7d01b50e0d17dc79C8" := by
    decide +kernel
  obtain ⟨digest, shown⟩ := computed
  have holds := one_admissible_spelling signs lowS
  have signed : signBid () sampleAnnouncement sampleDraft = .ok
      { sampleBidFields with
        solverId := "0x70997970C51812dc3A010C7d01b50e0d17dc79C8"
        signature := hexlify sampleBidSignature.bytes } := by
    unfold signBid
    change (bidDigest sampleBidFields >>= _) = _
    rw [digest, ← shown]
    rfl
  have verified := holds.1 () sampleAnnouncement sampleDraft _ signed
  rw [show Ethers.checksum (BidKeys.address ()) = _ from shown] at verified
  exact ⟨digest, _, signed, verified, (holds.2.2.1 _ _ verified).zeros 2 (by decide)⟩

end XochiSdk.Solver
