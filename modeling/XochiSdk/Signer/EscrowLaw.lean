import XochiSdk.Signer.Escrow
import XochiSdk.Signer.XspDigests

/-!
# An accepted order binds the intent

What a returned order id says of the terms, the opening and the pull, and how far the id
decides the terms and the opening it was computed from.
-/

namespace XochiSdk.Signer

open XochiSdk.Js XochiSdk.Library

/-! ## The pin -/

/-- Every key names a chain, some key names this one, and all that do pin this nonzero
address. -/
structure Pinned (pin : Obj) (chain : Int) (escrow : String) : Prop where
  keys : ∀ entry ∈ pin, ∃ id, chainIdOfKey entry.1 = some id
  named : ∃ entry ∈ pin, chainIdOfKey entry.1 = some chain
  values : ∀ entry ∈ pin, chainIdOfKey entry.1 = some chain → ∃ s, entry.2 = .str s ∧
    isEvmAddress (trim s) = true ∧ (∃ c ∈ (trim s).toList.drop 2, c ≠ '0') ∧
      SameHex (trim s) escrow

theorem mapM_eachOk {ε α β : Type} {f : α → Except ε β} {l : List α} {r : List β}
    (h : l.mapM f = .ok r) : List.Forall₂ (fun a b => f a = .ok b) l r := by
  induction l generalizing r with
  | nil =>
    cases h
    exact .nil
  | cons a l ih =>
    rw [List.mapM_cons] at h
    obtain ⟨b, first, h⟩ := bind_ok.mp h
    obtain ⟨bs, rest, h⟩ := bind_ok.mp h
    cases h
    exact .cons first (ih rest)

theorem pinnedEscrowValues_ok {chain : Int} {pin : Obj} {values : List Value}
    (h : pinnedEscrowValues chain pin = .ok values) :
    (∀ entry ∈ pin, ∃ id, chainIdOfKey entry.1 = some id) ∧
      ∀ v, v ∈ values ↔ ∃ entry ∈ pin, chainIdOfKey entry.1 = some chain ∧ entry.2 = v := by
  induction pin generalizing values with
  | nil =>
    cases h
    simp
  | cons entry pin ih =>
    obtain ⟨key, value⟩ := entry
    unfold pinnedEscrowValues at h
    cases names : chainIdOfKey key with
    | none =>
      rw [names] at h
      cases h
    | some id =>
      rw [names] at h
      obtain ⟨rest, read, h⟩ := bind_ok.mp h
      obtain ⟨keys, listed⟩ := ih read
      cases h
      constructor
      · intro entry mem
        rcases List.mem_cons.mp mem with rfl | mem
        · exact ⟨id, names⟩
        · exact keys entry mem
      · intro v
        by_cases here : id = chain
        · subst here
          simp [names, listed, eq_comm]
        · simp [names, here, listed]

theorem readPinnedEscrow_ok {chain : Int} {value : Value} {v : String}
    (h : readPinnedEscrow chain value = .ok v) :
    ∃ s, value = .str s ∧ v = trim s ∧ isEvmAddress v = true ∧ ∃ c ∈ v.toList.drop 2, c ≠ '0' := by
  unfold readPinnedEscrow at h
  split at h
  · next s =>
    dsimp only at h
    split at h
    · next shaped =>
      cases h
      simp only [Bool.and_eq_true, Bool.not_eq_true', List.all_eq_false, beq_iff_eq] at shaped
      exact ⟨s, rfl, rfl, shaped.1, shaped.2⟩
    · cases h
  · cases h

theorem resolvePinnedEscrow_pinned {pin : Obj} {chain : Int} {escrow : String}
    (h : resolvePinnedEscrow pin chain = .ok (some escrow)) : Pinned pin chain escrow := by
  unfold resolvePinnedEscrow at h
  obtain ⟨values, listed, h⟩ := bind_ok.mp h
  obtain ⟨trimmed, read, h⟩ := bind_ok.mp h
  obtain ⟨keys, members⟩ := pinnedEscrowValues_ok listed
  have each := mapM_eachOk read
  cases each with
  | nil => cases h
  | @cons value first values rest one others =>
    simp only at h
    split at h
    · cases h
    · next agree =>
      cases h
      refine ⟨keys, ?_, ?_⟩
      · obtain ⟨entry, mem, names, -⟩ := (members value).mp (by simp)
        exact ⟨entry, mem, names⟩
      · intro entry mem names
        have inside := (members entry.2).mpr ⟨entry, mem, names, rfl⟩
        obtain ⟨v, kept, ok⟩ : ∃ v ∈ escrow :: rest, readPinnedEscrow chain entry.2 = .ok v := by
          obtain ⟨i, bound, at_i⟩ := List.getElem_of_mem inside
          have forall₂ : List.Forall₂ (fun a b => readPinnedEscrow chain a = .ok b)
              (value :: values) (escrow :: rest) := .cons one others
          have length := forall₂.length_eq
          refine ⟨(escrow :: rest).get ⟨i, by omega⟩, List.get_mem _ _, ?_⟩
          rw [← at_i]
          exact forall₂.get bound (by omega)
        obtain ⟨s, text, same, shaped, nonzero⟩ := readPinnedEscrow_ok ok
        subst same
        refine ⟨s, text, shaped, nonzero, ?_⟩
        simp only [Bool.not_eq_true, List.any_eq_false, bne_iff_ne, ne_eq, not_not] at agree
        exact agree _ kept

/-! ## What an accepted value is -/

/-- The integer a spelling is read as, leading zeros allowed. -/
def SpellsUint (u : UintLike) (n : Nat) : Prop := uintSpelling true u = some (n : Int)

/-- Two spellings of one integer, leading zeros allowed. -/
def SameNumber (u v : UintLike) : Prop := ∃ n, SpellsUint u n ∧ SpellsUint v n

theorem toUint_ok {label : String} {v : UintLike} {n : Nat} (h : toUint label v = .ok n) :
    SpellsUint v n ∧ n ≤ uint256Max := by
  unfold toUint at h
  split at h
  · cases h
  · next m read =>
    split at h
    · cases h
    · next range =>
      cases h
      unfold SpellsUint
      rw [read]
      exact ⟨congrArg some (by omega), by omega⟩

theorem toUint_same {l l' : String} {u v : UintLike} {m n : Nat} (hu : toUint l u = .ok m)
    (hv : toUint l' v = .ok n) (same : uintWord m = uintWord n) : SameNumber u v := by
  obtain ⟨readU, boundU⟩ := toUint_ok hu
  obtain ⟨readV, boundV⟩ := toUint_ok hv
  rw [← uintWord_inj boundU boundV same] at readV
  exact ⟨m, readU, readV⟩

theorem xspRefuseIf_ok {bad : Bool} {message : String} {u : Unit} :
    xspRefuseIf bad message = .ok u ↔ bad = false := by
  cases bad <;> simp [xspRefuseIf]

theorem eqAddr_iff {a b : String} : eqAddr a b = true ↔ SameHex a b := by
  simp [eqAddr, SameHex]

theorem normalizeBytes32_ok {label v : String} {w : Word} :
    normalizeBytes32 label v = .ok w ↔ hexBytes 32 (withHexMark v) = some w := by
  unfold normalizeBytes32
  split <;> simp_all

/-- The text, marked, is the printed word but for letter case. -/
def NamesWord (v : String) (w : Word) : Prop := SameHex (withHexMark v) (hexlify w.bytes)

theorem namesWord_of {label v : String} {w : Word} (h : normalizeBytes32 label v = .ok w) :
    NamesWord v w :=
  sameHex_of (normalizeBytes32_ok.mp h) (hexBytes_hexlify w) rfl

/-- The coder and `normalizeBytes32` read one word where both read one. -/
theorem normalizeBytes32_read {label v : String} {w u : Word} (hw : xspBytes32 v = .ok w)
    (hu : normalizeBytes32 label v = .ok u) : w = u := by
  have bytes := xspBytes32_ok hw
  obtain ⟨cs, shape, length, digits, spelled⟩ := hexBytes_some (normalizeBytes32_ok.mp hu)
  unfold withHexMark at shape
  split at shape
  · have read := getBytes_of shape (by omega) digits
    exact Bytes.ext ((Option.some.inj (read.symm.trans bytes)).symm.trans spelled)
  · -- a text the coder reads has `x` or `X` second, and that is no digit
    obtain ⟨x, ds, shapeV, lower, -⟩ := getBytes_some bytes
    rw [String.toList_append, shapeV] at shape
    have second : x ∈ cs := by
      simp only [String.reduceToList, List.cons_append, List.nil_append, List.cons.injEq,
        true_and] at shape
      rw [← shape]
      simp
    have known : (hexChars.all fun c => asciiLowerChar c != 'x') = true := by decide +kernel
    exact absurd lower (bne_iff_ne.mp (hexChars_all known (digits x second)))

theorem isEvmAddress_of {s : String} {a : Bytes 20} (h : hexBytes 20 s = some a) :
    isEvmAddress s = true := by
  obtain ⟨cs, shape, length, digits, -⟩ := hexBytes_some h
  exact isHexOfLength_iff.mpr ⟨cs, shape, length, digits⟩

theorem not_evmAddress_of {s : String} (h : hexBytes 20 s = none) : isEvmAddress s = false := by
  cases shaped : isEvmAddress s with
  | false => rfl
  | true =>
    obtain ⟨w, read⟩ := hexBytes_isSome (n := 20) shaped
    rw [h] at read
    cases read

section Hashes

variable [Ethers]

/-- One of the texts is no address, and its hash is the padded word of the other. -/
def AddressHash (s t : String) : Prop :=
  ∃ a, hexBytes 20 s = some a ∧ hexBytes 20 t = none ∧ keccak256 (utf8 t) = addressWord a

/-- What `canonicalKey` takes to one key: one text, one address, or an address and a text that
hashes to its padded word. -/
def SameKey (s t : String) : Prop :=
  s = t ∨ (isEvmAddress s = true ∧ isEvmAddress t = true ∧ SameHex s t) ∨ AddressHash s t ∨
    AddressHash t s

/-- What a key is hashed from. -/
def keyPreimage (s : String) : List (List UInt8) :=
  if isEvmAddress s then [] else [utf8 s]

omit [Ethers] in
/-- The hashed bytes of a text that is no address are among its preimages. -/
theorem mem_keyPreimage {s : String} (h : hexBytes 20 s = none) : utf8 s ∈ keyPreimage s := by
  unfold keyPreimage
  rw [not_evmAddress_of h]
  simp

theorem canonicalKey_same {used : List (List UInt8)} {s t : String} {w : Word}
    (apart : Distinguishes keccak256 used) (subS : keyPreimage s ⊆ used)
    (subT : keyPreimage t ⊆ used) (hs : canonicalKey s = .ok w) (ht : canonicalKey t = .ok w) :
    SameKey s t := by
  unfold canonicalKey at hs ht
  split at hs
  · cases hs
  · split at ht
    · cases ht
    · cases readS : hexBytes 20 s with
      | some a =>
        rw [readS] at hs
        cases readT : hexBytes 20 t with
        | some b =>
          rw [readT] at ht
          have words : addressWord a = addressWord b :=
            (Except.ok.inj hs).trans (Except.ok.inj ht).symm
          exact .inr (.inl ⟨isEvmAddress_of readS, isEvmAddress_of readT,
            sameHex_of readS readT (addressWord_inj words)⟩)
        | none =>
          rw [readT] at ht
          exact .inr (.inr (.inl ⟨a, readS, readT,
            (Except.ok.inj ht).trans (Except.ok.inj hs).symm⟩))
      | none =>
        rw [readS] at hs
        cases readT : hexBytes 20 t with
        | some b =>
          rw [readT] at ht
          exact .inr (.inr (.inr ⟨b, readT, readS,
            (Except.ok.inj hs).trans (Except.ok.inj ht).symm⟩))
        | none =>
          rw [readT] at ht
          have hashes := (Except.ok.inj hs).trans (Except.ok.inj ht).symm
          exact .inl (utf8_injective (apart.eq (subS (mem_keyPreimage readS))
            (subT (mem_keyPreimage readT)) hashes))

theorem computeIntentIdHash_ok {intentId : String} {w : Word}
    (h : computeIntentIdHash intentId = .ok w) : w = keccak256 (utf8 intentId) := by
  unfold computeIntentIdHash at h
  split at h
  · cases h
  · exact (Except.ok.inj h).symm

variable [AddressCoder]

/-! ## Binding -/

/-- The pull carries the order id in its own place. -/
def EscrowPullAuth.Names : EscrowPullAuth → Word → Prop
  | .erc3009 _ _ _ nonce, orderId => NamesWord nonce orderId
  | .permit2 _ _ _ witnessOrderId, orderId => ∃ s, witnessOrderId = some s ∧ NamesWord s orderId

/-- The hashed terms, the opening and the pull are the caller's. -/
structure EscrowBinding.Binds (b : EscrowBinding) (orderId : Word) : Prop where
  order : computeOrderId b.terms = .ok orderId
  quoted : NamesWord b.quotedOrderId orderId
  opening : ∃ commitment, computeDestCommitment b.opening = .ok commitment ∧
    xspBytes32 b.terms.destCommitment = .ok commitment
  escrow : ∃ pin chain escrow, b.expectedEscrows = .obj pin ∧ SpellsUint b.terms.fromChainId chain ∧
    Pinned pin chain escrow ∧ SameHex b.terms.escrow escrow
  depositor : SameHex b.terms.depositor b.signer
  recipient : ∃ key, canonicalKey b.opening.recipient = .ok key ∧ canonicalKey b.recipient = .ok key
  toToken : ∃ key, canonicalKey b.opening.toToken = .ok key ∧ canonicalKey b.toToken = .ok key
  toChainId : ∃ asked, b.toChainId = some asked ∧ SameNumber b.terms.toChainId asked
  toAmount : ∃ minOut amount, SpellsUint b.minOut minOut ∧ SpellsUint b.opening.toAmount amount ∧
    minOut ≤ amount
  spender : SameHex b.pullAuth.spender b.terms.escrow
  token : SameHex b.pullAuth.token b.terms.fromToken
  amount : SameNumber b.pullAuth.amount b.terms.fromAmount
  named : b.pullAuth.Names orderId

omit [Ethers] [AddressCoder] in
theorem pinnedEscrowFor_ok {pin : Value} {fromChainId : UintLike} {escrow : String}
    (h : pinnedEscrowFor pin fromChainId = .ok escrow) :
    ∃ entries chain, pin = .obj entries ∧ SpellsUint fromChainId chain ∧
      Pinned entries chain escrow := by
  unfold pinnedEscrowFor at h
  split at h
  · next entries =>
    obtain ⟨chain, read, h⟩ := xsp_bind.mp h
    split at h
    · cases h
    · cases h
    · next escrow resolved =>
      cases h
      exact ⟨entries, chain, rfl, (toUint_ok read).1, resolvePinnedEscrow_pinned resolved⟩
  · cases h

omit [AddressCoder] in
theorem assertOpeningBinds_ok {b : EscrowBinding} {u : Unit} (h : assertOpeningBinds b = .ok u) :
    (∃ key, canonicalKey b.opening.recipient = .ok key ∧ canonicalKey b.recipient = .ok key) ∧
    (∃ key, canonicalKey b.opening.toToken = .ok key ∧ canonicalKey b.toToken = .ok key) ∧
    ∃ minOut amount, SpellsUint b.minOut minOut ∧ SpellsUint b.opening.toAmount amount ∧
      minOut ≤ amount := by
  simp only [assertOpeningBinds, xsp_bind, xspRefuseIf_ok, bne_eq_false_iff_eq,
    decide_eq_false_iff_not, Nat.not_lt] at h
  obtain ⟨opened, opened_ok, key, key_ok, _, same, openedToken, token_ok, key', key_ok', _, same',
    amount, amount_ok, least, least_ok, _, enough, -⟩ := h
  subst same same'
  exact ⟨⟨_, opened_ok, key_ok⟩, ⟨_, token_ok, key_ok'⟩, least, amount, (toUint_ok least_ok).1,
    (toUint_ok amount_ok).1, enough⟩

omit [Ethers] [AddressCoder] in
theorem assertChainBinds_ok {b : EscrowBinding} {u : Unit} (h : assertChainBinds b = .ok u) :
    ∃ asked, b.toChainId = some asked ∧ SameNumber b.terms.toChainId asked := by
  unfold assertChainBinds at h
  split at h
  · cases h
  · next asked supplied =>
    simp only [xsp_bind, xspRefuseIf_ok, bne_eq_false_iff_eq] at h
    obtain ⟨stated, stated_ok, wanted, wanted_ok, same⟩ := h
    subst same
    exact ⟨asked, supplied, stated, (toUint_ok stated_ok).1, (toUint_ok wanted_ok).1⟩

/-- The last word of an order is its commitment, as the coder reads it. -/
theorem orderWords_commitment {terms : OrderTerms} {ws : List Word}
    (h : orderWords terms = .ok ws) :
    ∃ commitment, xspBytes32 terms.destCommitment = .ok commitment ∧
      ws.getLast? = some commitment := by
  simp only [orderWords, xsp_bind, xsp_pure] at h
  obtain ⟨_, -, _, -, _, -, _, -, _, -, _, -, _, -, commitment, read, rfl⟩ := h
  exact ⟨commitment, read, rfl⟩

theorem recomputedOrderId_ok {b : EscrowBinding} {orderId : Word}
    (h : recomputedOrderId b = .ok orderId) :
    computeOrderId b.terms = .ok orderId ∧ NamesWord b.quotedOrderId orderId ∧
    ∃ commitment, computeDestCommitment b.opening = .ok commitment ∧
      xspBytes32 b.terms.destCommitment = .ok commitment := by
  simp only [recomputedOrderId, xsp_bind, xsp_pure, xspRefuseIf_ok, bne_eq_false_iff_eq] at h
  obtain ⟨commitment, commitment_ok, stated, stated_ok, _, same, order, order_ok, quoted,
    quoted_ok, _, same', rfl⟩ := h
  subst same same'
  refine ⟨order_ok, namesWord_of quoted_ok, stated, commitment_ok, ?_⟩
  obtain ⟨words, words_ok, -⟩ := xsp_bind.mp order_ok
  obtain ⟨read, read_ok, -⟩ := orderWords_commitment words_ok
  rw [read_ok, normalizeBytes32_read read_ok stated_ok]

omit [Ethers] [AddressCoder] in
theorem assertPullNames_ok {pullAuth : EscrowPullAuth} {orderId : Word} {u : Unit}
    (h : assertPullNames pullAuth orderId = .ok u) : pullAuth.Names orderId := by
  unfold assertPullNames at h
  split at h
  · simp only [xsp_bind, xspRefuseIf_ok, bne_eq_false_iff_eq] at h
    obtain ⟨named, read, rfl⟩ := h
    exact namesWord_of read
  · cases h
  · next witnessOrderId =>
    simp only [xsp_bind, xspRefuseIf_ok, bne_eq_false_iff_eq] at h
    obtain ⟨named, read, rfl⟩ := h
    exact ⟨witnessOrderId, rfl, namesWord_of read⟩

omit [Ethers] [AddressCoder] in
theorem assertPullBinds_ok {b : EscrowBinding} {escrow : String} {orderId : Word} {u : Unit}
    (h : assertPullBinds b escrow orderId = .ok u) :
    SameHex b.terms.escrow escrow ∧ SameHex b.pullAuth.spender escrow ∧
    SameHex b.terms.depositor b.signer ∧ SameHex b.terms.fromToken b.pullAuth.token ∧
    SameNumber b.pullAuth.amount b.terms.fromAmount ∧ b.pullAuth.Names orderId := by
  simp only [assertPullBinds, xsp_bind, xspRefuseIf_ok, bne_eq_false_iff_eq, Bool.not_eq_false',
    eqAddr_iff] at h
  obtain ⟨_, escrow_ok, _, spender_ok, _, depositor_ok, _, token_ok, fromAmount, from_ok, amount,
    amount_ok, _, same, names⟩ := h
  subst same
  exact ⟨escrow_ok, spender_ok, depositor_ok, token_ok,
    ⟨_, (toUint_ok amount_ok).1, (toUint_ok from_ok).1⟩, assertPullNames_ok names⟩

/-- What is accepted is bound. -/
theorem EscrowBinding.binds_of {b : EscrowBinding} {orderId : Word}
    (h : assertEscrowBinding b = .ok orderId) : b.Binds orderId := by
  simp only [assertEscrowBinding, xsp_bind, xsp_pure] at h
  obtain ⟨escrow, pin_ok, _, opening_ok, _, chain_ok, id, id_ok, _, pull_ok, rfl⟩ := h
  obtain ⟨pin, chain, shape, stated, pinned⟩ := pinnedEscrowFor_ok pin_ok
  obtain ⟨recipient, toToken, toAmount⟩ := assertOpeningBinds_ok opening_ok
  obtain ⟨order, quoted, opening⟩ := recomputedOrderId_ok id_ok
  obtain ⟨sameEscrow, spender, depositor, token, amount, named⟩ := assertPullBinds_ok pull_ok
  exact
    { order, quoted, opening, depositor, recipient, toToken, toAmount, amount, named
      escrow := ⟨pin, chain, escrow, shape, stated, pinned, sameEscrow⟩
      toChainId := assertChainBinds_ok chain_ok
      spender := spender.trans sameEscrow.symm
      token := token.symm }

/-! ## One id, one order -/

/-- The address a member's lower-case text is read as, the same for both. -/
structure OrderTerms.Same (a b : OrderTerms) : Prop where
  depositor : SameAddress (asciiLower a.depositor) (asciiLower b.depositor)
  fromChainId : SameNumber a.fromChainId b.fromChainId
  fromToken : SameAddress (asciiLower a.fromToken) (asciiLower b.fromToken)
  fromAmount : SameNumber a.fromAmount b.fromAmount
  toChainId : SameNumber a.toChainId b.toChainId
  fillDeadline : SameNumber a.fillDeadline b.fillDeadline
  escrow : SameAddress (asciiLower a.escrow) (asciiLower b.escrow)
  destCommitment : SameHex a.destCommitment b.destCommitment

structure DestOpening.Same (a b : DestOpening) : Prop where
  recipient : SameKey a.recipient b.recipient
  toToken : SameKey a.toToken b.toToken
  toAmount : SameNumber a.toAmount b.toAmount
  blinding : SameHex a.blinding b.blinding
  intentId : a.intentId = b.intentId

/-- What the commitment and the id are computed from by hashing. -/
def EscrowBinding.used (b : EscrowBinding) : List (List UInt8) :=
  keyPreimage b.opening.recipient ++ keyPreimage b.opening.toToken ++ [utf8 b.opening.intentId] ++
    xspPreimage (destWords b.opening) ++ xspPreimage (orderWords b.terms)

theorem OrderTerms.same_of {a b : OrderTerms} {ws : List Word} (ha : orderWords a = .ok ws)
    (hb : orderWords b = .ok ws) : a.Same b := by
  simp only [orderWords, xsp_bind, xsp_pure] at ha hb
  obtain ⟨fromChainA, fromChain, fromAmountA, fromAmount, toChainA, toChain, deadlineA, deadline,
    depositorA, depositor, tokenA, token, escrowA, escrow, commitmentA, commitment, same⟩ := ha
  obtain ⟨fromChainB, fromChain', fromAmountB, fromAmount', toChainB, toChain', deadlineB,
    deadline', depositorB, depositor', tokenB, token', escrowB, escrow', commitmentB, commitment',
    rfl⟩ := hb
  simp only [List.cons.injEq, and_true, true_and] at same
  obtain ⟨depositors, fromChains, tokens, fromAmounts, toChains, deadlines, escrows,
    commitments⟩ := same
  exact
    { depositor := xspAddress_same depositor depositor' depositors
      fromChainId := toUint_same fromChain fromChain' fromChains
      fromToken := xspAddress_same token token' tokens
      fromAmount := toUint_same fromAmount fromAmount' fromAmounts
      toChainId := toUint_same toChain toChain' toChains
      fillDeadline := toUint_same deadline deadline' deadlines
      escrow := xspAddress_same escrow escrow' escrows
      destCommitment := xspBytes32_same commitment commitment' commitments }

omit [AddressCoder] in
theorem DestOpening.same_of {used : List (List UInt8)} {a b : DestOpening} {ws : List Word}
    (apart : Distinguishes keccak256 used) (ha : destWords a = .ok ws) (hb : destWords b = .ok ws)
    (keysA : ∀ s ∈ [a.recipient, a.toToken], keyPreimage s ⊆ used)
    (keysB : ∀ s ∈ [b.recipient, b.toToken], keyPreimage s ⊆ used)
    (idA : utf8 a.intentId ∈ used) (idB : utf8 b.intentId ∈ used) : a.Same b := by
  simp only [destWords, xsp_bind, xsp_pure] at ha hb
  obtain ⟨_, -, recipientA, recipient, tokenA, token, amountA, amount, intentA, intent, blindingA,
    blinding, same⟩ := ha
  obtain ⟨_, -, recipientB, recipient', tokenB, token', amountB, amount', intentB, intent',
    blindingB, blinding', rfl⟩ := hb
  simp only [List.cons.injEq, and_true, true_and] at same
  obtain ⟨rfl, rfl, amounts, blindings, intents⟩ := same
  rw [computeIntentIdHash_ok intent, computeIntentIdHash_ok intent'] at intents
  exact
    { recipient := canonicalKey_same apart (keysA _ (by simp)) (keysB _ (by simp)) recipient
        recipient'
      toToken := canonicalKey_same apart (keysA _ (by simp)) (keysB _ (by simp)) token token'
      toAmount := toUint_same amount amount' amounts
      blinding := xspBytes32_same blinding blinding' blindings
      intentId := utf8_injective (apart.eq idA idB intents) }

/-- Bound orders of one id are one order. -/
theorem EscrowBinding.Binds.same {a b : EscrowBinding} {orderId : Word} (ha : a.Binds orderId)
    (hb : b.Binds orderId) (apart : Distinguishes keccak256 (a.used ++ b.used)) :
    a.terms.Same b.terms ∧ a.opening.Same b.opening := by
  have subA : a.used ⊆ a.used ++ b.used := List.subset_append_left _ _
  have subB : b.used ⊆ a.used ++ b.used := List.subset_append_right _ _
  obtain ⟨wordsA, orderA, idA⟩ := xsp_bind.mp ha.order
  obtain ⟨wordsB, orderB, idB⟩ := xsp_bind.mp hb.order
  rw [xsp_pure] at idA idB
  have sameWords : wordsA = wordsB := by
    refine hashWords_inj apart (subA ?_) (subB ?_) (idA.trans idB.symm)
    · exact List.mem_append_right _ (mem_xspPreimage orderA)
    · exact List.mem_append_right _ (mem_xspPreimage orderB)
  subst sameWords
  have terms := OrderTerms.same_of orderA orderB
  refine ⟨terms, ?_⟩
  -- the commitments the ids are over are those of the openings
  obtain ⟨commitment, openA, statedA⟩ := ha.opening
  obtain ⟨commitment', openB, statedB⟩ := hb.opening
  have sameCommitment : commitment = commitment' := by
    obtain ⟨_, readA, lastA⟩ := orderWords_commitment orderA
    obtain ⟨_, readB, lastB⟩ := orderWords_commitment orderB
    rw [statedA] at readA
    rw [statedB] at readB
    cases readA
    cases readB
    exact Option.some.inj (lastA.symm.trans lastB)
  subst sameCommitment
  obtain ⟨destA, readA, hashA⟩ := xsp_bind.mp openA
  obtain ⟨destB, readB, hashB⟩ := xsp_bind.mp openB
  rw [xsp_pure] at hashA hashB
  have sameDest : destA = destB := by
    refine hashWords_inj apart (subA ?_) (subB ?_) (hashA.trans hashB.symm)
    · exact List.mem_append_left _ (List.mem_append_right _ (mem_xspPreimage readA))
    · exact List.mem_append_left _ (List.mem_append_right _ (mem_xspPreimage readB))
  subst sameDest
  have keys (x : EscrowBinding) : ∀ s ∈ [x.opening.recipient, x.opening.toToken],
      keyPreimage s ⊆ x.used := by
    intro s mem m hm
    rcases List.mem_pair.mp mem with rfl | rfl
    · simp [EscrowBinding.used, hm]
    · simp [EscrowBinding.used, hm]
  have ids (x : EscrowBinding) : utf8 x.opening.intentId ∈ x.used := by
    simp [EscrowBinding.used]
  exact DestOpening.same_of apart readA readB (fun s mem m hm => subA (keys a s mem hm))
    (fun s mem m hm => subB (keys b s mem hm)) (subA (ids a)) (subB (ids b))

/-- A returned order id is that of terms, an opening and a pull that all bind the intent, and two
accepted bindings of one id have the same terms and opening. -/
theorem escrow_binding_sound :
    (∀ (b : EscrowBinding) (orderId : Word), assertEscrowBinding b = .ok orderId →
      b.Binds orderId) ∧
    ∀ (a b : EscrowBinding) (orderId : Word), assertEscrowBinding a = .ok orderId →
      assertEscrowBinding b = .ok orderId → Distinguishes keccak256 (a.used ++ b.used) →
      a.terms.Same b.terms ∧ a.opening.Same b.opening := by
  refine ⟨fun b orderId => EscrowBinding.binds_of, ?_⟩
  intro a b orderId ha hb apart
  exact (EscrowBinding.binds_of ha).same (EscrowBinding.binds_of hb) apart

end Hashes

/-! ## Orders spelled twice -/

/-- The spellings of 40 hex digits, after `0x` or bare. -/
abbrev bareAddressCoder : AddressCoder where
  address s := hexBytes 20 (withHexMark s)
  address_hex s a b h h' := by
    obtain ⟨cs, shape, -⟩ := hexBytes_some h
    have marked : withHexMark s = s := by
      unfold withHexMark startsWithHex
      rw [shape]
      rfl
    rw [marked] at h'
    exact Option.some.inj (h.symm.trans h')

def sampleEscrow : String := "0x0505050505050505050505050505050505050505"

def sampleTerms (fromToken : String) (fromAmount : UintLike) (destCommitment : String) :
    OrderTerms where
  depositor := "0x0303030303030303030303030303030303030303"
  fromChainId := .text "8453"
  fromToken
  fromAmount
  toChainId := .text "728126428"
  fillDeadline := .text "1900000000"
  escrow := sampleEscrow
  destCommitment

def sampleOpening (recipient : String) : DestOpening where
  recipient
  toToken := "USDC"
  toAmount := .text "990000"
  blinding := "0x0202020202020202020202020202020202020202020202020202020202020202"
  intentId := "intent-1"

/-- An ERC-3009 pull of the order's token and amount, to the pinned escrow. -/
def sampleBinding (terms : OrderTerms) (recipient orderId : String) : EscrowBinding where
  signer := "0x0303030303030303030303030303030303030303"
  recipient
  toToken := "USDC"
  toChainId := some (.bigint 728126428)
  minOut := .text "980000"
  terms
  opening := sampleOpening recipient
  quotedOrderId := orderId
  pullAuth := .erc3009 sampleEscrow terms.fromToken terms.fromAmount orderId
  expectedEscrows := .obj [("8453", .str sampleEscrow)]

def sampleCommitment : String :=
  "0xc9cf4bb32946535a521cf2fb83d22e081ade3b15b0084fe719bb8e94265d765a"

def sampleOrderId : String :=
  "0x873590e979d6a2b8c6d128bbdac1d57c609fac2d11458aabacd0a876b3b17bfc"

def lowerBinding : EscrowBinding :=
  sampleBinding (sampleTerms "0x0abc0abc0abc0abc0abc0abc0abc0abc0abc0abc" (.text "1000000")
    sampleCommitment) "0x0def0def0def0def0def0def0def0def0def0def" sampleOrderId

/-- The token without its `0x`. -/
def bareBinding : EscrowBinding :=
  sampleBinding (sampleTerms "0abc0abc0abc0abc0abc0abc0abc0abc0abc0abc" (.text "1000000")
    sampleCommitment) "0x0def0def0def0def0def0def0def0def0def0def" sampleOrderId

/-- A token and a recipient that are read alike are accepted alike, and hash alike. -/
theorem sampleBinding_respelled [Ethers] [AddressCoder] {token token' recipient recipient' : String}
    {amount : UintLike} {commitment order : String} {orderId : Word}
    (tokens : xspAddress (asciiLower token) = xspAddress (asciiLower token'))
    (keys : canonicalKey recipient = canonicalKey recipient')
    (h : assertEscrowBinding (sampleBinding (sampleTerms token amount commitment) recipient order) =
      .ok orderId) :
    assertEscrowBinding (sampleBinding (sampleTerms token' amount commitment) recipient' order) =
      .ok orderId := by
  have commitments : computeDestCommitment (sampleOpening recipient) =
      computeDestCommitment (sampleOpening recipient') := by
    simp only [computeDestCommitment, destWords, sampleOpening, keys]
  have orders : computeOrderId (sampleTerms token amount commitment) =
      computeOrderId (sampleTerms token' amount commitment) := by
    simp only [computeOrderId, orderWords, sampleTerms, tokens]
  simp only [assertEscrowBinding, xsp_bind, xsp_pure] at h ⊢
  obtain ⟨escrow, pinned, _, opened, _, chains, id, named, _, pulls, rfl⟩ := h
  refine ⟨escrow, pinned, (), ?_, (), ?_, id, ?_, (), ?_, rfl⟩
  · simp only [assertOpeningBinds, xsp_bind, xspRefuseIf_ok, sampleBinding, sampleOpening,
      keys] at opened ⊢
    exact opened
  · simp only [assertChainBinds, sampleBinding, xsp_bind, xspRefuseIf_ok] at chains ⊢
    exact chains
  · simp only [recomputedOrderId, xsp_bind, xsp_pure, xspRefuseIf_ok] at named ⊢
    change ∃ c, computeDestCommitment (sampleOpening recipient) = .ok c ∧ _ at named
    rw [commitments] at named
    obtain ⟨c, c_ok, stated, stated_ok, u, same, word, word_ok, rest⟩ := named
    exact ⟨c, c_ok, stated, stated_ok, u, same, word, orders.symm.trans word_ok, rest⟩
  · simp only [assertPullBinds, xsp_bind, xspRefuseIf_ok, sampleBinding, eqAddr,
      EscrowPullAuth.token, beq_self_eq_true] at pulls ⊢
    exact pulls

theorem ok_of_isOk {α : Type} {x : Xsp α} (h : x.isOk = true) : ∃ a, x = .ok a := by
  cases x with
  | error e => cases h
  | ok a => exact ⟨a, rfl⟩

theorem sampleBinding_used [Ethers] [AddressCoder] {token token' recipient : String}
    {amount : UintLike} {commitment order : String}
    (tokens : xspAddress (asciiLower token) = xspAddress (asciiLower token')) :
    (sampleBinding (sampleTerms token amount commitment) recipient order).used =
      (sampleBinding (sampleTerms token' amount commitment) recipient order).used := by
  simp only [EscrowBinding.used, sampleBinding, orderWords, sampleTerms, tokens]

/-- The coder reads the token with its `0x` and without. -/
theorem bareToken_read :
    letI := bareAddressCoder
    xspAddress (asciiLower "0x0abc0abc0abc0abc0abc0abc0abc0abc0abc0abc") =
      xspAddress (asciiLower "0abc0abc0abc0abc0abc0abc0abc0abc0abc0abc") := by
  decide +kernel

theorem lowerBinding_accepted :
    letI := documentedEthers
    letI := bareAddressCoder
    ∃ orderId, assertEscrowBinding lowerBinding = .ok orderId := by
  apply ok_of_isOk
  decide +kernel

/-- The hash tells apart what the two spellings are hashed from. -/
theorem lowerBinding_apart :
    letI := documentedEthers
    letI := bareAddressCoder
    Distinguishes keccak256 (lowerBinding.used ++ bareBinding.used) := by
  let := documentedEthers
  let := bareAddressCoder
  have apart : (lowerBinding.used.map keccak256).Nodup := by decide +kernel
  have used : lowerBinding.used = bareBinding.used := sampleBinding_used bareToken_read
  rw [← used]
  exact (Distinguishes.of_nodup apart).mono (by simp)

/-- Two spellings of one order. -/
theorem escrow_binding_sound_respelled :
    letI := documentedEthers
    letI := bareAddressCoder
    ∃ orderId, lowerBinding.Binds orderId ∧ lowerBinding.terms.Same bareBinding.terms ∧
      lowerBinding.opening.Same bareBinding.opening := by
  let := documentedEthers
  let := bareAddressCoder
  obtain ⟨orderId, lower⟩ := lowerBinding_accepted
  have bare : assertEscrowBinding bareBinding = .ok orderId :=
    sampleBinding_respelled bareToken_read rfl lower
  exact ⟨orderId, escrow_binding_sound.1 lowerBinding orderId lower,
    escrow_binding_sound.2 lowerBinding bareBinding orderId lower bare lowerBinding_apart⟩

/-- Another hash, which takes `party` to the padded word of an address. -/
abbrev partyEthers : Ethers where
  keccak256 bytes :=
    if bytes = utf8 "party" then
      addressWord ⟨[13, 239, 13, 239, 13, 239, 13, 239, 13, 239, 13, 239, 13, 239, 13, 239, 13, 239,
        13, 239], rfl⟩
    else Bytes.ofNat 32 (bytes.foldl (fun h b => h * 257 + b.toNat + 1) 7)
  checksum := mixedCase
  checksum_lower := mixedCase_lower

def partyCommitment : String :=
  "0x2c9586c643f71ea2c4846f986307569e422c6b1ae43ef08512a91a1e28a346ad"

def partyOrderId : String :=
  "0xc727519bd89a628d95cc711a65b532dee664ec07cb609616ce2b84739062c4ea"

/-- An order under that hash, paid to the recipient. -/
def partyBinding (recipient : String) : EscrowBinding :=
  sampleBinding (sampleTerms "0x0abc0abc0abc0abc0abc0abc0abc0abc0abc0abc" (.text "1000000")
    partyCommitment) recipient partyOrderId

def addressBinding : EscrowBinding := partyBinding "0x0def0def0def0def0def0def0def0def0def0def"

/-- One id for two orders that differ by more than letter case: by the `0x` of the token, or by a
recipient that hashes to the padded word of the other. -/
theorem one_order_two_texts :
    (∃ orderId,
      letI := documentedEthers
      letI := bareAddressCoder
      assertEscrowBinding lowerBinding = .ok orderId ∧
      assertEscrowBinding bareBinding = .ok orderId ∧
      Distinguishes keccak256 (lowerBinding.used ++ bareBinding.used) ∧
      ¬SameHex lowerBinding.terms.fromToken bareBinding.terms.fromToken) ∧
    (∃ orderId,
      letI := partyEthers
      letI := bareAddressCoder
      assertEscrowBinding addressBinding = .ok orderId ∧
      assertEscrowBinding (partyBinding "party") = .ok orderId ∧
      Distinguishes keccak256 (addressBinding.used ++ (partyBinding "party").used) ∧
      ¬SameHex addressBinding.opening.recipient (partyBinding "party").opening.recipient) := by
  constructor
  · let := documentedEthers
    let := bareAddressCoder
    obtain ⟨orderId, lower⟩ := lowerBinding_accepted
    refine ⟨orderId, lower, sampleBinding_respelled bareToken_read rfl lower,
      lowerBinding_apart, ?_⟩
    unfold SameHex
    decide +kernel
  · let := partyEthers
    let := bareAddressCoder
    have keys : canonicalKey "0x0def0def0def0def0def0def0def0def0def0def" =
        canonicalKey "party" := by decide +kernel
    obtain ⟨orderId, address⟩ : ∃ orderId, assertEscrowBinding addressBinding = .ok orderId := by
      apply ok_of_isOk
      decide +kernel
    refine ⟨orderId, address, sampleBinding_respelled rfl keys address, ?_, ?_⟩
    · have used : (partyBinding "party").used = utf8 "party" :: addressBinding.used ∧
          ((partyBinding "party").used.map keccak256).Nodup := by decide +kernel
      refine (Distinguishes.of_nodup used.2).mono ?_
      rw [used.1]
      simp
    · unfold SameHex
      decide +kernel

end XochiSdk.Signer
