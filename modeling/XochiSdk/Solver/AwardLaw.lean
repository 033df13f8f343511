import XochiSdk.Js.HexCase
import XochiSdk.Solver.Award

/-!
# What a verified award pays

An award that passes pays exactly what its order commits to, within what the solver agreed to
pay. Two that pass for one order pay the same recipient the same token on the same chain.
-/

namespace XochiSdk.EscrowVerify

open XochiSdk.Js XochiSdk.Signer
open XochiSdk.Library hiding keccak256

/-! ## What each check accepts -/

theorem refuseIf_ok {bad : Bool} {code : Solver.EscrowRefusal} {message : String}
    {orderId : Option String} {u : Unit} :
    refuseIf bad code message orderId = .ok u ↔ bad = false := by
  cases bad <;> simp [refuseIf]

theorem parseUint_ok {value : UintLike} {field : String} {n : Nat} :
    parseUint value field = .ok n ↔ SpellsUint value n := by
  unfold parseUint SpellsUint
  split
  · next m read =>
    split
    · next negative =>
      simp only [reduceCtorEq, read, Option.some.injEq, false_iff]
      omega
    · next nonneg =>
      simp only [Except.ok.injEq, read, Option.some.injEq]
      omega
  · next read => simp [read]

theorem sameUint_ok {a b : UintLike} {field : String} {same : Bool}
    (h : sameUint a b field = .ok same) (holds : same = true) : SameNumber a b := by
  subst holds
  simp only [sameUint, Outcome.bind_ok, Outcome.pure_ok, parseUint_ok, beq_iff_eq] at h
  obtain ⟨m, left, n, right, rfl⟩ := h
  exact ⟨m, left, right⟩

theorem readBigInt_ok {value : UintLike} {n : Int} :
    readBigInt value = .ok n ↔ asBigInt value = some n := by
  unfold readBigInt
  split <;> simp_all

/-- A text that spells a number is the integer it spells. -/
theorem asBigInt_spelled {s : String} {n : Nat} (h : SpellsUint (.text s) n) :
    asBigInt (.text s) = some (n : Int) := by
  simp only [SpellsUint, uintSpelling, if_true] at h
  split at h
  · exact h
  · cases h

theorem thrown_ok [CoderTexts] {α : Type} {x : Xsp α} {a : α} :
    thrown x = .ok a ↔ x = .ok a := by
  cases x <;> simp [thrown]

/-! ## What is paid -/

section Pays

variable [Ethers] [AddressCoder]

/-- The terms hash to the order, and carry the commitment to the opening. -/
structure Committed (terms : OrderTerms) (opening : DestOpening) (orderId : Word) : Prop where
  order : computeOrderId terms = .ok orderId
  opening : ∃ commitment, computeDestCommitment opening = .ok commitment ∧
    terms.destCommitment = hexlify commitment.bytes

/-- The amount is at least the committed floor, and at most what was awarded and what was bid. -/
def VerifiedAward.Bounded (v : VerifiedAward) (award : Award) (x : AwardExpectations) : Prop :=
  ∃ amount floor awarded bid, asBigInt v.fillAuth.amount = some amount ∧
    asBigInt v.opening.toAmount = some floor ∧ asBigInt (.text award.output) = some awarded ∧
    asBigInt x.bidOutput = some bid ∧ floor ≤ amount ∧ amount ≤ awarded ∧ amount ≤ bid

/-- The announcement is of the order, its intent, its corridor and its tokens. -/
structure VerifiedAward.Announced (v : VerifiedAward) (award : Award) (ann : IntentAnnouncement) :
    Prop where
  auction : ann.auctionId = award.auctionId
  order : SameHex ann.orderId (hexlify v.orderId.bytes)
  intent : ann.intentId = award.intentId
  fromChainId : SameNumber v.terms.fromChainId (.number ann.fromChainId)
  toChainId : SameNumber v.terms.toChainId (.number ann.toChainId)
  fromToken : SameHex v.terms.fromToken ann.fromToken
  fromAmount : ∀ amount, ann.fromAmount = some amount →
    SameNumber v.terms.fromAmount (.text amount)
  toToken : ∃ key, canonicalKey v.opening.toToken = .ok key ∧ canonicalKey ann.toToken = .ok key

/-- The authorized fill is the one the order commits to, and one this solver agreed to. -/
structure VerifiedAward.Pays (v : VerifiedAward) (award : Award) (x : AwardExpectations) :
    Prop where
  committed : Committed v.terms v.opening v.orderId
  named : ∃ e, award.escrow = some e ∧ asciiLower e.intentRef = hexlify v.orderId.bytes
  intent : v.opening.intentId = award.intentId
  evm : isEvmAddress v.opening.recipient = true ∧ isEvmAddress v.opening.toToken = true
  recipient : SameHex v.fillAuth.to_ v.opening.recipient
  token : SameHex v.fillAuth.token v.opening.toToken
  filler : SameHex v.fillAuth.filler x.solver
  contract : SameHex v.fillAuthDomain.verifyingContract x.fillerContract
  chain : SameNumber v.fillAuthDomain.chainId x.destinationChainId
  origin : SameNumber v.terms.fromChainId x.originChainId
  destination : SameNumber v.terms.toChainId x.destinationChainId
  escrow : SameHex v.terms.escrow x.escrow
  amount : v.Bounded award x
  payee : v.payee = v.fillAuth.filler
  announced : ∀ ann, x.announcement = some ann → v.Announced award ann

/-- The lock holds what the order says, for as long as the order may be filled. -/
structure OpenedLock.Backs (lock : OpenedLock) (terms : OrderTerms) : Prop where
  token : SameHex lock.token terms.fromToken
  amount : asBigInt terms.fromAmount = some lock.amount
  depositor : SameHex lock.depositor terms.depositor
  toChainId : asBigInt terms.toChainId = some lock.toChainId
  refundableAt : ∃ deadline, asBigInt terms.fillDeadline = some deadline ∧
    deadline ≤ lock.refundableAt

omit [Ethers] [AddressCoder] in
theorem lock_backs {lock : OpenedLock} {terms : OrderTerms} {u : Unit}
    (h : checkLockMatchesTerms lock terms = .ok u) : lock.Backs terms := by
  simp only [checkLockMatchesTerms, Outcome.bind_ok, refuseIf_ok, readBigInt_ok, exists_const,
    Bool.not_eq_false', eqAddr_iff, bne_eq_false_iff_eq, decide_eq_false_iff_not, not_lt] at h
  obtain ⟨token, amount, amount_ok, rfl, depositor, chain, chain_ok, rfl, deadline, deadline_ok,
    late⟩ := h
  exact ⟨token, amount_ok, depositor, chain_ok, deadline, deadline_ok, late⟩

variable [CoderTexts]

omit [Ethers] [AddressCoder] [CoderTexts] in
theorem requireFillableEscrow_ok {award : Award} {env : FillableEscrow}
    (h : requireFillableEscrow award = .ok env) :
    ∃ e, award.escrow = some e ∧ env.intentRef = e.intentRef := by
  unfold requireFillableEscrow at h
  split at h
  · cases h
  · next e carried =>
    split at h
    · next read fillable =>
      cases h
      simp only [AwardEscrow.fillable, Option.bind_eq_bind, Option.bind_eq_some_iff, pure,
        Option.some.injEq] at fillable
      obtain ⟨-, -, -, -, -, -, -, -, -, -, rfl⟩ := fillable
      exact ⟨e, carried, rfl⟩
    · cases h

omit [Ethers] [AddressCoder] [CoderTexts] in
theorem checkOrigin_ok {env : FillableEscrow} {x : AwardExpectations} {u : Unit}
    (h : checkOrigin env x = .ok u) :
    SameHex x.originTerms.escrow x.escrow ∧
      SameNumber x.originTerms.fromChainId x.originChainId ∧
      SameNumber x.originTerms.toChainId x.destinationChainId := by
  simp only [checkOrigin, Outcome.bind_ok, refuseIf_ok, exists_const, Bool.not_eq_false',
    eqAddr_iff] at h
  obtain ⟨-, escrow, origin, origin_ok, from_, destination, destination_ok, to_⟩ := h
  exact ⟨escrow, sameUint_ok origin_ok from_, sameUint_ok destination_ok to_⟩

omit [AddressCoder] in
theorem openedCommitment_ok {env : FillableEscrow} {commitment : Word}
    (h : openedCommitment env = .ok commitment) :
    computeDestCommitment env.destOpening.opening = .ok commitment := by
  unfold openedCommitment at h
  split at h
  · cases h
  · next read =>
    split at h
    · cases h
      exact read
    · simp only [Outcome.bind_ok, refuseIf_ok, exists_const, Outcome.pure_ok] at h
      rw [read, h.2]

omit [Ethers] [AddressCoder] [CoderTexts] in
theorem checkAnnouncedAmount_ok {terms : OrderTerms} {orderId : String}
    {announced : Option String} {u : Unit}
    (h : checkAnnouncedAmount terms orderId announced = .ok u) {amount : String}
    (holds : announced = some amount) : SameNumber terms.fromAmount (.text amount) := by
  subst holds
  simp only [checkAnnouncedAmount, Outcome.bind_ok, refuseIf_ok, Bool.not_eq_false'] at h
  obtain ⟨same, same_ok, holds⟩ := h
  exact sameUint_ok same_ok holds

omit [AddressCoder] in
theorem checkAnnounced_ok {award : Award} {x : AwardExpectations} {v : VerifiedAward} {u : Unit}
    (intent : v.opening.intentId = award.intentId)
    (h : checkAnnounced award x v.terms v.opening (hexlify v.orderId.bytes) = .ok u)
    {ann : IntentAnnouncement} (announced : x.announcement = some ann) :
    v.Announced award ann := by
  simp only [checkAnnounced, announced, checkAnnouncement, Outcome.bind_ok, refuseIf_ok,
    thrown_ok, exists_const, Bool.not_eq_false', eqAddr_iff, bne_eq_false_iff_eq] at h
  obtain ⟨auction, order, named, origin, origin_ok, from_, destination, destination_ok, to_,
    fromToken, _, amount, key, opened, key', announced, rfl⟩ := h
  exact {
    auction, fromToken
    order := order
    intent := named.trans intent
    fromChainId := sameUint_ok origin_ok from_
    toChainId := sameUint_ok destination_ok to_
    fromAmount := fun _ => checkAnnouncedAmount_ok amount
    toToken := ⟨key, opened, announced⟩ }

omit [Ethers] [AddressCoder] [CoderTexts] in
theorem checkFillAuth_ok {env : FillableEscrow} {x : AwardExpectations} {orderId : String}
    {u : Unit} (h : checkFillAuth env x orderId = .ok u) :
    SameHex env.fillAuth.filler x.solver ∧
      SameHex env.fillAuth.fillerContract x.fillerContract ∧
      SameNumber (.text env.fillAuth.chainId) x.destinationChainId ∧
      SameHex env.fillAuth.to_ env.destOpening.recipient ∧
      SameHex env.fillAuth.token env.destOpening.toToken := by
  simp only [checkFillAuth, Outcome.bind_ok, refuseIf_ok, exists_const, Bool.not_eq_false',
    eqAddr_iff] at h
  obtain ⟨-, filler, contract, chain, chain_ok, same, recipient, token⟩ := h
  exact ⟨filler, contract, sameUint_ok chain_ok same, recipient, token⟩

omit [Ethers] [AddressCoder] [CoderTexts] in
theorem checkAwarded_ok {award : Award} {a : FillableAuth} {amount : Int} {orderId : String}
    {u : Unit} (h : checkAwarded award a amount orderId = .ok u) :
    ∃ awarded, asBigInt (.text award.output) = some awarded ∧ amount ≤ awarded := by
  unfold checkAwarded at h
  split at h
  · cases h
  · next awarded read =>
    simp only [refuseIf_ok, decide_eq_false_iff_not, not_lt] at h
    exact ⟨awarded, read, h⟩

omit [Ethers] [AddressCoder] [CoderTexts] in
theorem checkBidOutput_ok {x : AwardExpectations} {a : FillableAuth} {amount : Int}
    {orderId : String} {u : Unit} (h : checkBidOutput x a amount orderId = .ok u) :
    ∃ bid, asBigInt x.bidOutput = some bid ∧ amount ≤ bid := by
  unfold checkBidOutput at h
  split at h
  · cases h
  · next bid read =>
    simp only [refuseIf_ok, decide_eq_false_iff_not, not_lt] at h
    exact ⟨bid, read, h⟩

omit [Ethers] [AddressCoder] [CoderTexts] in
theorem checkAmount_ok {award : Award} {env : FillableEscrow} {x : AwardExpectations}
    {orderId : String} {u : Unit} (h : checkAmount award env x orderId = .ok u) :
    ∃ amount floor awarded bid, asBigInt (.text env.fillAuth.amount) = some amount ∧
      asBigInt (.text env.destOpening.toAmount) = some floor ∧
      asBigInt (.text award.output) = some awarded ∧ asBigInt x.bidOutput = some bid ∧
      floor ≤ amount ∧ amount ≤ awarded ∧ amount ≤ bid := by
  simp only [checkAmount, Outcome.bind_ok, readBigInt_ok, refuseIf_ok, exists_const,
    decide_eq_false_iff_not, not_lt] at h
  obtain ⟨amount, amount_ok, floor, floor_ok, above, _, output, _, signed, -⟩ := h
  obtain ⟨awarded, awarded_ok, below⟩ := checkAwarded_ok output
  obtain ⟨bid, bid_ok, within⟩ := checkBidOutput_ok signed
  exact ⟨amount, floor, awarded, bid, amount_ok, floor_ok, awarded_ok, bid_ok, above, below,
    within⟩

/-- Every check of an award passes, on the order and the terms that come out. -/
structure Accepted (award : Award) (x : AwardExpectations) (env : FillableEscrow)
    (v : VerifiedAward) : Prop where
  fillable : requireFillableEscrow award = .ok env
  origin : checkOrigin env x = .ok ()
  opened : ∃ commitment, openedCommitment env = .ok commitment ∧
    v.terms = x.originTerms.withCommitment (hexlify commitment.bytes)
  hashed : computeOrderId v.terms = .ok v.orderId
  named : hexlify v.orderId.bytes = asciiLower env.intentRef
  intent : v.opening.intentId = award.intentId
  announced : checkAnnounced award x v.terms v.opening (hexlify v.orderId.bytes) = .ok ()
  evm : isEvmAddress v.opening.recipient = true ∧ isEvmAddress v.opening.toToken = true
  auth : checkFillAuth env x (hexlify v.orderId.bytes) = .ok ()
  amount : checkAmount award env x (hexlify v.orderId.bytes) = .ok ()
  made : verifiedOf env v.terms v.orderId = .ok v

omit [Ethers] [AddressCoder] [CoderTexts] in
theorem verifiedOf_ok {env : FillableEscrow} {terms : OrderTerms} {orderId : Word}
    {v : VerifiedAward} (h : verifiedOf env terms orderId = .ok v) :
    v.orderId = orderId ∧ v.terms = terms ∧ v.opening = env.destOpening.opening ∧
      v.payee = env.fillAuth.filler ∧ v.fillAuth.filler = env.fillAuth.filler ∧
      v.fillAuth.to_ = env.fillAuth.to_ ∧ v.fillAuth.token = env.fillAuth.token ∧
      v.fillAuth.amount = .text env.fillAuth.amount ∧
      v.fillAuthDomain.verifyingContract = env.fillAuth.fillerContract ∧
      ∃ chainId, readBigInt (.text env.fillAuth.chainId) = .ok chainId ∧
        v.fillAuthDomain.chainId = .bigint chainId := by
  simp only [verifiedOf, Outcome.bind_ok, Outcome.pure_ok] at h
  obtain ⟨chainId, chain_ok, _, -, rfl⟩ := h
  exact ⟨rfl, rfl, rfl, rfl, rfl, rfl, rfl, rfl, rfl, chainId, chain_ok, rfl⟩

theorem verifyAward_ok {award : Award} {x : AwardExpectations} {v : VerifiedAward} :
    verifyAward award x = .ok v ↔ ∃ env, Accepted award x env v := by
  simp only [verifyAward, Outcome.bind_ok, thrown_ok, refuseIf_ok, exists_const,
    bne_eq_false_iff_eq, Bool.or_eq_false_iff, Bool.not_eq_false']
  constructor
  · rintro ⟨env, fillable, ⟨⟩, origin, commitment, opened, order, hashed, named, intent, ⟨⟩,
      announced, evm, ⟨⟩, auth, ⟨⟩, amount, made⟩
    obtain ⟨rfl, terms, opening, -⟩ := verifiedOf_ok made
    rw [← terms] at hashed announced made
    rw [← opening] at intent announced evm
    exact ⟨env, fillable, origin, ⟨commitment, opened, terms⟩, hashed, named, intent, announced,
      evm, auth, amount, made⟩
  · rintro ⟨env, h⟩
    obtain ⟨commitment, opened, terms⟩ := h.opened
    obtain ⟨-, -, opening, -⟩ := verifiedOf_ok h.made
    refine ⟨env, h.fillable, (), h.origin, commitment, opened, v.orderId, ?_⟩
    rw [← terms, ← opening]
    exact ⟨h.hashed, h.named, h.intent, (), h.announced, h.evm, (), h.auth, (), h.amount, h.made⟩

/-- A verified award pays what its order commits to. -/
theorem pays_of_verified {award : Award} {x : AwardExpectations} {v : VerifiedAward}
    (h : verifyAward award x = .ok v) : v.Pays award x := by
  obtain ⟨env, h⟩ := verifyAward_ok.mp h
  obtain ⟨e, carried, ref⟩ := requireFillableEscrow_ok h.fillable
  obtain ⟨escrow, from_, to_⟩ := checkOrigin_ok h.origin
  obtain ⟨filler, contract, chain, recipient, token⟩ := checkFillAuth_ok h.auth
  obtain ⟨commitment, opened, terms⟩ := h.opened
  obtain ⟨-, -, opening, payee, filler_eq, to_eq, token_eq, amount_eq, contract_eq, chainId,
    chain_ok, chain_eq⟩ := verifiedOf_ok h.made
  have paid := checkAmount_ok h.amount
  rw [← amount_eq] at paid
  have opens := openedCommitment_ok opened
  rw [← opening] at opens
  have amountText : v.opening.toAmount = .text env.destOpening.toAmount := by rw [opening]; rfl
  have recipients : v.opening.recipient = env.destOpening.recipient := by rw [opening]; rfl
  have tokens : v.opening.toToken = env.destOpening.toToken := by rw [opening]; rfl
  exact {
    committed := ⟨h.hashed, commitment, opens, by rw [terms]; rfl⟩
    named := ⟨e, carried, by rw [← ref, h.named]⟩
    intent := h.intent
    evm := h.evm
    recipient := by rw [to_eq, recipients]; exact recipient
    token := by rw [token_eq, tokens]; exact token
    filler := by rw [filler_eq]; exact filler
    contract := by rw [contract_eq]; exact contract
    chain := by
      obtain ⟨n, read, expected⟩ := chain
      rw [readBigInt_ok, asBigInt_spelled read] at chain_ok
      cases chain_ok
      exact ⟨n, by rw [chain_eq]; rfl, expected⟩
    origin := by rw [terms]; exact from_
    destination := by rw [terms]; exact to_
    escrow := by rw [terms]; exact escrow
    amount := by rw [VerifiedAward.Bounded, amountText]; exact paid
    payee := payee.trans filler_eq.symm
    announced := fun _ => checkAnnounced_ok h.intent h.announced }

/-- A verified award and the lock it is paid from: the fill is the one the order commits to, and
the lock is that order's. -/
theorem verified_award_backed {award : Award} {x : AwardExpectations} {v : VerifiedAward}
    {lock : OpenedLock} {u : Unit} (verified : verifyAward award x = .ok v)
    (matched : checkLockMatchesTerms lock v.terms = .ok u) :
    v.Pays award x ∧ lock.Backs v.terms :=
  ⟨pays_of_verified verified, lock_backs matched⟩

/-! ## One order, one fill -/

/-- What the order and the commitment are hashed from. -/
def VerifiedAward.used (v : VerifiedAward) : List (List UInt8) :=
  keyPreimage v.opening.recipient ++ keyPreimage v.opening.toToken ++ [utf8 v.opening.intentId] ++
    xspPreimage (destWords v.opening) ++ xspPreimage (orderWords v.terms)

/-- One recipient is paid one token on one chain, for one intent and over one floor. -/
structure VerifiedAward.SameFill (v w : VerifiedAward) : Prop where
  terms : v.terms.Same w.terms
  recipient : SameHex v.fillAuth.to_ w.fillAuth.to_
  token : SameHex v.fillAuth.token w.fillAuth.token
  chain : SameNumber v.fillAuthDomain.chainId w.fillAuthDomain.chainId
  intent : v.opening.intentId = w.opening.intentId
  floor : SameNumber v.opening.toAmount w.opening.toAmount

omit [Ethers] [AddressCoder] [CoderTexts] in
theorem sameNumber_symm {a b : UintLike} (h : SameNumber a b) : SameNumber b a := by
  obtain ⟨n, left, right⟩ := h
  exact ⟨n, right, left⟩

omit [Ethers] [AddressCoder] [CoderTexts] in
theorem sameNumber_trans {a b c : UintLike} (h : SameNumber a b) (h' : SameNumber b c) :
    SameNumber a c := by
  obtain ⟨m, left, middle⟩ := h
  obtain ⟨n, middle', right⟩ := h'
  have same : m = n := Int.ofNat.inj (Option.some.inj (middle.symm.trans middle'))
  exact ⟨m, left, same ▸ right⟩

omit [CoderTexts] in
/-- Terms and openings of one order are the same. -/
theorem Committed.same {terms terms' : OrderTerms} {opening opening' : DestOpening}
    {orderId : Word} {used : List (List UInt8)} (h : Committed terms opening orderId)
    (h' : Committed terms' opening' orderId) (apart : Distinguishes keccak256 used)
    (orders : xspPreimage (orderWords terms) ⊆ used)
    (orders' : xspPreimage (orderWords terms') ⊆ used)
    (dests : xspPreimage (destWords opening) ⊆ used)
    (dests' : xspPreimage (destWords opening') ⊆ used) :
    terms.Same terms' ∧ ∃ ws, destWords opening = .ok ws ∧ destWords opening' = .ok ws := by
  obtain ⟨words, read, id⟩ := xsp_bind.mp h.order
  obtain ⟨words', read', id'⟩ := xsp_bind.mp h'.order
  rw [xsp_pure] at id id'
  have sameWords : words = words' :=
    hashWords_inj apart (orders (mem_xspPreimage read)) (orders' (mem_xspPreimage read'))
      (id.trans id'.symm)
  subst sameWords
  refine ⟨OrderTerms.same_of read read', ?_⟩
  -- the commitment is the last word of the order
  obtain ⟨commitment, opens, stated⟩ := h.opening
  obtain ⟨commitment', opens', stated'⟩ := h'.opening
  have sameCommitment : commitment = commitment' := by
    obtain ⟨c, carried, last⟩ := orderWords_commitment read
    obtain ⟨c', carried', last'⟩ := orderWords_commitment read'
    rw [stated, xspBytes32_hexlify] at carried
    rw [stated', xspBytes32_hexlify] at carried'
    cases carried
    cases carried'
    exact Option.some.inj (last.symm.trans last')
  subst sameCommitment
  obtain ⟨dest, opened, hash⟩ := xsp_bind.mp opens
  obtain ⟨dest', opened', hash'⟩ := xsp_bind.mp opens'
  rw [xsp_pure] at hash hash'
  have sameDest : dest = dest' :=
    hashWords_inj apart (dests (mem_xspPreimage opened)) (dests' (mem_xspPreimage opened'))
      (hash.trans hash'.symm)
  exact ⟨dest, opened, sameDest ▸ opened'⟩

omit [AddressCoder] [CoderTexts] in
/-- Two EVM addresses of one key are one address. -/
theorem sameHex_of_key {s t : String} (h : SameKey s t) (left : isEvmAddress s = true)
    (right : isEvmAddress t = true) : SameHex s t := by
  rcases h with rfl | ⟨-, -, same⟩ | ⟨_, -, unread, -⟩ | ⟨_, -, unread, -⟩
  · rfl
  · exact same
  · rw [not_evmAddress_of unread] at right
    cases right
  · rw [not_evmAddress_of unread] at left
    cases left

/-- Two awards that pass for one order pay one recipient one token on one chain. -/
theorem one_order_one_fill {a b : Award} {x y : AwardExpectations} {v w : VerifiedAward}
    (left : verifyAward a x = .ok v) (right : verifyAward b y = .ok w)
    (sameOrder : v.orderId = w.orderId) (apart : Distinguishes keccak256 (v.used ++ w.used)) :
    v.SameFill w ∧ a.intentId = b.intentId := by
  have pays := pays_of_verified left
  have pays' := pays_of_verified right
  have sub : v.used ⊆ v.used ++ w.used := List.subset_append_left _ _
  have sub' : w.used ⊆ v.used ++ w.used := List.subset_append_right _ _
  have held (z : VerifiedAward) : xspPreimage (orderWords z.terms) ⊆ z.used :=
    List.subset_append_right _ _
  have opened (z : VerifiedAward) : xspPreimage (destWords z.opening) ⊆ z.used := by
    intro m hm
    simp [VerifiedAward.used, hm]
  have keys (z : VerifiedAward) : ∀ s ∈ [z.opening.recipient, z.opening.toToken],
      keyPreimage s ⊆ z.used := by
    intro s mem m hm
    rcases List.mem_pair.mp mem with rfl | rfl <;> simp [VerifiedAward.used, hm]
  have ids (z : VerifiedAward) : utf8 z.opening.intentId ∈ z.used := by
    simp [VerifiedAward.used]
  obtain ⟨terms, ws, read, read'⟩ := pays.committed.same (sameOrder ▸ pays'.committed) apart
    (List.Subset.trans (held v) sub) (List.Subset.trans (held w) sub')
    (List.Subset.trans (opened v) sub) (List.Subset.trans (opened w) sub')
  have opening := DestOpening.same_of apart read read'
    (fun s mem => List.Subset.trans (keys v s mem) sub)
    (fun s mem => List.Subset.trans (keys w s mem) sub') (sub (ids v)) (sub' (ids w))
  have recipient := sameHex_of_key opening.recipient pays.evm.1 pays'.evm.1
  have token := sameHex_of_key opening.toToken pays.evm.2 pays'.evm.2
  refine ⟨{
    terms
    recipient := pays.recipient.trans (recipient.trans pays'.recipient.symm)
    token := pays.token.trans (token.trans pays'.token.symm)
    chain := ?_
    intent := opening.intentId
    floor := opening.toAmount }, ?_⟩
  · have chains := sameNumber_trans terms.toChainId pays'.destination
    have expected := sameNumber_trans (sameNumber_symm pays.destination) chains
    exact sameNumber_trans (sameNumber_trans pays.chain expected) (sameNumber_symm pays'.chain)
  · exact pays.intent.symm.trans (opening.intentId.trans pays'.intent)

end Pays

/-! ## Two awards of one order -/

/-- A coder that names the argument. -/
abbrev plainTexts : CoderTexts where
  invalidArgument value := "invalid argument " ++ value

def wonAddress (b : UInt8) : Bytes 20 := ⟨List.replicate 20 b, List.length_replicate⟩

def wonText (b : UInt8) : String := hexlify (wonAddress b).bytes

def wonBlinding : Word := ⟨List.replicate 32 2, List.length_replicate⟩

def wonOpening : AwardDestOpening where
  recipient := wonText 0xde
  toToken := wonText 0xab
  toAmount := "990000"
  blinding := hexlify wonBlinding.bytes
  intentId := "intent-1"

def wonTerms : OriginTerms where
  depositor := wonText 3
  fromChainId := .text "8453"
  fromToken := wonText 0xab
  fromAmount := .text "1000000"
  toChainId := .text "10"
  fillDeadline := .text "1900000000"
  escrow := wonText 5

/-- What is read of the numbers below. -/
theorem won_numbers :
    toUint "toAmount" (.text "990000") = .ok 990000 ∧
      toUint "fromChainId" (.text "8453") = .ok 8453 ∧
      toUint "fromAmount" (.text "1000000") = .ok 1000000 ∧
      toUint "toChainId" (.text "10") = .ok 10 ∧
      toUint "fillDeadline" (.text "1900000000") = .ok 1900000000 ∧
      readBigInt (.text "1899990000") = .ok 1899990000 ∧
      readBigInt (.text "1900000000") = .ok 1900000000 ∧ readBigInt (.text "990000") = .ok 990000 ∧
      readBigInt (.text "995000") = .ok 995000 ∧ readBigInt (.text "1000000") = .ok 1000000 ∧
      readBigInt (.text "10") = .ok 10 ∧ readBigInt (.text "010") = .ok 10 := by
  decide +kernel

theorem won_chains :
    sameUint (.text "8453") (.bigint 8453) "originChainId" = .ok true ∧
      sameUint (.text "10") (.bigint 10) "destinationChainId" = .ok true ∧
      sameUint (.text "10") (.bigint 10) "fillAuth.chainId" = .ok true ∧
      sameUint (.text "010") (.bigint 10) "fillAuth.chainId" = .ok true ∧
      sameUint (.text "8453") (.number (.ofInt 8453)) "fromChainId" = .ok true ∧
      sameUint (.text "10") (.number (.ofInt 10)) "toChainId" = .ok true ∧
      sameUint (.text "1000000") (.text "01000000") "fromAmount" = .ok true ∧
      assertBlinding (hexlify wonBlinding.bytes) = .ok () ∧
      asciiLower "Fill-1" = asciiLower "fill-1" := by
  decide +kernel

theorem wonText_key [Ethers] (b : UInt8) :
    canonicalKey (wonText b) = .ok (addressWord (wonAddress b)) := by
  have read : hexBytes 20 (wonText b) = some (wonAddress b) := hexBytes_hexlify _
  have present : wonText b ≠ "" := by
    intro empty
    rw [empty] at read
    cases read
  rw [canonicalKey, if_neg present, read]

/-- The coder reads 40 hex digits after `0x`. -/
theorem bareAddress_read {s : String} {a : Bytes 20} (marked : withHexMark s = s)
    (read : hexBytes 20 s = some a) :
    letI := bareAddressCoder
    xspAddress s = .ok (addressWord a) := by
  let := bareAddressCoder
  have known : AddressCoder.address s = some a := by
    change hexBytes 20 (withHexMark s) = some a
    rw [marked, read]
  simp only [xspAddress, known]

theorem wonText_word (b : UInt8) :
    letI := bareAddressCoder
    xspAddress (asciiLower (wonText b)) = .ok (addressWord (wonAddress b)) := by
  have read : hexBytes 20 (wonText b) = some (wonAddress b) := hexBytes_hexlify _
  have marked : withHexMark (wonText b) = wonText b := by
    unfold withHexMark startsWithHex wonText
    rw [toList_hexlify]
    rfl
  have lower : asciiLower (wonText b) = wonText b := asciiLower_hexlify _
  rw [lower]
  exact bareAddress_read marked read

theorem wonText_evm (b : UInt8) : isEvmAddress (wonText b) = true :=
  isEvmAddress_of (hexBytes_hexlify (wonAddress b))

theorem wonText_preimage (b : UInt8) : keyPreimage (wonText b) = [] := by
  unfold keyPreimage
  exact if_pos (wonText_evm b)

def wonDest [Ethers] : List Word :=
  [ethersId destTypeString, addressWord (wonAddress 0xde), addressWord (wonAddress 0xab),
    uintWord 990000, wonBlinding, keccak256 (utf8 "intent-1")]

def wonOrderWords [Ethers] : List Word :=
  [ethersId orderTypeString, addressWord (wonAddress 3), uintWord 8453,
    addressWord (wonAddress 0xab), uintWord 1000000, uintWord 10, uintWord 1900000000,
    addressWord (wonAddress 5), hashWords wonDest]

def wonOrder [Ethers] : Word := hashWords wonOrderWords

theorem wonOpening_words [Ethers] : destWords wonOpening.opening = .ok wonDest := by
  simp only [destWords, AwardDestOpening.opening, wonOpening, won_chains, wonText_key,
    won_numbers, computeIntentIdHash, xspBytes32_hexlify]
  rfl

theorem wonTerms_words [Ethers] :
    letI := bareAddressCoder
    orderWords (wonTerms.withCommitment (hexlify (hashWords wonDest).bytes)) =
      .ok wonOrderWords := by
  simp only [orderWords, OriginTerms.withCommitment, wonTerms, won_numbers, wonText_word,
    xspBytes32_hexlify]
  rfl

/-- An award of the order to one filler, of an amount to a spelling of the recipient. -/
def wonAward [Ethers] (filler contract to_ amount chainId : String) : Award where
  auctionId := "auction-1"
  intentId := "intent-1"
  output := "1000000"
  escrow := some {
    address := wonText 5
    intentRef := hexlify wonOrder.bytes
    fillId := some "fill-1"
    destOpening := some wonOpening
    fillAuth := some {
      fillId := some "Fill-1", filler := some filler, to_ := some to_, token := some (wonText 0xab)
      amount := some amount, deadline := some "1899999000", chainId := some chainId
      fillerContract := some contract, signature := some "0x" }
    orderTerms := none
    payee := some filler
    acceptBy := some "1899990000" }

def wonExpectations (solver contract : String) (announcement : Option IntentAnnouncement) :
    AwardExpectations where
  solver
  originChainId := .bigint 8453
  escrow := wonText 5
  destinationChainId := .bigint 10
  fillerContract := contract
  originTerms := wonTerms
  announcement
  bidOutput := .text "995000"

/-- The envelope of the award. -/
def wonFillable [Ethers] (filler contract to_ amount chainId : String) : FillableEscrow where
  address := wonText 5
  intentRef := hexlify wonOrder.bytes
  fillId := "fill-1"
  destOpening := wonOpening
  fillAuth := {
    fillId := "Fill-1", filler, to_, token := wonText 0xab, amount, deadline := "1899999000"
    chainId, fillerContract := contract, signature := "0x" }
  orderTerms := none
  payee := some filler
  acceptBy := "1899990000"

/-- A verified award of an order, by what its award may vary in. -/
def paidBy (orderId : Word) (opening : DestOpening) (terms : OrderTerms)
    (filler contract to_ amount : String) : VerifiedAward where
  orderId
  fillId := asciiLower "Fill-1"
  opening
  terms
  fillAuth := {
    fillId := "Fill-1", filler, to_, token := wonText 0xab, amount := .text amount
    deadline := .text "1899999000" }
  fillAuthSignature := "0x"
  fillAuthDomain := { chainId := .bigint 10, verifyingContract := contract }
  payee := filler
  acceptBy := 1899990000

theorem paidBy_used [Ethers] [AddressCoder] {orderId : Word} {opening : DestOpening}
    {terms : OrderTerms} {filler contract to_ amount : String} :
    (paidBy orderId opening terms filler contract to_ amount).used =
      keyPreimage opening.recipient ++ keyPreimage opening.toToken ++ [utf8 opening.intentId] ++
        xspPreimage (destWords opening) ++ xspPreimage (orderWords terms) := rfl

/-- What comes out of the award. -/
def wonVerified [Ethers] (filler contract to_ amount : String) : VerifiedAward :=
  paidBy wonOrder wonOpening.opening
    (wonTerms.withCommitment (hexlify (hashWords wonDest).bytes)) filler contract to_ amount

/-- The award passes once the filler, the recipient, the chain, the amount and what was announced
are right. -/
theorem wonAward_accepted [Ethers] [CoderTexts]
    {filler contract to_ amount chainId solver spender : String}
    {announcement : Option IntentAnnouncement} {paid : Int}
    (fillers : SameHex filler solver) (contracts : SameHex contract spender)
    (payees : SameHex to_ (wonText 0xde))
    (chains : sameUint (.text chainId) (.bigint 10) "fillAuth.chainId" = .ok true)
    (stated : readBigInt (.text chainId) = .ok 10) (read : readBigInt (.text amount) = .ok paid)
    (bounds : 990000 ≤ paid ∧ paid ≤ 995000)
    (announced : checkAnnounced (wonAward filler contract to_ amount chainId)
      (wonExpectations solver spender announcement)
      (wonTerms.withCommitment (hexlify (hashWords wonDest).bytes)) wonOpening.opening
      (hexlify wonOrder.bytes) = .ok ()) :
    letI := bareAddressCoder
    verifyAward (wonAward filler contract to_ amount chainId)
        (wonExpectations solver spender announcement) =
      .ok (wonVerified filler contract to_ amount) := by
  let := bareAddressCoder
  obtain ⟨-, -, -, -, -, deadline, -, floor, bid, output, -, -⟩ := won_numbers
  obtain ⟨origins, destinations, -, -, -, -, -, -, ids⟩ := won_chains
  rw [readBigInt_ok] at bid output
  have self (s : String) : eqAddr s s = true := eqAddr_iff.mpr rfl
  have toToken : wonOpening.toToken = wonText 0xab := rfl
  have recipient : wonOpening.recipient = wonText 0xde := rfl
  have toAmount : wonOpening.toAmount = "990000" := rfl
  have commits : computeDestCommitment wonOpening.opening = .ok (hashWords wonDest) := by
    rw [computeDestCommitment, wonOpening_words]
    rfl
  refine verifyAward_ok.mpr ⟨wonFillable filler contract to_ amount chainId, {
    fillable := rfl
    origin := ?_
    opened := ⟨hashWords wonDest, ?_, rfl⟩
    hashed := ?_
    named := (asciiLower_hexlify _).symm
    intent := rfl
    announced := announced
    evm := ⟨wonText_evm 0xde, wonText_evm 0xab⟩
    auth := ?_
    amount := ?_
    made := ?_ }⟩
  · simp only [checkOrigin, wonFillable, wonExpectations, wonTerms, Outcome.bind_ok, refuseIf_ok,
      self, origins, destinations, Bool.not_true, exists_const, Except.ok.injEq,
      exists_eq_left', and_self]
  · simp only [openedCommitment, wonFillable, commits, Outcome.pure_ok]
  · change computeOrderId (wonTerms.withCommitment (hexlify (hashWords wonDest).bytes)) = _
    rw [computeOrderId, wonTerms_words]
    rfl
  · simp only [checkFillAuth, wonFillable, wonExpectations, Outcome.bind_ok, refuseIf_ok, ids,
      bne_self_eq_false, eqAddr_iff.mpr fillers, eqAddr_iff.mpr contracts, chains,
      recipient, eqAddr_iff.mpr payees, toToken, self, Bool.not_true, exists_const,
      Except.ok.injEq, exists_eq_left', and_self]
  · simp only [checkAmount, wonFillable, toAmount, Outcome.bind_ok, refuseIf_ok, read, floor,
      exists_const, Except.ok.injEq, exists_eq_left', decide_eq_false_iff_not, not_lt,
      checkAwarded, wonAward, output, checkBidOutput, wonExpectations, bid, checkPayee, self,
      Bool.not_true, and_true]
    omega
  · simp only [verifiedOf, wonFillable, Outcome.bind_ok, Outcome.pure_ok, stated, deadline,
      Except.ok.injEq, exists_eq_left']
    rfl

/-- What was announced of the order. -/
def wonAnnouncement [Ethers] : IntentAnnouncement where
  intentId := "intent-1"
  auctionId := "auction-1"
  orderId := hexlify wonOrder.bytes
  fromChainId := .ofInt 8453
  toChainId := .ofInt 10
  fromToken := wonText 0xab
  toToken := wonText 0xab
  fromAmount := some "01000000"

/-- The recipient, checksummed. -/
def wonRecipient : String := mixedCase (wonAddress 0xde)

theorem wonRecipient_same : SameHex wonRecipient (wonText 0xde) :=
  (mixedCase_lower _).trans (asciiLower_hexlify _).symm

def firstAward [Ethers] : Award := wonAward "0xaa" "0xbb" wonRecipient "995000" "010"

def firstExpectations [Ethers] : AwardExpectations :=
  wonExpectations "0xaa" "0xbb" (some wonAnnouncement)

def otherAward [Ethers] : Award := wonAward "0xcc" "0xdd" (wonText 0xde) "990000" "10"

def otherExpectations : AwardExpectations := wonExpectations "0xcc" "0xdd" none

theorem firstAward_accepted [Ethers] [CoderTexts] :
    letI := bareAddressCoder
    verifyAward firstAward firstExpectations =
      .ok (wonVerified "0xaa" "0xbb" wonRecipient "995000") := by
  obtain ⟨-, -, -, -, -, -, -, -, bid, -, -, ten⟩ := won_numbers
  obtain ⟨-, -, -, chains, origin, destination, amount, -, -⟩ := won_chains
  have self (s : String) : eqAddr s s = true := eqAddr_iff.mpr rfl
  refine wonAward_accepted rfl rfl wonRecipient_same chains ten bid (by omega) ?_
  simp only [checkAnnounced, wonExpectations, checkAnnouncement, wonAnnouncement, wonAward,
    wonOpening, AwardDestOpening.opening, wonTerms, OriginTerms.withCommitment, Outcome.bind_ok,
    refuseIf_ok, checkAnnouncedAmount, origin, destination, amount, wonText_key, thrown, self,
    bne_self_eq_false, Bool.not_true, exists_const, Except.ok.injEq, exists_eq_left', and_self]

theorem otherAward_accepted [Ethers] [CoderTexts] :
    letI := bareAddressCoder
    verifyAward otherAward otherExpectations =
      .ok (wonVerified "0xcc" "0xdd" (wonText 0xde) "990000") := by
  obtain ⟨-, -, -, -, -, -, -, floor, -, -, ten, -⟩ := won_numbers
  exact wonAward_accepted rfl rfl rfl won_chains.2.2.1 ten floor (by omega) rfl

/-- The hashes of what the order is hashed from. -/
theorem wonVerified_hashes [Ethers] {filler contract to_ amount : String} :
    letI := bareAddressCoder
    (wonVerified filler contract to_ amount).used.map keccak256 =
      [keccak256 (utf8 "intent-1"), hashWords wonDest, wonOrder] := by
  simp only [wonVerified, paidBy_used, wonOpening_words, wonTerms_words, xspPreimage]
  simp only [AwardDestOpening.opening, wonOpening, wonText_preimage, List.nil_append,
    List.cons_append, List.map_cons, List.map_nil, hashWords, wonOrder]

/-- The hash tells apart what the order is hashed from. -/
theorem wonVerified_apart {filler contract to_ amount : String} :
    letI := documentedEthers
    letI := bareAddressCoder
    Distinguishes keccak256 (wonVerified filler contract to_ amount).used := by
  let := documentedEthers
  let := bareAddressCoder
  have apart : ([keccak256 (utf8 "intent-1"), hashWords wonDest, wonOrder].map
      Bytes.toNat).Nodup := by
    decide +kernel
  exact Distinguishes.of_nodup
    ((congrArg List.Nodup wonVerified_hashes).mpr (List.Nodup.of_map _ apart))

/-- The lock of the order. -/
def wonLock [Ethers] : OpenedLock where
  orderId := hexlify wonOrder.bytes
  depositor := wonText 3
  token := wonText 0xab
  amount := 1000000
  toChainId := 10
  refundableAt := 1900000600

theorem wonLock_matched [Ethers] {commitment : String} :
    checkLockMatchesTerms wonLock (wonTerms.withCommitment commitment) = .ok () := by
  obtain ⟨-, -, -, -, -, -, deadline, -, -, amount, chain, -⟩ := won_numbers
  have self (s : String) : eqAddr s s = true := eqAddr_iff.mpr rfl
  simp only [checkLockMatchesTerms, wonLock, OriginTerms.withCommitment, wonTerms, self, amount,
    chain, deadline, Outcome.bind_ok, refuseIf_ok, Except.ok.injEq, exists_eq_left',
    Bool.not_true, bne_self_eq_false, exists_const, true_and, Int.reduceLT, decide_false]

/-- The first award and its lock. -/
theorem verified_award_backed_won :
    letI := documentedEthers
    letI := bareAddressCoder
    (wonVerified "0xaa" "0xbb" wonRecipient "995000").Pays firstAward firstExpectations ∧
      wonLock.Backs (wonTerms.withCommitment (hexlify (hashWords wonDest).bytes)) := by
  let := documentedEthers
  let := bareAddressCoder
  let := plainTexts
  exact verified_award_backed firstAward_accepted wonLock_matched

/-- Two solvers hold an award of the order, in two spellings. -/
theorem one_order_one_fill_respelled :
    letI := documentedEthers
    letI := bareAddressCoder
    (wonVerified "0xaa" "0xbb" wonRecipient "995000").SameFill
        (wonVerified "0xcc" "0xdd" (wonText 0xde) "990000") ∧
      firstAward.intentId = otherAward.intentId := by
  let := documentedEthers
  let := bareAddressCoder
  let := plainTexts
  exact one_order_one_fill firstAward_accepted otherAward_accepted rfl
    (wonVerified_apart.mono
      (List.append_subset.mpr ⟨List.Subset.refl _, List.Subset.refl _⟩))

end XochiSdk.EscrowVerify
