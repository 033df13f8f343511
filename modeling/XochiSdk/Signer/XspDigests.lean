import XochiSdk.Signer.Ethers
import XochiSdk.Signer.ShieldedDigests
import XochiSdk.Signer.Xsp

/-!
# Settlement-protocol digests do not collide

Two obligations, depository messages or deposit salts of one hash are of one kind, under one
domain, and agree in every field but for its spelling, as far as the hash tells apart what it is
given.
-/

namespace XochiSdk.Signer

open XochiSdk.Js XochiSdk.Library

/-! ## Spellings of one value -/

/-- Two texts of one address. -/
def SameAddress [AddressCoder] (s t : String) : Prop :=
  ∃ a, AddressCoder.address s = some a ∧ AddressCoder.address t = some a

theorem SameAddress.hex [AddressCoder] {s t : String} {a b : Bytes 20} (same : SameAddress s t)
    (hs : hexBytes 20 s = some a) (ht : hexBytes 20 t = some b) : SameHex s t := by
  obtain ⟨c, readS, readT⟩ := same
  refine sameHex_of hs ht ?_
  rw [AddressCoder.address_hex s a c hs readS, AddressCoder.address_hex t b c ht readT]

section

variable [AddressCoder]

structure XochiObligation.Same (a b : XochiObligation) : Prop where
  originChainId : SameUint a.originChainId b.originChainId
  originToken : SameAddress a.originToken b.originToken
  originAmount : SameUint a.originAmount b.originAmount
  destChainId : SameUint a.destChainId b.destChainId
  destToken : SameHex a.destToken b.destToken
  destAmount : SameUint a.destAmount b.destAmount
  recipientCommitment : SameHex a.recipientCommitment b.recipientCommitment
  refundCommitment : SameHex a.refundCommitment b.refundCommitment
  recoverable : a.recoverable = b.recoverable
  solver : SameAddress a.solver b.solver
  settlementType : a.settlementType.toInteger = b.settlementType.toInteger
  deadline : SameUint a.deadline b.deadline
  quoteId : SameHex a.quoteId b.quoteId
  nonce : SameUint a.nonce b.nonce

structure DepositoryTransfer.Same (a b : DepositoryTransfer) : Prop where
  token : SameAddress a.token b.token
  to_ : SameAddress a.to_ b.to_
  amount : SameUint a.amount b.amount

structure DepositoryRecord.Same (a b : DepositoryRecord) : Prop where
  obligationId : SameHex a.obligationId b.obligationId
  refundCommitment : SameHex a.refundCommitment b.refundCommitment
  depositor : SameAddress a.depositor b.depositor
  token : SameAddress a.token b.token
  amount : SameUint a.amount b.amount
  depositedAt : SameUint a.depositedAt b.depositedAt

structure CallRequest.Same (a b : CallRequest) : Prop where
  id : SameHex a.id b.id
  expiry : SameUint a.expiry b.expiry
  transfers : List.Forall₂ DepositoryTransfer.Same a.transfers b.transfers
  consume : List.Forall₂ DepositoryRecord.Same a.consume b.consume

structure MarkConsumed.Same (a b : MarkConsumed) : Prop where
  consume : List.Forall₂ DepositoryRecord.Same a.consume b.consume
  expiry : SameUint a.expiry b.expiry
  salt : SameHex a.salt b.salt

structure DepositAddressInputs.Same (a b : DepositAddressInputs) : Prop where
  obligationId : SameHex a.obligationId b.obligationId
  refundCommitment : SameHex a.refundCommitment b.refundCommitment
  recoverable : a.recoverable = b.recoverable
  originToken : SameAddress a.originToken b.originToken
  originAmount : SameUint a.originAmount b.originAmount

end

/-! ## Everything that is hashed -/

/-- A message with what its domain is built from, or the inputs of a deposit salt. -/
inductive XspMessage where
  | obligation (terms : XochiObligation) (depository : String)
  | callRequest (req : CallRequest) (chainId : UintLike) (depository : String)
  | markConsumed (msg : MarkConsumed) (chainId : UintLike) (depository : String)
  | depositSalt (inputs : DepositAddressInputs)

namespace XspMessage

/-- The same kind, domain and fields. -/
def Same [AddressCoder] : XspMessage → XspMessage → Prop
  | .obligation terms depository, .obligation terms' depository' =>
    terms.Same terms' ∧ SameAddress depository depository'
  | .callRequest req chain depository, .callRequest req' chain' depository' =>
    req.Same req' ∧ SameUint chain chain' ∧ SameAddress depository depository'
  | .markConsumed msg chain depository, .markConsumed msg' chain' depository' =>
    msg.Same msg' ∧ SameUint chain chain' ∧ SameAddress depository depository'
  | .depositSalt inputs, .depositSalt inputs' => inputs.Same inputs'
  | _, _ => False

/-- The id, digest or salt. -/
def hash [Ethers] [AddressCoder] : XspMessage → Xsp Word
  | .obligation terms depository => computeObligationId terms depository
  | .callRequest req chain depository => callRequestDigest req chain depository
  | .markConsumed msg chain depository => markConsumedDigest msg chain depository
  | .depositSalt inputs => computeDepositAddressSalt inputs

/-- Every integer of a record, with the largest of its declared type. -/
def recordIntegers (r : DepositoryRecord) : List (UintLike × Nat) :=
  [(r.amount, uint256Max), (r.depositedAt, uint64Max)]

/-- Every integer of a message, with the largest of its declared type. -/
def integers : XspMessage → List (UintLike × Nat)
  | .obligation terms _ => [(terms.originChainId, uint256Max), (terms.originAmount, uint256Max),
      (terms.destChainId, uint256Max), (terms.destAmount, uint256Max),
      (.number terms.settlementType, 255), (terms.deadline, uint64Max), (terms.nonce, uint256Max)]
  | .callRequest req chain _ => (chain, uint256Max) :: (req.expiry, uint64Max) ::
      req.transfers.map (fun t => (t.amount, uint256Max)) ++ req.consume.flatMap recordIntegers
  | .markConsumed msg chain _ =>
    (chain, uint256Max) :: (msg.expiry, uint64Max) :: msg.consume.flatMap recordIntegers
  | .depositSalt inputs => [(inputs.originAmount, uint256Max)]

end XspMessage

/-! ## What an accepted value is -/

theorem xsp_bind {α β : Type} {x : Xsp α} {f : α → Xsp β} {b : β} :
    (x >>= f) = .ok b ↔ ∃ a, x = .ok a ∧ f a = .ok b := by
  cases x <;> simp [bind, Except.bind]

theorem xsp_pure {α : Type} {a b : α} : (pure a : Xsp α) = .ok b ↔ a = b := by
  simp [pure, Except.pure]

/-- The value spells an integer of its declared type. -/
def InWidth (e : UintLike × Nat) : Prop :=
  ∃ v : Nat, uintSpelling false e.1 = some (v : Int) ∧ v ≤ e.2

theorem parseUint_ok {value : UintLike} {field : String} {v : Nat}
    (h : parseUint value field = .ok v) : uintSpelling false value = some (v : Int) := by
  unfold parseUint at h
  split at h
  · next n read =>
    split at h
    · cases h
    · cases h
      rw [read, Int.toNat_of_nonneg (by omega)]
  · cases h

theorem uintN_ok {value : UintLike} {field : String} {bits max v : Nat}
    (h : uintN value field bits max = .ok v) :
    uintSpelling false value = some (v : Int) ∧ v ≤ max := by
  simp only [uintN, xsp_bind] at h
  obtain ⟨n, read, h⟩ := h
  split at h
  · cases h
  · cases h
    exact ⟨parseUint_ok read, by omega⟩

theorem uintN_inWidth {value : UintLike} {field : String} {bits max v : Nat}
    (h : uintN value field bits max = .ok v) : InWidth (value, max) := ⟨v, uintN_ok h⟩

theorem uintN_same {x y : UintLike} {field : String} {bits max v w : Nat}
    (fits : max ≤ uint256Max) (hx : uintN x field bits max = .ok v)
    (hy : uintN y field bits max = .ok w) (same : uintWord v = uintWord w) : SameUint x y := by
  obtain ⟨readX, boundX⟩ := uintN_ok hx
  obtain ⟨readY, boundY⟩ := uintN_ok hy
  exact sameUint_of readX readY (uintWord_inj (boundX.trans fits) (boundY.trans fits) same)

theorem uint64_same {x y : UintLike} {field : String} {v w : Nat} (hx : uint64 x field = .ok v)
    (hy : uint64 y field = .ok w) (same : uintWord v = uintWord w) : SameUint x y :=
  uintN_same (by decide) hx hy same

theorem uint256_same {x y : UintLike} {field : String} {v w : Nat} (hx : uint256 x field = .ok v)
    (hy : uint256 y field = .ok w) (same : uintWord v = uintWord w) : SameUint x y :=
  uintN_same (Nat.le_refl _) hx hy same

theorem settlementTypeOf_ok {st : JsNumber} {v : Nat} (h : settlementTypeOf st = .ok v) :
    st.toInteger = some (v : Int) ∧ v ≤ 3 := by
  unfold settlementTypeOf at h
  split at h
  · next n read =>
    split at h
    · next range =>
      cases h
      rw [read, Int.toNat_of_nonneg (by omega)]
      exact ⟨rfl, by omega⟩
    · cases h
  · cases h

theorem settlementTypeOf_inWidth {st : JsNumber} {v : Nat} (h : settlementTypeOf st = .ok v) :
    InWidth (.number st, 255) := by
  obtain ⟨read, bound⟩ := settlementTypeOf_ok h
  have fits : 3 ≤ 255 := by decide
  refine ⟨v, ?_, bound.trans fits⟩
  have small : v ≤ 2 ^ 53 - 1 := bound.trans (by decide)
  change safeInteger st = _
  unfold safeInteger
  rw [read, Option.bind_some, Int.natAbs_natCast, if_pos small]

theorem settlementType_same {x y : JsNumber} {v w : Nat} (hx : settlementTypeOf x = .ok v)
    (hy : settlementTypeOf y = .ok w) (same : uintWord v = uintWord w) :
    x.toInteger = y.toInteger := by
  obtain ⟨readX, boundX⟩ := settlementTypeOf_ok hx
  obtain ⟨readY, boundY⟩ := settlementTypeOf_ok hy
  have small : 3 ≤ uint256Max := by decide
  rw [readX, readY, uintWord_inj (boundX.trans small) (boundY.trans small) same]

theorem xspBytes32_ok {s : String} {w : Word} (h : xspBytes32 s = .ok w) :
    getBytes s = some w.bytes := by
  unfold xspBytes32 at h
  split at h
  · next bytes read =>
    split at h
    · cases h
      exact read
    · cases h
  · cases h

theorem xspBytes32_same {s t : String} {v w : Word} (hs : xspBytes32 s = .ok v)
    (ht : xspBytes32 t = .ok w) (same : v = w) : SameHex s t := by
  subst same
  exact getBytes_lower (xspBytes32_ok hs) (xspBytes32_ok ht)

theorem xspAddress_same [AddressCoder] {s t : String} {v w : Word} (hs : xspAddress s = .ok v)
    (ht : xspAddress t = .ok w) (same : v = w) : SameAddress s t := by
  unfold xspAddress at hs ht
  split at hs
  · next a readS =>
    split at ht
    · next b readT =>
      have words : addressWord a = addressWord b :=
        (Except.ok.inj hs).trans (same.trans (Except.ok.inj ht).symm)
      rw [← addressWord_inj words] at readT
      exact ⟨a, readS, readT⟩
    · cases ht
  · cases hs

/-- Lists read to one result are read from the same values, one by one. -/
theorem mapM_forall₂ {α β : Type} {R : α → α → Prop} {f : α → Xsp β} {l l' : List α} {r : List β}
    (h : l.mapM f = .ok r) (h' : l'.mapM f = .ok r)
    (each : ∀ a ∈ l, ∀ b ∈ l', ∀ v, f a = .ok v → f b = .ok v → R a b) : List.Forall₂ R l l' := by
  induction l generalizing l' r with
  | nil =>
    rw [List.mapM_nil, xsp_pure] at h
    subst h
    cases l' with
    | nil => exact .nil
    | cons b l' =>
      simp only [List.mapM_cons, xsp_bind, xsp_pure] at h'
      obtain ⟨_, -, _, -, same⟩ := h'
      cases same
  | cons a l ih =>
    simp only [List.mapM_cons, xsp_bind, xsp_pure] at h
    obtain ⟨v, first, vs, rest, rfl⟩ := h
    cases l' with
    | nil =>
      rw [List.mapM_nil, xsp_pure] at h'
      cases h'
    | cons b l' =>
      simp only [List.mapM_cons, xsp_bind, xsp_pure, List.cons.injEq] at h'
      obtain ⟨w, first', ws, rest', rfl, rfl⟩ := h'
      refine .cons (each a (by simp) b (by simp) _ first first') (ih rest rest' ?_)
      intro a ha b hb
      exact each a (List.mem_cons_of_mem _ ha) b (List.mem_cons_of_mem _ hb)

theorem mapM_each {α β : Type} {f : α → Xsp β} {l : List α} {r : List β} (h : l.mapM f = .ok r) :
    ∀ a ∈ l, ∃ v, f a = .ok v := by
  induction l generalizing r with
  | nil => simp
  | cons a l ih =>
    simp only [List.mapM_cons, xsp_bind, xsp_pure] at h
    obtain ⟨v, first, vs, rest, -⟩ := h
    intro b mem
    rcases List.mem_cons.mp mem with rfl | mem
    · exact ⟨v, first⟩
    · exact ih rest b mem

/-! ## What the hashes are over -/

/-- The encoding of words that were accepted. -/
def xspPreimage : Xsp (List Word) → List (List UInt8)
  | .ok ws => [encodeWords ws]
  | .error _ => []

theorem mem_xspPreimage {x : Xsp (List Word)} {ws : List Word} (h : x = .ok ws) :
    encodeWords ws ∈ xspPreimage x := by
  rw [h]
  exact List.mem_singleton.mpr rfl

section Hashes

variable [Ethers] [AddressCoder]

def XspDomain.used (d : XspDomain) : List (List UInt8) :=
  [utf8 eip712DomainTypeString, utf8 d.name, utf8 d.version] ++ xspPreimage (xspDomainWords d)

def usedTransfers (transfers : List DepositoryTransfer) : List (List UInt8) :=
  utf8 transferType :: transfers.flatMap (fun t => xspPreimage (transferWords t)) ++
    xspPreimage (transfers.mapM hashTransfer)

def usedRecords (records : List DepositoryRecord) : List (List UInt8) :=
  utf8 recordType :: records.flatMap (fun r => xspPreimage (recordWords r)) ++
    xspPreimage (records.mapM hashRecord)

namespace XspMessage

/-- The domain, of what has one. -/
def domain? : XspMessage → Option XspDomain
  | .obligation terms depository => some (obligationDomain terms.originChainId depository)
  | .callRequest _ chain depository | .markConsumed _ chain depository =>
    some (depositoryDomain chain depository)
  | .depositSalt _ => none

/-- The words of the struct hash, or of the salt. -/
def words : XspMessage → Xsp (List Word)
  | .obligation terms _ => obligationWords terms
  | .callRequest req _ _ => callRequestWords req
  | .markConsumed msg _ _ => markConsumedWords msg
  | .depositSalt inputs => depositSaltWords inputs

/-- What a message's own words are hashed from. -/
def members : XspMessage → List (List UInt8)
  | .obligation _ _ => [utf8 obligationTypeString]
  | .callRequest req _ _ =>
    utf8 callRequestType :: usedTransfers req.transfers ++ usedRecords req.consume
  | .markConsumed msg _ _ => utf8 markConsumedType :: usedRecords msg.consume
  | .depositSalt _ => []

/-- The last hash of a message under a domain is over the two before it. -/
def typed (x : XspMessage) (d : XspDomain) : List (List UInt8) :=
  match xspDomainWords d, x.words with
  | .ok domain, .ok members => [typedPreimage (hashWords domain) (hashWords members)]
  | _, _ => []

/-- Everything the hash is computed from by hashing. -/
def used (x : XspMessage) : List (List UInt8) :=
  x.members ++ xspPreimage x.words ++ match x.domain? with
    | some d => d.used ++ x.typed d
    | none => []

end XspMessage

/-! ## Equal words -/

/-- Domains of one list of words agree. -/
structure XspDomain.Same (a b : XspDomain) : Prop where
  name : a.name = b.name
  version : a.version = b.version
  chainId : SameUint a.chainId b.chainId
  verifyingContract : SameAddress a.verifyingContract b.verifyingContract

section Apart

variable {used : List (List UInt8)} (apart : Distinguishes keccak256 used)

include apart

theorem XspDomain.same_of {a b : XspDomain} {ws : List Word} (ha : xspDomainWords a = .ok ws)
    (hb : xspDomainWords b = .ok ws) (subA : a.used ⊆ used) (subB : b.used ⊆ used) :
    a.Same b := by
  simp only [xspDomainWords, xsp_bind, xsp_pure] at ha hb
  obtain ⟨chainA, chain, contractA, contract, same⟩ := ha
  obtain ⟨chainB, chain', contractB, contract', rfl⟩ := hb
  simp only [List.cons.injEq, and_true, true_and] at same
  obtain ⟨names, versions, chains, contracts⟩ := same
  exact
    { name := ethersId_inj apart (subA (by simp [XspDomain.used]))
        (subB (by simp [XspDomain.used])) names
      version := ethersId_inj apart (subA (by simp [XspDomain.used]))
        (subB (by simp [XspDomain.used])) versions
      chainId := uint256_same chain chain' chains
      verifyingContract := xspAddress_same contract contract' contracts }

/-- Transfers of one hash are the same, in number and order too. -/
theorem hashTransfers_same {ts ts' : List DepositoryTransfer} {w : Word}
    (h : hashTransfers ts = .ok w) (h' : hashTransfers ts' = .ok w)
    (sub : usedTransfers ts ⊆ used) (sub' : usedTransfers ts' ⊆ used) :
    List.Forall₂ DepositoryTransfer.Same ts ts' := by
  simp only [hashTransfers, xsp_bind, xsp_pure] at h h'
  obtain ⟨vs, read, hash⟩ := h
  obtain ⟨ws, read', hash'⟩ := h'
  have lists := hashWords_inj apart (sub (List.mem_append_right _ (mem_xspPreimage read)))
    (sub' (List.mem_append_right _ (mem_xspPreimage read'))) (hash.trans hash'.symm)
  rw [← lists] at read'
  refine mapM_forall₂ read read' fun a ha b hb v first first' => ?_
  simp only [hashTransfer, xsp_bind, xsp_pure] at first first'
  obtain ⟨wordsA, readA, hashA⟩ := first
  obtain ⟨wordsB, readB, hashB⟩ := first'
  have memA : encodeWords wordsA ∈ used :=
    sub (List.mem_append_left _ (List.mem_cons_of_mem _
      (List.mem_flatMap.mpr ⟨a, ha, mem_xspPreimage readA⟩)))
  have memB : encodeWords wordsB ∈ used :=
    sub' (List.mem_append_left _ (List.mem_cons_of_mem _
      (List.mem_flatMap.mpr ⟨b, hb, mem_xspPreimage readB⟩)))
  have words := hashWords_inj apart memA memB (hashA.trans hashB.symm)
  subst words
  simp only [transferWords, xsp_bind, xsp_pure] at readA readB
  obtain ⟨amountA, amount, tokenA, token, toA, to_, same⟩ := readA
  obtain ⟨amountB, amount', tokenB, token', toB, to', rfl⟩ := readB
  simp only [List.cons.injEq, and_true, true_and] at same
  obtain ⟨tokens, tos, amounts⟩ := same
  exact ⟨xspAddress_same token token' tokens, xspAddress_same to_ to' tos,
    uint256_same amount amount' amounts⟩

/-- Records of one hash are the same, in number and order too. -/
theorem hashRecords_same {rs rs' : List DepositoryRecord} {w : Word}
    (h : hashRecords rs = .ok w) (h' : hashRecords rs' = .ok w)
    (sub : usedRecords rs ⊆ used) (sub' : usedRecords rs' ⊆ used) :
    List.Forall₂ DepositoryRecord.Same rs rs' := by
  simp only [hashRecords, xsp_bind, xsp_pure] at h h'
  obtain ⟨vs, read, hash⟩ := h
  obtain ⟨ws, read', hash'⟩ := h'
  have lists := hashWords_inj apart (sub (List.mem_append_right _ (mem_xspPreimage read)))
    (sub' (List.mem_append_right _ (mem_xspPreimage read'))) (hash.trans hash'.symm)
  rw [← lists] at read'
  refine mapM_forall₂ read read' fun a ha b hb v first first' => ?_
  simp only [hashRecord, xsp_bind, xsp_pure] at first first'
  obtain ⟨wordsA, readA, hashA⟩ := first
  obtain ⟨wordsB, readB, hashB⟩ := first'
  have memA : encodeWords wordsA ∈ used :=
    sub (List.mem_append_left _ (List.mem_cons_of_mem _
      (List.mem_flatMap.mpr ⟨a, ha, mem_xspPreimage readA⟩)))
  have memB : encodeWords wordsB ∈ used :=
    sub' (List.mem_append_left _ (List.mem_cons_of_mem _
      (List.mem_flatMap.mpr ⟨b, hb, mem_xspPreimage readB⟩)))
  have words := hashWords_inj apart memA memB (hashA.trans hashB.symm)
  subst words
  simp only [recordWords, xsp_bind, xsp_pure] at readA readB
  obtain ⟨amountA, amount, atA, at_, idA, id_, refundA, refund, depositorA, depositor, tokenA,
    token, same⟩ := readA
  obtain ⟨amountB, amount', atB, at', idB, id', refundB, refund', depositorB, depositor', tokenB,
    token', rfl⟩ := readB
  simp only [List.cons.injEq, and_true, true_and] at same
  obtain ⟨ids, refunds, depositors, tokens, amounts, ats⟩ := same
  exact
    { obligationId := xspBytes32_same id_ id' ids
      refundCommitment := xspBytes32_same refund refund' refunds
      depositor := xspAddress_same depositor depositor' depositors
      token := xspAddress_same token token' tokens
      amount := uint256_same amount amount' amounts
      depositedAt := uint64_same at_ at' ats }

omit apart in
theorem XochiObligation.same_of {a b : XochiObligation} {ws : List Word}
    (ha : obligationWords a = .ok ws) (hb : obligationWords b = .ok ws) : a.Same b := by
  simp only [obligationWords, xsp_bind, xsp_pure] at ha hb
  obtain ⟨typeA, type, originA, origin, amountA, amount, destA, dest, exactA, exact_, deadlineA,
    deadline, nonceA, nonce, tokenA, token, destTokenA, destToken, recipientA, recipient, refundA,
    refund, solverA, solver, quoteA, quote, same⟩ := ha
  obtain ⟨typeB, type', originB, origin', amountB, amount', destB, dest', exactB, exact', deadlineB,
    deadline', nonceB, nonce', tokenB, token', destTokenB, destToken', recipientB, recipient',
    refundB, refund', solverB, solver', quoteB, quote', rfl⟩ := hb
  simp only [List.cons.injEq, and_true, true_and] at same
  obtain ⟨origins, tokens, amounts, dests, destTokens, exacts, recipients, refunds, recoverables,
    solvers, types, deadlines, quotes, nonces⟩ := same
  exact
    { originChainId := uint256_same origin origin' origins
      originToken := xspAddress_same token token' tokens
      originAmount := uint256_same amount amount' amounts
      destChainId := uint256_same dest dest' dests
      destToken := xspBytes32_same destToken destToken' destTokens
      destAmount := uint256_same exact_ exact' exacts
      recipientCommitment := xspBytes32_same recipient recipient' recipients
      refundCommitment := xspBytes32_same refund refund' refunds
      recoverable := boolWord_inj recoverables
      solver := xspAddress_same solver solver' solvers
      settlementType := settlementType_same type type' types
      deadline := uint64_same deadline deadline' deadlines
      quoteId := xspBytes32_same quote quote' quotes
      nonce := uint256_same nonce nonce' nonces }

theorem CallRequest.same_of {a b : CallRequest} {ws : List Word}
    (ha : callRequestWords a = .ok ws) (hb : callRequestWords b = .ok ws)
    (subA : usedTransfers a.transfers ++ usedRecords a.consume ⊆ used)
    (subB : usedTransfers b.transfers ++ usedRecords b.consume ⊆ used) : a.Same b := by
  simp only [callRequestWords, xsp_bind, xsp_pure] at ha hb
  obtain ⟨expiryA, expiry, transfersA, transfers, consumeA, consume, idA, id_, same⟩ := ha
  obtain ⟨expiryB, expiry', transfersB, transfers', consumeB, consume', idB, id', rfl⟩ := hb
  simp only [List.cons.injEq, and_true, true_and] at same
  obtain ⟨ids, expiries, rfl, rfl⟩ := same
  exact
    { id := xspBytes32_same id_ id' ids
      expiry := uint64_same expiry expiry' expiries
      transfers := hashTransfers_same apart transfers transfers'
        (fun m mem => subA (List.mem_append_left _ mem))
        fun m mem => subB (List.mem_append_left _ mem)
      consume := hashRecords_same apart consume consume'
        (fun m mem => subA (List.mem_append_right _ mem))
        fun m mem => subB (List.mem_append_right _ mem) }

theorem MarkConsumed.same_of {a b : MarkConsumed} {ws : List Word}
    (ha : markConsumedWords a = .ok ws) (hb : markConsumedWords b = .ok ws)
    (subA : usedRecords a.consume ⊆ used) (subB : usedRecords b.consume ⊆ used) : a.Same b := by
  simp only [markConsumedWords, xsp_bind, xsp_pure] at ha hb
  obtain ⟨consumeA, consume, expiryA, expiry, saltA, salt, same⟩ := ha
  obtain ⟨consumeB, consume', expiryB, expiry', saltB, salt', rfl⟩ := hb
  simp only [List.cons.injEq, and_true, true_and] at same
  obtain ⟨rfl, expiries, salts⟩ := same
  exact
    { consume := hashRecords_same apart consume consume' subA subB
      expiry := uint64_same expiry expiry' expiries
      salt := xspBytes32_same salt salt' salts }

end Apart

omit [Ethers] in
theorem depositSaltWords_ok {inputs : DepositAddressInputs} {ws : List Word}
    (h : depositSaltWords inputs = .ok ws) : ∃ amount id refund token,
      uint256 inputs.originAmount "originAmount" = .ok amount ∧
      xspBytes32 inputs.obligationId = .ok id ∧ xspBytes32 inputs.refundCommitment = .ok refund ∧
      xspAddress inputs.originToken = .ok token ∧
      ws = [id, refund, boolWord inputs.recoverable, token, uintWord amount] := by
  simp only [depositSaltWords, xsp_bind] at h
  obtain ⟨amount, amount_ok, h⟩ := h
  split at h
  · cases h
  · simp only [xsp_bind, xsp_pure] at h
    obtain ⟨id, id_ok, refund, refund_ok, token, token_ok, rfl⟩ := h
    exact ⟨amount, id, refund, token, amount_ok, id_ok, refund_ok, token_ok, rfl⟩

omit [Ethers] in
theorem DepositAddressInputs.same_of {a b : DepositAddressInputs} {ws : List Word}
    (ha : depositSaltWords a = .ok ws) (hb : depositSaltWords b = .ok ws) : a.Same b := by
  obtain ⟨amountA, idA, refundA, tokenA, amount, id_, refund, token, same⟩ :=
    depositSaltWords_ok ha
  obtain ⟨amountB, idB, refundB, tokenB, amount', id', refund', token', rfl⟩ :=
    depositSaltWords_ok hb
  simp only [List.cons.injEq, and_true] at same
  obtain ⟨ids, refunds, recoverables, tokens, amounts⟩ := same
  exact
    { obligationId := xspBytes32_same id_ id' ids.symm
      refundCommitment := xspBytes32_same refund refund' refunds.symm
      recoverable := boolWord_inj recoverables.symm
      originToken := xspAddress_same token token' tokens.symm
      originAmount := uint256_same amount amount' amounts.symm }

/-! ## Equal hashes -/

/-- The hash of an accepted message is over its own words, and its domain's if it has one. -/
theorem XspMessage.hash_ok {x : XspMessage} {w : Word} (h : x.hash = .ok w) :
    ∃ members, x.words = .ok members ∧ match x.domain? with
      | some d => ∃ domain, xspDomainWords d = .ok domain ∧
        w = typedDigest (hashWords domain) (hashWords members)
      | none => w = hashWords members := by
  cases x with
  | obligation terms depository =>
    simp only [hash, computeObligationId, xspDomainSeparator, hashObligation, xsp_bind,
      xsp_pure] at h
    obtain ⟨_, ⟨domain, domain_ok, rfl⟩, _, ⟨members, members_ok, rfl⟩, rfl⟩ := h
    exact ⟨members, members_ok, domain, domain_ok, rfl⟩
  | callRequest req chain depository =>
    simp only [hash, callRequestDigest, xspDomainSeparator, hashCallRequest, xsp_bind,
      xsp_pure] at h
    obtain ⟨_, ⟨domain, domain_ok, rfl⟩, _, ⟨members, members_ok, rfl⟩, rfl⟩ := h
    exact ⟨members, members_ok, domain, domain_ok, rfl⟩
  | markConsumed msg chain depository =>
    simp only [hash, markConsumedDigest, xspDomainSeparator, hashMarkConsumed, xsp_bind,
      xsp_pure] at h
    obtain ⟨_, ⟨domain, domain_ok, rfl⟩, _, ⟨members, members_ok, rfl⟩, rfl⟩ := h
    exact ⟨members, members_ok, domain, domain_ok, rfl⟩
  | depositSalt inputs =>
    simp only [hash, computeDepositAddressSalt, xsp_bind, xsp_pure] at h
    obtain ⟨members, members_ok, rfl⟩ := h
    exact ⟨members, members_ok, rfl⟩

omit [Ethers] [AddressCoder] in
/-- A digest is over 66 bytes, and words come in 32. -/
theorem typedPreimage_ne_encodeWords {s t : Word} {ws : List Word} :
    typedPreimage s t ≠ encodeWords ws := by
  intro same
  have lengths := congrArg List.length same
  simp only [typedPreimage, encodeWords, List.length_append, List.length_cons, List.length_nil,
    s.length_bytes, t.length_bytes, Bytes.length_join] at lengths
  omega

omit [Ethers] [AddressCoder] in
theorem domainNames_ne : obligationDomainName ≠ depositoryDomainName := by decide

/-- Messages of one list of words, under one domain if any, are the same: the domain tells
obligations from the depository's messages, and the number of words these from one another. -/
theorem XspMessage.same_of {x y : XspMessage} {used : List (List UInt8)} {ws : List Word}
    (apart : Distinguishes keccak256 used) (hx : x.words = .ok ws) (hy : y.words = .ok ws)
    (domains : Option.Rel XspDomain.Same x.domain? y.domain?) (subX : x.members ⊆ used)
    (subY : y.members ⊆ used) : x.Same y := by
  have kinds {req : CallRequest} {msg : MarkConsumed} (req_ok : callRequestWords req = .ok ws)
      (msg_ok : markConsumedWords msg = .ok ws) : False := by
    simp only [callRequestWords, xsp_bind, xsp_pure] at req_ok
    simp only [markConsumedWords, xsp_bind, xsp_pure] at msg_ok
    obtain ⟨_, -, _, -, _, -, _, -, rfl⟩ := req_ok
    obtain ⟨_, -, _, -, _, -, same⟩ := msg_ok
    exact absurd (congrArg List.length same) (by simp)
  cases x with
  | obligation terms depository =>
    cases y with
    | obligation terms' depository' =>
      cases domains with
      | some same => exact ⟨XochiObligation.same_of hx hy, same.verifyingContract⟩
    | callRequest | markConsumed =>
      cases domains with
      | some same => exact absurd same.name domainNames_ne
    | depositSalt => cases domains
  | callRequest req chain depository =>
    cases y with
    | callRequest req' chain' depository' =>
      cases domains with
      | some same =>
        exact ⟨CallRequest.same_of apart hx hy (fun m mem => subX (List.mem_cons_of_mem _ mem))
          fun m mem => subY (List.mem_cons_of_mem _ mem), same.chainId, same.verifyingContract⟩
    | markConsumed msg chain' depository' =>
      exact (kinds hx hy).elim
    | obligation =>
      cases domains with
      | some same => exact absurd same.name.symm domainNames_ne
    | depositSalt => cases domains
  | markConsumed msg chain depository =>
    cases y with
    | markConsumed msg' chain' depository' =>
      cases domains with
      | some same =>
        exact ⟨MarkConsumed.same_of apart hx hy (fun m mem => subX (List.mem_cons_of_mem _ mem))
          fun m mem => subY (List.mem_cons_of_mem _ mem), same.chainId, same.verifyingContract⟩
    | callRequest req chain' depository' =>
      exact (kinds hy hx).elim
    | obligation =>
      cases domains with
      | some same => exact absurd same.name.symm domainNames_ne
    | depositSalt => cases domains
  | depositSalt inputs =>
    cases y with
    | depositSalt inputs' => exact DepositAddressInputs.same_of hx hy
    | obligation | callRequest | markConsumed => cases domains

/-- Two messages of one hash are the same. -/
theorem XspMessage.same_of_hash {x y : XspMessage} {w : Word} (hx : x.hash = .ok w)
    (hy : y.hash = .ok w) (apart : Distinguishes keccak256 (x.used ++ y.used)) : x.Same y := by
  obtain ⟨members, members_ok, is⟩ := XspMessage.hash_ok hx
  obtain ⟨members', members_ok', is'⟩ := XspMessage.hash_ok hy
  have subX : x.used ⊆ x.used ++ y.used := List.subset_append_left _ _
  have subY : y.used ⊆ x.used ++ y.used := List.subset_append_right _ _
  have memX := subX (List.mem_append_left _ (List.mem_append_right _ (mem_xspPreimage members_ok)))
  have memY := subY (List.mem_append_left _ (List.mem_append_right _ (mem_xspPreimage members_ok')))
  have membersX : x.members ⊆ x.used ++ y.used := fun m mem =>
    subX (List.mem_append_left _ (List.mem_append_left _ mem))
  have membersY : y.members ⊆ x.used ++ y.used := fun m mem =>
    subY (List.mem_append_left _ (List.mem_append_left _ mem))
  cases domX : x.domain? with
  | none =>
    rw [domX] at is
    cases domY : y.domain? with
    | none =>
      rw [domY] at is'
      have same := hashWords_inj apart memX memY (is.symm.trans is')
      rw [← same] at members_ok'
      refine XspMessage.same_of apart members_ok members_ok' ?_ membersX membersY
      rw [domX, domY]
      exact .none
    | some d' =>
      rw [domY] at is'
      obtain ⟨domain', domain_ok', is'⟩ := is'
      have typed : typedPreimage (hashWords domain') (hashWords members') ∈ x.used ++ y.used :=
        subY (by simp [XspMessage.used, domY, XspMessage.typed, domain_ok', members_ok'])
      exact absurd (apart.eq typed memX (is'.symm.trans is)) typedPreimage_ne_encodeWords
  | some d =>
    rw [domX] at is
    obtain ⟨domain, domain_ok, is⟩ := is
    have typed : typedPreimage (hashWords domain) (hashWords members) ∈ x.used ++ y.used :=
      subX (by simp [XspMessage.used, domX, XspMessage.typed, domain_ok, members_ok])
    cases domY : y.domain? with
    | none =>
      rw [domY] at is'
      exact absurd (apart.eq typed memY (is.symm.trans is')) typedPreimage_ne_encodeWords
    | some d' =>
      rw [domY] at is'
      obtain ⟨domain', domain_ok', is'⟩ := is'
      have typed' : typedPreimage (hashWords domain') (hashWords members') ∈ x.used ++ y.used :=
        subY (by simp [XspMessage.used, domY, XspMessage.typed, domain_ok', members_ok'])
      obtain ⟨separators, structs⟩ :=
        typedPreimage_injective (apart.eq typed typed' (is.symm.trans is'))
      have usedX : d.used ⊆ x.used ++ y.used := fun m mem =>
        subX (by simp [XspMessage.used, domX, mem])
      have usedY : d'.used ⊆ x.used ++ y.used := fun m mem =>
        subY (by simp [XspMessage.used, domY, mem])
      have domains := hashWords_inj apart
        (usedX (List.mem_append_right _ (mem_xspPreimage domain_ok)))
        (usedY (List.mem_append_right _ (mem_xspPreimage domain_ok'))) separators
      have same := hashWords_inj apart memX memY structs
      rw [← domains] at domain_ok'
      rw [← same] at members_ok'
      refine XspMessage.same_of apart members_ok members_ok' ?_ membersX membersY
      rw [domX, domY]
      exact .some (XspDomain.same_of apart domain_ok domain_ok' usedX usedY)

/-- Every integer of an accepted message is of its declared type. -/
theorem XspMessage.integers_inWidth {x : XspMessage} {w : Word} (h : x.hash = .ok w) :
    ∀ e ∈ x.integers, InWidth e := by
  have domain {d : XspDomain} {ws : List Word} (ok : xspDomainWords d = .ok ws) :
      InWidth (d.chainId, uint256Max) := by
    simp only [xspDomainWords, xsp_bind] at ok
    obtain ⟨_, chain, -⟩ := ok
    exact uintN_inWidth chain
  have transfers {ts : List DepositoryTransfer} {v : Word} (ok : hashTransfers ts = .ok v) :
      ∀ e ∈ ts.map fun t => (t.amount, uint256Max), InWidth e := by
    simp only [hashTransfers, xsp_bind] at ok
    obtain ⟨vs, read, -⟩ := ok
    intro e mem
    obtain ⟨t, listed, rfl⟩ := List.mem_map.mp mem
    obtain ⟨v, read⟩ := mapM_each read t listed
    simp only [hashTransfer, transferWords, xsp_bind] at read
    obtain ⟨_, ⟨_, amount, -⟩, -⟩ := read
    exact uintN_inWidth amount
  have records {rs : List DepositoryRecord} {v : Word} (ok : hashRecords rs = .ok v) :
      ∀ e ∈ rs.flatMap recordIntegers, InWidth e := by
    simp only [hashRecords, xsp_bind] at ok
    obtain ⟨vs, read, -⟩ := ok
    intro e mem
    obtain ⟨r, mem, at_e⟩ := List.mem_flatMap.mp mem
    obtain ⟨v, read⟩ := mapM_each read r mem
    simp only [hashRecord, recordWords, xsp_bind] at read
    obtain ⟨_, ⟨_, amount, _, at_, -⟩, -⟩ := read
    rcases List.mem_pair.mp at_e with rfl | rfl
    · exact uintN_inWidth amount
    · exact uintN_inWidth at_
  obtain ⟨members, members_ok, is⟩ := XspMessage.hash_ok h
  cases x with
  | obligation terms depository =>
    simp only [words, obligationWords, xsp_bind] at members_ok
    obtain ⟨_, type, _, origin, _, amount, _, dest, _, exact_, _, deadline, _, nonce, -⟩ :=
      members_ok
    simp only [integers, List.forall_mem_cons, List.not_mem_nil, IsEmpty.forall_iff, implies_true,
      and_true]
    exact ⟨uintN_inWidth origin, uintN_inWidth amount, uintN_inWidth dest, uintN_inWidth exact_,
      settlementTypeOf_inWidth type, uintN_inWidth deadline, uintN_inWidth nonce⟩
  | callRequest req chain depository =>
    obtain ⟨_, domain_ok, -⟩ := is
    simp only [words, callRequestWords, xsp_bind] at members_ok
    obtain ⟨_, expiry, _, transfers_ok, _, records_ok, -⟩ := members_ok
    intro e mem
    simp only [integers, List.cons_append, List.mem_cons, List.mem_append] at mem
    rcases mem with rfl | rfl | mem | mem
    · exact domain domain_ok
    · exact uintN_inWidth expiry
    · exact transfers transfers_ok e mem
    · exact records records_ok e mem
  | markConsumed msg chain depository =>
    obtain ⟨_, domain_ok, -⟩ := is
    simp only [words, markConsumedWords, xsp_bind] at members_ok
    obtain ⟨_, records_ok, _, expiry, -⟩ := members_ok
    intro e mem
    simp only [integers, List.mem_cons] at mem
    rcases mem with rfl | rfl | mem
    · exact domain domain_ok
    · exact uintN_inWidth expiry
    · exact records records_ok e mem
  | depositSalt inputs =>
    obtain ⟨_, _, _, _, amount, -⟩ := depositSaltWords_ok members_ok
    intro e mem
    rw [List.mem_singleton.mp mem]
    exact uintN_inWidth amount

/-- Two accepted messages of one id, digest or salt are of one kind and domain and agree in every
field, and a message with an integer out of its declared type is refused. -/
theorem xsp_hashes_bind :
    (∀ (x y : XspMessage) (w : Word), x.hash = .ok w → y.hash = .ok w →
      Distinguishes keccak256 (x.used ++ y.used) → x.Same y) ∧
    ∀ (x : XspMessage), ∀ e ∈ x.integers, ¬InWidth e → ∃ error, x.hash = .error error := by
  refine ⟨fun x y w => XspMessage.same_of_hash, fun x e mem out => ?_⟩
  cases h : x.hash with
  | error error => exact ⟨error, rfl⟩
  | ok w => exact absurd (XspMessage.integers_inWidth h e mem) out

end Hashes

/-! ## Two spellings of one message -/

/-- The spellings of 40 hex digits after `0x`. -/
abbrev hexAddressCoder : AddressCoder where
  address := hexBytes 20
  address_hex _ _ _ h h' := Option.some.inj (h.symm.trans h')

/-- A message that consumes one record, with its token and its chain spelled as given. -/
def sampleMarkConsumed (token : String) (chain : UintLike) : XspMessage :=
  .markConsumed
    { consume := [{
        obligationId := "0x0101010101010101010101010101010101010101010101010101010101010101"
        refundCommitment := "0x0202020202020202020202020202020202020202020202020202020202020202"
        depositor := "0x0303030303030303030303030303030303030303"
        token
        amount := .text "1000000"
        depositedAt := .text "1899999000" }]
      expiry := .text "1900000000"
      salt := "0x0404040404040404040404040404040404040404040404040404040404040404" }
    chain "0x0505050505050505050505050505050505050505"

def lowerMarkConsumed : XspMessage :=
  sampleMarkConsumed "0x0abc0abc0abc0abc0abc0abc0abc0abc0abc0abc" (.text "8453")

def upperMarkConsumed : XspMessage :=
  sampleMarkConsumed "0x0ABC0ABC0ABC0ABC0ABC0ABC0ABC0ABC0ABC0ABC" (.bigint 8453)

/-- Two spellings with one digest, and a chain id that no `uint256` is. -/
theorem xsp_hashes_bind_respelled :
    letI := documentedEthers
    letI := hexAddressCoder
    lowerMarkConsumed.Same upperMarkConsumed ∧ ∃ error, (sampleMarkConsumed
      "0x0abc0abc0abc0abc0abc0abc0abc0abc0abc0abc" (.bigint (2 ^ 256))).hash = .error error := by
  let := documentedEthers
  let := hexAddressCoder
  have digests : (lowerMarkConsumed.hash).isOk = true ∧
      lowerMarkConsumed.hash = upperMarkConsumed.hash ∧
      upperMarkConsumed.used = lowerMarkConsumed.used ∧
      (lowerMarkConsumed.used.map keccak256).Nodup := by
    decide +kernel
  obtain ⟨accepted, same, used, apart⟩ := digests
  constructor
  · cases digest : lowerMarkConsumed.hash with
    | error e =>
      rw [digest] at accepted
      cases accepted
    | ok d =>
      refine xsp_hashes_bind.1 lowerMarkConsumed upperMarkConsumed d digest (same ▸ digest) ?_
      rw [used]
      exact (Distinguishes.of_nodup apart).mono (by simp)
  · refine xsp_hashes_bind.2 _ (.bigint (2 ^ 256), uint256Max) (.head _) ?_
    rintro ⟨v, read, bound⟩
    have value : (v : Int) = 2 ^ 256 := (Option.some.inj read).symm
    unfold uint256Max at bound
    omega

end XochiSdk.Signer
