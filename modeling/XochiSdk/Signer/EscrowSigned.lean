import XochiSdk.Signer.EscrowDigests
import XochiSdk.Signer.EscrowLaw

/-!
# A wallet signs the published digest

The hand-encoded digest of each struct is the typed-data digest of what the wallet is given, and
no two of the family's digests are equal but for one struct, domain and value.
-/

namespace XochiSdk.Signer

open XochiSdk.Js XochiSdk.Library

/-! ## What is hashed -/

section Hashes

variable [Ethers] [AddressCoder]

namespace EscrowMessage

def domainName : EscrowMessage → String
  | .openAuth .. => openAuthDomainName
  | .fillAuth .. => fillAuthDomainName
  | .fillAttestation .. => fillAttestationDomainName
  | .slashAttestation .. | .fillAcceptance .. => solverBondDomainName

def domainVersion : EscrowMessage → String
  | .openAuth .. => openAuthDomainVersion
  | .fillAuth .. => fillAuthDomainVersion
  | .fillAttestation .. => fillAttestationDomainVersion
  | .slashAttestation .. | .fillAcceptance .. => solverBondDomainVersion

def typeString : EscrowMessage → String
  | .openAuth .. => openAuthTypeString
  | .fillAuth .. => fillAuthTypeString
  | .fillAttestation .. => fillAttestationTypeString
  | .slashAttestation .. => slashAttestationTypeString
  | .fillAcceptance .. => fillAcceptanceTypeString

/-- The words of the struct. -/
def words : EscrowMessage → Xsp (List Word)
  | .openAuth orderId expiry => openAuthWords orderId expiry
  | .fillAuth a => fillAuthWords a
  | .fillAttestation orderId payee => fillAttestationWords orderId payee
  | .slashAttestation c => slashAttestationWords c
  | .fillAcceptance a => fillAcceptanceWords a

/-- The words of the domain. -/
def domainWords (m : EscrowMessage) (domain : EscrowContractDomain) : Xsp (List Word) := do
  let named ← namedDomain m.domainName m.domainVersion domain
  encodeData "EIP712Domain" domainFields named.value

/-- The last hash is over the two before it. -/
def typed (m : EscrowMessage) (domain : EscrowContractDomain) : List (List UInt8) :=
  match m.domainWords domain, m.words with
  | .ok domain, .ok members => [typedPreimage (hashWords domain) (hashWords members)]
  | _, _ => []

/-- Everything the digest is computed from by hashing. -/
def used (m : EscrowMessage) (domain : EscrowContractDomain) : List (List UInt8) :=
  [utf8 (encodeType "EIP712Domain" domainFields), utf8 m.domainName, utf8 m.domainVersion,
    utf8 m.typeString] ++ xspPreimage (m.domainWords domain) ++ xspPreimage m.words ++
    m.typed domain

theorem digest_ok {m : EscrowMessage} {domain : EscrowContractDomain} {w : Word}
    (h : m.digest domain = .ok w) : ∃ domainWords words, m.domainWords domain = .ok domainWords ∧
      m.words = .ok words ∧ w = typedDigest (hashWords domainWords) (hashWords words) := by
  cases m <;>
  · simp only [digest, openAuthDigest, openAuthDomainSeparator, fillAuthDigest,
      fillAuthDomainSeparator, fillAttestationDigest, fillAttestationDomainSeparator,
      slashAttestationDigest, slashAttestationDomainSeparator, fillAcceptanceDigest,
      fillAcceptanceDomainSeparator, namedSeparator, hashDomain, hashStruct, xsp_bind,
      xsp_pure] at h
    obtain ⟨_, ⟨named, named_ok, domainWords, domain_ok, rfl⟩, words, words_ok, rfl⟩ := h
    refine ⟨domainWords, words, ?_, words_ok, rfl⟩
    exact xsp_bind.mpr ⟨named, named_ok, domain_ok⟩

end EscrowMessage

/-- An integer that was read fits its word. -/
theorem encodeMember_uint256 {label : String} {v : UintLike} {n : Nat}
    (h : toUint label v = .ok n) : encodeMember .uint256 (.bigint n) = .ok (uintWord n) :=
  if_pos (toUint_ok h).2

/-- A member is its text's word, in the wallet's reading of it. -/
theorem encodeMember_text :
    (∀ s, encodeMember .bytes32 (.text s) = xspBytes32 s) ∧
    ∀ s, encodeMember .address (.text s) = xspAddress s :=
  ⟨fun _ => rfl, fun _ => rfl⟩

end Hashes

/-! ## The wallet's digest -/

section Signing

variable [Ethers] [TypedDataCoder]

omit [Ethers] in
/-- An address and its lower-case text are one word, where both are read. -/
theorem xspAddress_lower {s : String} {v w : Word} (lower : xspAddress (asciiLower s) = .ok v)
    (read : xspAddress s = .ok w) : v = w := by
  unfold xspAddress at lower read
  split at lower
  · next a hv =>
    split at read
    · next b hw =>
      have same := TypedDataCoder.address_lower s a b hv hw
      rw [same] at lower
      exact (Except.ok.inj lower).symm.trans (Except.ok.inj read)
    · cases read
  · cases lower

omit [Ethers] [TypedDataCoder] in
theorem xspBytes32_hexlify (w : Word) : xspBytes32 (hexlify w.bytes) = .ok w := by
  unfold xspBytes32
  rw [getBytes_hexlify]
  exact dif_pos w.length_bytes

omit [Ethers] [TypedDataCoder] in
/-- The tables spell the type strings. -/
theorem encodeType_tables :
    encodeType "OpenAuth" openAuthFields = openAuthTypeString ∧
    encodeType "FillAuth" fillAuthFields = fillAuthTypeString ∧
    encodeType "FillAttestation" fillAttestationFields = fillAttestationTypeString ∧
    encodeType "SlashAttestation" slashAttestationFields = slashAttestationTypeString ∧
    encodeType "FillAcceptance" fillAcceptanceFields = fillAcceptanceTypeString := by
  decide +kernel

variable {domain : EscrowContractDomain} {data : TypedData} {ws vs : List Word}

theorem openAuth_typed {orderId : String} {expiry : UintLike}
    (hand : openAuthWords orderId expiry = .ok ws)
    (wallet : openAuthTypedData domain orderId expiry = .ok data)
    (encoded : encodeData data.primaryType data.fields data.value = .ok vs) : ws = vs := by
  simp only [openAuthWords, xsp_bind, xsp_pure] at hand
  simp only [openAuthTypedData, xsp_bind, xsp_pure] at wallet
  obtain ⟨n, expiry_ok, order, order_ok, rfl⟩ := hand
  obtain ⟨named, -, m, expiry_ok', rfl⟩ := wallet
  rw [expiry_ok] at expiry_ok'
  cases expiry_ok'
  simp only [encodeData, encodeType_tables] at encoded
  simp [openAuthFields, encodeField, List.lookup_cons, encodeMember_uint256 expiry_ok,
    encodeMember_text, xsp_bind] at encoded
  obtain ⟨_, order_ok', rfl⟩ := encoded
  rw [order_ok] at order_ok'
  cases order_ok'
  rfl

theorem fillAuth_typed {a : FillAuth} (hand : fillAuthWords a = .ok ws)
    (wallet : fillAuthTypedData domain a = .ok data)
    (encoded : encodeData data.primaryType data.fields data.value = .ok vs) : ws = vs := by
  simp only [fillAuthWords, xsp_bind, xsp_pure] at hand
  simp only [fillAuthTypedData, xsp_bind, xsp_pure] at wallet
  obtain ⟨amount, amount_ok, deadline, deadline_ok, fillId, fillId_ok, filler, filler_ok, to_,
    to_ok, token, token_ok, rfl⟩ := hand
  obtain ⟨named, -, amount', amount_ok', deadline', deadline_ok', rfl⟩ := wallet
  rw [amount_ok] at amount_ok'
  rw [deadline_ok] at deadline_ok'
  cases amount_ok'
  cases deadline_ok'
  simp only [encodeData, encodeType_tables] at encoded
  simp [fillAuthFields, encodeField, List.lookup_cons, encodeMember_uint256 amount_ok,
    encodeMember_uint256 deadline_ok, encodeMember_text, xsp_bind] at encoded
  obtain ⟨_, fillId_ok', _, filler_ok', _, to_ok', _, token_ok', rfl⟩ := encoded
  rw [fillId_ok] at fillId_ok'
  cases fillId_ok'
  rw [xspAddress_lower filler_ok filler_ok', xspAddress_lower to_ok to_ok',
    xspAddress_lower token_ok token_ok']

theorem fillAttestation_typed {orderId payee : String}
    (hand : fillAttestationWords orderId payee = .ok ws)
    (wallet : fillAttestationTypedData domain orderId payee = .ok data)
    (encoded : encodeData data.primaryType data.fields data.value = .ok vs) : ws = vs := by
  simp only [fillAttestationWords, xsp_bind, xsp_pure] at hand
  simp only [fillAttestationTypedData, xsp_bind, xsp_pure] at wallet
  obtain ⟨order, order_ok, paid, payee_ok, rfl⟩ := hand
  obtain ⟨named, -, rfl⟩ := wallet
  simp only [encodeData, encodeType_tables] at encoded
  simp [-bind_pure_comp, fillAttestationFields, encodeField, List.lookup_cons, encodeMember_text,
    xsp_bind, xsp_pure] at encoded
  obtain ⟨_, order_ok', _, payee_ok', rfl⟩ := encoded
  rw [order_ok] at order_ok'
  cases order_ok'
  rw [xspAddress_lower payee_ok payee_ok']

theorem slashAttestation_typed {c : SlashClaim} (hand : slashAttestationWords c = .ok ws)
    (wallet : slashAttestationTypedData domain c = .ok data)
    (encoded : encodeData data.primaryType data.fields data.value = .ok vs) : ws = vs := by
  simp only [slashAttestationWords, xsp_bind, xsp_pure] at hand
  simp only [slashAttestationTypedData, xsp_bind, xsp_pure] at wallet
  obtain ⟨notional, notional_ok, chain, chain_ok, deadline, deadline_ok, order, order_ok, solver,
    solver_ok, beneficiary, beneficiary_ok, escrow, escrow_ok, rfl⟩ := hand
  obtain ⟨named, -, _, notional_ok', _, chain_ok', _, deadline_ok', rfl⟩ := wallet
  rw [notional_ok] at notional_ok'
  rw [chain_ok] at chain_ok'
  rw [deadline_ok] at deadline_ok'
  cases notional_ok'
  cases chain_ok'
  cases deadline_ok'
  simp only [encodeData, encodeType_tables] at encoded
  simp [slashAttestationFields, encodeField, List.lookup_cons, encodeMember_uint256 notional_ok,
    encodeMember_uint256 chain_ok, encodeMember_uint256 deadline_ok, encodeMember_text,
    xsp_bind] at encoded
  obtain ⟨_, order_ok', _, solver_ok', _, beneficiary_ok', _, escrow_ok', rfl⟩ := encoded
  rw [order_ok] at order_ok'
  cases order_ok'
  rw [xspAddress_lower solver_ok solver_ok', xspAddress_lower beneficiary_ok beneficiary_ok',
    xspAddress_lower escrow_ok escrow_ok']

theorem fillAcceptance_typed {a : FillAcceptance} (hand : fillAcceptanceWords a = .ok ws)
    (wallet : fillAcceptanceTypedData domain a = .ok data)
    (encoded : encodeData data.primaryType data.fields data.value = .ok vs) : ws = vs := by
  simp only [fillAcceptanceWords, xsp_bind, xsp_pure] at hand
  simp only [fillAcceptanceTypedData, xsp_bind, xsp_pure] at wallet
  obtain ⟨order, order_ok, chain, chain_ok, deadline, deadline_ok, auth, auth_ok, escrow, escrow_ok,
    filler, filler_ok, rfl⟩ := hand
  obtain ⟨named, -, _, order_ok', _, chain_ok', _, deadline_ok', _, auth_ok', rfl⟩ := wallet
  rw [order_ok] at order_ok'
  rw [chain_ok] at chain_ok'
  rw [deadline_ok] at deadline_ok'
  rw [auth_ok] at auth_ok'
  cases order_ok'
  cases chain_ok'
  cases deadline_ok'
  cases auth_ok'
  simp only [encodeData, encodeType_tables] at encoded
  simp [fillAcceptanceFields, encodeField, List.lookup_cons, encodeMember_uint256 chain_ok,
    encodeMember_uint256 deadline_ok, encodeMember_text, xspBytes32_hexlify,
    xsp_bind] at encoded
  obtain ⟨_, escrow_ok', _, filler_ok', rfl⟩ := encoded
  rw [xspAddress_lower escrow_ok escrow_ok', xspAddress_lower filler_ok filler_ok']

namespace EscrowMessage

omit [Ethers] [TypedDataCoder] in
/-- The typed data of a message stands under the message's own domain. -/
theorem typedData_domain {m : EscrowMessage} (h : m.typedData domain = .ok data) :
    namedDomain m.domainName m.domainVersion domain = .ok data.domain := by
  cases m with
  | openAuth orderId expiry =>
    obtain ⟨named, named_ok, h⟩ := xsp_bind.mp h
    simp only [xsp_bind, xsp_pure] at h
    obtain ⟨_, -, rfl⟩ := h
    exact named_ok
  | fillAuth a =>
    obtain ⟨named, named_ok, h⟩ := xsp_bind.mp h
    simp only [xsp_bind, xsp_pure] at h
    obtain ⟨_, -, _, -, rfl⟩ := h
    exact named_ok
  | fillAttestation orderId payee =>
    obtain ⟨named, named_ok, h⟩ := xsp_bind.mp h
    cases h
    exact named_ok
  | slashAttestation c =>
    obtain ⟨named, named_ok, h⟩ := xsp_bind.mp h
    simp only [xsp_bind, xsp_pure] at h
    obtain ⟨_, -, _, -, _, -, rfl⟩ := h
    exact named_ok
  | fillAcceptance a =>
    obtain ⟨named, named_ok, h⟩ := xsp_bind.mp h
    simp only [xsp_bind, xsp_pure] at h
    obtain ⟨_, -, _, -, _, -, _, -, rfl⟩ := h
    exact named_ok

/-- Both paths hash one list of words. -/
theorem words_typed {m : EscrowMessage} (hand : m.words = .ok ws)
    (wallet : m.typedData domain = .ok data)
    (encoded : encodeData data.primaryType data.fields data.value = .ok vs) : ws = vs := by
  cases m with
  | openAuth orderId expiry => exact openAuth_typed hand wallet encoded
  | fillAuth a => exact fillAuth_typed hand wallet encoded
  | fillAttestation orderId payee => exact fillAttestation_typed hand wallet encoded
  | slashAttestation c => exact slashAttestation_typed hand wallet encoded
  | fillAcceptance a => exact fillAcceptance_typed hand wallet encoded

/-- The published digest is the one the wallet signs. -/
theorem signed_digest {m : EscrowMessage} {w v : Word} (hand : m.digest domain = .ok w)
    (wallet : m.typedData domain = .ok data) (signed : data.hash = .ok v) : w = v := by
  obtain ⟨separator, words, separator_ok, words_ok, rfl⟩ := digest_ok hand
  simp only [TypedData.hash, hashDomain, hashStruct, xsp_bind, xsp_pure] at signed
  obtain ⟨_, ⟨separator', separator_ok', rfl⟩, _, ⟨words', words_ok', rfl⟩, rfl⟩ := signed
  have same := words_typed words_ok wallet words_ok'
  obtain ⟨named, named_ok, encoded⟩ := xsp_bind.mp separator_ok
  rw [typedData_domain wallet] at named_ok
  cases named_ok
  rw [separator_ok'] at encoded
  cases encoded
  rw [same]

end EscrowMessage

end Signing

/-! ## One digest, one message -/

section Apart

variable [AddressCoder]

structure EscrowContractDomain.Same (a b : EscrowContractDomain) : Prop where
  chainId : SameNumber a.chainId b.chainId
  verifyingContract : SameAddress a.verifyingContract b.verifyingContract

structure FillAuth.Same (a b : FillAuth) : Prop where
  fillId : SameHex a.fillId b.fillId
  filler : SameAddress (asciiLower a.filler) (asciiLower b.filler)
  to_ : SameAddress (asciiLower a.to_) (asciiLower b.to_)
  token : SameAddress (asciiLower a.token) (asciiLower b.token)
  amount : SameNumber a.amount b.amount
  deadline : SameNumber a.deadline b.deadline

structure SlashClaim.Same (a b : SlashClaim) : Prop where
  orderId : SameHex a.orderId b.orderId
  solver : SameAddress (asciiLower a.solver) (asciiLower b.solver)
  beneficiary : SameAddress (asciiLower a.beneficiary) (asciiLower b.beneficiary)
  notional : SameNumber a.notional b.notional
  originChainId : SameNumber a.originChainId b.originChainId
  escrow : SameAddress (asciiLower a.escrow) (asciiLower b.escrow)
  deadline : SameNumber a.deadline b.deadline

/-- The hashes of an acceptance are read with or without their `0x`. -/
structure FillAcceptance.Same (a b : FillAcceptance) : Prop where
  orderId : SameHex (withHexMark a.orderId) (withHexMark b.orderId)
  originChainId : SameNumber a.originChainId b.originChainId
  escrow : SameAddress (asciiLower a.escrow) (asciiLower b.escrow)
  filler : SameAddress (asciiLower a.filler) (asciiLower b.filler)
  deadline : SameNumber a.deadline b.deadline
  fillAuth : SameHex (withHexMark a.fillAuth) (withHexMark b.fillAuth)

namespace EscrowMessage

/-- One struct, with the same values. -/
def Same : EscrowMessage → EscrowMessage → Prop
  | .openAuth orderId expiry, .openAuth orderId' expiry' =>
    SameHex orderId orderId' ∧ SameNumber expiry expiry'
  | .fillAuth a, .fillAuth b => a.Same b
  | .fillAttestation orderId payee, .fillAttestation orderId' payee' =>
    SameHex orderId orderId' ∧ SameAddress (asciiLower payee) (asciiLower payee')
  | .slashAttestation a, .slashAttestation b => a.Same b
  | .fillAcceptance a, .fillAcceptance b => a.Same b
  | _, _ => False

end EscrowMessage

omit [AddressCoder] in
theorem normalizeBytes32_same {l l' s t : String} {w : Word} (hs : normalizeBytes32 l s = .ok w)
    (ht : normalizeBytes32 l' t = .ok w) : SameHex (withHexMark s) (withHexMark t) :=
  sameHex_of (normalizeBytes32_ok.mp hs) (normalizeBytes32_ok.mp ht) rfl

variable [Ethers]

namespace EscrowMessage

omit [AddressCoder] [Ethers] in
/-- No two structs of the family have one type string. -/
theorem typeStrings_nodup : [openAuthTypeString, fillAuthTypeString, fillAttestationTypeString,
    slashAttestationTypeString, fillAcceptanceTypeString].Nodup := by
  decide +kernel

/-- The first word is the hash of the type string. -/
theorem words_head {m : EscrowMessage} {ws : List Word} (h : m.words = .ok ws) :
    ws.head? = some (ethersId m.typeString) := by
  cases m with
  | openAuth orderId expiry =>
    simp only [words, openAuthWords, xsp_bind, xsp_pure] at h
    obtain ⟨_, -, _, -, rfl⟩ := h
    rfl
  | fillAuth a =>
    simp only [words, fillAuthWords, xsp_bind, xsp_pure] at h
    obtain ⟨_, -, _, -, _, -, _, -, _, -, _, -, rfl⟩ := h
    rfl
  | fillAttestation orderId payee =>
    simp only [words, fillAttestationWords, xsp_bind, xsp_pure] at h
    obtain ⟨_, -, _, -, rfl⟩ := h
    rfl
  | slashAttestation c =>
    simp only [words, slashAttestationWords, xsp_bind, xsp_pure] at h
    obtain ⟨_, -, _, -, _, -, _, -, _, -, _, -, _, -, rfl⟩ := h
    rfl
  | fillAcceptance a =>
    simp only [words, fillAcceptanceWords, xsp_bind, xsp_pure] at h
    obtain ⟨_, -, _, -, _, -, _, -, _, -, _, -, rfl⟩ := h
    rfl

/-- Two structs of one list of words, and of one type string, are one struct. -/
theorem same_of_words {m m' : EscrowMessage} {ws : List Word} (hm : m.words = .ok ws)
    (hm' : m'.words = .ok ws) (types : m.typeString = m'.typeString) : m.Same m' := by
  cases m with
  | openAuth orderId expiry =>
    cases m' with
    | openAuth orderId' expiry' =>
      simp only [words, openAuthWords, xsp_bind, xsp_pure] at hm hm'
      obtain ⟨n, expiry_ok, order, order_ok, rfl⟩ := hm
      obtain ⟨n', expiry_ok', order', order_ok', same⟩ := hm'
      simp only [List.cons.injEq, and_true, true_and] at same
      exact ⟨xspBytes32_same order_ok order_ok' same.1.symm,
        toUint_same expiry_ok expiry_ok' same.2.symm⟩
    | fillAuth | fillAttestation | slashAttestation | fillAcceptance =>
      have apart := typeStrings_nodup
      simp_all [typeString]
  | fillAuth a =>
    cases m' with
    | fillAuth b =>
      simp only [words, fillAuthWords, xsp_bind, xsp_pure] at hm hm'
      obtain ⟨amount, amount_ok, deadline, deadline_ok, fillId, fillId_ok, filler, filler_ok, to_,
        to_ok, token, token_ok, rfl⟩ := hm
      obtain ⟨amount', amount_ok', deadline', deadline_ok', fillId', fillId_ok', filler',
        filler_ok', to', to_ok', token', token_ok', same⟩ := hm'
      simp only [List.cons.injEq, and_true, true_and] at same
      obtain ⟨fillIds, fillers, tos, tokens, amounts, deadlines⟩ := same
      exact
        { fillId := xspBytes32_same fillId_ok fillId_ok' fillIds.symm
          filler := xspAddress_same filler_ok filler_ok' fillers.symm
          to_ := xspAddress_same to_ok to_ok' tos.symm
          token := xspAddress_same token_ok token_ok' tokens.symm
          amount := toUint_same amount_ok amount_ok' amounts.symm
          deadline := toUint_same deadline_ok deadline_ok' deadlines.symm }
    | openAuth | fillAttestation | slashAttestation | fillAcceptance =>
      have apart := typeStrings_nodup
      simp_all [typeString]
  | fillAttestation orderId payee =>
    cases m' with
    | fillAttestation orderId' payee' =>
      simp only [words, fillAttestationWords, xsp_bind, xsp_pure] at hm hm'
      obtain ⟨order, order_ok, paid, payee_ok, rfl⟩ := hm
      obtain ⟨order', order_ok', paid', payee_ok', same⟩ := hm'
      simp only [List.cons.injEq, and_true, true_and] at same
      exact ⟨xspBytes32_same order_ok order_ok' same.1.symm,
        xspAddress_same payee_ok payee_ok' same.2.symm⟩
    | openAuth | fillAuth | slashAttestation | fillAcceptance =>
      have apart := typeStrings_nodup
      simp_all [typeString]
  | slashAttestation c =>
    cases m' with
    | slashAttestation c' =>
      simp only [words, slashAttestationWords, xsp_bind, xsp_pure] at hm hm'
      obtain ⟨notional, notional_ok, chain, chain_ok, deadline, deadline_ok, order, order_ok,
        solver, solver_ok, beneficiary, beneficiary_ok, escrow, escrow_ok, rfl⟩ := hm
      obtain ⟨notional', notional_ok', chain', chain_ok', deadline', deadline_ok', order',
        order_ok', solver', solver_ok', beneficiary', beneficiary_ok', escrow', escrow_ok',
        same⟩ := hm'
      simp only [List.cons.injEq, and_true, true_and] at same
      obtain ⟨orders, solvers, beneficiaries, notionals, chains, escrows, deadlines⟩ := same
      exact
        { orderId := xspBytes32_same order_ok order_ok' orders.symm
          solver := xspAddress_same solver_ok solver_ok' solvers.symm
          beneficiary := xspAddress_same beneficiary_ok beneficiary_ok' beneficiaries.symm
          notional := toUint_same notional_ok notional_ok' notionals.symm
          originChainId := toUint_same chain_ok chain_ok' chains.symm
          escrow := xspAddress_same escrow_ok escrow_ok' escrows.symm
          deadline := toUint_same deadline_ok deadline_ok' deadlines.symm }
    | openAuth | fillAuth | fillAttestation | fillAcceptance =>
      have apart := typeStrings_nodup
      simp_all [typeString]
  | fillAcceptance a =>
    cases m' with
    | fillAcceptance b =>
      simp only [words, fillAcceptanceWords, xsp_bind, xsp_pure] at hm hm'
      obtain ⟨order, order_ok, chain, chain_ok, deadline, deadline_ok, auth, auth_ok, escrow,
        escrow_ok, filler, filler_ok, rfl⟩ := hm
      obtain ⟨order', order_ok', chain', chain_ok', deadline', deadline_ok', auth', auth_ok',
        escrow', escrow_ok', filler', filler_ok', same⟩ := hm'
      simp only [List.cons.injEq, and_true, true_and] at same
      obtain ⟨rfl, chains, escrows, fillers, deadlines, rfl⟩ := same
      exact
        { orderId := normalizeBytes32_same order_ok order_ok'
          originChainId := toUint_same chain_ok chain_ok' chains.symm
          escrow := xspAddress_same escrow_ok escrow_ok' escrows.symm
          filler := xspAddress_same filler_ok filler_ok' fillers.symm
          deadline := toUint_same deadline_ok deadline_ok' deadlines.symm
          fillAuth := normalizeBytes32_same auth_ok auth_ok' }
    | openAuth | fillAuth | fillAttestation | slashAttestation =>
      have apart := typeStrings_nodup
      simp_all [typeString]

/-- The last words of a domain are its chain and its contract. -/
theorem domainWords_ok {m : EscrowMessage} {domain : EscrowContractDomain} {ws : List Word}
    (h : m.domainWords domain = .ok ws) :
    ∃ chain contract, toUint "domain.chainId" domain.chainId = .ok chain ∧
      xspAddress domain.verifyingContract = .ok contract ∧
      ws.drop 3 = [uintWord chain, contract] := by
  simp only [domainWords, namedDomain, xsp_bind, xsp_pure] at h
  obtain ⟨_, ⟨chain, chain_ok, rfl⟩, encoded⟩ := h
  obtain ⟨words, words_ok, shape⟩ := xsp_bind.mp encoded
  cases shape
  simp [-bind_pure_comp, domainFields, TypedDomain.value, encodeField, List.lookup_cons,
    encodeMember_uint256 chain_ok, encodeMember_text, xsp_bind, xsp_pure] at words_ok
  obtain ⟨name, -, version, -, contract, contract_ok, rfl⟩ := words_ok
  exact ⟨chain, contract, chain_ok, contract_ok, rfl⟩

/-- Two messages of one digest are one struct under one domain, with the same values. -/
theorem same_of_digest {m m' : EscrowMessage} {domain domain' : EscrowContractDomain} {w : Word}
    (hm : m.digest domain = .ok w) (hm' : m'.digest domain' = .ok w)
    (apart : Distinguishes keccak256 (m.used domain ++ m'.used domain')) :
    m.Same m' ∧ domain.Same domain' := by
  have subM : m.used domain ⊆ m.used domain ++ m'.used domain' := List.subset_append_left _ _
  have subM' : m'.used domain' ⊆ m.used domain ++ m'.used domain' := List.subset_append_right _ _
  obtain ⟨separator, words, separator_ok, words_ok, is⟩ := digest_ok hm
  obtain ⟨separator', words', separator_ok', words_ok', is'⟩ := digest_ok hm'
  have typed : typedPreimage (hashWords separator) (hashWords words) ∈ m.used domain := by
    simp [used, EscrowMessage.typed, separator_ok, words_ok]
  have typed' : typedPreimage (hashWords separator') (hashWords words') ∈ m'.used domain' := by
    simp [used, EscrowMessage.typed, separator_ok', words_ok']
  obtain ⟨separators, structs⟩ :=
    typedPreimage_injective (apart.eq (subM typed) (subM' typed') (is.symm.trans is'))
  have domains : separator = separator' := by
    refine hashWords_inj apart (subM ?_) (subM' ?_) separators
    · simp [used, separator_ok, xspPreimage]
    · simp [used, separator_ok', xspPreimage]
  have members : words = words' := by
    refine hashWords_inj apart (subM ?_) (subM' ?_) structs
    · simp [used, words_ok, xspPreimage]
    · simp [used, words_ok', xspPreimage]
  subst domains members
  have types : m.typeString = m'.typeString := by
    have heads := (words_head words_ok).symm.trans (words_head words_ok')
    refine ethersId_inj apart (subM ?_) (subM' ?_) (Option.some.inj heads)
    · simp [used]
    · simp [used]
  refine ⟨same_of_words words_ok words_ok' types, ?_⟩
  obtain ⟨chain, contract, chain_ok, contract_ok, shape⟩ := domainWords_ok separator_ok
  obtain ⟨chain', contract', chain_ok', contract_ok', shape'⟩ := domainWords_ok separator_ok'
  have ends := shape.symm.trans shape'
  simp only [List.cons.injEq, and_true] at ends
  exact ⟨toUint_same chain_ok chain_ok' ends.1, xspAddress_same contract_ok contract_ok' ends.2⟩

end EscrowMessage

end Apart

/-- The hand-encoded digest of a message is the one its signing function has the wallet sign, and
two digests are equal only for one struct, domain and values. -/
theorem escrow_digests_signed [Ethers] [TypedDataCoder] :
    (∀ (m : EscrowMessage) (domain : EscrowContractDomain) (data : TypedData) (w v : Word),
      m.digest domain = .ok w → m.typedData domain = .ok data → data.hash = .ok v → w = v) ∧
    ∀ (m m' : EscrowMessage) (domain domain' : EscrowContractDomain) (w : Word),
      m.digest domain = .ok w → m'.digest domain' = .ok w →
      Distinguishes keccak256 (m.used domain ++ m'.used domain') →
      m.Same m' ∧ domain.Same domain' := by
  constructor
  · intro m domain data w v hand wallet signed
    exact EscrowMessage.signed_digest hand wallet signed
  · intro m m' domain domain' w hm hm' apart
    exact EscrowMessage.same_of_digest hm hm' apart

/-! ## An attestation spelled twice -/

theorem pairBytes_lowered {cs : List Char} (digits : ∀ c ∈ cs, isHexDigit c = true) :
    pairBytes (cs.map asciiLowerChar) = pairBytes cs := by
  have value {c : Char} (h : isHexDigit c = true) :
      digitValue (asciiLowerChar c) = digitValue c := by
    have known : (hexChars.all fun c => digitValue (asciiLowerChar c) == digitValue c) = true := by
      decide +kernel
    exact eq_of_beq (hexChars_all known h)
  induction cs using pairBytes.induct with
  | case1 a b rest ih =>
    have tail := ih fun c hc => digits c (by simp [hc])
    simp only [List.map_cons, pairBytes, tail, value (digits a (by simp)),
      value (digits b (by simp))]
  | case2 cs short =>
    cases cs with
    | nil => rfl
    | cons a cs =>
      cases cs with
      | nil => rfl
      | cons b rest => exact absurd rfl (short a b rest)

/-- Lower case spells the same bytes. -/
theorem hexBytes_lowered {n : Nat} {s : String} {v w : Bytes n}
    (hv : hexBytes n (asciiLower s) = some v) (hw : hexBytes n s = some w) : v = w := by
  obtain ⟨cs, shape, -, -, spelled⟩ := hexBytes_some hv
  obtain ⟨ds, shape', -, digits, spelled'⟩ := hexBytes_some hw
  unfold asciiLower at shape
  rw [String.toList_ofList, shape', List.map_cons, List.map_cons, List.cons.injEq,
    List.cons.injEq] at shape
  obtain ⟨-, -, rfl⟩ := shape
  exact Bytes.ext (spelled.symm.trans ((pairBytes_lowered digits).trans spelled'))

/-- The spellings of 40 hex digits after `0x`. -/
abbrev hexTypedDataCoder : TypedDataCoder where
  toAddressCoder := hexAddressCoder
  address_lower _ _ _ lower read := hexBytes_lowered lower read

def lowerAttestation : EscrowMessage :=
  .fillAttestation "0x0101010101010101010101010101010101010101010101010101010101010101"
    "0x0abc0abc0abc0abc0abc0abc0abc0abc0abc0abc"

def upperAttestation : EscrowMessage :=
  .fillAttestation "0x0101010101010101010101010101010101010101010101010101010101010101"
    "0x0ABC0ABC0ABC0ABC0ABC0ABC0ABC0ABC0ABC0ABC"

def attestationContract (chainId : UintLike) : EscrowContractDomain where
  chainId
  verifyingContract := "0x0505050505050505050505050505050505050505"

/-- Two spellings of one attestation, and what a wallet signs for the first. -/
theorem escrow_digests_signed_respelled :
    letI := documentedEthers
    letI := hexTypedDataCoder
    (∃ w, lowerAttestation.digest (attestationContract (.text "08453")) = .ok w ∧
      (lowerAttestation.typedData (attestationContract (.text "08453")) >>= TypedData.hash) =
        .ok w) ∧
    lowerAttestation.Same upperAttestation ∧
      (attestationContract (.text "08453")).Same (attestationContract (.bigint 8453)) := by
  let := documentedEthers
  let := hexTypedDataCoder
  obtain ⟨accepted, same, signed, used, apart⟩ :
      (lowerAttestation.digest (attestationContract (.text "08453"))).isOk = true ∧
      lowerAttestation.digest (attestationContract (.text "08453")) =
        upperAttestation.digest (attestationContract (.bigint 8453)) ∧
      (lowerAttestation.typedData (attestationContract (.text "08453")) >>=
        TypedData.hash).isOk = true ∧
      upperAttestation.used (attestationContract (.bigint 8453)) =
        lowerAttestation.used (attestationContract (.text "08453")) ∧
      ((lowerAttestation.used (attestationContract (.text "08453"))).map keccak256).Nodup := by
    decide +kernel
  obtain ⟨w, lower⟩ := ok_of_isOk accepted
  obtain ⟨v, wallet⟩ := ok_of_isOk signed
  obtain ⟨data, data_ok, hashed⟩ := xsp_bind.mp wallet
  constructor
  · have equal := escrow_digests_signed.1 lowerAttestation _ data w v lower data_ok hashed
    rw [← equal] at wallet
    exact ⟨w, lower, wallet⟩
  · refine escrow_digests_signed.2 lowerAttestation upperAttestation _ _ w lower
      (same.symm.trans lower) ?_
    rw [used]
    exact (Distinguishes.of_nodup apart).mono (by simp)

end XochiSdk.Signer
