import XochiSdk.Library.Numerals
import XochiSdk.Signer.DepositVerify

/-!
# Unique readability of the deposit attestation

The signed message is eighteen lines whatever its fields hold, so a message that is built reads
back as its lines, and two field sets that sign one message agree line by line: up to the case
the message writes of an address, and up to an empty optional field, which is written as an
absent one is.
-/

namespace XochiSdk.Signer

open XochiSdk.Js XochiSdk.Library

/-! ## Lines -/

/-- Texts without a newline are told apart once joined with newlines. -/
theorem joinLines_injective {as bs : List String} (ha : ∀ a ∈ as, '\n' ∉ a.toList)
    (hb : ∀ b ∈ bs, '\n' ∉ b.toList) (some_a : as ≠ []) (some_b : bs ≠ [])
    (same : "\n".intercalate as = "\n".intercalate bs) : as = bs := by
  have split {ls : List String} (free : ∀ l ∈ ls, '\n' ∉ l.toList) (some_ : ls ≠ []) :
      ("\n".intercalate ls).toList.splitOn '\n' = ls.map String.toList := by
    rw [String.toList_intercalate]
    refine List.splitOn_intercalate '\n' ?_ (by simpa using some_)
    intro chars mem
    obtain ⟨l, here, rfl⟩ := List.mem_map.mp mem
    exact free l here
  have lines := split ha some_a
  rw [same, split hb some_b] at lines
  exact (List.map_injective_iff.mpr (fun _ _ => String.toList_injective) lines).symm

section

variable [Host]

/-- The lines of the message, in signing order. -/
def attestationLines (fields : DepositAttestationFields) : List String :=
  [depositAttestationVersion, fields.intent_id, fields.quote_id,
    normalizeAddress fields.wallet, fields.from_chain_id.text, normalizeAddress fields.from_token,
    fields.from_amount, normalizeAddress fields.deposit_address,
    (fields.deposit_deadline.map toString).getD "", optionalText fields.refund_address,
    fields.to_chain_id.text, normalizePartyCapable fields.to_token, fields.to_amount,
    fields.min_to_amount, normalizePartyCapable fields.recipient,
    optionalText fields.stealth_spending_pub_key, optionalText fields.stealth_viewing_pub_key,
    fields.settlement_preference]

/-- A message is built exactly of fields none of whose lines holds a newline. -/
theorem buildDepositAttestationMessage_ok {fields : DepositAttestationFields} {message : String} :
    buildDepositAttestationMessage fields = .ok message ↔
      (∀ line ∈ attestationLines fields, '\n' ∉ line.toList) ∧
        message = "\n".intercalate (attestationLines fields) := by
  have none_ : (attestationLines fields).findIdx? (fun p => p.toList.contains '\n') = none ↔
      ∀ line ∈ attestationLines fields, '\n' ∉ line.toList := by
    rw [List.findIdx?_eq_none_iff]
    simp
  rw [← none_]
  unfold buildDepositAttestationMessage
  dsimp only
  split
  · next found =>
    change (attestationLines fields).findIdx? _ = some _ at found
    simp only [found, refuse, reduceCtorEq, false_and]
  · next clean =>
    change (attestationLines fields).findIdx? _ = none at clean
    simp only [clean, true_and, Except.ok.injEq]
    exact eq_comm

/-! ## What a message says of its fields -/

/-- An optional field as the message says it: an empty text is an absent one. -/
def optionalField (value : Option String) : Option String :=
  match value.map normalizeAddress with
  | some "" => none
  | other => other

/-- The fields as the message says them: addresses in the case it writes them. -/
def DepositAttestationFields.canonical (fields : DepositAttestationFields) :
    DepositAttestationFields :=
  { fields with
    wallet := normalizeAddress fields.wallet
    from_token := normalizeAddress fields.from_token
    deposit_address := normalizeAddress fields.deposit_address
    refund_address := optionalField fields.refund_address
    to_token := normalizePartyCapable fields.to_token
    recipient := normalizePartyCapable fields.recipient
    stealth_spending_pub_key := optionalField fields.stealth_spending_pub_key
    stealth_viewing_pub_key := optionalField fields.stealth_viewing_pub_key }

theorem optionalField_getD (value : Option String) : (optionalField value).getD "" = optionalText value := by
  unfold optionalField optionalText
  split
  · rename_i h
    rw [h]
    rfl
  · rfl

theorem optionalField_ne_empty (value : Option String) : optionalField value ≠ some "" := by
  unfold optionalField
  split
  · simp
  · rename_i h
    exact h

/-- One line for an optional field is one reading of it. -/
theorem optionalField_injective {a b : Option String} (same : optionalText a = optionalText b) :
    optionalField a = optionalField b := by
  rw [← optionalField_getD a, ← optionalField_getD b] at same
  have filled (x : Option String) : optionalField x = none ↔ (optionalField x).getD "" = "" := by
    cases h : optionalField x with
    | none => simp
    | some s =>
      have := optionalField_ne_empty x
      rw [h] at this
      simpa using this
  cases ha : optionalField a with
  | none =>
    rw [ha] at same
    exact ((filled b).mpr same.symm).symm
  | some s =>
    cases hb : optionalField b with
    | none =>
      rw [hb] at same
      rw [(filled a).mpr same] at ha
      cases ha
    | some t =>
      rw [ha, hb] at same
      exact congrArg some same

omit [Host] in
/-- One line for a deadline is one deadline. -/
theorem deadlineText_injective {a b : Option Int}
    (same : (a.map toString).getD "" = (b.map toString).getD "") : a = b := by
  have written (n : Int) : toString n ≠ "" := by
    cases n with
    | ofNat n => exact Nat.repr_ne_empty
    | negSucc n =>
      intro empty
      have minus : '-' ∈ (toString (Int.negSucc n)).toList := by simp [toString, Int.repr]
      rw [empty] at minus
      cases minus
  cases a with
  | none =>
    cases b with
    | none => rfl
    | some n => exact absurd same.symm (written n)
  | some m =>
    cases b with
    | none => exact absurd same (written m)
    | some n => exact congrArg some (intRepr_injective same)

/-- The numbers' texts read back as the numbers: `Number(String(n))` is `n`. -/
structure DepositAttestationFields.Printed (number : String → Option ℚ)
    (fields : DepositAttestationFields) : Prop where
  fromChain : number fields.from_chain_id.text = fields.from_chain_id.value
  toChain : number fields.to_chain_id.text = fields.to_chain_id.value

omit [Host] in
theorem number_eq {number : String → Option ℚ} {a b : JsNumber} (ha : number a.text = a.value)
    (hb : number b.text = b.value) (same : a.text = b.text) : a = b := by
  have value : a.value = b.value := by rw [← ha, ← hb, same]
  obtain ⟨va, ta, _, _⟩ := a
  obtain ⟨vb, tb, _, _⟩ := b
  cases value
  cases same
  rfl

theorem attestationLines_eq {number : String → Option ℚ} {f g : DepositAttestationFields}
    (hf : f.Printed number) (hg : g.Printed number) :
    attestationLines f = attestationLines g ↔ f.canonical = g.canonical := by
  constructor
  · intro same
    simp only [attestationLines, List.cons.injEq, true_and, and_true] at same
    obtain ⟨intent, quote, wallet, fromChain, fromToken, fromAmount, address, deadline, refund,
      toChain, toToken, toAmount, minAmount, recipient, spending, viewing, settlement⟩ := same
    unfold DepositAttestationFields.canonical
    rw [intent, quote, wallet, number_eq hf.fromChain hg.fromChain fromChain, fromToken, fromAmount,
      address, deadlineText_injective deadline, optionalField_injective refund,
      number_eq hf.toChain hg.toChain toChain, toToken, toAmount, minAmount, recipient,
      optionalField_injective spending, optionalField_injective viewing, settlement]
  · intro same
    simp only [DepositAttestationFields.canonical, DepositAttestationFields.mk.injEq] at same
    obtain ⟨intent, quote, wallet, fromChain, fromToken, fromAmount, address, deadline, refund,
      toChain, toToken, toAmount, minAmount, recipient, spending, viewing, settlement⟩ := same
    unfold attestationLines
    rw [intent, quote, wallet, fromChain, fromToken, fromAmount, address, deadline,
      ← optionalField_getD f.refund_address, refund, optionalField_getD, toChain, toToken, toAmount, minAmount,
      recipient, ← optionalField_getD f.stealth_spending_pub_key, spending, optionalField_getD,
      ← optionalField_getD f.stealth_viewing_pub_key, viewing, optionalField_getD, settlement]

/-- Two field sets sign one message exactly when the message says the same of them, and no line
of a message that is built holds the separator. -/
theorem depositMessage_readable {number : String → Option ℚ} {f g : DepositAttestationFields}
    {messageF messageG : String} (hf : f.Printed number) (hg : g.Printed number)
    (builtF : buildDepositAttestationMessage f = .ok messageF)
    (builtG : buildDepositAttestationMessage g = .ok messageG) :
    (messageF = messageG ↔ f.canonical = g.canonical) ∧
      ∀ line ∈ attestationLines f, '\n' ∉ line.toList := by
  obtain ⟨freeF, rfl⟩ := buildDepositAttestationMessage_ok.mp builtF
  obtain ⟨freeG, rfl⟩ := buildDepositAttestationMessage_ok.mp builtG
  refine ⟨?_, freeF⟩
  rw [← attestationLines_eq hf hg]
  constructor
  · exact joinLines_injective freeF freeG (by simp [attestationLines]) (by simp [attestationLines])
  · intro same
    rw [same]

end

/-! ## A sample -/

/-- A host that lowercases ASCII and recovers nothing. -/
@[reducible] def asciiHost : Host where
  toLowerCase := asciiLower
  toUpperCase s := s
  dateParse _ := none
  numberText := plainNumber
  numberText_injective := plainNumber_injective
  numberText_plain := plainNumber_plain
  bigIntError raw := raw
  sha256 bytes := bytes
  verifyMessage _ _ := .error "invalid signature"

def sampleDepositFields : DepositAttestationFields where
  intent_id := "i"
  quote_id := "q"
  wallet := "0xAb"
  from_chain_id := .ofInt 728126428
  from_token := "T"
  from_amount := "1000"
  deposit_address := "D"
  deposit_deadline := some 1735693200
  refund_address := none
  to_chain_id := .ofInt 1
  to_token := "0xCd"
  to_amount := "990"
  min_to_amount := "980"
  recipient := "0xAb"
  stealth_spending_pub_key := none
  stealth_viewing_pub_key := none
  settlement_preference := "public"

/-- The sample and its lowercased wallet sign one message. -/
theorem depositMessage_readable_sample :
    letI := asciiHost
    ∃ message, buildDepositAttestationMessage sampleDepositFields = .ok message ∧
      sampleDepositFields.canonical = { sampleDepositFields with wallet := "0xab" }.canonical := by
  let _ := asciiHost
  let number : String → Option ℚ := fun text =>
    if text = "728126428" then some 728126428 else if text = "1" then some 1 else none
  have printed (fields : DepositAttestationFields) (h : fields.from_chain_id = .ofInt 728126428)
      (h' : fields.to_chain_id = .ofInt 1) : fields.Printed number := by
    constructor
    · rw [h]; rfl
    · rw [h']; rfl
  have built : ∃ message, buildDepositAttestationMessage sampleDepositFields = .ok message := by
    refine ⟨_, buildDepositAttestationMessage_ok.mpr ⟨?_, rfl⟩⟩
    decide +kernel
  obtain ⟨message, built⟩ := built
  have builtLower : buildDepositAttestationMessage { sampleDepositFields with wallet := "0xab" } =
      .ok message := by
    rw [← built]
    rfl
  exact ⟨message, built, (depositMessage_readable (printed _ rfl rfl) (printed _ rfl rfl) built
    builtLower).1.mp rfl⟩

/-- The fields up to the case the message writes of an address, and nothing else. -/
def DepositAttestationFields.recased [Host] (fields : DepositAttestationFields) :
    DepositAttestationFields :=
  { fields.canonical with
    refund_address := fields.refund_address.map normalizeAddress
    stealth_spending_pub_key := fields.stealth_spending_pub_key.map normalizeAddress
    stealth_viewing_pub_key := fields.stealth_viewing_pub_key.map normalizeAddress }

/-- An empty refund address and an absent one sign one message. -/
theorem empty_signs_absent :
    letI := asciiHost
    ∃ message, buildDepositAttestationMessage sampleDepositFields = .ok message ∧
      buildDepositAttestationMessage { sampleDepositFields with refund_address := some "" } = .ok message ∧
      sampleDepositFields.recased ≠ { sampleDepositFields with refund_address := some "" }.recased := by
  let _ := asciiHost
  have built : ∃ message, buildDepositAttestationMessage sampleDepositFields = .ok message := by
    refine ⟨_, buildDepositAttestationMessage_ok.mpr ⟨?_, rfl⟩⟩
    decide +kernel
  obtain ⟨message, built⟩ := built
  have lines : attestationLines { sampleDepositFields with refund_address := some "" } =
      attestationLines sampleDepositFields := by decide +kernel
  refine ⟨message, built, ?_, fun same => ?_⟩
  · rw [buildDepositAttestationMessage_ok, lines]
    exact buildDepositAttestationMessage_ok.mp built
  · cases congrArg DepositAttestationFields.refund_address same

end XochiSdk.Signer
