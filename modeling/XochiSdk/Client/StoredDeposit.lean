import XochiSdk.Signer.AttestationText
import XochiSdk.Signer.Uint
import XochiSdk.Client.QuoteChecks

/-!
# Stored deposits

`machine/deposit.ts`: a deposit binding restored from storage, in the signer's spelling or in the
camelCase of earlier builds, is renamed, checked against the record it was filed under, and
verified against the pinned signer.
-/

namespace XochiSdk.Client

open XochiSdk.Js XochiSdk.Shared XochiSdk.Signer

inductive StoredType where
  | string
  | integer
  | optionalString
  | optionalInteger
  deriving DecidableEq

def StoredType.optional : StoredType → Bool
  | .optionalString | .optionalInteger => true
  | _ => false

/-- A signed field, its spelling in older records, and the JSON type it must have. -/
structure StoredField where
  name : String
  legacy : String
  type : StoredType
  deriving DecidableEq

/-- `STORED_FIELDS`. -/
def storedFields : List StoredField :=
  [⟨"intent_id", "intentId", .string⟩,
    ⟨"quote_id", "quoteId", .string⟩,
    ⟨"wallet", "wallet", .string⟩,
    ⟨"from_chain_id", "fromChainId", .integer⟩,
    ⟨"from_token", "fromToken", .string⟩,
    ⟨"from_amount", "fromAmount", .string⟩,
    ⟨"deposit_address", "depositAddress", .string⟩,
    ⟨"deposit_deadline", "depositDeadline", .optionalInteger⟩,
    ⟨"refund_address", "refundAddress", .optionalString⟩,
    ⟨"to_chain_id", "toChainId", .integer⟩,
    ⟨"to_token", "toToken", .string⟩,
    ⟨"to_amount", "toAmount", .string⟩,
    ⟨"min_to_amount", "minToAmount", .string⟩,
    ⟨"recipient", "recipient", .string⟩,
    ⟨"stealth_spending_pub_key", "stealthSpendingPubKey", .optionalString⟩,
    ⟨"stealth_viewing_pub_key", "stealthViewingPubKey", .optionalString⟩,
    ⟨"settlement_preference", "resolvedSettlementType", .string⟩]

/-- The key of a field, in a record of either spelling. -/
def StoredField.key (field : StoredField) (legacy : Bool) : String :=
  if legacy then field.legacy else field.name

/-- What a value is read as: `null` for an optional that is not there, and nothing for a value of
another type. -/
def StoredField.accept (field : StoredField) (value : Value) : Option Value :=
  if field.type.optional && value.isNullish then some .null
  else
    match field.type, value with
    | .string, .str s | .optionalString, .str s => some (.str s)
    | .integer, .num n | .optionalInteger, .num n =>
      if (safeInteger n).isSome then some (.num n) else none
    | _, _ => none

/-- `key in source`. -/
def hasKey (source : Obj) (key : String) : Bool := (source.lookup key).isSome

def readStoredFields (source : Obj) (legacy : Bool) : List StoredField → Except String Obj
  | [] => .ok []
  | field :: rest =>
    let value := source.get (field.key legacy)
    match field.accept value with
    | none => .error ("stored deposit field " ++ field.key legacy ++ " is " ++
        if value.isUndefined then "missing" else "malformed")
    | some accepted => do
      let fields ← readStoredFields source legacy rest
      pure ((field.name, accepted) :: fields)

def textOf : Value → String
  | .str s => s
  | _ => ""

def numberOf : Value → JsNumber
  | .num n => n
  | _ => .nan

def optionalTextOf : Value → Option String
  | .str s => some s
  | _ => none

def optionalIntegerOf : Value → Option Int
  | .num n => safeInteger n
  | _ => none

/-- `fields as DepositAttestationFields`. -/
def asAttested (fields : Obj) : DepositAttestationFields where
  intent_id := textOf (fields.get "intent_id")
  quote_id := textOf (fields.get "quote_id")
  wallet := textOf (fields.get "wallet")
  from_chain_id := numberOf (fields.get "from_chain_id")
  from_token := textOf (fields.get "from_token")
  from_amount := textOf (fields.get "from_amount")
  deposit_address := textOf (fields.get "deposit_address")
  deposit_deadline := optionalIntegerOf (fields.get "deposit_deadline")
  refund_address := optionalTextOf (fields.get "refund_address")
  to_chain_id := numberOf (fields.get "to_chain_id")
  to_token := textOf (fields.get "to_token")
  to_amount := textOf (fields.get "to_amount")
  min_to_amount := textOf (fields.get "min_to_amount")
  recipient := textOf (fields.get "recipient")
  stealth_spending_pub_key := optionalTextOf (fields.get "stealth_spending_pub_key")
  stealth_viewing_pub_key := optionalTextOf (fields.get "stealth_viewing_pub_key")
  settlement_preference := textOf (fields.get "settlement_preference")

/-- The spelling a record is in, by its intent's id. -/
def isLegacy (source : Obj) : Bool := !hasKey source "intent_id" && hasKey source "intentId"

/-- Read a persisted binding into the signer's field set: its shape, and nothing of its truth. -/
def readStoredDeposit (raw : Value) : Except String StoredDepositAttestation :=
  match raw.member "attestation" with
  | .str attestation =>
    if attestation = "" then .error "stored deposit carries no attestation"
    else
      match raw.member "attested" with
      | .obj source =>
        let legacy := isLegacy source
        if !legacy && !hasKey source "intent_id" then
          .error "stored deposit is in no recognised shape"
        else do
          let fields ← readStoredFields source legacy storedFields
          pure { attested := asAttested fields, attestation := attestation }
      | .arr _ => .error "stored deposit is in no recognised shape"
      | _ => .error "stored deposit carries no attested fields"
  | _ => .error "stored deposit carries no attestation"

section

variable [Host]

/-- The message's own canonicalisation: a 0x address lowercased, base58 verbatim. -/
def canonical (value : String) : String :=
  if startsWithHex value then Host.toLowerCase value else value

/-- Prove a deposit binding restored from storage, before any of it is shown. -/
def verifyStoredDeposit (raw : Value) (signer : Option String) (intentId owner : String) :
    Except DepositRejection StoredDepositAttestation :=
  match readStoredDeposit raw with
  | .error reason => .error ⟨.unavailable, reason⟩
  | .ok stored =>
    let attested := stored.attested
    if attested.intent_id ≠ intentId then
      .error ⟨.unavailable,
        s!"stored deposit attests intent {attested.intent_id}, record is {intentId}"⟩
    else if owner = "" ∨ canonical attested.wallet ≠ canonical owner then
      let filed := if owner = "" then "(none)" else owner
      .error ⟨.unavailable,
        s!"stored deposit attests wallet {attested.wallet}, record is filed under " ++
          s!"{filed}; refusing a binding for a different account"⟩
    else if !isSignature stored.attestation then
      .error ⟨.unavailable, "malformed deposit attestation signature"⟩
    else if recipientIsDestinationToken attested.recipient attested.to_token then
      .error ⟨.unavailable,
        s!"payout recipient is the destination token contract ({attested.to_token}); funds sent " ++
          "there are unspendable"⟩
    else
      match verifyDepositAttestation attested (some stored.attestation) signer with
      | .ok () => .ok stored
      | .error e => .error (depositRefusal e)

end

/-! ## Reading -/

theorem StoredField.accept_eq {field : StoredField} {value accepted : Value}
    (h : field.accept value = some accepted) : accepted = value.orElse .null := by
  unfold StoredField.accept at h
  split at h
  · rename_i absent
    cases h
    unfold Value.orElse
    rw [if_pos (Bool.and_eq_true _ _ ▸ absent).2]
  · split at h
    · cases h; rfl
    · cases h; rfl
    · split at h
      · cases h; rfl
      · cases h
    · split at h
      · cases h; rfl
      · cases h
    · cases h

/-- A value that was accepted is accepted as it is. -/
theorem StoredField.accept_idem {field : StoredField} {value accepted : Value}
    (h : field.accept value = some accepted) : field.accept accepted = some accepted := by
  have same := StoredField.accept_eq h
  cases nullish : value.isNullish with
  | false =>
    rw [Value.orElse, if_neg (by simp [nullish])] at same
    rw [same] at h ⊢
    exact h
  | true =>
    have null : accepted = .null := by rw [same, Value.orElse, if_pos nullish]
    obtain ⟨name, legacy, type⟩ := field
    cases type <;> cases value <;> simp_all [StoredField.accept, Value.isNullish, StoredType.optional]

/-- The fields are read exactly when each is accepted, and each as it is accepted. -/
theorem readStoredFields_ok {source : Obj} {legacy : Bool} {fields : List StoredField} {read : Obj} :
    readStoredFields source legacy fields = .ok read ↔
      read = fields.map (fun f => (f.name, (source.get (f.key legacy)).orElse .null)) ∧
        ∀ f ∈ fields, (f.accept (source.get (f.key legacy))).isSome = true := by
  induction fields generalizing read with
  | nil =>
    constructor
    · rintro ⟨⟩
      exact ⟨rfl, by simp⟩
    · rintro ⟨rfl, -⟩
      rfl
  | cons field rest ih =>
    unfold readStoredFields
    dsimp only
    cases accepts : field.accept (source.get (field.key legacy)) with
    | none => simp [accepts]
    | some accepted =>
      have value := StoredField.accept_eq accepts
      simp only [bind, Except.bind, pure, Except.pure, List.map_cons, List.forall_mem_cons,
        accepts, Option.isSome_some, true_and, ← value]
      cases rests : readStoredFields source legacy rest with
      | error reason =>
        simp only [reduceCtorEq, false_iff, not_and]
        rintro rfl all
        have := ih.mpr ⟨rfl, all⟩
        rw [rests] at this
        cases this
      | ok fields =>
        obtain ⟨same, all⟩ := ih.mp rests
        rw [Except.ok.injEq, same, and_iff_left all]
        exact eq_comm

/-! ## The record of a binding -/

/-- A field set, as the object it is. -/
def attestedValue (fields : DepositAttestationFields) : Obj :=
  [("intent_id", .str fields.intent_id),
    ("quote_id", .str fields.quote_id),
    ("wallet", .str fields.wallet),
    ("from_chain_id", .num fields.from_chain_id),
    ("from_token", .str fields.from_token),
    ("from_amount", .str fields.from_amount),
    ("deposit_address", .str fields.deposit_address),
    ("deposit_deadline", (fields.deposit_deadline.map Value.ofInt).getD .null),
    ("refund_address", (fields.refund_address.map Value.str).getD .null),
    ("to_chain_id", .num fields.to_chain_id),
    ("to_token", .str fields.to_token),
    ("to_amount", .str fields.to_amount),
    ("min_to_amount", .str fields.min_to_amount),
    ("recipient", .str fields.recipient),
    ("stealth_spending_pub_key", (fields.stealth_spending_pub_key.map Value.str).getD .null),
    ("stealth_viewing_pub_key", (fields.stealth_viewing_pub_key.map Value.str).getD .null),
    ("settlement_preference", .str fields.settlement_preference)]

/-- A record of a binding. -/
def storedRecord (attested : Obj) (attestation : String) : Value :=
  .obj [("attested", .obj attested), ("attestation", .str attestation)]

/-- A safe integer is the number it prints as. -/
theorem ofInt_safeInteger {x : JsNumber} {n : Int} (h : safeInteger x = some n) : .ofInt n = x := by
  unfold safeInteger at h
  obtain ⟨m, whole, safe⟩ := Option.bind_eq_some_iff.mp h
  split at safe
  · rename_i bound
    cases safe
    have value : x.value = some (n : ℚ) := by
      unfold JsNumber.toInteger at whole
      obtain ⟨q, held, integral⟩ := Option.bind_eq_some_iff.mp whole
      split at integral
      · rename_i den
        cases integral
        rw [held, Rat.coe_int_num_of_den_eq_one den]
      · cases integral
    have text : x.text = toString n := x.text_of_safe n value (by omega)
    obtain ⟨v, t, _, _⟩ := x
    cases value
    cases text
    rfl
  · cases safe

theorem str_textOf {field : StoredField} {value : Value} (type : field.type = .string)
    (h : field.accept value = some value) : .str (textOf value) = value := by
  obtain ⟨name, legacy, _⟩ := field
  cases type
  cases value <;> simp_all [StoredField.accept, StoredType.optional, textOf]

theorem num_numberOf {field : StoredField} {value : Value} (type : field.type = .integer)
    (h : field.accept value = some value) : .num (numberOf value) = value := by
  obtain ⟨name, legacy, _⟩ := field
  cases type
  cases value <;> simp_all [StoredField.accept, StoredType.optional, numberOf]

theorem getD_optionalTextOf {field : StoredField} {value : Value}
    (type : field.type = .optionalString) (h : field.accept value = some value) :
    ((optionalTextOf value).map Value.str).getD .null = value := by
  obtain ⟨name, legacy, _⟩ := field
  cases type
  cases value <;>
    simp_all [StoredField.accept, StoredType.optional, Value.isNullish, optionalTextOf]

theorem getD_optionalIntegerOf {field : StoredField} {value : Value}
    (type : field.type = .optionalInteger) (h : field.accept value = some value) :
    ((optionalIntegerOf value).map Value.ofInt).getD .null = value := by
  obtain ⟨name, legacy, _⟩ := field
  cases type
  cases value with
  | num x =>
    cases safe : safeInteger x with
    | none => simp [StoredField.accept, StoredType.optional, Value.isNullish, safe] at h
    | some n => simp [optionalIntegerOf, safe, Value.ofInt, ofInt_safeInteger safe]
  | null => rfl
  | _ => simp [StoredField.accept, StoredType.optional, Value.isNullish] at h

theorem get_storedFields (value : StoredField → Value) {field : StoredField}
    (mem : field ∈ storedFields) :
    Obj.get (storedFields.map fun f => (f.name, value f)) field.name = value field := by
  simp only [storedFields, List.mem_cons, List.not_mem_nil, or_false] at mem
  rcases mem with rfl | rfl | rfl | rfl | rfl | rfl | rfl | rfl | rfl | rfl | rfl | rfl | rfl | rfl |
    rfl | rfl | rfl <;> rfl

/-- Accepted values read as a field set are the object they were. -/
theorem attestedValue_asAttested {read : Obj} {value : StoredField → Value}
    (get : ∀ f ∈ storedFields, read.get f.name = value f)
    (accepts : ∀ f ∈ storedFields, f.accept (value f) = some (value f)) :
    attestedValue (asAttested read) = storedFields.map fun f => (f.name, value f) := by
  have text {name legacy : String} (mem : ⟨name, legacy, .string⟩ ∈ storedFields) :
      .str (textOf (read.get name)) = value ⟨name, legacy, .string⟩ := by
    rw [get _ mem]
    exact str_textOf rfl (accepts _ mem)
  have number {name legacy : String} (mem : ⟨name, legacy, .integer⟩ ∈ storedFields) :
      .num (numberOf (read.get name)) = value ⟨name, legacy, .integer⟩ := by
    rw [get _ mem]
    exact num_numberOf rfl (accepts _ mem)
  have optionalText {name legacy : String} (mem : ⟨name, legacy, .optionalString⟩ ∈ storedFields) :
      ((optionalTextOf (read.get name)).map Value.str).getD .null =
        value ⟨name, legacy, .optionalString⟩ := by
    rw [get _ mem]
    exact getD_optionalTextOf rfl (accepts _ mem)
  have optionalInteger {name legacy : String}
      (mem : ⟨name, legacy, .optionalInteger⟩ ∈ storedFields) :
      ((optionalIntegerOf (read.get name)).map Value.ofInt).getD .null =
        value ⟨name, legacy, .optionalInteger⟩ := by
    rw [get _ mem]
    exact getD_optionalIntegerOf rfl (accepts _ mem)
  simp only [attestedValue, asAttested, storedFields, List.map_cons, List.map_nil, List.cons.injEq,
    Prod.mk.injEq, true_and, and_true]
  exact ⟨text (by decide), text (by decide), text (by decide), number (by decide),
    text (by decide), text (by decide), text (by decide), optionalInteger (by decide),
    optionalText (by decide), number (by decide), text (by decide), text (by decide),
    text (by decide), text (by decide), optionalText (by decide), optionalText (by decide),
    text (by decide)⟩

/-- A value of a record, as the signer's spelling holds it. -/
def StoredField.held (field : StoredField) (source : Obj) : Value :=
  (source.get (field.key (isLegacy source))).orElse .null

/-- What a record that reads was: its signed fields, renamed, are the ones read. -/
theorem readStoredDeposit_ok {raw : Value} {stored : StoredDepositAttestation}
    (read : readStoredDeposit raw = .ok stored) :
    ∃ source : Obj, raw.member "attested" = .obj source ∧
      raw.member "attestation" = .str stored.attestation ∧ stored.attestation ≠ "" ∧
      stored.attested = asAttested (storedFields.map fun f => (f.name, f.held source)) ∧
      ∀ f ∈ storedFields, f.accept (f.held source) = some (f.held source) := by
  unfold readStoredDeposit at read
  split at read
  · rename_i attestation signed
    split at read
    · cases read
    rename_i filled
    split at read
    · rename_i source attested
      dsimp only at read
      split at read
      · cases read
      cases fields : readStoredFields source (isLegacy source) storedFields with
      | error reason =>
        rw [fields] at read
        cases read
      | ok values =>
        rw [fields] at read
        cases read
        obtain ⟨rfl, all⟩ := readStoredFields_ok.mp fields
        have accepts : ∀ f ∈ storedFields, f.accept (f.held source) = some (f.held source) := by
          intro f mem
          obtain ⟨accepted, accepts⟩ := Option.isSome_iff_exists.mp (all f mem)
          have same : accepted = f.held source := StoredField.accept_eq accepts
          rw [← same]
          exact StoredField.accept_idem accepts
        exact ⟨source, attested, signed, filled, rfl, accepts⟩
    · cases read
    · cases read
  · cases read

/-- Any record that holds the accepted values under one spelling reads as them. -/
theorem readStoredDeposit_of {source : Obj} {value : StoredField → Value} {attestation : String}
    (shaped : isLegacy source = true ∨ hasKey source "intent_id" = true)
    (filled : attestation ≠ "")
    (get : ∀ f ∈ storedFields, f.accept (source.get (f.key (isLegacy source))) = some (value f)) :
    readStoredDeposit (storedRecord source attestation) =
      .ok ⟨asAttested (storedFields.map fun f => (f.name, value f)), attestation⟩ := by
  have fields : readStoredFields source (isLegacy source) storedFields =
      .ok (storedFields.map fun f => (f.name, value f)) := by
    refine readStoredFields_ok.mpr ⟨?_, fun f mem => by rw [get f mem]; rfl⟩
    refine List.map_congr_left fun f mem => ?_
    rw [← StoredField.accept_eq (get f mem)]
  have recognised : (!isLegacy source && !hasKey source "intent_id") = false := by
    rcases shaped with h | h <;> simp [h]
  have attested : (storedRecord source attestation).member "attested" = .obj source := rfl
  have signed : (storedRecord source attestation).member "attestation" = .str attestation := rfl
  unfold readStoredDeposit
  rw [signed, attested]
  dsimp only
  rw [if_neg filled, recognised, fields]
  rfl

/-- The signed fields that were read are the record's, under the signer's names. -/
theorem readStoredDeposit_fields {source : Obj}
    (accepts : ∀ f ∈ storedFields, f.accept (f.held source) = some (f.held source)) :
    attestedValue (asAttested (storedFields.map fun f => (f.name, f.held source))) =
      storedFields.map fun f => (f.name, f.held source) :=
  attestedValue_asAttested (fun _ mem => get_storedFields (·.held source) mem) accepts

/-- The record of a binding that was read reads as it. -/
theorem readStoredDeposit_idem {raw : Value} {stored : StoredDepositAttestation}
    (read : readStoredDeposit raw = .ok stored) :
    readStoredDeposit (storedRecord (attestedValue stored.attested) stored.attestation) =
      .ok stored := by
  obtain ⟨source, -, -, filled, same, accepts⟩ := readStoredDeposit_ok read
  obtain ⟨attested, attestation⟩ := stored
  dsimp only at filled same ⊢
  have current : isLegacy (attestedValue attested) = false := rfl
  have again : readStoredDeposit (storedRecord (attestedValue attested) attestation) =
      .ok ⟨asAttested (storedFields.map fun f => (f.name, f.held source)), attestation⟩ := by
    refine readStoredDeposit_of (.inr rfl) filled fun f mem => ?_
    rw [current, same, readStoredDeposit_fields accepts]
    exact (congrArg f.accept (get_storedFields (·.held source) mem)).trans (accepts f mem)
  rw [again, ← same]

/-! ## Verifying -/

section

variable [Host]

/-- The pinned signer's signature, over exactly these fields. -/
def SignedBy (signer : Option String) (stored : StoredDepositAttestation) : Prop :=
  ∃ message address, buildDepositAttestationMessage stored.attested = .ok message ∧
    Host.verifyMessage message stored.attestation = .ok address ∧
    Host.toLowerCase address = Host.toLowerCase (signer.getD "") ∧ signer.getD "" ≠ ""

theorem signedBy_of_verified {signer : Option String} {stored : StoredDepositAttestation}
    (verified : verifyDepositAttestation stored.attested (some stored.attestation) signer = .ok ()) :
    SignedBy signer stored := by
  unfold verifyDepositAttestation at verified
  dsimp only at verified
  split at verified
  · cases verified
  split at verified
  · cases verified
  rename_i pinned
  split at verified
  · cases verified
  split at verified
  · cases verified
  rename_i recovered recovers
  unfold recoverDepositAttestationSigner at recovers
  cases built : buildDepositAttestationMessage stored.attested with
  | error e =>
    rw [built] at recovers
    cases e <;> cases recovers
  | ok message =>
    rw [built] at recovers
    dsimp only [Option.getD_some] at recovers
    cases read : Host.verifyMessage message stored.attestation with
    | error thrown =>
      rw [read] at recovers
      cases recovers
    | ok address =>
      rw [read] at recovers
      cases recovers
      refine ⟨message, address, built, read, ?_, by simpa using pinned⟩
      simpa using refuseIf_ok.mp verified

/-- What an accepted record proves of the binding it carries. -/
structure Proven (raw : Value) (signer : Option String) (intentId owner : String)
    (stored : StoredDepositAttestation) : Prop where
  read : readStoredDeposit raw = .ok stored
  intent : stored.attested.intent_id = intentId
  owned : owner ≠ "" ∧ canonical stored.attested.wallet = canonical owner
  shaped : isSignature stored.attestation = true
  payable : recipientIsDestinationToken stored.attested.recipient stored.attested.to_token = false
  verified : verifyDepositAttestation stored.attested (some stored.attestation) signer = .ok ()

/-- A record is accepted exactly when everything is proven of what it reads as. -/
theorem verifyStoredDeposit_ok {raw : Value} {signer : Option String} {intentId owner : String}
    {stored : StoredDepositAttestation} :
    verifyStoredDeposit raw signer intentId owner = .ok stored ↔
      Proven raw signer intentId owner stored := by
  constructor
  · intro accepted
    unfold verifyStoredDeposit at accepted
    split at accepted
    · cases accepted
    rename_i read
    dsimp only at accepted
    split at accepted
    · cases accepted
    rename_i intent
    split at accepted
    · cases accepted
    rename_i owned
    split at accepted
    · cases accepted
    rename_i shaped
    split at accepted
    · cases accepted
    rename_i payable
    split at accepted
    · rename_i verified
      cases accepted
      exact ⟨read, not_not.mp intent, ⟨(not_or.mp owned).1, not_not.mp (not_or.mp owned).2⟩,
        by simpa using shaped, by simpa using payable, verified⟩
    · cases accepted
  · rintro ⟨read, intent, owned, shaped, payable, verified⟩
    unfold verifyStoredDeposit
    rw [read]
    dsimp only
    rw [if_neg (not_not.mpr intent), if_neg (not_or.mpr ⟨owned.1, not_not.mpr owned.2⟩), shaped,
      if_neg (by decide), payable, if_neg (by decide), verified]

/-- The verdict on a record, without the text of a refusal. -/
def verdict (raw : Value) (signer : Option String) (intentId owner : String) :
    Except DepositRejectionKind StoredDepositAttestation :=
  (verifyStoredDeposit raw signer intentId owner).mapError (·.kind)

/-- A record in older spelling and one in the signer's hold the same signed fields. -/
structure SameRecord (older newer : Value) (source renamed : Obj) : Prop where
  inOlder : older.member "attested" = .obj source
  inNewer : newer.member "attested" = .obj renamed
  attestation : older.member "attestation" = newer.member "attestation"
  legacy : isLegacy source = true
  current : hasKey renamed "intent_id" = true
  fields : ∀ f ∈ storedFields, source.get f.legacy = renamed.get f.name

omit [Host] in
/-- The two spellings of one record read as one binding, or are both refused. -/
theorem SameRecord.reads {older newer : Value} {source renamed : Obj}
    (same : SameRecord older newer source renamed) :
    (∃ stored, readStoredDeposit older = .ok stored ∧ readStoredDeposit newer = .ok stored) ∨
      ∃ reason reason', readStoredDeposit older = .error reason ∧
        readStoredDeposit newer = .error reason' := by
  have spelled : isLegacy renamed = false := by simp [isLegacy, same.current]
  unfold readStoredDeposit
  rw [same.attestation, same.inOlder, same.inNewer]
  split
  · split
    · exact .inr ⟨_, _, rfl, rfl⟩
    · simp only [same.legacy, spelled, same.current, Bool.not_true, Bool.false_and, Bool.and_false,
        Bool.false_eq_true, if_false]
      have accepts : (∀ f ∈ storedFields, (f.accept (source.get (f.key true))).isSome = true) ↔
          ∀ f ∈ storedFields, (f.accept (renamed.get (f.key false))).isSome = true := by
        refine forall₂_congr fun f mem => ?_
        rw [show source.get (f.key true) = renamed.get (f.key false) from same.fields f mem]
      have map : storedFields.map (fun f => (f.name, (source.get (f.key true)).orElse .null)) =
          storedFields.map fun f => (f.name, (renamed.get (f.key false)).orElse .null) := by
        refine List.map_congr_left fun f mem => ?_
        rw [show source.get (f.key true) = renamed.get (f.key false) from same.fields f mem]
      have reads (read : Obj) : readStoredFields source true storedFields = .ok read ↔
          readStoredFields renamed false storedFields = .ok read := by
        rw [readStoredFields_ok, readStoredFields_ok, map, accepts]
      cases old : readStoredFields source true storedFields with
      | ok read =>
        rw [(reads read).mp old]
        exact .inl ⟨_, rfl, rfl⟩
      | error reason =>
        cases new : readStoredFields renamed false storedFields with
        | ok read =>
          rw [(reads read).mpr new] at old
          cases old
        | error reason' => exact .inr ⟨_, _, rfl, rfl⟩
  · exact .inr ⟨_, _, rfl, rfl⟩

/-- An accepted record's fields are the ones returned, under the signer's names; they are signed,
and for this intent and owner; the returned binding verifies as itself. Either spelling of a record
gets one verdict. -/
theorem storedDeposit_consistent (signer : Option String) (intentId owner : String) :
    (∀ raw stored, verifyStoredDeposit raw signer intentId owner = .ok stored →
      (∃ source : Obj, raw.member "attested" = .obj source ∧
        raw.member "attestation" = .str stored.attestation ∧
        attestedValue stored.attested = storedFields.map fun f => (f.name, f.held source)) ∧
      SignedBy signer stored ∧
      stored.attested.intent_id = intentId ∧
      (owner ≠ "" ∧ canonical stored.attested.wallet = canonical owner) ∧
      verifyStoredDeposit (storedRecord (attestedValue stored.attested) stored.attestation)
        signer intentId owner = .ok stored) ∧
    ∀ older newer source renamed, SameRecord older newer source renamed →
      verdict older signer intentId owner = verdict newer signer intentId owner := by
  constructor
  · intro raw stored accepted
    have proven := verifyStoredDeposit_ok.mp accepted
    obtain ⟨source, attested, attestation, -, same, accepts⟩ := readStoredDeposit_ok proven.read
    refine ⟨⟨source, attested, attestation, ?_⟩, signedBy_of_verified proven.verified, proven.intent,
      proven.owned, ?_⟩
    · rw [same]
      exact readStoredDeposit_fields accepts
    · exact verifyStoredDeposit_ok.mpr { proven with read := readStoredDeposit_idem proven.read }
  · intro older newer source renamed same
    unfold verdict verifyStoredDeposit
    rcases same.reads with ⟨stored, old, new⟩ | ⟨reason, reason', old, new⟩
    · rw [old, new]
    · rw [old, new]
      rfl

end

/-! ## A sample -/

/-- The signature of the key `1` over the sample record's message. -/
def sampleRecordSignature : String :=
  "0x99c126da20397558f23658764c3a7c583db7ff706e93981cc170e27ca8336201" ++
    "66602a7ebc11ee63ade27927c0d7fb8d771e8e36383f78b135008d860c129d371b"

/-- A host that recovers that signature's signer. -/
@[reducible] def recordHost : Host :=
  { asciiHost with
    verifyMessage := fun _ signature =>
      if signature = sampleRecordSignature then .ok "0x7E5F4552091A69125d5DfCb7b8C2659029395Bdf"
      else .error "invalid signature" }

/-- A binding as an earlier build stored it. -/
def legacyRecord : Obj :=
  [("intentId", .str "i"), ("quoteId", .str "q"),
    ("wallet", .str "0x2c7536e3605d9c16a7a3d7b1898e529396a65c23"),
    ("fromChainId", .ofInt 728126428), ("fromToken", .str "T"), ("fromAmount", .str "1000"),
    ("depositAddress", .str "TJRabPrwbZy45sbavfcjinPJC18kjpRTv8"),
    ("depositDeadline", .ofInt 1735693200), ("toChainId", .ofInt 8453),
    ("toToken", .str "0x833589fCD6eDb6E08f4c7C32D4f71b54bdA02913"), ("toAmount", .str "990"),
    ("minToAmount", .str "980"), ("recipient", .str "0x2c7536e3605d9c16a7a3d7b1898e529396a65c23"),
    ("resolvedSettlementType", .str "public")]

/-- The sample record is accepted, renamed. -/
theorem storedDeposit_consistent_sample :
    letI := recordHost
    ∃ stored, verifyStoredDeposit (storedRecord legacyRecord sampleRecordSignature)
        (some "0x7e5f4552091a69125d5dfcb7b8c2659029395bdf") "i"
        "0x2C7536E3605d9C16a7a3D7b1898e529396a65c23" = .ok stored ∧
      attestedValue stored.attested = storedFields.map fun f => (f.name, f.held legacyRecord) := by
  let _ := recordHost
  have accepted : (verifyStoredDeposit (storedRecord legacyRecord sampleRecordSignature)
      (some "0x7e5f4552091a69125d5dfcb7b8c2659029395bdf") "i"
      "0x2C7536E3605d9C16a7a3D7b1898e529396a65c23").isOk = true := by decide +kernel
  cases verified : verifyStoredDeposit (storedRecord legacyRecord sampleRecordSignature)
      (some "0x7e5f4552091a69125d5dfcb7b8c2659029395bdf") "i"
      "0x2C7536E3605d9C16a7a3D7b1898e529396a65c23" with
  | error e =>
    rw [verified] at accepted
    cases accepted
  | ok stored =>
    obtain ⟨⟨source, attested, -, fields⟩, -⟩ := (storedDeposit_consistent _ _ _).1 _ _ verified
    cases attested
    exact ⟨stored, rfl, fields⟩

end XochiSdk.Client
