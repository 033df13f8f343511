import XochiSdk.Sdk.OracleCodec
import XochiSdk.Signer.AttestationText

/-!
# The oracle codec is exact and its verdicts are bound

The public inputs are read back from what they encode to, and a verdict of valid is about the
wallet, the jurisdiction and an accepted type, whatever words the node answers with.
-/

namespace XochiSdk.Sdk

open XochiSdk.Js Library Inputs

/-! ## Public inputs -/

/-- A text of one to 32 bytes of hex digits. -/
def WordText (input : String) : Prop :=
  1 ≤ (unprefixed input).length ∧ (unprefixed input).length ≤ 64 ∧
    ∀ c ∈ unprefixed input, isHexDigit c = true

/-- A public input as a whole word. -/
def paddedInput (input : String) : List Char := padStart wordHex (unprefixed input)

/-- The text of a run of digits. -/
def prefixed (cs : List Char) : String := String.ofList ('0' :: 'x' :: cs)

theorem unprefixed_prefixed (cs : List Char) : unprefixed (prefixed cs) = cs := by
  unfold unprefixed prefixed
  rw [String.toList_ofList]
  rfl

theorem encodePublicInput_ok {i : Nat} {input : String} {word : List Char} :
    encodePublicInput i input = .ok word ↔ WordText input ∧ word = paddedInput input := by
  unfold encodePublicInput
  have shape : (1 ≤ (unprefixed input).length ∧ (unprefixed input).length ≤ 64 ∧
      (unprefixed input).all isHexDigit = true) ↔ WordText input := by
    simp [WordText]
  dsimp only
  split
  · next fits =>
    constructor
    · intro h
      cases h
      exact ⟨shape.mp fits, rfl⟩
    · rintro ⟨-, rfl⟩
      rfl
  · next broken =>
    constructor
    · intro h
      cases h
    · rintro ⟨fits, -⟩
      exact absurd (shape.mpr fits) broken

theorem encodeEach_ok {inputs : List String} {words : List (List Char)} (k : Nat) :
    ((inputs.zipIdx k).mapM fun e => encodePublicInput e.2 e.1) = .ok words ↔
      (∀ input ∈ inputs, WordText input) ∧ words = inputs.map paddedInput := by
  induction inputs generalizing k words with
  | nil =>
    simp [pure, Except.pure, eq_comm]
  | cons input rest ih =>
    rw [List.zipIdx_cons, List.mapM_cons]
    simp only [Signer.bind_ok, encodePublicInput_ok, ih]
    constructor
    · rintro ⟨word, ⟨own, rfl⟩, others, ⟨each, rfl⟩, built⟩
      cases built
      exact ⟨by simpa using ⟨own, each⟩, rfl⟩
    · rintro ⟨each, rfl⟩
      simp only [List.mem_cons, forall_eq_or_imp] at each
      exact ⟨_, ⟨each.1, rfl⟩, _, ⟨each.2, rfl⟩, rfl⟩

theorem encodePublicInputs_ok {inputs : List String} {hex : String} :
    encodePublicInputs inputs = .ok hex ↔
      (∀ input ∈ inputs, WordText input) ∧ hex = prefixed (inputs.map paddedInput).flatten := by
  unfold encodePublicInputs
  simp only [Signer.bind_ok, encodeEach_ok]
  constructor
  · rintro ⟨words, ⟨each, rfl⟩, built⟩
    cases built
    exact ⟨each, rfl⟩
  · rintro ⟨each, rfl⟩
    exact ⟨_, ⟨each, rfl⟩, rfl⟩

theorem wordRuns_cons {word : List Char} (size : word.length = 64) (rest : List Char) :
    wordRuns (word ++ rest) = word :: wordRuns rest := by
  have count : (word ++ rest).length / wordHex = rest.length / wordHex + 1 := by
    rw [List.length_append, size]
    unfold wordHex
    omega
  unfold wordRuns
  rw [count, List.range_succ_eq_map, List.map_cons, List.map_map]
  congr 1
  · simp [wordHex, ← size]
  · apply List.map_congr_left
    intro i _
    have : Nat.succ i * wordHex = word.length + i * wordHex := by
      rw [size]
      unfold wordHex
      omega
    have beyond : (word ++ rest).drop (word.length + i * wordHex) = rest.drop (i * wordHex) := by
      simp [List.drop_append]
    simp only [Function.comp_apply, this, beyond]

/-- Runs of words are cut where they were joined. -/
theorem wordRuns_flatten {words : List (List Char)} (size : ∀ w ∈ words, w.length = 64) :
    wordRuns words.flatten = words := by
  induction words with
  | nil => rfl
  | cons w rest ih =>
    rw [List.flatten_cons, wordRuns_cons (size w (by simp)),
      ih (fun v among => size v (by simp [among]))]

/-- Whole words are cut into words, which join to them. -/
theorem exists_words (n : Nat) (cs : List Char) (length : cs.length = n * 64) :
    ∃ words : List (List Char), (∀ w ∈ words, w.length = 64) ∧ words.flatten = cs := by
  induction n generalizing cs with
  | zero =>
    refine ⟨[], by simp, ?_⟩
    rw [List.eq_nil_of_length_eq_zero (by omega : cs.length = 0)]
    rfl
  | succ n ih =>
    obtain ⟨words, size, flat⟩ := ih (cs.drop 64) (by rw [List.length_drop]; omega)
    refine ⟨cs.take 64 :: words, ?_, ?_⟩
    · intro w among
      rcases List.mem_cons.mp among with rfl | later
      · rw [List.length_take]
        omega
      · exact size w later
    · rw [List.flatten_cons, flat, List.take_append_drop]

theorem isHexRuns_words {cs : List Char} (runs : isHexRuns wordHex cs = true) :
    ∃ words : List (List Char), (∀ w ∈ words, w.length = 64) ∧
      (∀ w ∈ words, ∀ c ∈ w, isHexDigit c = true) ∧ words.flatten = cs ∧ wordRuns cs = words := by
  obtain ⟨aligned, digits⟩ := isHexRuns_iff.mp runs
  unfold wordHex at aligned
  obtain ⟨words, size, flat⟩ := exists_words (cs.length / 64) cs (by omega)
  refine ⟨words, size, ?_, flat, ?_⟩
  · intro w among c inside
    apply digits
    rw [← flat]
    exact List.mem_flatten.mpr ⟨w, among, inside⟩
  · rw [← flat, wordRuns_flatten size]

theorem paddedInput_word {word : List Char} (size : word.length = 64) :
    paddedInput (prefixed word) = word := by
  unfold paddedInput padStart
  rw [unprefixed_prefixed, size]
  rfl

theorem wordText_word {word : List Char} (size : word.length = 64)
    (digits : ∀ c ∈ word, isHexDigit c = true) : WordText (prefixed word) := by
  unfold WordText
  rw [unprefixed_prefixed]
  exact ⟨by omega, by omega, digits⟩

theorem lower_hex {c : Char} (digit : isHexDigit c = true) :
    isHexDigit (asciiLowerChar c) = true :=
  hexChars_all (p := fun c => isHexDigit (asciiLowerChar c)) (by decide) digit

theorem asciiLower_prefixed (cs : List Char) :
    asciiLower (prefixed cs) = prefixed (cs.map asciiLowerChar) := by
  unfold asciiLower prefixed
  rw [String.toList_ofList]
  rfl

/-- Words whose digits are written one after another encode to the run of them. -/
theorem encode_words (words : List (List Char)) (size : ∀ w ∈ words, w.length = 64)
    (digits : ∀ w ∈ words, ∀ c ∈ w, isHexDigit c = true) :
    encodePublicInputs (words.map prefixed) = .ok (prefixed words.flatten) := by
  rw [encodePublicInputs_ok]
  constructor
  · intro input among
    obtain ⟨w, inside, rfl⟩ := List.mem_map.mp among
    exact wordText_word (size w inside) (digits w inside)
  · rw [List.map_map]
    congr 2
    symm
    calc words.map (paddedInput ∘ prefixed) = words.map id :=
          List.map_congr_left fun w among => paddedInput_word (size w among)
      _ = words := List.map_id _

section
variable [Host]

theorem decodePublicInputs_ok {hex : String} {inputs : List String} :
    decodePublicInputs hex = .ok inputs ↔ isHexRuns wordHex (unprefixed hex) = true ∧
      inputs = (wordRuns (unprefixed hex)).map prefixed := by
  unfold decodePublicInputs
  dsimp only
  split
  · next runs =>
    constructor
    · intro h
      cases h
      exact ⟨runs, rfl⟩
    · rintro ⟨-, rfl⟩
      rfl
  · next broken =>
    constructor
    · intro h
      cases h
    · rintro ⟨runs, -⟩
      exact absurd runs broken

omit [Host] in
theorem splitWords_some {hex : String} {inputs : List String} :
    splitWords hex = some inputs ↔ isHexRuns wordHex (unprefixed hex) = true ∧
      inputs = (wordRuns (unprefixed hex)).map fun word => asciiLower (prefixed word) := by
  have lowered : (fun word : List Char => String.ofList ('0' :: 'x' :: word.map asciiLowerChar)) =
      fun word => asciiLower (prefixed word) := by
    funext word
    rw [asciiLower_prefixed]
    rfl
  unfold splitWords
  rw [lowered]
  by_cases runs : isHexRuns wordHex (unprefixed hex) = true
  · simp [runs, eq_comm]
  · simp [runs]

/-- The three codecs of the public inputs are inverse to one another, up to hex case, the `0x`
and the padding of a public input to a whole word. -/
structure InputsInverse : Prop where
  /-- What is decoded encodes to the text it came from. -/
  encode_decode : ∀ hex inputs, decodePublicInputs hex = .ok inputs →
    encodePublicInputs inputs = .ok (prefixed (unprefixed hex))
  /-- What is encoded decodes to the inputs, each padded to a word. -/
  decode_encode : ∀ inputs hex, encodePublicInputs inputs = .ok hex →
    decodePublicInputs hex = .ok (inputs.map fun input => prefixed (paddedInput input))
  /-- Splitting is decoding in lower case, and fails where decoding does. -/
  split_decode : ∀ hex inputs, splitWords hex = some inputs ↔
    ∃ decoded, decodePublicInputs hex = .ok decoded ∧ inputs = decoded.map asciiLower
  /-- What is split encodes to the text it came from, in lower case. -/
  encode_split : ∀ hex inputs, splitWords hex = some inputs →
    encodePublicInputs inputs = .ok (asciiLower (prefixed (unprefixed hex)))

theorem inputs_inverse : InputsInverse := by
  constructor
  case encode_decode =>
    intro hex inputs decoded
    obtain ⟨runs, rfl⟩ := decodePublicInputs_ok.mp decoded
    obtain ⟨words, size, digits, flat, cut⟩ := isHexRuns_words runs
    rw [cut, encode_words _ size digits, flat]
  case decode_encode =>
    intro inputs hex encoded
    obtain ⟨each, rfl⟩ := encodePublicInputs_ok.mp encoded
    have size : ∀ w ∈ inputs.map paddedInput, w.length = 64 := by
      intro w among
      obtain ⟨input, inside, rfl⟩ := List.mem_map.mp among
      exact length_padStart (each input inside).2.1
    have digits : ∀ w ∈ inputs.map paddedInput, ∀ c ∈ w, isHexDigit c = true := by
      intro w among
      obtain ⟨input, inside, rfl⟩ := List.mem_map.mp among
      exact padStart_digits (each input inside).2.2
    rw [decodePublicInputs_ok, unprefixed_prefixed]
    refine ⟨isHexRuns_iff.mpr ⟨?_, ?_⟩, ?_⟩
    · rw [List.length_flatten]
      have : ((inputs.map paddedInput).map List.length).sum = inputs.length * 64 := by
        rw [List.map_congr_left (g := fun _ => 64) size, List.map_const', List.sum_replicate]
        simp
      unfold wordHex
      omega
    · intro c among
      obtain ⟨w, inside, own⟩ := List.mem_flatten.mp among
      exact digits w inside c own
    · rw [wordRuns_flatten size, List.map_map]
      rfl
  case split_decode =>
    intro hex inputs
    rw [splitWords_some]
    constructor
    · rintro ⟨runs, rfl⟩
      exact ⟨_, decodePublicInputs_ok.mpr ⟨runs, rfl⟩, by rw [List.map_map]; rfl⟩
    · rintro ⟨decoded, read, rfl⟩
      obtain ⟨runs, rfl⟩ := decodePublicInputs_ok.mp read
      exact ⟨runs, by rw [List.map_map]; rfl⟩
  case encode_split =>
    intro hex inputs split
    obtain ⟨runs, rfl⟩ := splitWords_some.mp split
    obtain ⟨words, size, digits, flat, cut⟩ := isHexRuns_words runs
    have lowered := encode_words (words.map (·.map asciiLowerChar))
      (by
        intro w among
        obtain ⟨v, inside, rfl⟩ := List.mem_map.mp among
        rw [List.length_map]
        exact size v inside)
      (by
        intro w among c own
        obtain ⟨v, inside, rfl⟩ := List.mem_map.mp among
        obtain ⟨d, digit, rfl⟩ := List.mem_map.mp own
        exact lower_hex (digits v inside d digit))
    rw [List.map_map] at lowered
    rw [cut, asciiLower_prefixed, ← flat, List.map_flatten, ← lowered]
    congr 1
    apply List.map_congr_left
    intro word _
    exact asciiLower_prefixed word

end

/-! ## Verdicts -/

theorem strictEq_eq {a b : Double} (h : a.strictEq b = true) : a = b := by
  unfold Double.strictEq at h
  rw [Bool.and_eq_true, beq_iff_eq] at h
  exact h.1

/-- A bigint that reads as a small number is that number: a wide word is none. -/
theorem numberOfBigInt_small {n k : Nat} (small : k ≤ 255)
    (h : numberOfBigInt n = .finite k) : n = k := by
  unfold numberOfBigInt at h
  by_cases safe : n < 2 ^ 53
  · have exactly := Double.ofRat_int (n := (n : Int)) (by simpa using safe)
    rw [show ((n : Int) : ℚ) = (n : ℚ) by norm_cast, h] at exactly
    have := Double.finite.inj exactly
    exact_mod_cast this.symm
  · have wide : (2 : ℚ) ^ 53 ≤ n := by exact_mod_cast not_lt.mp safe
    have half := Double.ofRat_half (by linarith [show (1 : ℚ) ≤ 2 ^ 53 by norm_num]) h
    have low : (k : ℚ) ≤ 255 := by exact_mod_cast small
    rw [show (2 : ℚ) ^ 53 = 9007199254740992 by norm_num] at wide
    linarith

section
variable [Host]

theorem assertUint8_ok {value : Double} {name : String} {k : Nat}
    (h : assertUint8 value name = .ok k) : value = .finite k ∧ k ≤ 255 := by
  unfold assertUint8 at h
  cases value with
  | infinite negative => cases h
  | nan => cases h
  | finite q =>
    by_cases whole : q.den = 1
    · have read : (Double.finite q).toInteger = some q.num := if_pos whole
      rw [read] at h
      dsimp only at h
      split at h
      · cases h
      · next range =>
        cases h
        push Not at range
        refine ⟨?_, by omega⟩
        congr 1
        rw [show ((q.num.toNat : Nat) : ℚ) = ((q.num.toNat : Int) : ℚ) by norm_cast,
          Int.toNat_of_nonneg range.1]
        exact (Rat.den_eq_one_iff q).mp whole |>.symm
    · have read : (Double.finite q).toInteger = none := if_neg whole
      rw [read] at h
      cases h

/-- The hex digits of an attestation's words in a text the node answers, which has so many words
before them. -/
def attestationHex (lead : Nat) (text : String) : List Char :=
  (text.toList.drop 2).drop (wordHex * lead)

/-- A verdict that is bound to the request and to the node's reply: the attestation decoded from
the words of the reply is the wallet's, of the requested jurisdiction and of an accepted type. The
whole word of the jurisdiction in the reply is the number requested, and the type's the accepted one
where that is a `uint8`. -/
structure AnswerBound (wallet : String) (jurisdictionId : Double) (accepted : List Double)
    (lead : Nat) (reply : RpcReply) (attestation : ComplianceAttestationLite) : Prop where
  subject : asciiLower attestation.subject = asciiLower wallet
  jurisdiction : attestation.jurisdictionId = jurisdictionId
  type : attestation.proofType ∈ accepted
  words : ∃ text, reply = .result (.text text) ∧
    (text.toList.drop 2).length = wordHex * (lead + attestationWords) ∧
    attestation = decodeAttestation (attestationHex lead text) ∧
    jurisdictionId = .finite (hexNumber (answerWord (attestationHex lead text) 1)) ∧
    ∀ k : Nat, k ≤ 255 → attestation.proofType = .finite k →
      hexNumber (answerWord (attestationHex lead text) 2) = k

/-- What a check asks the Oracle: the selector, the wallet, the jurisdiction and any type. -/
def checkCall (oracle : OracleLite) (selector wallet : String) (jurisdiction : Nat)
    (type : Option Nat) : EthCall :=
  ⟨none, oracle.address, selector ++ String.ofList
    (padStart wordHex ((wallet.toList.drop 2).map asciiLowerChar) ++ uintWord jurisdiction ++
      type.elim [] uintWord), "latest"⟩

/-- A check's call of the wallet in the jurisdiction, whatever the type or of one type. -/
def Checks (oracle : OracleLite) (wallet : String) (jurisdictionId : Double) (call : EthCall) :
    Prop :=
  ∃ jurisdiction : Nat, jurisdictionId = .finite jurisdiction ∧
    (call = checkCall oracle selectorCheckCompliance wallet jurisdiction none ∨
      ∃ type, call = checkCall oracle selectorCheckComplianceByType wallet jurisdiction (some type))

omit [Host] in
theorem readReply_text {reply : RpcReply} {text : String} (h : readReply reply = .ok (some text)) :
    reply = .result (.text text) := by
  cases reply with
  | failed | status | error => cases h
  | result result =>
    cases result with
    | absent => cases h
    | other => cases h
    | text s =>
      unfold readReply at h
      dsimp only at h
      split at h
      · cases h
      · split at h
        · cases h
          rfl
        · cases h

theorem bindingMismatch_none {attestation : ComplianceAttestationLite} {wallet : String}
    {jurisdictionId : Double} {proofType : Option Double}
    (h : bindingMismatch attestation wallet jurisdictionId proofType = none) :
    asciiLower attestation.subject = asciiLower wallet ∧
      attestation.jurisdictionId = jurisdictionId ∧
      ∀ expected ∈ proofType, attestation.proofType = expected := by
  unfold bindingMismatch at h
  by_cases subject : asciiLower attestation.subject ≠ asciiLower wallet
  · rw [if_pos subject] at h
    cases h
  rw [if_neg subject] at h
  by_cases jurisdiction : attestation.jurisdictionId.strictEq jurisdictionId = true
  swap
  · rw [if_pos (by simpa using jurisdiction)] at h
    cases h
  rw [if_neg (by simpa using jurisdiction)] at h
  refine ⟨not_not.mp subject, strictEq_eq jurisdiction, ?_⟩
  intro expected wanted
  cases wanted
  by_cases type : attestation.proofType.strictEq expected = true
  · exact strictEq_eq type
  · dsimp only at h
    rw [if_pos (by simpa using type)] at h
    cases h

omit [Host] in
/-- What binds is bound, for a jurisdiction the client accepts. -/
theorem answerBound_of {lead : Nat} {reply : RpcReply} {text : String}
    {attestation : ComplianceAttestationLite} {wallet : String} {jurisdictionId : Double}
    {jurisdiction : Nat} {accepted : List Double}
    (asked : jurisdictionId = .finite jurisdiction ∧ jurisdiction ≤ 255)
    (replied : readReply reply = .ok (some text))
    (size : (text.toList.drop 2).length = wordHex * (lead + attestationWords))
    (decoded : attestation = decodeAttestation (attestationHex lead text))
    (subject : asciiLower attestation.subject = asciiLower wallet)
    (same : attestation.jurisdictionId = jurisdictionId)
    (type : attestation.proofType ∈ accepted) :
    AnswerBound wallet jurisdictionId accepted lead reply attestation := by
  subst decoded
  refine ⟨subject, same, type, text, readReply_text replied, size, rfl, ?_, ?_⟩
  · have word := numberOfBigInt_small asked.2 (same.trans asked.1)
    rw [word]
    exact asked.1
  · intro k small read
    exact numberOfBigInt_small small read

/-- An attestation the query returns is what the node replied to its call: the wallet's, of the
requested jurisdiction. -/
theorem queryAttestation_ok {oracle : OracleLite} {reply : EthCall → RpcReply}
    {method selector wallet : String} {jurisdictionId : Double} {proofType : Option Nat}
    {onChainValid : Bool} {attestation : ComplianceAttestationLite}
    (h : queryAttestation oracle reply method selector wallet jurisdictionId proofType =
      .ok (some (onChainValid, some attestation))) (accepted : List Double)
    (type : attestation.proofType ∈ accepted) :
    ∃ jurisdiction : Nat, jurisdictionId = .finite jurisdiction ∧
      AnswerBound wallet jurisdictionId accepted 1
        (reply (checkCall oracle selector wallet jurisdiction proofType)) attestation := by
  unfold queryAttestation at h
  obtain ⟨_, -, h⟩ := Signer.bind_ok.mp h
  obtain ⟨jurisdiction, asked, h⟩ := Signer.bind_ok.mp h
  obtain ⟨answer, replied, h⟩ := Signer.bind_ok.mp h
  have asked := assertUint8_ok asked
  cases answer with
  | none => cases h
  | some result =>
    dsimp only at h
    by_cases size : (result.toList.drop 2).length ≠ wordHex * (1 + attestationWords)
    · rw [if_pos size] at h
      cases h
    rw [if_neg size] at h
    have read : (result.toList.drop 2).drop wordHex = attestationHex 1 result := rfl
    rw [read] at h
    generalize decoded : decodeAttestation (attestationHex 1 result) = held at h
    by_cases absent : held.timestamp = 0
    · simp only [if_pos absent] at h
      split at h <;> cases h
    simp only [if_neg absent] at h
    cases mismatch : bindingMismatch held wallet jurisdictionId none with
    | some message =>
      rw [mismatch] at h
      cases h
    | none =>
      rw [mismatch] at h
      cases h
      obtain ⟨subject, same, -⟩ := bindingMismatch_none mismatch
      refine ⟨jurisdiction, asked.1, ?_⟩
      exact answerBound_of asked replied (not_not.mp size) decoded.symm subject same type

theorem checkComplianceByType_bound {oracle : OracleLite} {reply : EthCall → RpcReply}
    {wallet : String} {jurisdictionId proofType : Double} {result : ComplianceCheckResult}
    (h : checkComplianceByType oracle reply wallet jurisdictionId proofType = .ok (some result))
    (valid : result.valid = true) :
    ∃ attestation call, result.attestation = some attestation ∧
      Checks oracle wallet jurisdictionId call ∧
      AnswerBound wallet jurisdictionId [proofType] 1 (reply call) attestation := by
  unfold checkComplianceByType at h
  obtain ⟨type, -, h⟩ := Signer.bind_ok.mp h
  obtain ⟨answer, asked, h⟩ := Signer.bind_ok.mp h
  cases answer with
  | none => cases h
  | some pair =>
    obtain ⟨onChainValid, attestation⟩ := pair
    cases h
    cases attestation with
    | none => simp at valid
    | some attestation =>
      simp only [Option.any_some, Bool.and_eq_true] at valid
      obtain ⟨jurisdiction, number, bound⟩ :=
        queryAttestation_ok asked [proofType] (by simpa using strictEq_eq valid.2)
      exact ⟨attestation, _, rfl, ⟨jurisdiction, number, .inr ⟨type, rfl⟩⟩, bound⟩

omit [Host] in
theorem AnswerBound.mono {wallet : String} {jurisdictionId : Double} {accepted more : List Double}
    {lead : Nat} {reply : RpcReply} {attestation : ComplianceAttestationLite}
    (subset : ∀ type ∈ accepted, type ∈ more)
    (bound : AnswerBound wallet jurisdictionId accepted lead reply attestation) :
    AnswerBound wallet jurisdictionId more lead reply attestation :=
  ⟨bound.subject, bound.jurisdiction, subset _ bound.type, bound.words⟩

/-- The loop over the types returns a valid answer about one of them or none. -/
theorem checkEachType_bound {oracle : OracleLite} {node : Node} {wallet : String}
    {jurisdictionId : Double} {types : List Double} {i : Nat} {result : ComplianceCheckResult}
    (h : checkEachType oracle node wallet jurisdictionId i types = .ok (some result)) :
    ∃ attestation call place, result.attestation = some attestation ∧
      Checks oracle wallet jurisdictionId call ∧
      AnswerBound wallet jurisdictionId types 1 (node place call) attestation := by
  induction types generalizing i with
  | nil => cases h
  | cons type rest ih =>
    have later : ∀ {j}, checkEachType oracle node wallet jurisdictionId j rest =
        .ok (some result) → ∃ attestation call place, result.attestation = some attestation ∧
          Checks oracle wallet jurisdictionId call ∧
          AnswerBound wallet jurisdictionId (type :: rest) 1 (node place call) attestation := by
      intro j answered
      obtain ⟨attestation, call, place, held, checks, bound⟩ := ih answered
      exact ⟨attestation, call, place, held, checks,
        bound.mono fun t among => List.mem_cons_of_mem _ among⟩
    unfold checkEachType at h
    by_cases own : complianceProofTypes.any (·.strictEq type) = true
    · rw [if_pos own] at h
      exact later h
    rw [if_neg own] at h
    obtain ⟨answer, asked, h⟩ := Signer.bind_ok.mp h
    cases answer with
    | none => exact later h
    | some byType =>
      dsimp only at h
      by_cases valid : byType.valid = true
      · rw [if_pos valid] at h
        cases h
        obtain ⟨attestation, call, held, checks, bound⟩ := checkComplianceByType_bound asked valid
        refine ⟨attestation, call, i, held, checks, bound.mono ?_⟩
        intro t among
        rw [List.mem_singleton.mp among]
        exact List.mem_cons_self ..
      · rw [if_neg valid] at h
        exact later h

theorem checkCompliance_bound {oracle : OracleLite} {node : Node} {wallet : String}
    {jurisdictionId : Double} {acceptedProofTypes : Option (List Double)}
    {result : ComplianceCheckResult}
    (h : checkCompliance oracle node wallet jurisdictionId acceptedProofTypes = .ok (some result))
    (valid : result.valid = true) :
    ∃ attestation call place, result.attestation = some attestation ∧
      Checks oracle wallet jurisdictionId call ∧
      AnswerBound wallet jurisdictionId (acceptedProofTypes.getD complianceProofTypes) 1
        (node place call) attestation := by
  unfold checkCompliance at h
  dsimp only at h
  generalize acceptedProofTypes.getD complianceProofTypes = accepted at h ⊢
  by_cases empty : accepted.length = 0
  · rw [if_pos empty] at h
    cases h
  rw [if_neg empty] at h
  obtain ⟨answer, asked, h⟩ := Signer.bind_ok.mp h
  cases answer with
  | none => cases h
  | some pair =>
    obtain ⟨onChainValid, attestation⟩ := pair
    dsimp only at h
    by_cases live : (onChainValid &&
        attestation.any fun a => accepted.any (a.proofType.strictEq ·)) = true
    · rw [if_pos live] at h
      cases h
      cases attestation with
      | none => simp at live
      | some attestation =>
        simp only [Option.any_some, Bool.and_eq_true, List.any_eq_true] at live
        obtain ⟨-, type, among, same⟩ := live
        obtain ⟨jurisdiction, number, bound⟩ :=
          queryAttestation_ok asked accepted (by rw [strictEq_eq same]; exact among)
        exact ⟨attestation, _, 0, rfl, ⟨jurisdiction, number, .inl rfl⟩, bound⟩
    · rw [if_neg live] at h
      obtain ⟨byType, each, h⟩ := Signer.bind_ok.mp h
      cases byType with
      | none =>
        cases h
        cases valid
      | some byType =>
        cases h
        exact checkEachType_bound each

theorem verifyProof_bound {oracle : OracleLite} {reply : EthCall → RpcReply} {wallet : String}
    {proofType jurisdictionId : Double} {proof publicInputs providerSetHash : String}
    {result : ProofVerificationResult}
    (h : verifyProof oracle reply wallet proofType proof publicInputs providerSetHash
      jurisdictionId = .ok result) (valid : result.valid = true) :
    ∃ attestation jurisdiction type data, result.attestation = some attestation ∧
      jurisdictionId = .finite (jurisdiction : Nat) ∧ proofType = .finite (type : Nat) ∧
      encodeSubmitCompliance jurisdiction type proof publicInputs providerSetHash = .ok data ∧
      AnswerBound wallet jurisdictionId [proofType] 0
        (reply ⟨some wallet, oracle.address, data, oracle.verifyBlockTag⟩) attestation := by
  unfold verifyProof at h
  obtain ⟨_, -, h⟩ := Signer.bind_ok.mp h
  obtain ⟨type, typed_as, h⟩ := Signer.bind_ok.mp h
  obtain ⟨jurisdiction, asked, h⟩ := Signer.bind_ok.mp h
  dsimp only at h
  cases encoded : encodeSubmitCompliance jurisdiction type proof publicInputs providerSetHash with
  | error message =>
    rw [encoded] at h
    cases h
    cases valid
  | ok data =>
    rw [encoded] at h
    dsimp only at h
    cases replied : readReply (reply ⟨some wallet, oracle.address, data, oracle.verifyBlockTag⟩) with
    | error message =>
      rw [replied] at h
      cases h
      cases valid
    | ok answer =>
      rw [replied] at h
      cases answer with
      | none =>
        cases h
        cases valid
      | some text =>
        dsimp only at h
        by_cases size : (text.toList.drop 2).length ≠ wordHex * attestationWords
        · rw [if_pos size] at h
          cases h
          cases valid
        rw [if_neg size] at h
        cases mismatch : bindingMismatch (decodeAttestation (text.toList.drop 2)) wallet
            jurisdictionId (some proofType) with
        | some message =>
          rw [mismatch] at h
          cases h
          cases valid
        | none =>
          rw [mismatch] at h
          cases h
          obtain ⟨subject, same, typed⟩ := bindingMismatch_none mismatch
          have asked := assertUint8_ok asked
          have size := not_not.mp size
          have number := (assertUint8_ok typed_as).1
          refine ⟨_, jurisdiction, type, data, rfl, asked.1, number, encoded, ?_⟩
          exact answerBound_of asked replied size rfl subject same
            (by simpa using typed proofType rfl)

/-- The calldata of any arguments, with proof and inputs no longer than a string can be, decodes
by the contract ABI to exactly them, and is refused exactly of malformed hex, inputs of no whole
words or a hash of another size; the public inputs' codecs are inverse to one another; and of
every answer, a check is valid only where its attestation is that of the node's reply to a call of
the check, and is bound to the request. -/
theorem oracle_exact :
    (∀ jurisdictionId proofType proof publicInputs providerSetHash, jurisdictionId < 256 →
      proofType < 256 → proof.length < 2 ^ 53 → publicInputs.length < 2 ^ 53 →
      ((∃ data, encodeSubmitCompliance jurisdictionId proofType proof publicInputs
          providerSetHash = .ok data) ↔ SubmitTexts proof publicInputs providerSetHash) ∧
      ∀ data, encodeSubmitCompliance jurisdictionId proofType proof publicInputs
          providerSetHash = .ok data →
        ∃ body, getBytes data = some (submitSelector ++ body) ∧
          decodeSubmitArguments body = some ⟨jurisdictionId, proofType, spelledBytes proof,
            spelledBytes publicInputs, spelledBytes providerSetHash⟩) ∧
    InputsInverse ∧
    (∀ oracle node wallet jurisdictionId acceptedProofTypes result,
      checkCompliance oracle node wallet jurisdictionId acceptedProofTypes = .ok (some result) →
      result.valid = true → ∃ attestation call place, result.attestation = some attestation ∧
        Checks oracle wallet jurisdictionId call ∧
        AnswerBound wallet jurisdictionId (acceptedProofTypes.getD complianceProofTypes) 1
          (node place call) attestation) ∧
    (∀ oracle reply wallet jurisdictionId proofType result,
      checkComplianceByType oracle reply wallet jurisdictionId proofType = .ok (some result) →
      result.valid = true → ∃ attestation call, result.attestation = some attestation ∧
        Checks oracle wallet jurisdictionId call ∧
        AnswerBound wallet jurisdictionId [proofType] 1 (reply call) attestation) ∧
    ∀ oracle reply wallet proofType proof publicInputs providerSetHash jurisdictionId result,
      verifyProof oracle reply wallet proofType proof publicInputs providerSetHash
        jurisdictionId = .ok result →
      result.valid = true → ∃ attestation jurisdiction type data,
        result.attestation = some attestation ∧ jurisdictionId = .finite (jurisdiction : Nat) ∧
        proofType = .finite (type : Nat) ∧
        encodeSubmitCompliance jurisdiction type proof publicInputs providerSetHash = .ok data ∧
        AnswerBound wallet jurisdictionId [proofType] 0
          (reply ⟨some wallet, oracle.address, data, oracle.verifyBlockTag⟩) attestation := by
  refine ⟨?_, inputs_inverse, ?_, ?_, ?_⟩
  · intro jurisdictionId proofType proof publicInputs providerSetHash jurisdiction type
      proof_size inputs_size
    have accepted : ∀ data, encodeSubmitCompliance jurisdictionId proofType proof publicInputs
        providerSetHash = .ok data → SubmitTexts proof publicInputs providerSetHash := by
      intro data encoded
      by_contra broken
      obtain ⟨message, thrown⟩ := encode_refuses broken jurisdictionId proofType
      rw [thrown] at encoded
      cases encoded
    constructor
    · exact ⟨fun ⟨data, encoded⟩ => accepted data encoded,
        fun texts => ⟨_, encode_texts texts jurisdictionId proofType⟩⟩
    · intro data encoded
      obtain ⟨own, body, again, read, decoded⟩ :=
        encode_decodes (accepted data encoded) jurisdiction type proof_size inputs_size
      rw [encoded] at again
      cases again
      exact ⟨body, read, decoded⟩
  · intro oracle node wallet jurisdictionId acceptedProofTypes result
    exact checkCompliance_bound
  · intro oracle reply wallet jurisdictionId proofType result
    exact checkComplianceByType_bound
  · intro oracle reply wallet proofType proof publicInputs providerSetHash jurisdictionId result
    exact verifyProof_bound

end

/-! ## A sample -/

def zeroHash : String := "0x0000000000000000000000000000000000000000000000000000000000000000"

theorem sampleTexts : SubmitTexts "0x01ff" "" zeroHash :=
  ⟨by decide, by decide, by decide, by decide⟩

/-- A two-byte proof without public inputs, encoded and read back. -/
theorem oracle_exact_sample : ∃ data body,
    encodeSubmitCompliance 0 1 "0x01ff" "" zeroHash = .ok data ∧
      getBytes data = some (submitSelector ++ body) ∧
      decodeSubmitArguments body = some ⟨0, 1, [1, 255], [], List.replicate 32 0⟩ := by
  have exactly := (@oracle_exact Signer.asciiHost).1 0 1 "0x01ff" "" zeroHash (by decide)
    (by decide) (by decide) (by decide)
  obtain ⟨data, encoded⟩ := exactly.1.mpr sampleTexts
  obtain ⟨body, read, decoded⟩ := exactly.2 data encoded
  have spelled : spelledBytes "0x01ff" = [1, 255] ∧ spelledBytes "" = [] ∧
      spelledBytes zeroHash = List.replicate 32 0 := by
    decide
  rw [spelled.1, spelled.2.1, spelled.2.2] at decoded
  exact ⟨data, body, encoded, read, decoded⟩

/-- A public input shorter than a word comes back padded, another text whatever the case. -/
theorem short_input_padded :
    encodePublicInputs ["0x1"] = .ok (prefixed (List.replicate 63 '0' ++ ['1'])) ∧
      @decodePublicInputs Signer.asciiHost (prefixed (List.replicate 63 '0' ++ ['1'])) =
        .ok [prefixed (List.replicate 63 '0' ++ ['1'])] ∧
      asciiLower (prefixed (List.replicate 63 '0' ++ ['1'])) ≠ asciiLower "0x1" := by
  refine ⟨by decide, by decide, by decide⟩

end XochiSdk.Sdk
