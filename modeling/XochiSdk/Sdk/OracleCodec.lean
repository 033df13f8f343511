import XochiSdk.Library.Abi
import XochiSdk.Sdk.OracleLite
import Mathlib.Data.Nat.Digits.Lemmas

/-!
# The calldata and public inputs, read back

Hex runs and the bytes they spell, the calldata of `submitCompliance` as the contract ABI reads it,
and the words of the public inputs.
-/

namespace XochiSdk.Sdk

open XochiSdk.Js Library

/-! ## Hex runs -/

theorem isHexRuns_iff {n : Nat} {cs : List Char} :
    isHexRuns n cs = true ↔ cs.length % n = 0 ∧ ∀ c ∈ cs, isHexDigit c = true := by
  simp [isHexRuns]

theorem zeros_hex {n : Nat} : ∀ c ∈ List.replicate n '0', isHexDigit c = true := by
  intro c among
  rw [List.eq_of_mem_replicate among]
  decide

theorem pairBytes_append {as : List Char} (even : as.length % 2 = 0) (bs : List Char) :
    pairBytes (as ++ bs) = pairBytes as ++ pairBytes bs := by
  induction as using pairBytes.induct with
  | case1 a b rest ih =>
    simp only [List.length_cons] at even
    simp only [List.cons_append, pairBytes]
    rw [ih (by omega)]
  | case2 cs short =>
    cases cs with
    | nil => rfl
    | cons a cs =>
      cases cs with
      | nil => simp at even
      | cons b rest => exact absurd rfl (short a b rest)

theorem pairBytes_zeros (n : Nat) : pairBytes (List.replicate (2 * n) '0') = List.replicate n 0 := by
  induction n with
  | zero => rfl
  | succ n ih =>
    rw [show 2 * (n + 1) = 2 * n + 2 by omega, List.replicate_succ, List.replicate_succ, pairBytes,
      ih]
    rfl

theorem readDigits_zeros (n : Nat) (cs : List Char) :
    readDigits 16 (List.replicate n '0' ++ cs) = readDigits 16 cs := by
  induction n with
  | zero => rfl
  | succ n ih => exact ih

theorem hexText_digits (value : Nat) : ∀ c ∈ hexText value, isHexDigit c = true := by
  unfold hexText
  split
  · exact List.all_eq_true.mp (by decide)
  · intro c among
    obtain ⟨d, digit, rfl⟩ := List.mem_map.mp among
    exact (hexDigit_spells (Nat.digits_lt_base (by norm_num) (List.mem_reverse.mp digit))).1

theorem readDigits_digits (ds : List Nat) (small : ∀ d ∈ ds, d < 16) :
    readDigits 16 (ds.reverse.map hexDigit) = Nat.ofDigits 16 ds := by
  induction ds with
  | nil => rfl
  | cons d ds ih =>
    have own := (hexDigit_spells (small d (by simp))).2
    have rest := ih (fun e among => small e (by simp [among]))
    unfold readDigits at rest ⊢
    rw [List.reverse_cons, List.map_append, List.foldl_append, rest, Nat.ofDigits_cons]
    simp only [List.map_cons, List.map_nil, List.foldl_cons, List.foldl_nil, own]
    ring

theorem readDigits_hexText (value : Nat) : readDigits 16 (hexText value) = value := by
  unfold hexText
  split
  · next zero => rw [zero]; rfl
  · rw [readDigits_digits _ (fun d => Nat.digits_lt_base (by norm_num)), Nat.ofDigits_digits]

theorem length_hexText {value : Nat} (small : value < 2 ^ 256) : (hexText value).length ≤ 64 := by
  unfold hexText
  split
  · simp
  · rw [List.length_map, List.length_reverse]
    rw [Nat.digits_length_le_iff (by norm_num)]
    exact lt_of_lt_of_eq small (by norm_num)

theorem length_padStart {width : Nat} {cs : List Char} (fits : cs.length ≤ width) :
    (padStart width cs).length = width := by
  unfold padStart
  rw [List.length_append, List.length_replicate]
  omega

theorem padStart_digits {width : Nat} {cs : List Char} (digits : ∀ c ∈ cs, isHexDigit c = true) :
    ∀ c ∈ padStart width cs, isHexDigit c = true := by
  intro c among
  rcases List.mem_append.mp among with zero | own
  · exact zeros_hex c zero
  · exact digits c own

theorem length_uintWord {value : Nat} (small : value < 2 ^ 256) :
    (uintWord value).length = 64 := length_padStart (length_hexText small)

theorem uintWord_digits (value : Nat) : ∀ c ∈ uintWord value, isHexDigit c = true :=
  padStart_digits (hexText_digits value)

/-- A word of hex digits spells the 32 bytes of its number. -/
theorem pairBytes_uintWord {value : Nat} (small : value < 2 ^ 256) :
    pairBytes (uintWord value) = toBytes 32 value := by
  have length := length_uintWord small
  have count := @length_pairBytes (uintWord value) (by omega)
  have number : ofBytes (pairBytes (uintWord value)) = value := by
    rw [← readDigits_pairBytes _ (by omega) (uintWord_digits value)]
    unfold uintWord padStart
    rw [readDigits_zeros, readDigits_hexText]
  have read := toBytes_ofBytes (pairBytes (uintWord value))
  rw [number, show (pairBytes (uintWord value)).length = 32 by omega] at read
  exact read.symm

theorem pairBytes_word {value : Nat} (small : value < 2 ^ 256) (rest : List Char) :
    pairBytes (uintWord value ++ rest) = toBytes 32 value ++ pairBytes rest := by
  rw [pairBytes_append (by rw [length_uintWord small]), pairBytes_uintWord small]

/-! ## Calldata -/

/-- The bytes a hex text spells, with or without its `0x`. -/
def spelledBytes (value : String) : List UInt8 := pairBytes (unprefixed value)

/-- The arguments of `submitCompliance`. -/
structure SubmitArguments where
  jurisdictionId : Nat
  proofType : Nat
  proof : List UInt8
  publicInputs : List UInt8
  providerSetHash : List UInt8

/-- `(uint8, uint8, bytes, bytes, bytes32)`, by the contract ABI. -/
def decodeSubmitArguments (data : List UInt8) : Option SubmitArguments := do
  let jurisdictionId ← Abi.uintAt 8 data 0
  let proofType ← Abi.uintAt 8 data 32
  let proof ← Abi.bytesAt data 64
  let publicInputs ← Abi.bytesAt data 96
  let providerSetHash ← Abi.wordAt data 128
  return ⟨jurisdictionId, proofType, proof, publicInputs, providerSetHash⟩

/-- The layout the calldata has after its selector. -/
def submitLayout (jurisdictionId proofType : Nat) (proof publicInputs hash : List UInt8) :
    List UInt8 :=
  toBytes 32 jurisdictionId ++ toBytes 32 proofType ++ toBytes 32 160 ++
    toBytes 32 (192 + (proof.length + Abi.gap proof.length)) ++ hash ++
    toBytes 32 proof.length ++ (proof ++ List.replicate (Abi.gap proof.length) 0) ++
    toBytes 32 publicInputs.length ++ publicInputs

/-- The layout is read back member by member. -/
theorem decode_submitLayout {jurisdictionId proofType : Nat} {proof publicInputs hash : List UInt8}
    (jurisdiction : jurisdictionId < 256) (type : proofType < 256)
    (proof_small : proof.length < 2 ^ 200) (inputs_small : publicInputs.length < 2 ^ 200)
    (aligned : publicInputs.length % 32 = 0) (hash_length : hash.length = 32) :
    decodeSubmitArguments (submitLayout jurisdictionId proofType proof publicInputs hash) =
      some ⟨jurisdictionId, proofType, proof, publicInputs, hash⟩ := by
  have proof_gap : Abi.gap proof.length < 32 := by
    unfold Abi.gap
    omega
  have inputs_gap : Abi.gap publicInputs.length = 0 := by
    unfold Abi.gap
    omega
  have wide : (2 : Nat) ^ 200 + 300 < 2 ^ 256 := by norm_num
  generalize laid : submitLayout jurisdictionId proofType proof publicInputs hash = data
  unfold submitLayout at laid
  have first : Abi.uintAt 8 data 0 = some jurisdictionId := by
    rw [← laid]
    have := fun after => Abi.uintAt_middle [] after (show _ = 0 from rfl)
      (by norm_num) (show jurisdictionId < 2 ^ 8 from jurisdiction)
    simp only [List.append_assoc, List.nil_append] at this ⊢
    exact this _
  have second : Abi.uintAt 8 data 32 = some proofType := by
    rw [← laid]
    have := fun after => Abi.uintAt_middle (toBytes 32 jurisdictionId) after
      (length_toBytes _ _) (by norm_num) (show proofType < 2 ^ 8 from type)
    simp only [List.append_assoc] at this ⊢
    exact this _
  have proof_head : Abi.numberAt data 64 = some 160 := by
    rw [← laid]
    have := fun after => Abi.numberAt_middle
      (toBytes 32 jurisdictionId ++ toBytes 32 proofType) after
      (show _ = 64 by simp) (show 160 < 2 ^ 256 by norm_num)
    simp only [List.append_assoc] at this ⊢
    exact this _
  have inputs_head : Abi.numberAt data 96 =
      some (192 + (proof.length + Abi.gap proof.length)) := by
    rw [← laid]
    have := fun after => Abi.numberAt_middle
      (toBytes 32 jurisdictionId ++ toBytes 32 proofType ++ toBytes 32 160) after
      (show _ = 96 by simp)
      (show 192 + (proof.length + Abi.gap proof.length) < 2 ^ 256 by omega)
    simp only [List.append_assoc] at this ⊢
    exact this _
  have third : Abi.bytesAt data 64 = some proof := by
    refine Abi.bytesAt_middle
      (toBytes 32 jurisdictionId ++ toBytes 32 proofType ++ toBytes 32 160 ++
        toBytes 32 (192 + (proof.length + Abi.gap proof.length)) ++ hash) proof
      (toBytes 32 publicInputs.length ++ publicInputs) proof_head (by simp [hash_length])
      (by omega) ?_
    rw [← laid]
    simp only [List.append_assoc]
  have fourth : Abi.bytesAt data 96 = some publicInputs := by
    refine Abi.bytesAt_middle
      (toBytes 32 jurisdictionId ++ toBytes 32 proofType ++ toBytes 32 160 ++
        toBytes 32 (192 + (proof.length + Abi.gap proof.length)) ++ hash ++
        toBytes 32 proof.length ++ (proof ++ List.replicate (Abi.gap proof.length) 0))
      publicInputs [] inputs_head ?_ (by omega) ?_
    · simp [hash_length]
      omega
    · rw [← laid, inputs_gap]
      simp only [List.append_assoc, List.replicate_zero, List.append_nil]
  have last : Abi.wordAt data 128 = some hash := by
    rw [← laid]
    have := fun after => Abi.wordAt_middle
      (toBytes 32 jurisdictionId ++ toBytes 32 proofType ++ toBytes 32 160 ++
        toBytes 32 (192 + (proof.length + Abi.gap proof.length)))
      hash after (show _ = 128 by simp) hash_length
    simp only [List.append_assoc] at this ⊢
    exact this _
  unfold decodeSubmitArguments
  simp only [first, second, third, fourth, last, Option.bind_eq_bind, Option.bind_some]
  rfl

theorem stripHex_hex {value : String} (shaped : isHexRuns 2 (unprefixed value) = true)
    (name : String) : stripHex value name = .ok (unprefixed value) := if_pos shaped

theorem stripHex_other {value : String} (broken : ¬ isHexRuns 2 (unprefixed value) = true)
    (name : String) : ∃ message, stripHex value name = .error message := ⟨_, if_neg broken⟩

theorem length_unprefixed (value : String) : (unprefixed value).length ≤ value.length := by
  rw [← String.length_toList]
  unfold unprefixed
  split
  · next rest shape =>
    rw [shape, List.length_cons, List.length_cons]
    omega
  · exact le_refl _

/-- What the encoder asks of its texts: hex of whole bytes, the inputs of whole words and the hash
of one. -/
structure SubmitTexts (proof publicInputs providerSetHash : String) : Prop where
  proof : isHexRuns 2 (unprefixed proof) = true
  inputs : isHexRuns wordHex (unprefixed publicInputs) = true
  hash : isHexRuns wordHex (unprefixed providerSetHash) = true
  hash_length : (unprefixed providerSetHash).length = wordHex

theorem isHexRuns_two {cs : List Char} (words : isHexRuns wordHex cs = true) :
    isHexRuns 2 cs = true := by
  obtain ⟨aligned, digits⟩ := isHexRuns_iff.mp words
  refine isHexRuns_iff.mpr ⟨?_, digits⟩
  unfold wordHex at aligned
  omega

/-- The text the encoder builds of texts of the right shape. -/
theorem encode_texts {proof publicInputs providerSetHash : String}
    (texts : SubmitTexts proof publicInputs providerSetHash) (jurisdictionId proofType : Nat) :
    encodeSubmitCompliance jurisdictionId proofType proof publicInputs providerSetHash =
      .ok (String.ofList (selectorSubmitCompliance.toList ++
        (uintWord jurisdictionId ++ uintWord proofType ++ uintWord 160 ++
          uintWord (192 + (padEnd (((unprefixed proof).length + 63) / 64 * 64)
            (unprefixed proof)).length / 2) ++ unprefixed providerSetHash) ++
        (uintWord ((unprefixed proof).length / 2) ++
          padEnd (((unprefixed proof).length + 63) / 64 * 64) (unprefixed proof) ++
          uintWord ((unprefixed publicInputs).length / 2) ++ unprefixed publicInputs))) := by
  have aligned := (isHexRuns_iff.mp texts.inputs).1
  unfold encodeSubmitCompliance
  simp only [stripHex_hex texts.proof, stripHex_hex (isHexRuns_two texts.inputs),
    stripHex_hex (isHexRuns_two texts.hash)]
  change (if (unprefixed publicInputs).length % wordHex ≠ 0 then _ else _) = _
  rw [if_neg (not_not.mpr aligned)]
  change (if (unprefixed providerSetHash).length ≠ wordHex then _ else _) = _
  rw [if_neg (not_not.mpr texts.hash_length)]
  rfl

/-- Other texts it refuses. -/
theorem encode_refuses {proof publicInputs providerSetHash : String}
    (broken : ¬ SubmitTexts proof publicInputs providerSetHash) (jurisdictionId proofType : Nat) :
    ∃ message, encodeSubmitCompliance jurisdictionId proofType proof publicInputs
      providerSetHash = .error message := by
  unfold encodeSubmitCompliance
  by_cases proofHex : isHexRuns 2 (unprefixed proof) = true
  swap
  · obtain ⟨message, thrown⟩ := stripHex_other proofHex "proof"
    exact ⟨message, by rw [thrown]; rfl⟩
  rw [stripHex_hex proofHex]
  by_cases inputsHex : isHexRuns 2 (unprefixed publicInputs) = true
  swap
  · obtain ⟨message, thrown⟩ := stripHex_other inputsHex "publicInputs"
    refine ⟨message, ?_⟩
    change (stripHex publicInputs "publicInputs" >>= _) = _
    rw [thrown]
    rfl
  change ∃ message, (stripHex publicInputs "publicInputs" >>= _) = _
  rw [stripHex_hex inputsHex]
  by_cases aligned : (unprefixed publicInputs).length % wordHex = 0
  swap
  · exact ⟨_, if_pos aligned⟩
  change ∃ message, (if (unprefixed publicInputs).length % wordHex ≠ 0 then _ else _) = _
  rw [if_neg (not_not.mpr aligned)]
  by_cases hashHex : isHexRuns 2 (unprefixed providerSetHash) = true
  swap
  · obtain ⟨message, thrown⟩ := stripHex_other hashHex "providerSetHash"
    exact ⟨message, by rw [thrown]; rfl⟩
  rw [stripHex_hex hashHex]
  by_cases size : (unprefixed providerSetHash).length = wordHex
  swap
  · exact ⟨_, if_pos size⟩
  have digits := (isHexRuns_iff.mp inputsHex).2
  have hashDigits := (isHexRuns_iff.mp hashHex).2
  exact absurd ⟨proofHex, isHexRuns_iff.mpr ⟨aligned, digits⟩,
    isHexRuns_iff.mpr ⟨by rw [size]; rfl, hashDigits⟩, size⟩ broken

/-- `submitCompliance`'s selector. -/
def submitSelector : List UInt8 := [0xf3, 0x3b, 0xc6, 0x2b]

/-- The bytes of the calldata: the selector and the ABI layout of the arguments' bytes. -/
theorem encode_bytes {proof publicInputs providerSetHash : String}
    (texts : SubmitTexts proof publicInputs providerSetHash) {jurisdictionId proofType : Nat}
    (jurisdiction : jurisdictionId < 256) (type : proofType < 256)
    (proof_size : proof.length < 2 ^ 53) (inputs_size : publicInputs.length < 2 ^ 53) {data : String}
    (encoded : encodeSubmitCompliance jurisdictionId proofType proof publicInputs
      providerSetHash = .ok data) :
    getBytes data = some (submitSelector ++ submitLayout jurisdictionId proofType
      (spelledBytes proof) (spelledBytes publicInputs) (spelledBytes providerSetHash)) := by
  obtain ⟨proofEven, proofDigits⟩ := isHexRuns_iff.mp texts.proof
  obtain ⟨inputsAligned, inputsDigits⟩ := isHexRuns_iff.mp texts.inputs
  obtain ⟨-, hashDigits⟩ := isHexRuns_iff.mp texts.hash
  have proofLe := length_unprefixed proof
  have inputsLe := length_unprefixed publicInputs
  rw [encode_texts texts] at encoded
  cases encoded
  have inputsEven : (unprefixed publicInputs).length % 2 = 0 := by
    unfold wordHex at inputsAligned
    omega
  have hashLength : (unprefixed providerSetHash).length = 64 := texts.hash_length
  have proofCount := length_pairBytes proofEven
  have inputsCount := length_pairBytes inputsEven
  generalize hP : unprefixed proof = P at *
  generalize hI : unprefixed publicInputs = I at *
  generalize hH : unprefixed providerSetHash = H at *
  have gap_eq : (P.length + 63) / 64 * 64 - P.length = 2 * Abi.gap (pairBytes P).length := by
    unfold Abi.gap
    omega
  have padded : padEnd ((P.length + 63) / 64 * 64) P =
      P ++ List.replicate (2 * Abi.gap (pairBytes P).length) '0' := by
    unfold padEnd
    rw [gap_eq]
  have gap_small : Abi.gap (pairBytes P).length < 32 := by
    unfold Abi.gap
    omega
  have small : (2 : Nat) ^ 53 + 300 < 2 ^ 256 := by norm_num
  rw [padded]
  have half : (P ++ List.replicate (2 * Abi.gap (pairBytes P).length) '0').length / 2 =
      (pairBytes P).length + Abi.gap (pairBytes P).length := by
    rw [List.length_append, List.length_replicate]
    omega
  rw [half, show P.length / 2 = (pairBytes P).length by omega,
    show I.length / 2 = (pairBytes I).length by omega]
  unfold spelledBytes
  rw [hP, hI, hH]
  have shape : ∀ rest : List Char,
      (String.ofList (selectorSubmitCompliance.toList ++ rest)).toList =
        '0' :: 'x' :: ("f33bc62b".toList ++ rest) := by
    intro rest
    rw [String.toList_ofList]
    rfl
  have first : jurisdictionId < 2 ^ 256 := by omega
  have second : proofType < 2 ^ 256 := by omega
  have third : (160 : Nat) < 2 ^ 256 := by norm_num
  have fourth : 192 + ((pairBytes P).length + Abi.gap (pairBytes P).length) < 2 ^ 256 := by omega
  have fifth : (pairBytes P).length < 2 ^ 256 := by omega
  have sixth : (pairBytes I).length < 2 ^ 256 := by omega
  have zeros_even : ∀ n, (List.replicate (2 * n) '0').length % 2 = 0 := by
    intro n
    rw [List.length_replicate]
    omega
  rw [List.append_assoc, getBytes_of (shape _)]
  · simp only [List.append_assoc]
    rw [pairBytes_append (by decide), pairBytes_word first, pairBytes_word second,
      pairBytes_word third, pairBytes_word fourth, pairBytes_append (by omega),
      pairBytes_word fifth, pairBytes_append proofEven, pairBytes_append (zeros_even _),
      pairBytes_word sixth, pairBytes_zeros]
    unfold submitLayout
    simp only [List.append_assoc]
    rfl
  · simp only [List.length_append, length_uintWord first, length_uintWord second,
      length_uintWord third, length_uintWord fourth, length_uintWord fifth, length_uintWord sixth,
      List.length_replicate, hashLength]
    have : ("f33bc62b".toList).length = 8 := by decide
    omega
  · intro c among
    simp only [List.mem_append] at among
    have letters : ∀ c ∈ "f33bc62b".toList, isHexDigit c = true :=
      List.all_eq_true.mp (by decide)
    rcases among with h | ((((h | h) | h) | h) | h) | ((h | h | h) | h) | h
    · exact letters c h
    · exact uintWord_digits _ c h
    · exact uintWord_digits _ c h
    · exact uintWord_digits _ c h
    · exact uintWord_digits _ c h
    · exact hashDigits c h
    · exact uintWord_digits _ c h
    · exact proofDigits c h
    · exact zeros_hex c h
    · exact uintWord_digits _ c h
    · exact inputsDigits c h

/-- The calldata decodes to exactly the arguments. -/
theorem encode_decodes {proof publicInputs providerSetHash : String}
    (texts : SubmitTexts proof publicInputs providerSetHash) {jurisdictionId proofType : Nat}
    (jurisdiction : jurisdictionId < 256) (type : proofType < 256)
    (proof_size : proof.length < 2 ^ 53) (inputs_size : publicInputs.length < 2 ^ 53) :
    ∃ data body, encodeSubmitCompliance jurisdictionId proofType proof publicInputs
        providerSetHash = .ok data ∧ getBytes data = some (submitSelector ++ body) ∧
      decodeSubmitArguments body = some ⟨jurisdictionId, proofType, spelledBytes proof,
        spelledBytes publicInputs, spelledBytes providerSetHash⟩ := by
  have encoded := encode_texts texts jurisdictionId proofType
  refine ⟨_, _, encoded, encode_bytes texts jurisdiction type proof_size inputs_size encoded, ?_⟩
  obtain ⟨proofEven, -⟩ := isHexRuns_iff.mp texts.proof
  obtain ⟨inputsAligned, -⟩ := isHexRuns_iff.mp texts.inputs
  have hashLength := texts.hash_length
  unfold wordHex at inputsAligned hashLength
  have proofCount := length_pairBytes proofEven
  have inputsCount := length_pairBytes (show (unprefixed publicInputs).length % 2 = 0 by omega)
  have hashCount := length_pairBytes (show (unprefixed providerSetHash).length % 2 = 0 by omega)
  have proofLe := length_unprefixed proof
  have inputsLe := length_unprefixed publicInputs
  have small : (2 : Nat) ^ 53 < 2 ^ 200 := by norm_num
  apply decode_submitLayout jurisdiction type <;> unfold spelledBytes <;> omega

end XochiSdk.Sdk
