import XochiSdk.Sdk.Inputs.Accepted
import XochiSdk.Signer.IntentVerify
import Mathlib.Data.List.GetD

/-!
# The risk-score witnesses against the circuit

What the circuit asserts of a risk-score witness, and when the two builders return one it accepts:
everything is checked but that the claim's bounds are natural numbers.
-/

namespace XochiSdk.Sdk.Inputs

open XochiSdk.Js Signer

/-- The claim of a witness: bounds in range, and not true of every score. -/
def BoundsMirror (r : RiskInputs) : Prop :=
  (r.proofType = "1" ∧ r.boundUpper = (0 : Nat) ∧ ∃ n : Nat, r.boundLower = n ∧ 0 < n ∧
    (r.direction = "1" ∧ n < maxRiskScoreBps ∨ r.direction = "2" ∧ n ≤ maxRiskScoreBps)) ∨
  (r.proofType = "2" ∧ r.direction = "0" ∧ ∃ lower upper : Nat,
    r.boundLower = lower ∧ r.boundUpper = upper ∧ lower < upper ∧ upper ≤ maxRiskScoreBps ∧
    ¬(lower = 0 ∧ upper = maxRiskScoreBps))

/-- The weighted score of a witness. -/
def RiskInputs.scoreBps (r : RiskInputs) : Double :=
  computeScoreBps ⟨r.signals, r.weights, r.weightSum, r.providerIds, r.numProviders⟩

/-- The score of a witness satisfies its claim. -/
def ClaimHolds (r : RiskInputs) : Prop :=
  (r.direction = "1" → r.boundLower.lt r.scoreBps = true) ∧
  (r.direction = "2" → r.scoreBps.lt r.boundLower = true) ∧
  (r.direction = "0" → r.boundLower.le r.scoreBps = true ∧ r.scoreBps.le r.boundUpper = true)

/-- The providers of a witness: the active ones first, each with a weight and an id, and zero
padding after them. -/
structure ProvidersMirror (r : RiskInputs) : Prop where
  signals_length : r.signals.length = 8
  weights_length : r.weights.length = 8
  ids_length : r.providerIds.length = 8
  count : 0 < r.numProviders ∧ r.numProviders ≤ 8
  signal : ∀ i < 8, Within 100 (r.signals.getD i .nan)
  weight : ∀ i < 8, Within maxWeight (r.weights.getD i .nan)
  active : ∀ i < r.numProviders,
    Double.lt (0 : Nat) (r.weights.getD i .nan) = true ∧
      r.providerIds.getD i "undefined" ≠ "0" ∧ r.providerIds.getD i "undefined" ≠ ""
  padding : ∀ i < 8, r.numProviders ≤ i →
    r.signals.getD i .nan = (0 : Nat) ∧ r.weights.getD i .nan = (0 : Nat) ∧
      r.providerIds.getD i "undefined" = "0"
  weight_sum : r.weightSum = sumOf (r.weights.take r.numProviders) ∧
    r.weightSum.le (0 : Nat) = false

/-- What the circuit asserts of a risk-score witness, and the daemon of what it signs. -/
structure RiskMirrors [Host] (numberOf : String → Double) (r : RiskInputs) : Prop where
  providers : ProvidersMirror r
  signable : parseSignals true r.signals r.weights = .ok ()
  bounds : BoundsMirror r
  holds : ClaimHolds r
  dated : ∃ t : Nat, minTimestamp ≤ t ∧ t < maxTimestamp ∧ numberOf r.timestamp = t
  submitter : isSubmitter r.submitter = true ∧ bigInt r.submitter ≠ some 0

/-- The bounds of a claim are natural numbers. -/
def RiskClaim.Natural : RiskClaim → Prop
  | .threshold bound _ => ∃ n : Nat, bound = n
  | .range lowerBound upperBound => (∃ n : Nat, lowerBound = n) ∧ ∃ n : Nat, upperBound = n

/-- What follows a step that returns nothing. -/
theorem exists_unit {p : Unit → Prop} : (∃ a, p a) ↔ p () :=
  ⟨fun ⟨_, h⟩ => h, fun h => ⟨(), h⟩⟩

theorem length_padTo {α : Type} {width : Nat} {filler : α} {values : List α}
    (fits : values.length ≤ width) : (padTo width filler values).length = width := by
  simp only [padTo, List.length_append, List.length_replicate]
  omega

theorem take_padTo {α : Type} (width : Nat) (filler : α) (values : List α) :
    (padTo width filler values).take values.length = values := by
  rw [padTo, List.take_left]

theorem getD_padTo_left {α : Type} {width i : Nat} {filler missing : α} {values : List α}
    (inside : i < values.length) :
    (padTo width filler values).getD i missing = values.getD i missing := by
  rw [padTo, List.getD_append _ _ _ _ inside]

theorem getD_padTo_right {α : Type} {width i : Nat} {filler missing : α} {values : List α}
    (outside : values.length ≤ i) (bounded : i < width) :
    (padTo width filler values).getD i missing = filler := by
  rw [padTo, List.getD_append_right _ _ _ _ outside, List.getD_replicate]
  omega

/-- The shape of resolved providers: eight slots, the last of them without signal. -/
structure Padded (p : ResolvedProviders) : Prop where
  signals_length : p.signals.length = 8
  weights_length : p.weights.length = 8
  ids_length : p.providerIds.length = 8
  count : 0 < p.numProviders ∧ p.numProviders ≤ 8
  silent : ∀ i < 8, p.numProviders ≤ i → p.signals.getD i .nan = (0 : Nat)
  weight_sum : p.weightSum = sumOf (p.weights.take p.numProviders)

theorem sumOf_nat (values : List Nat) (small : values.sum < 2 ^ 53) :
    sumOf (values.map fun n : Nat => (n : Double)) = (values.sum : Nat) := by
  suffices ∀ start : Nat, start + values.sum < 2 ^ 53 →
      (values.map fun n : Nat => (n : Double)).foldl Double.add (start : Double) =
        ((start + values.sum : Nat) : Double) by
    have total := this 0 (by omega)
    rwa [Nat.zero_add] at total
  intro start bounded
  induction values generalizing start with
  | nil => simp
  | cons n values ih =>
    rw [List.sum_cons] at bounded small ⊢
    rw [List.map_cons, List.foldl_cons, Double.add_nat (by omega),
      ih (by omega) (start + n) (by omega), Nat.add_assoc]

theorem resolveProviders_padded {input : ProviderInput} {p : ResolvedProviders}
    (h : resolveProviders input = .ok p) : Padded p := by
  cases input with
  | score score =>
    obtain rfl := Except.ok.inj h
    refine ⟨rfl, rfl, rfl, by simp, fun i bounded outside => ?_, ?_⟩
    · exact getD_padTo_right (by simpa using outside) bounded
    · exact (sumOf_nat [100] (by norm_num)).symm
  | signals signals weights providerIds =>
    simp only [resolveProviders] at h
    split_ifs at h with count lengths
    rw [not_or, not_lt] at count
    rw [not_or, not_not, not_not] at lengths
    obtain rfl := Except.ok.inj h
    have fits : signals.length ≤ 8 := count.2
    refine ⟨length_padTo fits, length_padTo (lengths.1 ▸ fits), length_padTo (lengths.2 ▸ fits),
      ⟨Nat.pos_of_ne_zero count.1, fits⟩, fun i bounded outside => getD_padTo_right outside bounded, ?_⟩
    rw [← lengths.1, take_padTo]

theorem validateProviderId_ok {id : String} {i : Nat} {active : Bool} :
    validateProviderId id i active = .ok () ↔
      if active then id ≠ "0" ∧ id ≠ "" else id = "0" := by
  cases active <;> simp [validateProviderId, then_ok]

/-- A number in a range is either zero or positive. -/
theorem Within.positive_iff {max : Nat} {x : Double} (h : Within max x) :
    Double.lt (0 : Nat) x = true ↔ x.strictEq (0 : Nat) = false := by
  obtain ⟨k, -, rfl⟩ := h
  rw [nat_lt, nat_strictEq]
  simp only [decide_eq_true_eq, decide_eq_false_iff_not]
  omega

theorem Within.zero_of {max : Nat} {x : Double} (h : Within max x)
    (zero : x.strictEq (0 : Nat) = true) : x = (0 : Nat) := by
  obtain ⟨k, -, rfl⟩ := h
  rw [nat_strictEq, decide_eq_true_eq] at zero
  rw [zero]

variable [Host]

theorem validateActiveProviders_ok {p : ResolvedProviders} :
    validateActiveProviders p = .ok () ↔
      (∀ i < 8, Within 100 (p.signals.getD i .nan) ∧
        (Within maxWeight (p.weights.getD i .nan) ∧
          (i < p.numProviders ↔ (p.weights.getD i .nan).strictEq (0 : Nat) = false)) ∧
        if i < p.numProviders then p.providerIds.getD i "undefined" ≠ "0" ∧
          p.providerIds.getD i "undefined" ≠ "" else p.providerIds.getD i "undefined" = "0") ∧
      (sumOf (p.weights.take p.numProviders)).le (0 : Nat) = false := by
  simp only [validateActiveProviders, then_ok, forM_pass, refuseIf_pass, List.mem_range,
    validateSignal_ok, validateWeight_ok, validateProviderId_ok, decide_eq_true_eq]

/-- What the checks of the providers leave of them in the witness. -/
theorem providersMirror_of {p : ResolvedProviders} {claim : RiskClaim} {c s t u : String}
    (padded : Padded p) (valid : validateActiveProviders p = .ok ()) :
    ProvidersMirror (riskInputs p claim c s t u) := by
  obtain ⟨each, sum⟩ := validateActiveProviders_ok.mp valid
  refine ⟨padded.signals_length, padded.weights_length, padded.ids_length, padded.count,
    fun i bounded => (each i bounded).1, fun i bounded => (each i bounded).2.1.1,
    fun i active => ?_, fun i bounded outside => ?_, padded.weight_sum, ?_⟩
  · have bounded : i < 8 := lt_of_lt_of_le active padded.count.2
    obtain ⟨-, ⟨weight, weighted⟩, named⟩ := each i bounded
    have active' : i < p.numProviders := active
    rw [if_pos active'] at named
    exact ⟨weight.positive_iff.mpr (weighted.mp active'), named⟩
  · obtain ⟨-, ⟨weight, weighted⟩, named⟩ := each i bounded
    have idle : ¬ i < p.numProviders := not_lt.mpr outside
    rw [if_neg idle] at named
    rw [weighted, Bool.not_eq_false] at idle
    exact ⟨padded.silent i bounded outside, weight.zero_of idle, named⟩
  · rw [← padded.weight_sum] at sum
    exact sum

/-- The daemon signs what the builder accepts: the active slots are the first ones. -/
theorem ProvidersMirror.signable {r : RiskInputs} (h : ProvidersMirror r) :
    parseSignals true r.signals r.weights = .ok () := by
  have positive : ∀ i < 8, Double.lt (0 : Nat) (r.weights.getD i .nan) = true ↔
      i < r.numProviders := by
    intro i bounded
    refine ⟨fun weighted => ?_, fun active => (h.active i active).1⟩
    by_contra idle
    rw [(h.padding i bounded (not_lt.mp idle)).2.1, nat_lt] at weighted
    simp at weighted
  refine parseSignals_ok.mpr ⟨h.signals_length, h.weights_length, h.signal, h.weight,
    ⟨0, by norm_num, (h.active 0 h.count.1).1⟩, fun i bounded idle => ?_,
    fun _ i bounded weighted later => ?_⟩
  · have outside : ¬ i < r.numProviders := by
      rw [← positive i bounded, idle]
      exact Bool.false_ne_true
    rw [(h.padding i bounded (not_lt.mp outside)).1, nat_strictEq]
    rfl
  · have := (positive i bounded).mp weighted
    exact (positive (i - 1) (by omega)).mpr (by omega)

/-! ## The claim -/

/-- What the bounds of a claim pass, and the score against them. -/
theorem checkClaim_ok {label : String} {score : Double} {claim : RiskClaim} :
    checkClaim label score claim = .ok () ↔ match claim with
      | .threshold bound true => bound.strictEq (0 : Nat) = false ∧
          Double.le maxRiskScoreBps bound = false ∧ bound.lt score = true
      | .threshold bound false => bound.strictEq (0 : Nat) = false ∧
          Double.lt maxRiskScoreBps bound = false ∧ score.lt bound = true
      | .range lower upper => upper.le lower = false ∧ Double.lt maxRiskScoreBps upper = false ∧
          (lower.strictEq (0 : Nat) && upper.strictEq maxRiskScoreBps) = false ∧
          lower.le score = true ∧ score.le upper = true := by
  rcases claim with ⟨bound, gt⟩ | ⟨lower, upper⟩
  · cases gt <;> simp [checkClaim, then_ok, and_assoc]
  · simp only [checkClaim, then_ok, refuseIf_pass, Bool.not_eq_false', Bool.and_eq_true]

/-- A claim that is let through is one the circuit takes exactly where its bounds are natural
numbers. -/
theorem boundsMirror_iff {label : String} {score : Double} {p : ResolvedProviders}
    {claim : RiskClaim} {c s t u : String} (checked : checkClaim label score claim = .ok ()) :
    BoundsMirror (riskInputs p claim c s t u) ↔ claim.Natural := by
  have passed := checkClaim_ok.mp checked
  rcases claim with ⟨bound, gt⟩ | ⟨lower, upper⟩
  · constructor
    · rintro (⟨-, -, n, bounds, -⟩ | ⟨wrong, -⟩)
      · exact ⟨n, bounds⟩
      · exact absurd (show "1" = "2" from wrong) (by decide)
    · rintro ⟨n, rfl⟩
      refine Or.inl ⟨rfl, rfl, n, rfl, ?_⟩
      cases gt with
      | true =>
        obtain ⟨positive, small, -⟩ := passed
        rw [nat_strictEq, decide_eq_false_iff_not] at positive
        rw [Double.le_nat, decide_eq_false_iff_not, not_le] at small
        exact ⟨Nat.pos_of_ne_zero positive, Or.inl ⟨rfl, small⟩⟩
      | false =>
        obtain ⟨positive, small, -⟩ := passed
        rw [nat_strictEq, decide_eq_false_iff_not] at positive
        rw [nat_lt, decide_eq_false_iff_not, not_lt] at small
        exact ⟨Nat.pos_of_ne_zero positive, Or.inr ⟨rfl, small⟩⟩
  · constructor
    · rintro (⟨wrong, -⟩ | ⟨-, -, l, u, lowest, highest, -⟩)
      · exact absurd (show "2" = "1" from wrong) (by decide)
      · exact ⟨⟨l, lowest⟩, u, highest⟩
    · rintro ⟨⟨l, rfl⟩, u, rfl⟩
      obtain ⟨ordered, bounded, full, -⟩ := passed
      rw [Double.le_nat, decide_eq_false_iff_not, not_le] at ordered
      rw [nat_lt, decide_eq_false_iff_not, not_lt] at bounded
      rw [nat_strictEq, nat_strictEq, ← Bool.decide_and, decide_eq_false_iff_not] at full
      exact Or.inr ⟨rfl, rfl, l, u, rfl, rfl, ordered, bounded, full⟩

theorem claimHolds_of {label : String} {p : ResolvedProviders} {claim : RiskClaim}
    {c s t u : String} (checked : checkClaim label (computeScoreBps p) claim = .ok ()) :
    ClaimHolds (riskInputs p claim c s t u) := by
  have passed := checkClaim_ok.mp checked
  rcases claim with ⟨bound, gt⟩ | ⟨lower, upper⟩
  · cases gt with
    | true => exact ⟨fun _ => passed.2.2, by simp [riskInputs], by simp [riskInputs]⟩
    | false => exact ⟨by simp [riskInputs], fun _ => passed.2.2, by simp [riskInputs]⟩
  · exact ⟨by simp [riskInputs], by simp [riskInputs], fun _ => passed.2.2.2⟩

omit [Host] in
theorem validateSubmitter_ok {submitter : String} :
    validateSubmitter submitter = .ok () ↔
      isSubmitter submitter = true ∧ bigInt submitter ≠ some 0 := by
  simp only [validateSubmitter, then_ok, refuseIf_pass, Bool.not_eq_false', beq_eq_false_iff_ne]

/-! ## The two builders -/

variable {numberOf : String → Double}

/-- The checks the two builders share decide all but the bounds. -/
theorem riskMirrors_iff {label timestamp submitter configHash setHash : String}
    {providers : ProviderInput} {claim : RiskClaim} {p : ResolvedProviders}
    (resolved : resolveProviders providers = .ok p)
    (valid : validateActiveProviders p = .ok ())
    (checked : checkClaim label (computeScoreBps p) claim = .ok ())
    (dated : validateTimestamp (numberOf timestamp) = .ok ())
    (sent : validateSubmitter submitter = .ok ()) :
    RiskMirrors numberOf (riskInputs p claim configHash setHash timestamp submitter) ↔
      claim.Natural := by
  have providers :
      ProvidersMirror (riskInputs p claim configHash setHash timestamp submitter) :=
    providersMirror_of (resolveProviders_padded resolved) valid
  refine ⟨fun mirrors => (boundsMirror_iff checked).mp mirrors.bounds, fun natural => ?_⟩
  exact ⟨providers, providers.signable, (boundsMirror_iff checked).mpr natural,
    claimHolds_of checked, validateTimestamp_ok.mp dated, validateSubmitter_ok.mp sent⟩

/-- What `buildRiskScoreInputs` passes before it returns. -/
theorem buildRiskScoreInputs_ok {now : String} {opts : RiskScoreInput} {r : RiskInputs} :
    buildRiskScoreInputs numberOf now opts = .ok r ↔
      validateTimestamp (numberOf (opts.timestamp.getD now)) = .ok () ∧
      validateSubmitter opts.submitter = .ok () ∧
      ∃ p, resolveProviders opts.providers = .ok p ∧ validateActiveProviders p = .ok () ∧
        checkClaim "bound_lower=" (computeScoreBps p) opts.claim = .ok () ∧
        riskInputs p opts.claim (opts.configHash.getD defaultConfigHash) opts.providerSetHash
          (opts.timestamp.getD now) opts.submitter = r := by
  simp only [buildRiskScoreInputs, bind_ok, exists_unit, pure, Except.pure, Except.ok.injEq]

/-- The fields only the signed builder has are of the right size. -/
structure SignedFields (opts : RiskScoreSignedInput) : Prop where
  signature : opts.signedBundle.signature.length = 64
  pubkeyX : opts.signedBundle.pubkeyX.length = 32
  pubkeyY : opts.signedBundle.pubkeyY.length = 32
  signerPubkeyHash : opts.signedBundle.signerPubkeyHash.length = 32
  chainId : ∃ text, chainIdText opts.chainId = .ok text

omit [Host] in
theorem bytesToNumStrings_ok {bytes : List UInt8} {expected : Nat} (label : String) :
    (∃ texts, bytesToNumStrings bytes expected label = .ok texts) ↔ bytes.length = expected := by
  by_cases size : bytes.length = expected <;> simp [bytesToNumStrings, size]

omit [Host] in
theorem bytesToHexField_ok {bytes : List UInt8} :
    (∃ text, bytesToHexField bytes = .ok text) ↔ bytes.length = 32 := by
  by_cases size : bytes.length = 32 <;> simp [bytesToHexField, size]

/-- What `buildRiskScoreSignedInputs` passes before it returns. -/
theorem buildRiskScoreSignedInputs_ok {opts : RiskScoreSignedInput} {risk : RiskInputs} :
    (∃ r, buildRiskScoreSignedInputs numberOf opts = .ok r ∧ r.risk = risk) ↔
      SignedFields opts ∧ validateTimestamp (numberOf opts.signedTimestamp.printed) = .ok () ∧
      validateSubmitter opts.submitter = .ok () ∧
      ∃ p, resolveProviders opts.providers = .ok p ∧ validateActiveProviders p = .ok () ∧
        checkClaim "" (computeScoreBps p) opts.claim = .ok () ∧
        riskInputs p opts.claim (opts.configHash.getD defaultConfigHash) opts.providerSetHash
          opts.signedTimestamp.printed opts.submitter = risk := by
  simp only [buildRiskScoreSignedInputs, bind_ok, exists_unit, pure, Except.pure,
    Except.ok.injEq]
  constructor
  · rintro ⟨r, ⟨sent, p, resolved, valid, dated, signature, size, keyX, sizeX, keyY, sizeY, hash,
      sizeHash, chain, known, checked, rfl⟩, rfl⟩
    exact ⟨⟨(bytesToNumStrings_ok _).mp ⟨signature, size⟩, (bytesToNumStrings_ok _).mp ⟨keyX, sizeX⟩,
      (bytesToNumStrings_ok _).mp ⟨keyY, sizeY⟩, bytesToHexField_ok.mp ⟨hash, sizeHash⟩,
      chain, known⟩, dated, sent, p, resolved, valid, checked, rfl⟩
  · rintro ⟨fields, dated, sent, p, resolved, valid, checked, rfl⟩
    obtain ⟨signature, size⟩ := (bytesToNumStrings_ok "signature").mpr fields.signature
    obtain ⟨keyX, sizeX⟩ := (bytesToNumStrings_ok "pubkey_x").mpr fields.pubkeyX
    obtain ⟨keyY, sizeY⟩ := (bytesToNumStrings_ok "pubkey_y").mpr fields.pubkeyY
    obtain ⟨hash, sizeHash⟩ := bytesToHexField_ok.mpr fields.signerPubkeyHash
    obtain ⟨chain, known⟩ := fields.chainId
    exact ⟨_, ⟨sent, p, resolved, valid, dated, signature, size, keyX, sizeX, keyY, sizeY, hash,
      sizeHash, chain, known, checked, rfl⟩, rfl⟩

/-- The unsigned request a signed one extends. -/
def RiskScoreSignedInput.unsigned (opts : RiskScoreSignedInput) : RiskScoreInput where
  claim := opts.claim
  providers := opts.providers
  providerSetHash := opts.providerSetHash
  configHash := opts.configHash
  timestamp := some opts.signedTimestamp.printed
  submitter := opts.submitter

/-- The two builders take the same scores and bounds, and make the same witness of them. -/
theorem signed_accepts_iff (now : String) (opts : RiskScoreSignedInput) (risk : RiskInputs) :
    (∃ r, buildRiskScoreSignedInputs numberOf opts = .ok r ∧ r.risk = risk) ↔
      SignedFields opts ∧ buildRiskScoreInputs numberOf now opts.unsigned = .ok risk := by
  have label (score : Double) : checkClaim "bound_lower=" score opts.claim = .ok () ↔
      checkClaim "" score opts.claim = .ok () := by
    rw [checkClaim_ok, checkClaim_ok]
  rw [buildRiskScoreSignedInputs_ok, buildRiskScoreInputs_ok]
  simp only [RiskScoreSignedInput.unsigned, Option.getD_some, label]

end XochiSdk.Sdk.Inputs
