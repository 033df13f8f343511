import XochiSdk.Sdk.TierProofs
import XochiSdk.Sdk.VenueRouter
import Mathlib.Tactic.Linarith

/-!
# The readers of a trust score

Which scores all readers put in one tier: the tier's name, its row of the table, the next tier, the
fee, the privacy and venue gates and the threshold a tier proof proves. They do so on the scores
some row of the table spans. Between two rows, and below zero, they differ.
-/

namespace XochiSdk.Sdk

open XochiSdk.Js Inputs

/-- The place of a tier in the order of the tiers. -/
def TierName.rank : TierName → Nat
  | .standard => 0
  | .trusted => 1
  | .verified => 2
  | .premium => 3
  | .institutional => 4

/-- The tier directly above. -/
def TierName.above : TierName → Option TierName
  | .standard => some .trusted
  | .trusted => some .verified
  | .verified => some .premium
  | .premium => some .institutional
  | .institutional => none

/-- The lowest score of a tier. -/
def TierName.lowest : TierName → Nat
  | .standard => 0
  | .trusted => trustThresholds.trusted
  | .verified => trustThresholds.verified
  | .premium => trustThresholds.premium
  | .institutional => trustThresholds.institutional

/-- The threshold a proof of the tier proves; Standard has none. -/
def TierName.provable : TierName → Option Nat
  | .standard => none
  | tier => some tier.lowest

def PrivacyLevelName.rank : PrivacyLevelName → Nat
  | .open => 0
  | .public => 1
  | .standard => 2
  | .stealth => 3
  | .private => 4
  | .sovereign => 5

/-- Some row of the table spans the score. -/
def Spanned : Double → Prop
  | .finite q => (0 ≤ q ∧ q ≤ 24) ∨ (25 ≤ q ∧ q ≤ 49) ∨ (50 ≤ q ∧ q ≤ 74) ∨ (75 ≤ q ∧ q ≤ 99) ∨
    100 ≤ q
  | _ => False

theorem tiers_eq : tiers =
    [⟨.standard, (0 : Nat), (24 : Nat), Double.div (22 : Nat) (100 : Nat)⟩,
      ⟨.trusted, (25 : Nat), (49 : Nat), Double.div (19 : Nat) (100 : Nat)⟩,
      ⟨.verified, (50 : Nat), (74 : Nat), Double.div (15 : Nat) (100 : Nat)⟩,
      ⟨.premium, (75 : Nat), (99 : Nat), Double.div (12 : Nat) (100 : Nat)⟩,
      ⟨.institutional, (100 : Nat), .infinite false, Double.div (10 : Nat) (100 : Nat)⟩] := rfl

theorem sanitizeScore_finite {q : ℚ} (nonneg : 0 ≤ q) :
    sanitizeScore (.finite q) = .finite q := by
  unfold sanitizeScore
  rw [Double.finite_lt_nat]
  simp [Double.isFinite, nonneg]

/-- The five bands of the finite scores from zero on, by their lower bounds. -/
theorem getTierName_finite {q : ℚ} (nonneg : 0 ≤ q) : getTierName (.finite q) =
    if 100 ≤ q then .institutional else if 75 ≤ q then .premium else if 50 ≤ q then .verified
    else if 25 ≤ q then .trusted else .standard := by
  unfold getTierName
  rw [sanitizeScore_finite nonneg]
  simp only [trustThresholds, Double.nat_le_finite, decide_eq_true_eq]
  simp only [Nat.cast_ofNat]

theorem getMaxPrivacyLevel_finite {q : ℚ} (nonneg : 0 ≤ q) : getMaxPrivacyLevel (.finite q) =
    if 75 ≤ q then .sovereign else if 50 ≤ q then .private else .stealth := by
  unfold getMaxPrivacyLevel
  rw [sanitizeScore_finite nonneg]
  simp only [trustThresholds, Double.nat_le_finite, decide_eq_true_eq]
  simp only [Nat.cast_ofNat]

theorem getTierFromScore_finite {q : ℚ} (nonneg : 0 ≤ q) :
    getTierFromScore (.finite q) = (tiers.find? (·.spans (.finite q))).getD firstTier := by
  unfold getTierFromScore
  rw [sanitizeScore_finite nonneg]

/-- The name of the row a finite score is looked up in; `none` where no row spans it. -/
theorem spanned_row (q : ℚ) : (tiers.find? (·.spans (.finite q))).map (·.name) =
    if 0 ≤ q ∧ q ≤ 24 then some .standard else if 25 ≤ q ∧ q ≤ 49 then some .trusted
    else if 50 ≤ q ∧ q ≤ 74 then some .verified else if 75 ≤ q ∧ q ≤ 99 then some .premium
    else if 100 ≤ q then some .institutional else none := by
  have top : Double.le (.finite q) (.infinite false) = true := rfl
  simp only [tiers_eq, List.find?_cons, List.find?_nil, TierInfo.spans, Double.nat_le_finite,
    Double.finite_le_nat, top, ← Bool.decide_and, Bool.and_true]
  simp only [Nat.cast_ofNat, Nat.cast_zero]
  by_cases standard : 0 ≤ q ∧ q ≤ 24
  · simp [standard]
  by_cases trusted : 25 ≤ q ∧ q ≤ 49
  · simp [standard, trusted]
  by_cases verified : 50 ≤ q ∧ q ≤ 74
  · simp [standard, trusted, verified]
  by_cases premium : 75 ≤ q ∧ q ≤ 99
  · simp [standard, trusted, verified, premium]
  by_cases institutional : 100 ≤ q
  · simp [standard, trusted, verified, premium, institutional]
  · simp [standard, trusted, verified, premium, institutional]

/-- The name of the next tier of a finite score: where no row spans it, that of the first row. -/
theorem nextTier_name (q : ℚ) : (getNextTier (.finite q)).map (·.name) =
    if 0 ≤ q ∧ q ≤ 24 then some .trusted else if 25 ≤ q ∧ q ≤ 49 then some .verified
    else if 50 ≤ q ∧ q ≤ 74 then some .premium else if 75 ≤ q ∧ q ≤ 99 then some .institutional
    else if 100 ≤ q then none else some .standard := by
  have top : Double.le (.finite q) (.infinite false) = true := rfl
  unfold getNextTier
  simp only [tiers_eq, List.findIdx?_cons, List.findIdx?_nil, TierInfo.spans, Double.nat_le_finite,
    Double.finite_le_nat, top, ← Bool.decide_and, Bool.and_true]
  simp only [Nat.cast_ofNat, Nat.cast_zero]
  by_cases standard : 0 ≤ q ∧ q ≤ 24
  · simp [standard]
  by_cases trusted : 25 ≤ q ∧ q ≤ 49
  · simp [standard, trusted]
  by_cases verified : 50 ≤ q ∧ q ≤ 74
  · simp [standard, trusted, verified]
  by_cases premium : 75 ≤ q ∧ q ≤ 99
  · simp [standard, trusted, verified, premium]
  by_cases institutional : 100 ≤ q
  · simp [standard, trusted, verified, premium, institutional]
  · simp [standard, trusted, verified, premium, institutional]

/-! ## Rates -/

theorem rate_mono {low high : Nat} (h : low ≤ high) (bounded : high ≤ 100) :
    Double.le (Double.div (low : Double) (100 : Nat)) (Double.div (high : Double) (100 : Nat)) := by
  have rate : ∀ n : Nat, Double.div (n : Double) (100 : Nat) = Double.ofRat ((n : ℚ) / 100) := by
    intro n
    rw [Double.natCast_def, Double.natCast_def]
    simp [Double.div]
  have small : ∀ n : Nat, n ≤ 100 → |(n : ℚ) / 100| ≤ 1 := by
    intro n le
    have : (n : ℚ) ≤ 100 := by exact_mod_cast le
    rw [abs_of_nonneg (by positivity)]
    linarith
  obtain ⟨r, hr, near_low⟩ := Double.ofRat_near (small low (h.trans bounded))
  obtain ⟨t, ht, near_high⟩ := Double.ofRat_near (small high bounded)
  rw [rate, rate, hr, ht]
  change decide (r ≤ t) = true
  rw [decide_eq_true_eq]
  rcases h.eq_or_lt with rfl | strict
  · rw [hr] at ht
    cases ht
    exact le_refl _
  · have apart : (low : ℚ) + 1 ≤ high := by exact_mod_cast strict
    have := abs_le.mp near_low
    have := abs_le.mp near_high
    linarith

/-! ## Agreement -/

section
variable [Host] {Proof : Type} (prove : TierWitness → Except String Proof)

/-- All readers put a score in the tier of its name: the row of the table, the next tier, the
fee, the privacy level and the gates as at the tier's lowest score, and, of a score that planning
or proving accepts, the venue gates and the threshold proved. -/
structure ReadersAgree (score : Double) : Prop where
  tier : (getTierFromScore score).name = getTierName score
  next : (getNextTier score).map (·.name) = (getTierName score).above
  rate : (getTierFromScore score).rate = getFeeRate score .stable
  fee : ∀ asset, getFeeSchedule score asset = feeSchedule (getTierName score) asset
  privacy : getMaxPrivacyLevel score = getMaxPrivacyLevel ((getTierName score).lowest : Double)
  allowed : ∀ level, isPrivacyLevelAllowed level score =
    isPrivacyLevelAllowed level ((getTierName score).lowest : Double)
  venue : ∀ gas venue, validateConstraints ⟨score, gas⟩ = .ok () →
    VenueConstraints.admits ⟨score, gas⟩ venue =
      VenueConstraints.admits ⟨((getTierName score).lowest : Double), gas⟩ venue
  proven : ∀ submitter proof, generateHighestTierProof prove score submitter = .ok proof →
    proof.map (·.threshold) = (getTierName score).provable ∧
      ∀ p ∈ proof, p.tierName = getTierName score
  provable : ∀ submitter, assertScore score = .ok () → validateSubmitter submitter = .ok () →
    isSafeInteger (Double.mathFloor score) → (∀ witness, ∃ p, prove witness = .ok p) →
    ∃ proof, generateHighestTierProof prove score submitter = .ok proof

/-- No reader puts the higher of two scores lower. -/
structure ReadersMonotone (low high : Double) : Prop where
  tier : (getTierFromScore low).name.rank ≤ (getTierFromScore high).name.rank
  name : (getTierName low).rank ≤ (getTierName high).rank
  next : (getNextTier low).elim 5 (·.name.rank) ≤ (getNextTier high).elim 5 (·.name.rank)
  bps : ∀ asset, getFeeBps high asset ≤ getFeeBps low asset
  rate : ∀ asset, Double.le (getFeeRate high asset) (getFeeRate low asset)
  privacy : (getMaxPrivacyLevel low).rank ≤ (getMaxPrivacyLevel high).rank
  allowed : ∀ level, isPrivacyLevelAllowed level low → isPrivacyLevelAllowed level high
  venue : ∀ gas venue, VenueConstraints.admits ⟨low, gas⟩ venue →
    VenueConstraints.admits ⟨high, gas⟩ venue
  proven : ∀ submitter other proof better,
    generateHighestTierProof prove low submitter = .ok proof →
    generateHighestTierProof prove high other = .ok better →
    proof.elim 0 (·.threshold) ≤ better.elim 0 (·.threshold)

omit [Host] in
theorem Spanned.nonneg {q : ℚ} (spanned : Spanned (.finite q)) : 0 ≤ q := by
  unfold Spanned at spanned
  rcases spanned with h | h | h | h | h <;> linarith

omit [Host] in
/-- The next tier alone tells a spanned score: elsewhere it is the first row. -/
theorem spanned_of_next {score : Double}
    (next : (getNextTier score).map (·.name) = (getTierName score).above) : Spanned score := by
  have not_first : (getTierName score).above ≠ some .standard := by
    cases getTierName score <;> decide
  cases score with
  | finite q =>
    rw [← next, nextTier_name] at not_first
    unfold Spanned
    by_contra outside
    push Not at outside
    obtain ⟨standard, trusted, verified, premium, institutional⟩ := outside
    apply not_first
    rw [if_neg, if_neg, if_neg, if_neg, if_neg]
    · exact not_le.mpr institutional
    · exact fun h => not_lt.mpr h.2 (premium h.1)
    · exact fun h => not_lt.mpr h.2 (verified h.1)
    · exact fun h => not_lt.mpr h.2 (trusted h.1)
    · exact fun h => not_lt.mpr h.2 (standard h.1)
  | infinite negative =>
    cases negative with
    | true => exact absurd next (by decide)
    | false => exact absurd next (by decide)
  | nan => exact absurd next (by decide)

omit [Host] in
theorem tierRow_eq {q : ℚ} (spanned : Spanned (.finite q)) :
    ((tiers.find? (·.spans (.finite q))).map (·.name)) = some (getTierName (.finite q)) := by
  have nonneg := spanned.nonneg
  rw [spanned_row, getTierName_finite nonneg]
  unfold Spanned at spanned
  rcases spanned with h | h | h | h | h
  · rw [if_pos h, if_neg, if_neg, if_neg, if_neg] <;> linarith
  · rw [if_neg, if_pos h, if_neg, if_neg, if_neg, if_pos] <;> first | linarith | (intro k; linarith)
  · rw [if_neg, if_neg, if_pos h, if_neg, if_neg, if_pos] <;> first | linarith | (intro k; linarith)
  · rw [if_neg, if_neg, if_neg, if_pos h, if_neg, if_pos] <;> first | linarith | (intro k; linarith)
  · rw [if_neg, if_neg, if_neg, if_neg, if_pos h, if_pos h] <;> (intro k; linarith)

omit [Host] in
theorem getTierName_spanned {q : ℚ} (spanned : Spanned (.finite q)) :
    (getTierFromScore (.finite q)).name = getTierName (.finite q) := by
  have row := tierRow_eq spanned
  rw [getTierFromScore_finite spanned.nonneg]
  cases found : tiers.find? (·.spans (.finite q)) with
  | none => simp [found] at row
  | some t => simpa [found] using row

omit [Host] in
theorem nextTier_spanned {q : ℚ} (spanned : Spanned (.finite q)) :
    (getNextTier (.finite q)).map (·.name) = (getTierName (.finite q)).above := by
  have row := tierRow_eq spanned
  rw [spanned_row] at row
  rw [nextTier_name]
  by_cases standard : 0 ≤ q ∧ q ≤ 24
  · rw [if_pos standard, Option.some_inj] at row
    rw [if_pos standard, ← row]
    rfl
  rw [if_neg standard] at row ⊢
  by_cases trusted : 25 ≤ q ∧ q ≤ 49
  · rw [if_pos trusted, Option.some_inj] at row
    rw [if_pos trusted, ← row]
    rfl
  rw [if_neg trusted] at row ⊢
  by_cases verified : 50 ≤ q ∧ q ≤ 74
  · rw [if_pos verified, Option.some_inj] at row
    rw [if_pos verified, ← row]
    rfl
  rw [if_neg verified] at row ⊢
  by_cases premium : 75 ≤ q ∧ q ≤ 99
  · rw [if_pos premium, Option.some_inj] at row
    rw [if_pos premium, ← row]
    rfl
  rw [if_neg premium] at row ⊢
  by_cases institutional : 100 ≤ q
  · rw [if_pos institutional, Option.some_inj] at row
    rw [if_pos institutional, ← row]
    rfl
  · rw [if_neg institutional] at row
    cases row

omit [Host] in
/-- Every row's rate is the stable fee of its tier. -/
theorem tiers_rate : ∀ t ∈ tiers,
    t.rate = Double.div (headlineBps (feeSchedule t.name .stable)) (100 : Nat) := by
  intro t among
  rw [tiers_eq] at among
  simp only [List.mem_cons, List.not_mem_nil, or_false] at among
  rcases among with rfl | rfl | rfl | rfl | rfl <;> rfl

omit [Host] in
theorem tierFromScore_mem (score : Double) : getTierFromScore score ∈ tiers := by
  change (tiers.find? (·.spans (sanitizeScore score))).getD firstTier ∈ tiers
  cases found : tiers.find? (·.spans (sanitizeScore score)) with
  | none => exact List.get_mem _ _
  | some t => exact List.mem_of_find?_eq_some found

omit [Host] in
theorem lowest_le {q : ℚ} (nonneg : 0 ≤ q) : ((getTierName (.finite q)).lowest : ℚ) ≤ q := by
  rw [getTierName_finite nonneg]
  split_ifs <;> simp [TierName.lowest, trustThresholds] <;> linarith

omit [Host] in
/-- A tier's bound that a score reaches is reached by the tier's lowest score. -/
theorem gate_at_lowest {q : ℚ} (nonneg : 0 ≤ q) (gate : Nat)
    (bound : gate ∈ [0, 25, 50, 75, 100]) :
    (gate : ℚ) ≤ q ↔ gate ≤ (getTierName (.finite q)).lowest := by
  rw [getTierName_finite nonneg]
  simp only [List.mem_cons, List.not_mem_nil, or_false] at bound
  rcases bound with rfl | rfl | rfl | rfl | rfl <;> push_cast <;>
    split_ifs <;> simp [TierName.lowest, trustThresholds] <;> linarith

omit [Host] in
theorem minTrustScore_bound (level : PrivacyLevelName) :
    (getPrivacyLevel level).minTrustScore ∈ [0, 25, 50, 75, 100] := by
  cases level <;> decide

omit [Host] in
theorem venueMinScores_bound (venue : VenueId) :
    venueMinScores venue ∈ [0, 25, 50, 75, 100] := by
  cases venue <;> decide

omit [Host] in
theorem admits_finite (q : ℚ) (gas : VenueId → Int) (venue : VenueId) :
    VenueConstraints.admits ⟨.finite q, gas⟩ venue = decide ((venueMinScores venue : ℚ) ≤ q) := by
  unfold VenueConstraints.admits
  rw [Double.finite_lt_nat, ← decide_not]
  simp only [not_lt]

omit [Host] in
theorem allowed_finite {q : ℚ} (nonneg : 0 ≤ q) (level : PrivacyLevelName) :
    isPrivacyLevelAllowed level (.finite q) =
      decide (((getPrivacyLevel level).minTrustScore : ℚ) ≤ q) := by
  unfold isPrivacyLevelAllowed
  rw [sanitizeScore_finite nonneg, Double.nat_le_finite]

omit [Host] in
theorem privacy_at_lowest {q : ℚ} (nonneg : 0 ≤ q) : getMaxPrivacyLevel (.finite q) =
    getMaxPrivacyLevel ((getTierName (.finite q)).lowest : Double) := by
  rw [getMaxPrivacyLevel_finite nonneg, Double.natCast_def,
    getMaxPrivacyLevel_finite (Nat.cast_nonneg _)]
  have sovereign := gate_at_lowest nonneg 75 (by decide)
  have aztec := gate_at_lowest nonneg 50 (by decide)
  push_cast at sovereign aztec
  simp only [sovereign, aztec, Nat.ofNat_le_cast]

omit [Host] in
/-- The first threshold of the list that a score reaches is its tier's. -/
theorem highest_threshold {q : ℚ} (nonneg : 0 ≤ q) :
    provableThresholds.find? (fun t : Nat => Double.le t (.finite q)) =
      (getTierName (.finite q)).provable := by
  rw [getTierName_finite nonneg]
  simp only [provableThresholds, List.find?_cons, List.find?_nil, Double.nat_le_finite]
  simp only [Nat.cast_ofNat]
  split_ifs with institutional premium verified trusted
  · simp [institutional, TierName.provable, TierName.lowest, trustThresholds]
  · simp [institutional, premium, TierName.provable, TierName.lowest, trustThresholds]
  · simp [institutional, premium, verified, TierName.provable, TierName.lowest, trustThresholds]
  · simp [institutional, premium, verified, trusted, TierName.provable, TierName.lowest,
      trustThresholds]
  · simp [institutional, premium, verified, trusted, TierName.provable]

omit [Host] in
theorem getTierName_lowest (tier : TierName) : getTierName (tier.lowest : Double) = tier := by
  rw [Double.natCast_def, getTierName_finite (Nat.cast_nonneg _)]
  cases tier <;> norm_num [TierName.lowest, trustThresholds]

theorem generateTierProof_ok {score : Double} {threshold : Nat} {submitter : String}
    {proof : TierProof Proof} (h : generateTierProof prove score threshold submitter = .ok proof) :
    proof.threshold = threshold ∧ proof.tierName = getTierName threshold := by
  unfold generateTierProof at h
  simp only [bind, Except.bind] at h
  repeat' split at h
  all_goals first | contradiction | skip
  cases h
  exact ⟨rfl, rfl⟩

theorem generateHighest_ok {q : ℚ} (nonneg : 0 ≤ q) {submitter : String}
    {proof : Option (TierProof Proof)}
    (h : generateHighestTierProof prove (.finite q) submitter = .ok proof) :
    proof.map (·.threshold) = (getTierName (.finite q)).provable ∧
      ∀ p ∈ proof, p.tierName = getTierName (.finite q) := by
  unfold generateHighestTierProof at h
  rw [highest_threshold nonneg] at h
  cases accepted : assertScore (.finite q) with
  | error message =>
    rw [accepted] at h
    cases h
  | ok =>
    rw [accepted] at h
    cases threshold : (getTierName (.finite q)).provable with
    | none =>
      rw [threshold] at h
      cases h
      exact ⟨rfl, by simp⟩
    | some t =>
      rw [threshold] at h
      cases proved : generateTierProof prove (.finite q) t submitter with
      | error message =>
        simp only [proved] at h
        cases h
      | ok p =>
        simp only [proved] at h
        cases h
        obtain ⟨same, named⟩ := generateTierProof_ok prove proved
        refine ⟨by rw [← same]; rfl, ?_⟩
        intro p' among
        cases among
        have lowest : t = (getTierName (.finite q)).lowest := by
          revert threshold
          cases getTierName (.finite q) <;> simp [TierName.provable] <;> exact fun h => h.symm
        rw [named, lowest, getTierName_lowest]

omit [Host] in
theorem provable_bounds {tier : TierName} {t : Nat} (h : tier.provable = some t) :
    t ∈ provableThresholds ∧ t = tier.lowest := by
  cases tier <;> simp [TierName.provable, TierName.lowest, trustThresholds] at h <;> subst h <;>
    decide

/-- A score meets the threshold of its own tier: the floor of it does, capped or not. -/
theorem generateTierProof_returns {q : ℚ} (nonneg : 0 ≤ q) {t : Nat} (reached : (t : ℚ) ≤ q)
    (known : t ∈ provableThresholds) {submitter : String}
    (sender : validateSubmitter submitter = .ok ())
    (safe : isSafeInteger (Double.mathFloor (.finite q)) = true)
    (proves : ∀ witness, ∃ p, prove witness = .ok p) :
    ∃ proof, generateTierProof prove (.finite q) t submitter = .ok proof := by
  have cap : t ≤ 100 ∧ 0 < t := by
    simp only [provableThresholds, List.mem_cons, List.not_mem_nil, or_false] at known
    omega
  have floored : (t : Int) ≤ ⌊q⌋ := Int.le_floor.mpr (by exact_mod_cast reached)
  obtain ⟨signal, minimum, from_t, to_cap⟩ : ∃ signal : Int,
      Double.mathMin (.finite (⌊q⌋ : ℚ)) ((100 : Nat) : Double) = .finite signal ∧
        (t : Int) ≤ signal ∧ signal ≤ 100 := by
    unfold Double.mathMin
    rw [if_neg (by rw [Double.natCast_def]; simp), Double.finite_le_nat]
    by_cases low : ⌊q⌋ ≤ 100
    · refine ⟨⌊q⌋, ?_, floored, low⟩
      rw [if_pos]
      simpa using (by exact_mod_cast low : (⌊q⌋ : ℚ) ≤ 100)
    · refine ⟨100, ?_, by omega, le_refl _⟩
      rw [if_neg]
      · rfl
      · simpa using (by exact_mod_cast not_le.mp low : (100 : ℚ) < ⌊q⌋)
  have product : Double.mul (.finite (signal : ℚ)) ((100 : Nat) : Double) =
      .finite ((signal * 100 : Int) : ℚ) := by
    rw [Double.natCast_def]
    unfold Double.mul
    have := Double.ofRat_int (n := signal * 100) (by omega)
    rw [← this]
    push_cast
    rfl
  have above : Double.le (.finite ((signal * 100 : Int) : ℚ)) ((tierBoundLower t : Nat) : Double) =
      false := by
    rw [Double.finite_le_nat, decide_eq_false_iff_not]
    unfold tierBoundLower
    intro le
    have : signal * 100 ≤ ((t * 100 - 1 : Nat) : Int) := by exact_mod_cast le
    omega
  have committed : isSafeInteger (.finite (⌊q⌋ : ℚ)) = true := safe
  have accepted : assertScore (.finite q) = .ok () := by
    unfold assertScore
    rw [Double.finite_lt_nat]
    simp [Double.isFinite, nonneg, refuseIf]
  have final : checkCommittedScore (.finite (⌊q⌋ : ℚ)) = .ok () := by
    unfold checkCommittedScore
    rw [committed, Double.finite_lt_nat]
    have : 0 ≤ ⌊q⌋ := Int.floor_nonneg.mpr nonneg
    simp [refuseIf, this]
  obtain ⟨p, proved⟩ := proves ⟨.finite signal, tierBoundLower t, submitter⟩
  refine ⟨⟨t, getTierName t, p⟩, ?_⟩
  unfold generateTierProof
  simp only [accepted, sender, Double.mathFloor, minimum, product, above, proved, final]
  simp [refuseIf, known]
  rfl

theorem agree_of_spanned {score : Double} (spanned : Spanned score) : ReadersAgree prove score := by
  cases score with
  | infinite negative => exact absurd spanned id
  | nan => exact absurd spanned id
  | finite q =>
    have nonneg := spanned.nonneg
    have named := getTierName_spanned spanned
    constructor
    case tier => exact named
    case next => exact nextTier_spanned spanned
    case rate =>
      rw [tiers_rate _ (tierFromScore_mem _), named]
      rfl
    case fee =>
      intro asset
      rfl
    case privacy => exact privacy_at_lowest nonneg
    case allowed =>
      intro level
      rw [allowed_finite nonneg, Double.natCast_def, allowed_finite (Nat.cast_nonneg _)]
      simp only [gate_at_lowest nonneg _ (minTrustScore_bound level), Nat.cast_le]
    case venue =>
      intro gas venue _
      rw [admits_finite, Double.natCast_def, admits_finite]
      simp only [gate_at_lowest nonneg _ (venueMinScores_bound venue), Nat.cast_le]
    case proven =>
      intro submitter proof
      exact generateHighest_ok prove nonneg
    case provable =>
      intro submitter accepted sender safe proves
      unfold generateHighestTierProof
      rw [accepted, highest_threshold nonneg]
      cases threshold : (getTierName (.finite q)).provable with
      | none => exact ⟨none, rfl⟩
      | some t =>
        obtain ⟨known, rfl⟩ := provable_bounds threshold
        obtain ⟨proof, proved⟩ :=
          generateTierProof_returns prove nonneg (lowest_le nonneg) known sender safe proves
        refine ⟨some proof, ?_⟩
        change (do return some (← generateTierProof prove _ _ submitter)) = _
        rw [proved]
        rfl

omit [Host] in
theorem rank_mono {p q : ℚ} (nonneg : 0 ≤ p) (h : p ≤ q) :
    (getTierName (.finite p)).rank ≤ (getTierName (.finite q)).rank := by
  rw [getTierName_finite nonneg, getTierName_finite (nonneg.trans h)]
  split_ifs <;> first | decide | linarith

omit [Host] in
theorem bps_mono {low high : TierName} (h : low.rank ≤ high.rank) (asset : AssetClass) :
    headlineBps (feeSchedule high asset) ≤ headlineBps (feeSchedule low asset) := by
  revert h
  cases low <;> cases high <;> cases asset <;> decide

omit [Host] in
theorem headlineBps_le (tier : TierName) (asset : AssetClass) :
    headlineBps (feeSchedule tier asset) ≤ 100 := by
  cases tier <;> cases asset <;> decide

omit [Host] in
theorem above_mono {low high : TierName} (h : low.rank ≤ high.rank) :
    low.above.elim 5 TierName.rank ≤ high.above.elim 5 TierName.rank := by
  revert h
  cases low <;> cases high <;> decide

omit [Host] in
theorem provable_mono {low high : TierName} (h : low.rank ≤ high.rank) :
    low.provable.getD 0 ≤ high.provable.getD 0 := by
  revert h
  cases low <;> cases high <;> decide

omit [Host] in
theorem privacy_mono {p q : ℚ} (nonneg : 0 ≤ p) (h : p ≤ q) :
    (getMaxPrivacyLevel (.finite p)).rank ≤ (getMaxPrivacyLevel (.finite q)).rank := by
  rw [getMaxPrivacyLevel_finite nonneg, getMaxPrivacyLevel_finite (nonneg.trans h)]
  split_ifs <;> first | decide | linarith

/-- Where all readers agree on two scores, their answers follow the order of the scores. -/
theorem monotone_of_agree {p q : ℚ} (low : ReadersAgree prove (.finite p))
    (high : ReadersAgree prove (.finite q)) (nonneg : 0 ≤ p) (h : p ≤ q) :
    ReadersMonotone prove (.finite p) (.finite q) := by
  have ranks := rank_mono nonneg h
  constructor
  case tier => rwa [low.tier, high.tier]
  case name => exact ranks
  case next =>
    have named : ∀ t : Option TierInfo, t.elim 5 (·.name.rank) =
        (t.map (·.name)).elim 5 TierName.rank := by
      intro t
      cases t <;> rfl
    rw [named, named, low.next, high.next]
    exact above_mono ranks
  case bps =>
    intro asset
    exact bps_mono ranks asset
  case rate =>
    intro asset
    exact rate_mono (bps_mono ranks asset) (headlineBps_le _ _)
  case privacy => exact privacy_mono nonneg h
  case allowed =>
    intro level
    rw [allowed_finite nonneg, allowed_finite (nonneg.trans h)]
    simp only [decide_eq_true_eq]
    exact fun gate => gate.trans h
  case venue =>
    intro gas venue
    rw [admits_finite, admits_finite]
    simp only [decide_eq_true_eq]
    exact fun gate => gate.trans h
  case proven =>
    intro submitter other proof better proved bettered
    have threshold : ∀ proof : Option (TierProof Proof), proof.elim 0 (·.threshold) =
        (proof.map (·.threshold)).getD 0 := by
      intro proof
      cases proof <;> rfl
    rw [threshold, threshold, (low.proven _ _ proved).1, (high.proven _ _ bettered).1]
    exact provable_mono ranks

/-- All readers of two scores agree, and follow the order of the scores, exactly where some row
of the table spans each score: a finite score, not negative, and not strictly between the top of
one row and the threshold of the next. -/
theorem readers_agree_iff (low high : Double) :
    (ReadersAgree prove low ∧ ReadersAgree prove high ∧
      (Double.le low high → ReadersMonotone prove low high)) ↔ Spanned low ∧ Spanned high := by
  constructor
  · rintro ⟨lower, higher, -⟩
    exact ⟨spanned_of_next lower.next, spanned_of_next higher.next⟩
  · rintro ⟨lower, higher⟩
    refine ⟨agree_of_spanned prove lower, agree_of_spanned prove higher, ?_⟩
    intro le
    cases low with
    | infinite negative => exact absurd lower id
    | nan => exact absurd lower id
    | finite p =>
      cases high with
      | infinite negative => exact absurd higher id
      | nan => exact absurd higher id
      | finite q =>
        have ordered : p ≤ q := by
          rwa [show Double.le (.finite p) (.finite q) = decide (p ≤ q) from rfl,
            decide_eq_true_eq] at le
        exact monotone_of_agree prove (agree_of_spanned prove lower)
          (agree_of_spanned prove higher) lower.nonneg ordered

end

/-- A score of 49.5 is Trusted by name, Standard by the table, and next in line for Standard. -/
theorem readers_disagree_between_rows :
    getTierName (.finite (99 / 2)) = .trusted ∧
      (getTierFromScore (.finite (99 / 2))).name = .standard ∧
      (getNextTier (.finite (99 / 2))).map (·.name) = some .standard := by
  have row := spanned_row (99 / 2)
  have next := nextTier_name (99 / 2)
  norm_num at row next
  refine ⟨?_, ?_, by simpa using next⟩
  · rw [getTierName_finite (by norm_num)]
    norm_num
  · rw [getTierFromScore_finite (by norm_num), List.find?_eq_none.mpr (by simpa using row)]
    rfl

end XochiSdk.Sdk
