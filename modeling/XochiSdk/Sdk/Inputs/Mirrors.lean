import XochiSdk.Sdk.Inputs.PatternMirrors
import XochiSdk.Signer.AttestationText

/-!
# The witness builders against their circuits

What the multi-signed circuit and the daemon take of a witness's slots, and, for all four builders,
exactly which requests that a builder takes give a witness its circuit takes too.
-/

namespace XochiSdk.Sdk.Inputs

open XochiSdk.Js Signer

/-- A slot no signer holds. -/
def SlotWitness.inactive (w : SlotWitness) : Prop := w.signerPubkeyHash = zeroFieldHex

/-- What the multi-signed circuit asserts of a witness, and the daemon of the slots it signs. -/
structure MultiMirrors [Host] (r : MultiSignedInputs) : Prop where
  count : r.slots.length = 5
  signable : ∀ w ∈ r.slots, parseSignals false w.signals w.weights = .ok ()
  weight_sum : ∀ w ∈ r.slots, w.weightSum = sumOf w.weights ∧ w.weightSum.le (0 : Nat) = false
  padding : ∀ w ∈ r.slots, w.inactive → w = paddingSlotWitness
  distinct : r.slots.Pairwise fun a b => ¬b.inactive → a.signerPubkeyHash ≠ b.signerPubkeyHash
  threshold : ∃ m floor : Nat, r.thresholdM = m ∧ 0 < m ∧ m ≤ maxProvidersMulti ∧
    minMultiProviderThresholds r.jurisdictionId = some floor ∧ floor ≤ m ∧ m ≤ activeCount r.slots
  dated : ∃ t : Nat, minTimestamp ≤ t ∧ t < maxTimestamp ∧ r.timestamp = t
  submitter : isSubmitter r.submitter = true ∧ bigInt r.submitter ≠ some 0

/-- A slot's weights are within bounds, and where one is zero there is no signal. -/
def MultiSignedSlot.Weighted (slot : MultiSignedSlot) : Prop :=
  ∀ i < 8, Double.lt maxWeight (slot.weights.getD i .nan) = false ∧
    ((slot.weights.getD i .nan).strictEq (0 : Nat) = true →
      (slot.signals.getD i .nan).strictEq (0 : Nat) = true)

theorem zeroFieldHex_eq : zeroFieldHex = hexlify (List.replicate 32 0) := by decide

/-- The hash of an active slot is not that of a padding slot. -/
theorem hexlify_nonzero {bytes : List UInt8} (nonzero : bytes.all (· == 0) = false) : hexlify bytes ≠ zeroFieldHex := by
  intro same
  rw [zeroFieldHex_eq] at same
  have spelled := congrArg getBytes same
  rw [getBytes_hexlify, getBytes_hexlify, Option.some.injEq] at spelled
  rw [spelled] at nonzero
  exact absurd nonzero (by decide)

/-- Weights that are all zero add up to zero. -/
theorem sumOf_zero {values : List Double} (zero : ∀ v ∈ values, v = (0 : Nat)) :
    sumOf values = (0 : Nat) := by
  have same : values = (List.replicate values.length 0).map fun n : Nat => (n : Double) := by
    rw [List.map_replicate]
    exact List.eq_replicate_iff.mpr ⟨rfl, zero⟩
  rw [same, sumOf_nat _ (by simp)]
  simp

theorem duplicateIndex_none {witnesses : List SlotWitness}
    (none : duplicateIndex witnesses = none) :
    witnesses.Pairwise fun a b => ¬b.inactive → a.signerPubkeyHash ≠ b.signerPubkeyHash := by
  rw [List.pairwise_iff_getElem]
  intro i j hi hj before active same
  have first := List.findSome?_eq_none_iff.mp none (witnesses[j], j)
    (List.mem_zipIdx_iff_getElem?.mpr (List.getElem?_eq_getElem hj))
  simp only [ite_eq_right_iff, reduceCtorEq, imp_false, not_and, not_not] at first
  have lowest : witnesses.findIdx (·.signerPubkeyHash == witnesses[j].signerPubkeyHash) ≤ i := by
    by_contra later
    have := List.not_of_lt_findIdx (not_le.mp later)
    simp [same] at this
  have := first active
  omega

variable [Host]

theorem checkSlotEntry_ok {slot : MultiSignedSlot} {slotIndex i : Nat} :
    checkSlotEntry slot slotIndex i = .ok () ↔
      Within 100 (slot.signals.getD i .nan) ∧ ∃ k : Nat, slot.weights.getD i .nan = k := by
  simp only [checkSlotEntry, then_ok, refuseIf_pass, within_iff]
  refine and_congr_right fun _ => ?_
  rw [Bool.or_eq_false_iff, Bool.not_eq_false']
  constructor
  · rintro ⟨integer, nonneg⟩
    exact exists_nat integer nonneg
  · rintro ⟨k, weight⟩
    rw [weight, nat_isInteger, nat_lt]
    simp

/-- What an active slot passes before it becomes a witness. -/
theorem activeSlotWitness_ok {slot : MultiSignedSlot} {slotIndex : Nat} {w : SlotWitness}
    (h : activeSlotWitness slot slotIndex = .ok w) :
    slot.signals.length = 8 ∧ slot.weights.length = 8 ∧
      (∀ i < 8, Within 100 (slot.signals.getD i .nan) ∧
        ∃ k : Nat, slot.weights.getD i .nan = k) ∧
      (sumOf slot.weights).le (0 : Nat) = false ∧
      w.signals = slot.signals ∧ w.weights = slot.weights ∧ w.weightSum = sumOf slot.weights ∧
      ¬w.inactive := by
  simp only [activeSlotWitness, ensureLen, bind_ok, exists_unit, refuseIf_pass, forM_pass,
    List.mem_range, bne_eq_false_iff_eq, checkSlotEntry_ok, pure, Except.pure,
    Except.ok.injEq] at h
  obtain ⟨signals, weights, entries, sum, -, -, -, size, nonzero, hash, printed, rfl⟩ := h
  refine ⟨signals, weights, entries, sum, rfl, rfl, rfl, ?_⟩
  simp only [bytesToHexField, size, ne_eq, not_true_eq_false, if_false, Except.ok.injEq] at printed
  rw [SlotWitness.inactive, ← printed]
  exact hexlify_nonzero nonzero

/-- A slot is one the daemon signs exactly where its weights are in bounds. -/
theorem activeSlot_signable {slot : MultiSignedSlot} {slotIndex : Nat} {w : SlotWitness}
    (h : activeSlotWitness slot slotIndex = .ok w) :
    parseSignals false w.signals w.weights = .ok () ↔ slot.Weighted := by
  obtain ⟨signals, weights, entries, sum, sameSignals, sameWeights, -, -⟩ :=
    activeSlotWitness_ok h
  rw [sameSignals, sameWeights, parseSignals_ok]
  have idle (i : Nat) (bounded : i < 8) :
      Double.lt (0 : Nat) (slot.weights.getD i .nan) = false ↔
        (slot.weights.getD i .nan).strictEq (0 : Nat) = true := by
    obtain ⟨k, weight⟩ := (entries i bounded).2
    rw [weight, nat_lt, nat_strictEq, decide_eq_false_iff_not, decide_eq_true_eq]
    omega
  constructor
  · rintro ⟨-, -, -, bounds, -, silent, -⟩ i bounded
    refine ⟨?_, fun zero => silent i bounded ((idle i bounded).mpr zero)⟩
    obtain ⟨k, small, weight⟩ := bounds i bounded
    rw [weight, nat_lt]
    simpa using small
  · intro weighted
    refine ⟨signals, weights, fun i bounded => (entries i bounded).1, fun i bounded => ?_, ?_,
      fun i bounded none => (weighted i bounded).2 ((idle i bounded).mp none), by simp⟩
    · obtain ⟨k, weight⟩ := (entries i bounded).2
      have limit := (weighted i bounded).1
      rw [weight, nat_lt, decide_eq_false_iff_not, not_lt] at limit
      exact ⟨k, limit, weight⟩
    · by_contra allIdle
      have zero : ∀ v ∈ slot.weights, v = (0 : Nat) := by
        intro v present
        obtain ⟨i, bounded, rfl⟩ := List.getElem_of_mem present
        have small : i < 8 := weights ▸ bounded
        obtain ⟨k, weight⟩ := (entries i small).2
        have still : Double.lt (0 : Nat) (slot.weights.getD i .nan) = false := by
          by_contra moving
          exact allIdle ⟨i, small, Bool.not_eq_false _ ▸ moving⟩
        have none := (idle i small).mp still
        rw [weight, nat_strictEq, decide_eq_true_eq] at none
        rw [← List.getD_eq_getElem _ .nan bounded, weight, none]
      rw [sumOf_zero zero, Double.le_nat] at sum
      simp at sum

theorem slotWitness_ok {slot : Option MultiSignedSlot} {i : Nat} {w : SlotWitness}
    (h : slotWitness i slot = .ok w) :
    (w.weightSum = sumOf w.weights ∧ w.weightSum.le (0 : Nat) = false) ∧
      (w.inactive → w = paddingSlotWitness) ∧
      (parseSignals false w.signals w.weights = .ok () ↔ ∀ s ∈ slot, s.Weighted) := by
  cases slot with
  | none =>
    obtain rfl := Except.ok.inj h
    have one : sumOf paddingSlotWitness.weights = (1 : Nat) :=
      sumOf_nat [1, 0, 0, 0, 0, 0, 0, 0] (by norm_num)
    exact ⟨⟨one.symm, by decide⟩, fun _ => rfl, by simp, fun _ => rfl⟩
  | some slot =>
    obtain ⟨-, -, -, sum, -, weights, total, active⟩ := activeSlotWitness_ok h
    refine ⟨⟨by rw [total, weights], by rwa [total]⟩, fun idle => absurd idle active, ?_⟩
    rw [activeSlot_signable h]
    simp

/-- The witnesses of the slots, one for each. -/
theorem slotWitnesses_ok {slots : List (Option MultiSignedSlot)} :
    ∀ {i : Nat} {ws : List SlotWitness}, slotWitnesses i slots = .ok ws →
      ws.length = slots.length ∧
      (∀ w ∈ ws, (w.weightSum = sumOf w.weights ∧ w.weightSum.le (0 : Nat) = false) ∧
        (w.inactive → w = paddingSlotWitness)) ∧
      ((∀ w ∈ ws, parseSignals false w.signals w.weights = .ok ()) ↔
        ∀ slot ∈ slots, ∀ s ∈ slot, s.Weighted) := by
  induction slots with
  | nil =>
    intro i ws h
    obtain rfl := Except.ok.inj h
    simp
  | cons slot slots ih =>
    intro i ws h
    simp only [slotWitnesses, bind_ok, pure, Except.pure, Except.ok.injEq] at h
    obtain ⟨w, made, others, rest, rfl⟩ := h
    obtain ⟨sum, padding, signable⟩ := slotWitness_ok made
    obtain ⟨length, each, all⟩ := ih rest
    refine ⟨by rw [List.length_cons, List.length_cons, length], ?_, ?_⟩
    · rw [List.forall_mem_cons]
      exact ⟨⟨sum, padding⟩, each⟩
    · rw [List.forall_mem_cons, List.forall_mem_cons, signable, all]

variable {numberOf : String → Double}

/-- A multi-signed witness is one the circuit and the daemon take exactly where every slot's weights
are in bounds. -/
theorem multiMirrors_iff {now : String} {opts : ComplianceMultiSignedInput}
    {r : MultiSignedInputs}
    (h : buildComplianceMultiSignedInputs numberOf now opts = .ok r) :
    MultiMirrors r ↔ ∀ slot ∈ opts.slots, ∀ s ∈ slot, s.Weighted := by
  simp only [buildComplianceMultiSignedInputs, bind_ok, exists_unit, refuseIf_pass,
    bne_eq_false_iff_eq, pure, Except.pure, Except.ok.injEq] at h
  obtain ⟨five, threshold, floor, known, high, dated, sent, witnesses, made, distinct, enough,
    chain, -, rfl⟩ := h
  obtain ⟨length, each, signable⟩ := slotWitnesses_ok made
  refine ⟨fun mirrors => signable.mp mirrors.signable, fun weighted => ?_⟩
  refine ⟨length.trans five, signable.mpr weighted, fun w present => (each w present).1,
    fun w present => (each w present).2, duplicateIndex_none (by simpa using distinct), ?_,
    validateTimestamp_ok.mp dated, validateSubmitter_ok.mp sent⟩
  simp only [Bool.or_eq_false_iff, Bool.not_eq_false'] at threshold
  obtain ⟨⟨integer, positive⟩, bounded⟩ := threshold
  have nonneg : opts.thresholdM.lt (0 : Nat) = false := by
    obtain ⟨q, read⟩ : ∃ q, opts.thresholdM = .finite q := by
      cases read : opts.thresholdM <;> simp [read, isInteger, Double.toInteger] at integer ⊢
    rw [read, Double.finite_lt_nat, decide_eq_false_iff_not, not_lt] at positive ⊢
    exact le_trans (by simp) positive
  obtain ⟨m, isM⟩ := exists_nat integer nonneg
  rw [isM, nat_lt, decide_eq_false_iff_not, not_lt] at positive bounded high enough
  refine ⟨m, floor, isM, positive, bounded, ?_, high, enough⟩
  cases table : minMultiProviderThresholds opts.jurisdictionId with
  | none => simp [table] at known
  | some floor' =>
    rw [table, Option.elim_some, Except.ok.injEq] at known
    rw [known]

/-- Every witness a builder returns is one its circuit takes exactly where the request's bounds are
natural numbers, its transactions complete, its weights bounded; and the two risk-score builders
take the same scores and bounds. -/
theorem builders_mirror_iff (now : String) :
    (∀ opts r, buildRiskScoreInputs numberOf now opts = .ok r →
      (RiskMirrors numberOf r ↔ opts.claim.Natural)) ∧
    (∀ opts r, buildRiskScoreSignedInputs numberOf opts = .ok r →
      (RiskMirrors numberOf r.risk ↔ opts.claim.Natural)) ∧
    (∀ fuel opts r, buildPatternInputs numberOf now fuel opts = some (.ok r) →
      (PatternMirrors r ↔ opts.Complete)) ∧
    (∀ opts r, buildComplianceMultiSignedInputs numberOf now opts = .ok r →
      (MultiMirrors r ↔ ∀ slot ∈ opts.slots, ∀ s ∈ slot, s.Weighted)) ∧
    (∀ opts risk, (∃ r, buildRiskScoreSignedInputs numberOf opts = .ok r ∧ r.risk = risk) ↔
      SignedFields opts ∧ buildRiskScoreInputs numberOf now opts.unsigned = .ok risk) := by
  refine ⟨fun opts r h => ?_, fun opts r h => ?_, fun fuel opts r h => patternMirrors_iff h,
    fun opts r h => multiMirrors_iff h, signed_accepts_iff now⟩
  · obtain ⟨dated, sent, p, resolved, valid, checked, rfl⟩ := buildRiskScoreInputs_ok.mp h
    exact riskMirrors_iff resolved valid checked dated sent
  · obtain ⟨-, dated, sent, p, resolved, valid, checked, made⟩ :=
      buildRiskScoreSignedInputs_ok.mp ⟨r, h, rfl⟩
    rw [← made]
    exact riskMirrors_iff resolved valid checked dated sent

/-- A claim that the score is above minus five: true of every score, and let through. -/
def belowZeroRequest : RiskScoreInput where
  claim := .threshold (.finite (-5)) true
  providers := .score (40 : Nat)
  providerSetHash := "0x01"
  configHash := none
  timestamp := some "1700000000"
  submitter := "0x00000000000000000000000000000000000000aa"

omit [Host] in
/-- A builder returns a witness whose bound is not one the circuit knows. -/
theorem negative_bound_accepted :
    ∃ r, @buildRiskScoreInputs asciiHost (fun _ => (1700000000 : Nat)) "1700000000"
      belowZeroRequest = .ok r ∧ ¬ BoundsMirror r := by
  refine ⟨_, (@buildRiskScoreInputs_ok asciiHost _ _ _ _).mpr
    ⟨by decide, by decide, _, rfl, by decide +kernel, by decide +kernel, rfl⟩, ?_⟩
  rintro (⟨-, -, n, bound, -⟩ | ⟨wrong, -⟩)
  · have negative : (-5 : ℚ) = n := Double.finite.inj bound
    have := Nat.cast_nonneg (α := ℚ) n
    linarith
  · exact absurd (show "1" = "2" from wrong) (by decide)

end XochiSdk.Sdk.Inputs
