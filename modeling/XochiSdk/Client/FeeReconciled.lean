import Mathlib.Algebra.Order.Archimedean.Basic
import Mathlib.Tactic.FieldSimp
import XochiSdk.Client.Fee
import XochiSdk.Client.Machine.Play

/-!
# The fee arithmetic and its check agree

A computed breakdown passes the check under its own amount. A checked one whose basis points
are whole and not negative charges its headline rate, less at most three base units. A larger
amount never pays a smaller fee. Where a negative layer lowers the headline rate, the check asks for
no lower fee.
-/

namespace XochiSdk.Client

open XochiSdk.Js XochiSdk.Library XochiSdk.Signer

theorem bigInt_natText (n : Nat) : bigInt (toString (n : Int)) = some (n : Int) := by
  have digits : ∀ c ∈ n.repr.toList, Js.isDigit c = true := by
    intro c hc
    rw [Nat.toList_repr] at hc
    rw [isDigit_iff]
    exact Nat.isDigit_of_mem_toDigits (by decide) (by decide) hc
  have nonempty : n.repr.toList ≠ [] := by
    rw [Nat.toList_repr]
    exact Nat.toDigits_ne_nil
  change bigInt n.repr = _
  rw [bigInt_digits nonempty digits, readDigits, readDigits_ten digits, Nat.toList_repr,
    Nat.ofDigitChars_ten_toDigits]

/-! ## The layers are whole numbers -/

theorem toInteger_nat (n : Nat) : Double.toInteger (n : Double) = some (n : Int) := by
  rw [Double.natCast_def, Double.toInteger, if_pos (Rat.den_natCast n), Rat.num_natCast]

theorem ofRat_ne_nan (q : ℚ) : Double.ofRat q ≠ .nan := by
  unfold Double.ofRat
  dsimp only
  split <;> exact fun h => by cases h

/-- A number held between zero and a bound. -/
theorem clamp_finite {x : Double} (number : x ≠ .nan) (bound : Nat) :
    ∃ q : ℚ, 0 ≤ q ∧ q ≤ bound ∧
      Double.mathMin (bound : Nat) (Double.mathMax (0 : Nat) x) = .finite q := by
  have positive : (0 : ℚ) ≤ bound := Nat.cast_nonneg bound
  cases x with
  | nan => exact absurd rfl number
  | infinite negative =>
    cases negative with
    | true =>
      refine ⟨0, le_refl 0, positive, ?_⟩
      simp only [Double.natCast_def, Double.mathMax, Double.mathMin, Double.le]
      simp
    | false => exact ⟨bound, positive, le_refl _, by
        simp [Double.natCast_def, Double.mathMax, Double.mathMin, Double.le]⟩
  | finite a =>
    have lower : Double.mathMax ((0 : Nat) : Double) (.finite a) = .finite (max 0 a) := by
      simp only [Double.natCast_def, Double.mathMax, Double.le, Nat.cast_zero, decide_eq_true_eq,
        reduceCtorEq, or_self, if_false]
      split
      · rename_i nonneg
        rw [max_eq_right nonneg]
      · rename_i negative
        rw [max_eq_left (not_le.mp negative).le]
    have upper : Double.mathMin ((bound : Nat) : Double) (.finite (max 0 a)) =
        .finite (min (bound : ℚ) (max 0 a)) := by
      simp only [Double.natCast_def, Double.mathMin, Double.le, decide_eq_true_eq,
        reduceCtorEq, or_self, if_false]
      split
      · rename_i above
        rw [min_eq_left above]
      · rename_i below
        rw [min_eq_right (not_le.mp below).le]
    exact ⟨_, le_min positive (le_max_left 0 a), min_le_left _ _, by rw [lower, upper]⟩

theorem mathRound_nat {q : ℚ} {bound : Nat} (nonneg : 0 ≤ q) (le : q ≤ bound) :
    ∃ n ≤ bound, Double.mathRound (.finite q) = ((n : Nat) : Double) := by
  have low : 0 ≤ ⌊q + 1 / 2⌋ := Int.floor_nonneg.mpr (by linarith)
  have high : ⌊q + 1 / 2⌋ ≤ bound := by
    have : ⌊q + 1 / 2⌋ < (bound : Int) + 1 := Int.floor_lt.mpr (by push_cast; linarith)
    omega
  obtain ⟨n, hn⟩ := Int.eq_ofNat_of_zero_le low
  refine ⟨n, by omega, ?_⟩
  rw [Double.mathRound, hn]
  rfl

/-- Price impact is a whole number up to its cap, whatever the sizes. -/
theorem priceImpactBps_nat (fillUsd : Double) (liquidityUsd : Option Double) :
    ∃ n ≤ priceImpactCapBps, priceImpactBps fillUsd liquidityUsd = ((n : Nat) : Double) := by
  have none_ : ∃ n ≤ priceImpactCapBps, ((0 : Nat) : Double) = ((n : Nat) : Double) :=
    ⟨0, Nat.zero_le _, rfl⟩
  unfold priceImpactBps
  cases liquidityUsd with
  | none => exact none_
  | some liquidity =>
    dsimp only
    split
    · exact none_
    · rename_i known
      have impact : (Double.mul (priceImpactK : Nat) fillUsd).div liquidity ≠ .nan := by
        cases fillUsd with
        | nan => simp [Double.isFinite] at known
        | infinite _ => simp [Double.isFinite] at known
        | finite fill =>
          cases liquidity with
          | nan => simp [Double.isFinite] at known
          | infinite _ => simp [Double.isFinite] at known
          | finite depth =>
            have deep : depth ≠ 0 := by
              rintro rfl
              simp [Double.isFinite, Double.le] at known
            rw [Double.natCast_def, Double.mul]
            cases product : Double.ofRat ((priceImpactK : Nat) * fill) with
            | nan => exact absurd product (ofRat_ne_nan _)
            | infinite s => exact fun h => by cases h
            | finite q =>
              rw [Double.div, if_pos deep]
              exact ofRat_ne_nan _
      obtain ⟨q, low, high, clamped⟩ := clamp_finite impact priceImpactCapBps
      rw [clamped]
      exact mathRound_nat low high

theorem mathMax_nat {a b : Nat} (le : b ≤ a) :
    Double.mathMax (a : Double) (b : Double) = (a : Double) := by
  unfold Double.mathMax
  rw [if_neg (by simp [Double.natCast_def]), Double.le_nat]
  split
  · rename_i h
    rw [le.antisymm (of_decide_eq_true h)]
  · rfl

section

variable [Host]

/-- One layer of whole basis points. -/
theorem layerAmount_nat (base bps : Nat) :
    layerAmount base (bps : Double) = .ok ((base * bps / bpsDenominator : Nat) : Int) := by
  unfold layerAmount
  rw [Double.le_nat]
  split
  · rename_i none_
    have zero : base * bps = 0 := by
      rcases none_ with empty | free
      · rw [show base = 0 by omega, Nat.zero_mul]
      · rw [show bps = 0 by simpa using free, Nat.mul_zero]
    rw [zero]
    rfl
  · simp only [bigIntOfNumber, toInteger_nat, Except.ok.injEq, bind, Except.bind, pure, Except.pure]
    norm_cast

theorem bigIntOfText_nat (n : Nat) : bigIntOfText (toString (n : Int)) = .ok (n : Int) := by
  rw [bigIntOfText, bigInt_natText]

/-- An accepted amount is not negative. -/
theorem parseBaseAmount_nat {input : FeeAmount} {base : Int}
    (read : parseBaseAmount input = .ok base) : ∃ n : Nat, base = n := by
  refine Int.eq_ofNat_of_zero_le ?_
  cases input with
  | bigint n =>
    unfold parseBaseAmount at read
    dsimp only at read
    split at read
    · cases read
    · cases read
      omega
  | text s =>
    unfold parseBaseAmount at read
    dsimp only at read
    split at read
    · rename_i decimal
      obtain ⟨filled, digits⟩ := Bool.and_eq_true_iff.mp decimal
      have nonempty : s.toList ≠ [] := by simpa using filled
      rw [bigIntOfText, bigInt_digits nonempty (List.all_eq_true.mp digits)] at read
      cases read
      exact Int.natCast_nonneg _
    · cases read

end

/-! ## Whole layers -/

/-- The basis points of four layers. -/
structure LayerBps where
  solver : Nat
  impact : Nat
  venue : Nat
  routing : Nat

namespace LayerBps

def weights (bps : LayerBps) : List Nat := [bps.solver, bps.impact, bps.venue, bps.routing]

def total (bps : LayerBps) : Nat := bps.weights.sum

/-- The fee of a base amount: each layer floored by itself. -/
def fee (bps : LayerBps) (base : Nat) : Nat := (shares base bpsDenominator bps.weights).sum

/-- The breakdown these layers make of a base amount. -/
def breakdown (bps : LayerBps) (base : Nat) : FeeReconcilable where
  solverFeeBps := (bps.solver : Nat)
  priceImpactBps := (bps.impact : Nat)
  venueFeeBps := (bps.venue : Nat)
  routingFeeBps := (bps.routing : Nat)
  totalBps := (bps.total : Nat)
  solverFee := toString ((base * bps.solver / bpsDenominator : Nat) : Int)
  priceImpact := toString ((base * bps.impact / bpsDenominator : Nat) : Int)
  venueFee := toString ((base * bps.venue / bpsDenominator : Nat) : Int)
  routingFee := toString ((base * bps.routing / bpsDenominator : Nat) : Int)
  totalFee := toString (bps.fee base : Int)

theorem total_eq (bps : LayerBps) :
    bps.total = bps.solver + bps.impact + bps.venue + bps.routing := by
  simp only [total, weights, List.sum_cons, List.sum_nil]
  omega

theorem fee_eq (bps : LayerBps) (base : Nat) :
    bps.fee base = base * bps.solver / bpsDenominator + base * bps.impact / bpsDenominator +
      base * bps.venue / bpsDenominator + base * bps.routing / bpsDenominator := by
  simp only [fee, shares, weights, List.map_cons, List.map_nil, List.sum_cons, List.sum_nil]
  omega

/-- The headline rate's share exceeds the fee by at most three base units. -/
theorem gap (bps : LayerBps) (base : Nat) :
    bps.fee base ≤ base * bps.total / bpsDenominator ∧
      base * bps.total / bpsDenominator ≤ bps.fee base + 3 := by
  have positive : 0 < bpsDenominator := by decide
  have above := sum_shares_le base positive bps.weights
  have below := share_sum_lt base positive (show bps.weights ≠ [] from List.cons_ne_nil _ _)
  have four : bps.weights.length = 4 := rfl
  rw [four] at below
  exact ⟨above, by unfold fee total; omega⟩

theorem fee_mono (bps : LayerBps) {base larger : Nat} (le : base ≤ larger) :
    bps.fee base ≤ bps.fee larger :=
  sum_shares_mono le bpsDenominator bps.weights

/-- The clamped sum of whole layers, added in the check's order. -/
theorem clampedSum (bps : LayerBps) (small : bps.total < 2 ^ 53) :
    ((((bps.solver : Double).add (bps.impact : Nat)).add (bps.venue : Nat)).add
      (bps.routing : Nat)).mathMax (bps.solver : Nat) = ((bps.total : Nat) : Double) := by
  rw [total_eq] at small ⊢
  rw [Double.add_nat (by omega), Double.add_nat (by omega), Double.add_nat small,
    mathMax_nat (by omega)]

end LayerBps

/-- The schedule's layers for a trade, whatever its amount. -/
theorem feeLayersBps_nat (params : FeeComputeParams) (tier : FeeTier) (assetClass : AssetClass) :
    ∃ bps : LayerBps, bps.total < 2 ^ 53 ∧ feeLayersBps params tier assetClass =
      ((bps.solver : Double), (bps.impact : Double), (bps.venue : Double),
        (bps.routing : Double)) := by
  obtain ⟨impact, capped, priced⟩ :=
    priceImpactBps_nat (params.fillUsd.getD (0 : Nat)) params.availableLiquidityUsd
  refine ⟨⟨solverBaseBps assetClass, impact, venueBps tier assetClass,
    if params.acpOrigin then 0 else routingBps tier assetClass⟩, ?_, ?_⟩
  · have solver : solverBaseBps assetClass ≤ 18 := by cases assetClass <;> decide
    have venue : venueBps tier assetClass ≤ 10 := by cases tier <;> cases assetClass <;> decide
    have routing : routingBps tier assetClass ≤ 12 := by
      cases tier <;> cases assetClass <;> decide
    have cap : priceImpactCapBps = 150 := rfl
    rw [LayerBps.total_eq]
    dsimp only
    split <;> omega
  · rw [feeLayersBps, priced]
    cases params.acpOrigin <;> rfl

/-- The layers of a trade's own tier and asset class. -/
def tradeLayers (params : FeeComputeParams) : Double × Double × Double × Double :=
  feeLayersBps params
    (params.tier.getD
      (gateTier (scoreToTier (params.trustScore.getD (0 : Nat))) (params.attestations.getD [])))
    (params.assetClass.getD .stable)

/-- Whole layers that are a trade's. -/
structure LayersOf (params : FeeComputeParams) (bps : LayerBps) : Prop where
  layers : tradeLayers params =
    ((bps.solver : Double), (bps.impact : Double), (bps.venue : Double), (bps.routing : Double))
  small : bps.total < 2 ^ 53

theorem exists_layersOf (params : FeeComputeParams) : ∃ bps, LayersOf params bps := by
  obtain ⟨bps, small, layers⟩ := feeLayersBps_nat params _ (params.assetClass.getD .stable)
  exact ⟨bps, layers, small⟩

section

variable [Host]

/-- An amount that reads has a breakdown: its layers', floored one by one. -/
theorem computeFeeBreakdown_of_layers {params : FeeComputeParams} {bps : LayerBps} {base : Nat}
    (of_ : LayersOf params bps) (read : parseBaseAmount params.inputAmount = .ok (base : Int)) :
    ∃ core, computeFeeBreakdown params = .ok core ∧
      core.toFeeReconcilable = bps.breakdown base := by
  have summed : ((((bps.solver : Double).add (bps.venue : Nat)).add (bps.routing : Nat)).add
      (bps.impact : Nat)).mathMax (bps.solver : Nat) = ((bps.total : Nat) : Double) := by
    have small := of_.small
    rw [LayerBps.total_eq] at small ⊢
    rw [Double.add_nat (by omega), Double.add_nat (by omega), Double.add_nat (by omega),
      mathMax_nat (by omega)]
    congr 1
    omega
  have layers := of_.layers
  unfold tradeLayers at layers
  unfold computeFeeBreakdown
  dsimp only
  rw [layers, read]
  dsimp only [bind, Except.bind]
  rw [summed, layerAmount_nat, layerAmount_nat, layerAmount_nat, layerAmount_nat]
  refine ⟨_, rfl, ?_⟩
  simp only [LayerBps.breakdown, LayerBps.fee_eq]
  push_cast
  rfl

omit [Host] in
@[simp] theorem throwIf_ok {bad : Bool} {message : String} :
    throwIf bad message = .ok () ↔ bad = false := by
  cases bad <;> simp [throwIf]

theorem checkLayer_nat (base bps : Nat) (name : String) (amount : Int) :
    checkLayer base name amount (bps : Double) = .ok () ↔
      amount = ((base * bps / bpsDenominator : Nat) : Int) := by
  rw [checkLayer, layerAmount_nat]
  change throwIf _ _ = _ ↔ _
  rw [throwIf_ok, bne_eq_false_iff_eq]

omit [Host] in
theorem exists_unit {p : Unit → Prop} : (∃ u, p u) ↔ p () :=
  ⟨fun ⟨_, h⟩ => h, fun h => ⟨(), h⟩⟩

/-- What an accepted breakdown passed, in the check's order. -/
theorem accepted_iff {fb : FeeReconcilable} {input : FeeAmount} :
    assertFeeBreakdownInvariants fb (some input) = .ok () ↔
      fb.totalBps.strictEq
          ((((fb.solverFeeBps.add fb.priceImpactBps).add fb.venueFeeBps).add
            fb.routingFeeBps).mathMax fb.solverFeeBps) = true ∧
        fb.totalBps.lt fb.solverFeeBps = false ∧
        ∃ solver, bigIntOfText fb.solverFee = .ok solver ∧
        ∃ impact, bigIntOfText fb.priceImpact = .ok impact ∧
        ∃ venue, bigIntOfText fb.venueFee = .ok venue ∧
        ∃ routing, bigIntOfText fb.routingFee = .ok routing ∧
        ∃ total, bigIntOfText fb.totalFee = .ok total ∧
        solver + impact + venue + routing = total ∧
        ∃ base, parseBaseAmount input = .ok base ∧
        checkLayer base "solver_fee" solver fb.solverFeeBps = .ok () ∧
        checkLayer base "price_impact" impact fb.priceImpactBps = .ok () ∧
        checkLayer base "venue_fee" venue fb.venueFeeBps = .ok () ∧
        checkLayer base "routing_fee" routing fb.routingFeeBps = .ok () := by
  unfold assertFeeBreakdownInvariants
  simp only [bind_ok, exists_unit, throwIf_ok, Bool.not_eq_false', bne_eq_false_iff_eq]

/-- The breakdown of whole layers passes the check under its own amount. -/
theorem breakdown_passes {bps : LayerBps} {base : Nat} {input : FeeAmount}
    (small : bps.total < 2 ^ 53) (read : parseBaseAmount input = .ok (base : Int)) :
    assertFeeBreakdownInvariants (bps.breakdown base) (some input) = .ok () := by
  have equal : Double.strictEq ((bps.total : Nat) : Double) ((bps.total : Nat) : Double) = true := by
    simp [Double.strictEq, Double.natCast_def]
  have floor : Double.lt ((bps.total : Nat) : Double) (bps.solver : Nat) = false := by
    rw [Double.lt, Double.le_nat]
    by_cases same : bps.total = bps.solver
    · rw [same]
      simp
    · have above : ¬ bps.total ≤ bps.solver := by
        rw [LayerBps.total_eq] at same ⊢
        omega
      simp [above]
  refine accepted_iff.mpr ⟨?_, floor, _, bigIntOfText_nat _, _, bigIntOfText_nat _, _,
    bigIntOfText_nat _, _, bigIntOfText_nat _, _, bigIntOfText_nat _, ?_, _, read,
    (checkLayer_nat ..).mpr rfl, (checkLayer_nat ..).mpr rfl, (checkLayer_nat ..).mpr rfl,
    (checkLayer_nat ..).mpr rfl⟩
  · exact (congrArg _ (bps.clampedSum small)).trans equal
  · rw [LayerBps.fee_eq]
    push_cast
    rfl

/-- A checked breakdown of whole layers is what those layers make of the amount. -/
theorem accepted_whole {fb : FeeReconcilable} {input : FeeAmount} {bps : LayerBps}
    (accepted : assertFeeBreakdownInvariants fb (some input) = .ok ())
    (solver : fb.solverFeeBps = (bps.solver : Double))
    (impact : fb.priceImpactBps = (bps.impact : Double))
    (venue : fb.venueFeeBps = (bps.venue : Double))
    (routing : fb.routingFeeBps = (bps.routing : Double)) (small : bps.total < 2 ^ 53) :
    ∃ base : Nat, parseBaseAmount input = .ok (base : Int) ∧
      fb.totalBps = ((bps.total : Nat) : Double) ∧
      bigIntOfText fb.totalFee = .ok (bps.fee base : Int) := by
  obtain ⟨total, -, a, -, b, -, c, -, d, -, fee, charged, summed, base, read, first, second, third,
    fourth⟩ := accepted_iff.mp accepted
  obtain ⟨base, rfl⟩ := parseBaseAmount_nat read
  rw [solver, impact, venue, routing, bps.clampedSum small] at total
  rw [solver] at first
  rw [impact] at second
  rw [venue] at third
  rw [routing] at fourth
  refine ⟨base, read, ?_, ?_⟩
  · simpa [Double.strictEq] using (Bool.and_eq_true_iff.mp total).1
  · rw [charged, ← summed, (checkLayer_nat ..).mp first, (checkLayer_nat ..).mp second,
      (checkLayer_nat ..).mp third, (checkLayer_nat ..).mp fourth, LayerBps.fee_eq]
    push_cast
    rfl

/-- What a breakdown charges: its total fee, as an amount. -/
def charges (fb : FeeReconcilable) (fee : Nat) : Prop :=
  bigIntOfText fb.totalFee = .ok (fee : Int)

/-! ## Any layers -/

/-- The four layers of a breakdown, as the numbers they are. -/
structure LayerRates where
  solver : ℚ
  impact : ℚ
  venue : ℚ
  routing : ℚ

namespace LayerRates

def rates (l : LayerRates) : List ℚ := [l.solver, l.impact, l.venue, l.routing]

/-- The layers' positive parts, summed: what a breakdown is charged at. -/
def charged (l : LayerRates) : ℚ :=
  max l.solver 0 + max l.impact 0 + max l.venue 0 + max l.routing 0

/-- The total a breakdown of these layers is checked to have. -/
def clamped (l : LayerRates) : Double :=
  ((((Double.finite l.solver).add (.finite l.impact)).add (.finite l.venue)).add
    (.finite l.routing)).mathMax (.finite l.solver)

/-- A breakdown has these layers. -/
structure Of (l : LayerRates) (fb : FeeReconcilable) : Prop where
  solver : fb.solverFeeBps = .finite l.solver
  impact : fb.priceImpactBps = .finite l.impact
  venue : fb.venueFeeBps = .finite l.venue
  routing : fb.routingFeeBps = .finite l.routing

/-- Every positive layer is an integer. -/
def Whole (l : LayerRates) : Prop := ∀ q ∈ l.rates, 0 < q → q.den = 1

/-- The total is finite and the sum of the positive layers, unless one of these is no integer, which
no check of a positive amount gets past. -/
def Reconciles (l : LayerRates) : Prop :=
  ∃ total, l.clamped = .finite total ∧ (total = l.charged ∨ ¬l.Whole)

end LayerRates

/-- The positive part of a layer, in whole basis points. -/
def wholeBps (q : ℚ) : Nat := q.num.toNat

omit [Host] in
theorem wholeBps_of {q : ℚ} (whole : 0 < q → q.den = 1) : (wholeBps q : ℚ) = max q 0 := by
  unfold wholeBps
  by_cases positive : 0 < q
  · have num : 0 < q.num := Rat.num_pos.mpr positive
    have same : ((q.num.toNat : Nat) : Int) = q.num := Int.toNat_of_nonneg num.le
    rw [max_eq_left positive.le]
    calc ((q.num.toNat : Nat) : ℚ) = (((q.num.toNat : Nat) : Int) : ℚ) := by norm_cast
      _ = (q.num : ℚ) := by rw [same]
      _ = q := Rat.coe_int_num_of_den_eq_one (whole positive)
  · have num : q.num ≤ 0 := Rat.num_nonpos.mpr (not_lt.mp positive)
    rw [max_eq_right (not_lt.mp positive), Int.toNat_of_nonpos num]
    simp

/-- Whole layers' positive parts. -/
def LayerRates.bps (l : LayerRates) : LayerBps :=
  ⟨wholeBps l.solver, wholeBps l.impact, wholeBps l.venue, wholeBps l.routing⟩

omit [Host] in
theorem LayerRates.Whole.charged {l : LayerRates} (whole : l.Whole) :
    ((l.bps.total : Nat) : ℚ) = l.charged := by
  have part {q : ℚ} (mem : q ∈ l.rates) := wholeBps_of (whole q mem)
  rw [LayerBps.total_eq, LayerRates.charged]
  push_cast
  rw [LayerRates.bps, part (q := l.solver) (by simp [LayerRates.rates]),
    part (q := l.impact) (by simp [LayerRates.rates]),
    part (q := l.venue) (by simp [LayerRates.rates]),
    part (q := l.routing) (by simp [LayerRates.rates])]

omit [Host] in
/-- A number whose multiples, rounded down, stay within three of another's is the other. -/
theorem eq_of_floors {t p : ℚ} (near : ∀ n : Nat, n * p ≤ (⌊n * t⌋ : Int) ∧
    ((⌊n * t⌋ : Int) : ℚ) ≤ n * p + 3) : t = p := by
  apply le_antisymm
  · by_contra above
    have gap : 0 < t - p := by linarith
    obtain ⟨n, far⟩ := exists_nat_gt (4 / (t - p))
    have wide : 4 < n * (t - p) := (div_lt_iff₀ gap).mp far
    have next := Int.lt_floor_add_one (n * t)
    have := (near n).2
    linarith
  · by_contra below
    have gap : 0 < p - t := by linarith
    obtain ⟨n, far⟩ := exists_nat_gt (1 / (p - t))
    have wide : 1 < n * (p - t) := (div_lt_iff₀ gap).mp far
    have floor := Int.floor_le (n * t)
    have := (near n).1
    linarith

/-- The fee falls short of the headline rate's share of the amount by at most three units. -/
def Fair (fb : FeeReconcilable) (input : FeeAmount) : Prop :=
  ∃ (base fee : Nat) (total : ℚ), parseBaseAmount input = .ok (base : Int) ∧ charges fb fee ∧
    fb.totalBps = .finite total ∧ (fee : Int) ≤ ⌊base * total / bpsDenominator⌋ ∧
    ⌊base * total / bpsDenominator⌋ ≤ (fee : Int) + 3

theorem layerAmount_none {base : Nat} {q : ℚ} (none_ : base = 0 ∨ ¬0 < q) :
    layerAmount (base : Int) (.finite q) = .ok 0 := by
  unfold layerAmount
  rw [if_pos]
  rw [Double.finite_le_nat]
  rcases none_ with rfl | low
  · exact .inl le_rfl
  · right
    simpa using not_lt.mp low

theorem layerAmount_fraction {base : Nat} {q : ℚ} (some_ : base ≠ 0) (positive : 0 < q)
    (fraction : q.den ≠ 1) : ∃ message, layerAmount (base : Int) (.finite q) = .error message := by
  have large : ¬((base : Int) ≤ 0 ∨ Double.le (.finite q) ((0 : Nat) : Double) = true) := by
    rw [Double.finite_le_nat]
    simp only [Nat.cast_zero, decide_eq_true_eq, not_or, not_le]
    exact ⟨by omega, positive⟩
  unfold layerAmount
  rw [if_neg large, bigIntOfNumber, Double.toInteger, if_neg fraction]
  exact ⟨_, rfl⟩

/-- A checked layer is its share of the amount, and no positive fraction of any amount but zero. -/
theorem checkLayer_finite {base : Nat} {name : String} {amount : Int} {q : ℚ} :
    checkLayer base name amount (.finite q) = .ok () ↔
      (base ≠ 0 → 0 < q → q.den = 1) ∧
        amount = ((base * wholeBps q / bpsDenominator : Nat) : Int) := by
  by_cases none_ : base = 0 ∨ ¬0 < q
  · have free : base * wholeBps q = 0 := by
      rcases none_ with rfl | low
      · simp
      · rw [wholeBps, Int.toNat_of_nonpos (Rat.num_nonpos.mpr (not_lt.mp low)), Nat.mul_zero]
    rw [checkLayer, layerAmount_none none_, free]
    change throwIf _ _ = _ ↔ _
    rw [throwIf_ok, bne_eq_false_iff_eq]
    constructor
    · intro same
      exact ⟨fun some_ positive => (none_.elim some_ (fun low => low positive)).elim, same⟩
    · intro both
      exact both.2
  obtain ⟨some_, positive⟩ := not_or.mp none_
  rw [not_not] at positive
  by_cases whole : q.den = 1
  · have same : Double.finite q = ((wholeBps q : Nat) : Double) := by
      rw [Double.natCast_def, wholeBps_of fun _ => whole, max_eq_left positive.le]
    rw [same, checkLayer_nat]
    constructor
    · intro amounts
      exact ⟨fun _ _ => whole, amounts⟩
    · intro both
      exact both.2
  · obtain ⟨message, failed⟩ := layerAmount_fraction some_ positive whole
    constructor
    · intro passed
      rw [checkLayer, failed] at passed
      cases passed
    · intro both
      exact absurd (both.1 some_ positive) whole

/-- What an accepted breakdown of any layers charges. -/
theorem accepted_layers {l : LayerRates} {fb : FeeReconcilable} {input : FeeAmount}
    (of_ : l.Of fb) (accepted : assertFeeBreakdownInvariants fb (some input) = .ok ()) :
    ∃ base : Nat, parseBaseAmount input = .ok (base : Int) ∧ fb.totalBps = l.clamped ∧
      charges fb (l.bps.fee base) ∧ (base ≠ 0 → l.Whole) := by
  obtain ⟨total, -, a, -, b, -, c, -, d, -, fee, charged, summed, base, read, first, second, third,
    fourth⟩ := accepted_iff.mp accepted
  obtain ⟨base, rfl⟩ := parseBaseAmount_nat read
  rw [of_.solver, checkLayer_finite] at first
  rw [of_.impact, checkLayer_finite] at second
  rw [of_.venue, checkLayer_finite] at third
  rw [of_.routing, checkLayer_finite] at fourth
  rw [of_.solver, of_.impact, of_.venue, of_.routing] at total
  refine ⟨base, read, ?_, ?_, ?_⟩
  · unfold LayerRates.clamped
    simpa [Double.strictEq] using (Bool.and_eq_true_iff.mp total).1
  · unfold charges
    rw [charged, ← summed, first.2, second.2, third.2, fourth.2, LayerBps.fee_eq]
    push_cast
    rfl
  · intro some_ q mem
    simp only [LayerRates.rates, List.mem_cons, List.not_mem_nil, or_false] at mem
    rcases mem with rfl | rfl | rfl | rfl
    · exact first.1 some_
    · exact second.1 some_
    · exact third.1 some_
    · exact fourth.1 some_

/-- The breakdown of any layers that the check is given. -/
def LayerRates.breakdown (l : LayerRates) (base : Nat) : FeeReconcilable where
  solverFeeBps := .finite l.solver
  priceImpactBps := .finite l.impact
  venueFeeBps := .finite l.venue
  routingFeeBps := .finite l.routing
  totalBps := l.clamped
  solverFee := toString ((base * l.bps.solver / bpsDenominator : Nat) : Int)
  priceImpact := toString ((base * l.bps.impact / bpsDenominator : Nat) : Int)
  venueFee := toString ((base * l.bps.venue / bpsDenominator : Nat) : Int)
  routingFee := toString ((base * l.bps.routing / bpsDenominator : Nat) : Int)
  totalFee := toString (l.bps.fee base : Int)

omit [Host] in
theorem add_finite_ne_nan {x : Double} (number : x ≠ .nan) (q : ℚ) :
    x.add (.finite q) ≠ .nan := by
  cases x with
  | nan => exact absurd rfl number
  | infinite s => simp [Double.add]
  | finite p => exact ofRat_ne_nan _

omit [Host] in
theorem clamped_spec (l : LayerRates) :
    l.clamped ≠ .nan ∧ l.clamped.lt (.finite l.solver) = false := by
  have number := add_finite_ne_nan (add_finite_ne_nan
    (add_finite_ne_nan (x := .finite l.solver) (by simp) l.impact) l.venue) l.routing
  unfold LayerRates.clamped
  generalize (((Double.finite l.solver).add (.finite l.impact)).add (.finite l.venue)).add
    (.finite l.routing) = sum at number
  unfold Double.mathMax
  rw [if_neg (by simp [number])]
  by_cases below : sum.le (.finite l.solver) = true
  · simp [below, Double.lt]
  · rw [if_neg below]
    refine ⟨number, ?_⟩
    simp [Double.lt, below]

theorem breakdown_accepted {l : LayerRates} {base : Nat} (whole : base ≠ 0 → l.Whole) :
    assertFeeBreakdownInvariants (l.breakdown base) (some (.bigint base)) = .ok () := by
  obtain ⟨number, floor⟩ := clamped_spec l
  have checked {q : ℚ} (mem : q ∈ l.rates) (name : String) :
      checkLayer base name ((base * wholeBps q / bpsDenominator : Nat) : Int) (.finite q) =
        .ok () :=
    checkLayer_finite.mpr ⟨fun some_ => whole some_ q mem, rfl⟩
  refine accepted_iff.mpr ⟨?_, floor, _, bigIntOfText_nat _, _, bigIntOfText_nat _, _,
    bigIntOfText_nat _, _, bigIntOfText_nat _, _, bigIntOfText_nat _, ?_, base, ?_,
    checked (by simp [LayerRates.rates]) _, checked (by simp [LayerRates.rates]) _,
    checked (by simp [LayerRates.rates]) _, checked (by simp [LayerRates.rates]) _⟩
  · change Double.strictEq l.clamped l.clamped = true
    simp [Double.strictEq, number]
  · rw [LayerBps.fee_eq]
    push_cast
    rfl
  · rw [parseBaseAmount, if_neg (by omega)]

omit [Host] in
theorem floor_share (base total : Nat) :
    ⌊(base : ℚ) * (total : ℚ) / (bpsDenominator : Nat)⌋ =
      ((base * total / bpsDenominator : Nat) : Int) := by
  have whole : (base : ℚ) * (total : ℚ) = ((base * total : Nat) : ℚ) := by push_cast; rfl
  rw [whole, Rat.floor_natCast_div_natCast]
  norm_cast

omit [Host] in
/-- An amount of whole denominators is charged without rounding. -/
theorem fee_multiple (bps : LayerBps) (n : Nat) :
    bps.fee (bpsDenominator * n) = n * bps.total := by
  have share (weight : Nat) : bpsDenominator * n * weight / bpsDenominator = n * weight := by
    rw [Nat.mul_assoc, Nat.mul_div_cancel_left _ (by decide)]
  rw [LayerBps.fee_eq, LayerBps.total_eq, share, share, share, share]
  ring

/-- The layers under which every accepted breakdown is fair, whatever its amount. -/
theorem fair_iff (l : LayerRates) :
    (∀ fb input, l.Of fb → assertFeeBreakdownInvariants fb (some input) = .ok () →
      Fair fb input) ↔ l.Reconciles := by
  constructor
  · intro every
    have fair (base : Nat) (whole : base ≠ 0 → l.Whole) :=
      every (l.breakdown base) (.bigint base) ⟨rfl, rfl, rfl, rfl⟩ (breakdown_accepted whole)
    obtain ⟨_, _, total, -, -, finite, -⟩ := fair 0 (fun some_ => absurd rfl some_)
    have finite : l.clamped = .finite total := finite
    refine ⟨total, finite, ?_⟩
    by_cases whole : l.Whole
    · left
      apply eq_of_floors
      intro n
      obtain ⟨base, fee, total', read, charged, same, low, high⟩ :=
        fair (bpsDenominator * n) fun _ => whole
      have amount : bpsDenominator * n = base := by
        rw [parseBaseAmount, if_neg (by omega)] at read
        exact_mod_cast Except.ok.inj read
      subst amount
      have spent : l.bps.fee (bpsDenominator * n) = fee :=
        Int.ofNat.inj (Except.ok.inj ((bigIntOfText_nat _).symm.trans charged))
      rw [fee_multiple] at spent
      cases finite.symm.trans same
      have share :
          ((bpsDenominator * n : Nat) : ℚ) * total / (bpsDenominator : Nat) = n * total := by
        have positive : ((bpsDenominator : Nat) : ℚ) ≠ 0 := by norm_num [bpsDenominator]
        push_cast
        field_simp
      rw [share, ← spent] at low high
      rw [← whole.charged]
      constructor
      · exact_mod_cast low
      · exact_mod_cast high
    · exact .inr whole
  · rintro ⟨total, finite, reconciled⟩ fb input of_ accepted
    obtain ⟨base, read, total_eq, charged, whole⟩ := accepted_layers of_ accepted
    refine ⟨base, l.bps.fee base, total, read, charged, total_eq.trans finite, ?_⟩
    by_cases none_ : base = 0
    · subst none_
      simp [LayerBps.fee_eq]
    · rcases reconciled with same | fraction
      · rw [same, ← (whole none_).charged, floor_share]
        have gap := l.bps.gap base
        omega
      · exact absurd (whole none_) fraction

omit [Host] in
theorem add_int {a b : Int} (small : (a + b).natAbs < 2 ^ 53) :
    (Double.finite a).add (.finite b) = .finite ((a + b : Int) : ℚ) := by
  rw [Double.add, ← Int.cast_add, Double.ofRat_int small]

omit [Host] in
/-- Integer layers reconcile where the solver's is not negative, and the others are all added or
all clamped away. -/
theorem reconciles_int {s i v r : Int}
    (small : s.natAbs + i.natAbs + v.natAbs + r.natAbs < 2 ^ 53) :
    (LayerRates.mk s i v r).Reconciles ↔
      0 ≤ s ∧ ((0 ≤ i ∧ 0 ≤ v ∧ 0 ≤ r) ∨ (i ≤ 0 ∧ v ≤ 0 ∧ r ≤ 0)) := by
  have clamped : (LayerRates.mk s i v r).clamped = .finite ((max (s + i + v + r) s : Int) : ℚ) := by
    unfold LayerRates.clamped
    rw [add_int (by omega), add_int (by omega), add_int (by omega), Double.mathMax,
      if_neg (by simp)]
    have order : Double.le (.finite ((s + i + v + r : Int) : ℚ)) (.finite s) =
        decide (s + i + v + r ≤ s) := by
      unfold Double.le
      exact decide_eq_decide.mpr Int.cast_le
    rw [order]
    by_cases below : s + i + v + r ≤ s
    · rw [if_pos (decide_eq_true below), max_eq_right below]
    · rw [if_neg (by simpa using below), max_eq_left (not_le.mp below).le]
  have whole : (LayerRates.mk s i v r).Whole := by
    intro q mem _
    simp only [LayerRates.rates, List.mem_cons, List.not_mem_nil, or_false] at mem
    rcases mem with rfl | rfl | rfl | rfl
    · exact Rat.den_intCast s
    · exact Rat.den_intCast i
    · exact Rat.den_intCast v
    · exact Rat.den_intCast r
  have charged : (LayerRates.mk s i v r).charged =
      ((max s 0 + max i 0 + max v 0 + max r 0 : Int) : ℚ) := by
    unfold LayerRates.charged
    push_cast
    rfl
  unfold LayerRates.Reconciles
  rw [clamped, charged]
  constructor
  · rintro ⟨total, same, equal | fraction⟩
    · cases same
      have equal : max (s + i + v + r) s = max s 0 + max i 0 + max v 0 + max r 0 := by
        exact_mod_cast equal
      omega
    · exact absurd whole fraction
  · intro signs
    refine ⟨_, rfl, .inl ?_⟩
    have equal : max (s + i + v + r) s = max s 0 + max i 0 + max v 0 + max r 0 := by omega
    exact_mod_cast equal

/-- Every computed breakdown passes its own check; a checked one of whole layers charges its
headline rate, short of it by three base units at most; a larger amount never pays less; and the
layers that are charged so at every amount are those that reconcile: of integer layers, those whose
solver layer is not negative and whose others are none of them negative, or none positive. -/
theorem feeArithmetic_agrees :
    (∀ params base, parseBaseAmount params.inputAmount = .ok base →
        ∃ core, computeFeeBreakdown params = .ok core ∧
          assertFeeBreakdownInvariants core.toFeeReconcilable (some params.inputAmount) =
            .ok ()) ∧
      (∀ fb input (bps : LayerBps), assertFeeBreakdownInvariants fb (some input) = .ok () →
        fb.solverFeeBps = (bps.solver : Double) → fb.priceImpactBps = (bps.impact : Double) →
        fb.venueFeeBps = (bps.venue : Double) → fb.routingFeeBps = (bps.routing : Double) →
        bps.total < 2 ^ 53 →
        ∃ base fee : Nat, parseBaseAmount input = .ok (base : Int) ∧
          fb.totalBps = ((bps.total : Nat) : Double) ∧ charges fb fee ∧
          fee ≤ base * bps.total / bpsDenominator ∧
          base * bps.total / bpsDenominator ≤ fee + 3) ∧
      (∀ params larger base base' core core', computeFeeBreakdown params = .ok core →
        computeFeeBreakdown { params with inputAmount := larger } = .ok core' →
        parseBaseAmount params.inputAmount = .ok base → parseBaseAmount larger = .ok base' →
        base ≤ base' →
        ∃ fee fee', charges core.toFeeReconcilable fee ∧ charges core'.toFeeReconcilable fee' ∧
          fee ≤ fee') ∧
      (∀ l : LayerRates, (∀ fb input, l.Of fb →
        assertFeeBreakdownInvariants fb (some input) = .ok () → Fair fb input) ↔
          l.Reconciles) ∧
      ∀ s i v r : Int, s.natAbs + i.natAbs + v.natAbs + r.natAbs < 2 ^ 53 →
        ((∀ fb input, (LayerRates.mk s i v r).Of fb →
          assertFeeBreakdownInvariants fb (some input) = .ok () → Fair fb input) ↔
          0 ≤ s ∧ ((0 ≤ i ∧ 0 ≤ v ∧ 0 ≤ r) ∨ (i ≤ 0 ∧ v ≤ 0 ∧ r ≤ 0))) := by
  refine ⟨fun params base read => ?_, fun fb input bps accepted solver impact venue routing
    small => ?_, fun params larger base base' core core' computed computed' read read' le => ?_,
    fair_iff, fun s i v r small => (fair_iff _).trans (reconciles_int small)⟩
  · obtain ⟨bps, of_⟩ := exists_layersOf params
    obtain ⟨base, rfl⟩ := parseBaseAmount_nat read
    obtain ⟨core, computed, shape⟩ := computeFeeBreakdown_of_layers of_ read
    exact ⟨core, computed, by rw [shape]; exact breakdown_passes of_.small read⟩
  · obtain ⟨base, read, total, charged⟩ :=
      accepted_whole accepted solver impact venue routing small
    exact ⟨base, bps.fee base, read, total, charged, bps.gap base⟩
  · obtain ⟨bps, of_⟩ := exists_layersOf params
    obtain ⟨base, rfl⟩ := parseBaseAmount_nat read
    obtain ⟨base', rfl⟩ := parseBaseAmount_nat read'
    -- The layers do not depend on the amount.
    have of' : LayersOf { params with inputAmount := larger } bps := ⟨of_.layers, of_.small⟩
    obtain ⟨made, made_eq, shape⟩ := computeFeeBreakdown_of_layers of_ read
    obtain ⟨made', made_eq', shape'⟩ := computeFeeBreakdown_of_layers of' read'
    cases computed.symm.trans made_eq
    cases computed'.symm.trans made_eq'
    refine ⟨bps.fee base, bps.fee base', ?_, ?_, bps.fee_mono (by exact_mod_cast le)⟩
    · rw [shape]
      exact bigIntOfText_nat _
    · rw [shape']
      exact bigIntOfText_nat _

end

/-- Six points given back on the venue layer, whose amount stays at zero. -/
def rebated : FeeReconcilable where
  solverFeeBps := (8 : Nat)
  priceImpactBps := (0 : Nat)
  venueFeeBps := .finite (-6)
  routingFeeBps := (8 : Nat)
  totalBps := (10 : Nat)
  solverFee := "8"
  priceImpact := "0"
  venueFee := "0"
  routingFee := "8"
  totalFee := "16"

/-- A negative layer lowers the headline rate and not the fee: sixteen units charged at ten
basis points of ten thousand. -/
theorem rebated_overcharges :
    @assertFeeBreakdownInvariants plainHost rebated (some (.bigint 10000)) = .ok () ∧
      @charges plainHost rebated 16 ∧ ¬ 16 ≤ 10000 * 10 / bpsDenominator :=
  ⟨by decide +kernel, by unfold charges; decide +kernel, by decide⟩

theorem feeArithmetic_agrees_sample :
    ∃ core, @computeFeeBreakdown plainHost
        { inputAmount := .text "1000000", assetClass := none, trustScore := none, tier := none
          attestations := none, acpOrigin := false, fillUsd := none
          availableLiquidityUsd := none } = .ok core ∧
      @assertFeeBreakdownInvariants plainHost core.toFeeReconcilable (some (.text "1000000")) =
        .ok () :=
  (@feeArithmetic_agrees plainHost).1 _ 1000000 (by decide +kernel)

end XochiSdk.Client
