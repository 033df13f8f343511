import XochiSdk.Sdk.Inputs.RiskMirrors

/-!
# The pattern witness against the circuit

What the circuit asserts of a pattern witness, and when the builder returns one it accepts: where
the request has exactly the transactions it names, as integers.
-/

namespace XochiSdk.Sdk.Inputs

open XochiSdk.Js Signer

/-- What the pattern circuit asserts of a witness: as many transactions as it names, each a positive
amount at a time in the window that ends at the stamp, and zero padding after them. -/
structure PatternMirrors (r : PatternInputs) : Prop where
  lengths : r.amounts.length = 16 ∧ r.timestamps.length = 16
  transactions : ∃ stamp window count : Nat,
    r.timestamp.value = stamp ∧ minTimestamp ≤ stamp ∧ stamp < maxTimestamp ∧
    r.timeWindow = window ∧ patternTimeWindowMin ≤ window ∧ window ≤ patternTimeWindowMax ∧
    r.numTransactions = count ∧ count ≤ 16 ∧
    (∀ i < count, ∃ amount time : Nat, r.amounts.getD i .nan = amount ∧ 0 < amount ∧
      r.timestamps.getD i .nan = time ∧ 0 < time ∧ time ≤ stamp ∧ stamp ≤ time + window) ∧
    ∀ i < 16, count ≤ i →
      r.amounts.getD i .nan = (0 : Nat) ∧ r.timestamps.getD i .nan = (0 : Nat)
  analysis : ∃ kind : Nat, r.analysisType = kind ∧ 0 < kind ∧ kind ≤ 3
  reporting : ∃ n : Nat, r.reportingThreshold = n ∧ (n : Int) ≤ maxReportingThreshold
  submitter : isSubmitter r.submitter = true ∧ bigInt r.submitter ≠ some 0

/-- The transactions of a request are all given, as integers, with none beyond them. -/
def PatternInput.Complete (opts : PatternInput) : Prop :=
  isInteger opts.timeWindow = true ∧
  ∃ count : Nat, opts.numTransactions = count ∧
    count ≤ opts.amounts.length ∧ count ≤ opts.timestamps.length ∧
    (∀ i < count, isInteger (opts.amounts.getD i .nan) = true ∧
      isInteger (opts.timestamps.getD i .nan) = true) ∧
    (∀ i < opts.amounts.length, count ≤ i → opts.amounts.getD i .nan = (0 : Nat)) ∧
    ∀ i < opts.timestamps.length, count ≤ i → opts.timestamps.getD i .nan = (0 : Nat)

theorem isInteger_of_nat {x : Double} {k : Nat} (h : x = k) : isInteger x = true :=
  h ▸ nat_isInteger k

/-- A number above zero that is an integer is a positive natural number. -/
theorem exists_positive {x : Double} (integer : isInteger x = true)
    (positive : x.le (0 : Nat) = false) : ∃ k : Nat, x = k ∧ 0 < k := by
  have nonneg : x.lt (0 : Nat) = false := by
    rw [Double.lt, positive, Bool.false_and]
  obtain ⟨k, rfl⟩ := exists_nat integer nonneg
  rw [Double.le_nat, decide_eq_false_iff_not] at positive
  exact ⟨k, rfl, by omega⟩

theorem nat_sub {a b : Nat} (ordered : b ≤ a) (small : a < 2 ^ 53) :
    Double.sub (a : Double) (b : Double) = ((a - b : Nat) : Double) := by
  have exact := Double.ofRat_int (n := ((a - b : Nat) : Int)) (by omega)
  simp only [Double.natCast_def, Double.sub, Double.neg, Double.add]
  rw [← sub_eq_add_neg, ← Nat.cast_sub ordered]
  simpa using exact

theorem inside_of_positive {values : List Double} {i k : Nat} (bounded : i < 16)
    (read : (padTo 16 ((0 : Nat) : Double) values).getD i .nan = k) (positive : 0 < k) :
    i < values.length := by
  by_contra outside
  rw [getD_padTo_right (not_lt.mp outside) bounded] at read
  have := nat_strictEq 0 k
  rw [read] at this
  simp [nat_strictEq] at this
  omega

variable [Host]

/-- What the body of the loop lets through of an entry whose numbers are integers. -/
theorem checkTransaction_ok {opts : PatternInput} {stamp : Stamp} {i ts window : Nat}
    (checked : checkTransaction opts stamp i = .ok ()) (dated : stamp.value = ts)
    (small : ts < 2 ^ 53) (wide : opts.timeWindow = window)
    (amountInteger : isInteger (opts.amounts.getD i .nan) = true)
    (timeInteger : isInteger (opts.timestamps.getD i .nan) = true) :
    ∃ amount time : Nat, opts.amounts.getD i .nan = amount ∧ 0 < amount ∧
      opts.timestamps.getD i .nan = time ∧ 0 < time ∧ time ≤ ts ∧ ts ≤ time + window := by
  simp only [checkTransaction, then_ok, refuseIf_pass] at checked
  obtain ⟨spent, later, past, inside⟩ := checked
  obtain ⟨amount, amountIs, paid⟩ := exists_positive amountInteger spent
  obtain ⟨time, timeIs, late⟩ := exists_positive timeInteger later
  rw [dated, timeIs, nat_lt, decide_eq_false_iff_not, not_lt] at past
  rw [dated, timeIs, wide, nat_sub past small, nat_lt, decide_eq_false_iff_not, not_lt] at inside
  exact ⟨amount, time, amountIs, paid, timeIs, late, past, by omega⟩

/-- A loop that ends has passed every entry below its bound. -/
theorem checkTransactions_ok {opts : PatternInput} {stamp : Stamp} {count : Nat}
    (bound : opts.numTransactions = count) (small : count ≤ 2 ^ 53) :
    ∀ fuel i, checkTransactions opts stamp fuel i = some (.ok ()) →
      ∀ j, i ≤ j → j < count → checkTransaction opts stamp j = .ok () := by
  intro fuel
  induction fuel with
  | zero =>
    intro i ended j from_ below
    have running : (counter i : Double).lt opts.numTransactions = true := by
      rw [bound, nat_lt, decide_eq_true_eq, counter]
      omega
    simp [checkTransactions, running] at ended
  | succ fuel ih =>
    intro i ended j from_ below
    have running : (counter i : Double).lt opts.numTransactions = true := by
      rw [bound, nat_lt, decide_eq_true_eq, counter]
      omega
    have here : counter i = i := min_eq_left (by omega)
    rw [checkTransactions, if_pos running, here] at ended
    cases checked : checkTransaction opts stamp i with
    | error e => simp [checked] at ended
    | ok _ =>
      rcases Nat.eq_or_lt_of_le from_ with rfl | after
      · exact checked
      · rw [checked] at ended
        exact ih (i + 1) ended j after below

variable {numberOf : String → Double}

theorem resolvePatternTimestamp_dated {timestamp : Option String}
    {notBefore : Option SignedTimestamp} {now : String} {stamp : Stamp}
    (h : resolvePatternTimestamp numberOf timestamp notBefore now = .ok stamp) :
    validateTimestamp stamp.value = .ok () := by
  obtain ⟨earliest, parsed, rest⟩ := bind_ok.mp h
  have earliestDated : ∀ x ∈ earliest, validateTimestamp x = .ok () := by
    cases notBefore with
    | none =>
      obtain rfl := Except.ok.inj parsed
      simp
    | some notBefore =>
      obtain ⟨valid, returned⟩ := then_ok.mp parsed
      obtain rfl := Except.ok.inj returned
      simpa using valid
  cases timestamp with
  | some text =>
    simp only [then_ok, pure, Except.pure, Except.ok.injEq] at rest
    obtain ⟨valid, -, rfl⟩ := rest
    exact valid
  | none =>
    obtain ⟨valid, chosen⟩ := then_ok.mp rest
    cases earliest with
    | none =>
      obtain rfl := Except.ok.inj chosen
      exact valid
    | some x =>
      simp only [pure, Except.pure] at chosen
      split_ifs at chosen
      · obtain rfl := Except.ok.inj chosen
        exact earliestDated x rfl
      · obtain rfl := Except.ok.inj chosen
        exact valid

theorem validateReportingThreshold_ok {x : Double} :
    validateReportingThreshold x = .ok () ↔
      ∃ n : Nat, x = n ∧ (n : Int) ≤ maxReportingThreshold := by
  simp only [validateReportingThreshold, then_ok, refuseIf_pass, Bool.or_eq_false_iff,
    Bool.not_eq_false']
  constructor
  · rintro ⟨⟨integer, nonneg⟩, bounded⟩
    obtain ⟨n, rfl⟩ := exists_nat integer nonneg
    rw [nat_toInteger, Option.any_some, decide_eq_false_iff_not, not_lt] at bounded
    exact ⟨n, rfl, bounded⟩
  · rintro ⟨n, rfl, bounded⟩
    simp [nat_isInteger, nat_lt, nat_toInteger, bounded]

/-- What stands before the loop. -/
theorem preparePattern_ok {now : String} {opts : PatternInput} {stamp : Stamp}
    (h : preparePattern numberOf now opts = .ok stamp) :
    opts.amounts.length ≤ 16 ∧ opts.timestamps.length ≤ 16 ∧
      (∃ kind : Nat, opts.analysisType = kind ∧ 0 < kind ∧ kind ≤ 3) ∧
      (∃ n : Nat, opts.reportingThreshold = n ∧ (n : Int) ≤ maxReportingThreshold) ∧
      validateSubmitter opts.submitter = .ok () ∧ validateTimestamp stamp.value = .ok () ∧
      opts.timeWindow.lt patternTimeWindowMin = false ∧
      Double.lt patternTimeWindowMax opts.timeWindow = false := by
  simp only [preparePattern, bind_ok, exists_unit, refuseIf_pass, pure, Except.pure,
    Except.ok.injEq] at h
  obtain ⟨fits, kind, reporting, sent, _, resolved, above, below, rfl⟩ := h
  rw [Bool.or_eq_false_iff, decide_eq_false_iff_not, decide_eq_false_iff_not, not_lt,
    not_lt] at fits
  refine ⟨fits.1, fits.2, ?_, validateReportingThreshold_ok.mp reporting, sent,
    resolvePatternTimestamp_dated resolved, above, below⟩
  simp only [Double.strictEq, Bool.and_eq_false_iff, Bool.not_eq_false', Bool.and_eq_true,
    beq_iff_eq] at kind
  rcases kind with (⟨one, -⟩ | ⟨two, -⟩) | ⟨three, -⟩
  · exact ⟨1, one, by norm_num⟩
  · exact ⟨2, two, by norm_num⟩
  · exact ⟨3, three, by norm_num⟩

/-- What `buildPatternInputs` passes before it returns. -/
theorem buildPatternInputs_ok {now : String} {fuel : Nat} {opts : PatternInput}
    {r : PatternInputs} (h : buildPatternInputs numberOf now fuel opts = some (.ok r)) :
    ∃ stamp, preparePattern numberOf now opts = .ok stamp ∧
      checkTransactions opts stamp fuel 0 = some (.ok ()) ∧ r = patternInputs opts stamp := by
  unfold buildPatternInputs at h
  split at h
  · simp at h
  · rename_i stamp prepared
    split at h
    · simp at h
    · simp at h
    · rename_i passed
      obtain rfl := Except.ok.inj (Option.some.inj h)
      exact ⟨stamp, prepared, passed, rfl⟩

/-- A pattern witness is one the circuit takes exactly where the request is complete. -/
theorem patternMirrors_iff {now : String} {fuel : Nat} {opts : PatternInput} {r : PatternInputs}
    (h : buildPatternInputs numberOf now fuel opts = some (.ok r)) :
    PatternMirrors r ↔ opts.Complete := by
  obtain ⟨stamp, prepared, passed, rfl⟩ := buildPatternInputs_ok h
  obtain ⟨amountsFit, timesFit, kind, reporting, sent, dated, above, below⟩ :=
    preparePattern_ok prepared
  obtain ⟨ts, early, late, stampIs⟩ := validateTimestamp_ok.mp dated
  constructor
  · intro mirrors
    obtain ⟨_, window, count, -, -, -, wide, -, -, counted, few, active, padding⟩ :=
      mirrors.transactions
    have inside : ∀ i < count, i < opts.amounts.length ∧ i < opts.timestamps.length := by
      intro i below
      obtain ⟨amount, time, amountIs, paid, timeIs, later, -⟩ := active i below
      exact ⟨inside_of_positive (by omega) amountIs paid,
        inside_of_positive (by omega) timeIs later⟩
    refine ⟨isInteger_of_nat wide, count, counted, ?_, ?_, fun i below => ?_,
      fun i below after => ?_, fun i below after => ?_⟩
    · by_contra short
      exact absurd (inside opts.amounts.length (not_le.mp short)).1 (lt_irrefl _)
    · by_contra short
      exact absurd (inside opts.timestamps.length (not_le.mp short)).2 (lt_irrefl _)
    · obtain ⟨amount, time, amountIs, -, timeIs, -⟩ := active i below
      have entry : (patternInputs opts stamp).amounts.getD i .nan = opts.amounts.getD i .nan :=
        getD_padTo_left (inside i below).1
      have moment :
          (patternInputs opts stamp).timestamps.getD i .nan = opts.timestamps.getD i .nan :=
        getD_padTo_left (inside i below).2
      exact ⟨isInteger_of_nat (entry ▸ amountIs), isInteger_of_nat (moment ▸ timeIs)⟩
    · have zero := (padding i (by omega) after).1
      rwa [patternInputs, getD_padTo_left below] at zero
    · have zero := (padding i (by omega) after).2
      rwa [patternInputs, getD_padTo_left below] at zero
  · rintro ⟨whole, count, counted, amountsGiven, timesGiven, integers, amountsEnd, timesEnd⟩
    have nonneg : opts.timeWindow.lt (0 : Nat) = false := by
      obtain ⟨q, window⟩ : ∃ q, opts.timeWindow = .finite q := by
        cases read : opts.timeWindow <;> simp [read, isInteger, Double.toInteger] at whole ⊢
      rw [window, Double.finite_lt_nat, decide_eq_false_iff_not, not_lt] at above ⊢
      exact le_trans (by simp) above
    obtain ⟨window, wide⟩ := exists_nat whole nonneg
    rw [wide, nat_lt, decide_eq_false_iff_not, not_lt] at above below
    have smallCount : count ≤ 2 ^ 53 := by omega
    have smallStamp : ts < 2 ^ 53 := by unfold maxTimestamp at late; omega
    have entry (i : Nat) (active : i < count) :=
      checkTransaction_ok (checkTransactions_ok counted smallCount fuel 0 passed i (by omega)
        active) stampIs smallStamp wide (integers i active).1 (integers i active).2
    refine ⟨⟨length_padTo amountsFit, length_padTo timesFit⟩,
      ⟨ts, window, count, stampIs, early, late, wide, above, below, counted, by omega,
        fun i active => ?_, fun i bounded after => ⟨?_, ?_⟩⟩, kind, reporting,
      validateSubmitter_ok.mp sent⟩
    · simp only [patternInputs, getD_padTo_left (lt_of_lt_of_le active amountsGiven),
        getD_padTo_left (lt_of_lt_of_le active timesGiven)]
      exact entry i active
    · by_cases given : i < opts.amounts.length
      · simpa only [patternInputs, getD_padTo_left given] using amountsEnd i given after
      · exact getD_padTo_right (not_lt.mp given) bounded
    · by_cases given : i < opts.timestamps.length
      · simpa only [patternInputs, getD_padTo_left given] using timesEnd i given after
      · exact getD_padTo_right (not_lt.mp given) bounded

end XochiSdk.Sdk.Inputs
