import XochiSdk.Client.Failure
import XochiSdk.Client.Machine.Play

/-!
# A reason that says not to resubmit

Origin funds may have moved. Where the prose decides, such a reason is in doubt and never
retried; where a served category or an HTTP code decides, only its transient readings are.
-/

namespace XochiSdk.Client

open XochiSdk.Js XochiSdk.Shared

/-- The text tells its reader not to resubmit, anywhere and across any white space. -/
def TellsNotToResubmit (text : String) : Prop :=
  ∃ before negation gap verb after,
    negation ∈ ["do not", "don't"] ∧ verb ∈ ["resubmit", "re-submit"] ∧
      gap ≠ [] ∧ (∀ c ∈ gap, isWhiteSpace c = true) ∧
      text.toList = before ++ negation.toList ++ gap ++ verb.toList ++ after

theorem startsResubmit_iff {cs : List Char} :
    startsResubmit cs = true ↔ ∃ verb ∈ ["resubmit", "re-submit"], ∃ after,
      cs = verb.toList ++ after := by
  simp only [startsResubmit, Bool.or_eq_true, List.isPrefixOf_iff_prefix, List.mem_cons,
    List.not_mem_nil, or_false, exists_eq_or_imp, exists_eq_left]
  constructor
  · rintro (⟨after, rfl⟩ | ⟨after, rfl⟩)
    · exact .inl ⟨after, rfl⟩
    · exact .inr ⟨after, rfl⟩
  · rintro (⟨after, rfl⟩ | ⟨after, rfl⟩)
    · exact .inl ⟨after, rfl⟩
    · exact .inr ⟨after, rfl⟩

theorem skipSpace_append {gap rest : List Char} (space : ∀ c ∈ gap, isWhiteSpace c = true) :
    skipSpace (gap ++ rest) = skipSpace rest := by
  induction gap with
  | nil => rfl
  | cons c gap ih =>
    have first : isWhiteSpace c = true := space c (List.mem_cons_self ..)
    have others := ih fun d mem => space d (List.mem_cons_of_mem _ mem)
    simpa only [skipSpace, List.cons_append, List.dropWhile_cons, first, if_true] using others

theorem skipSpace_resubmit {verb : String} (known : verb ∈ ["resubmit", "re-submit"])
    (after : List Char) : skipSpace (verb.toList ++ after) = verb.toList ++ after := by
  rcases List.mem_pair.mp known with rfl | rfl <;> rfl

theorem startsGapResubmit_iff {cs : List Char} :
    startsGapResubmit cs = true ↔ ∃ gap, ∃ verb ∈ ["resubmit", "re-submit"], ∃ after,
      gap ≠ [] ∧ (∀ c ∈ gap, isWhiteSpace c = true) ∧ cs = gap ++ (verb.toList ++ after) := by
  constructor
  · intro starts
    cases cs with
    | nil => cases starts
    | cons c rest =>
      obtain ⟨space, resubmit⟩ := (Bool.and_eq_true_iff.mp starts)
      obtain ⟨verb, known, after, split⟩ := startsResubmit_iff.mp resubmit
      refine ⟨c :: rest.takeWhile isWhiteSpace, verb, known, after, List.cons_ne_nil _ _, ?_, ?_⟩
      · intro d mem
        rcases List.mem_cons.mp mem with rfl | mem
        · exact space
        · exact List.all_eq_true.mp List.all_takeWhile d mem
      · rw [List.cons_append, ← split, skipSpace, List.takeWhile_append_dropWhile]
  · rintro ⟨gap, verb, known, after, nonempty, space, rfl⟩
    cases gap with
    | nil => exact absurd rfl nonempty
    | cons c gap =>
      have rest : startsResubmit (skipSpace (gap ++ (verb.toList ++ after))) = true := by
        rw [skipSpace_append fun d mem => space d (List.mem_cons_of_mem _ mem),
          skipSpace_resubmit known]
        exact startsResubmit_iff.mpr ⟨verb, known, after, rfl⟩
      exact Bool.and_eq_true_iff.mpr ⟨space c (List.mem_cons_self ..), rest⟩

/-- The expression finds the phrase exactly where the text tells it. -/
theorem saysDoNotResubmit_iff (text : String) :
    saysDoNotResubmit text = true ↔ TellsNotToResubmit text := by
  rw [saysDoNotResubmit, searchChars_iff]
  constructor
  · rintro ⟨before, rest, split, starts⟩
    obtain ⟨negation, known, found⟩ := List.any_eq_true.mp starts
    split at found
    · cases found
    · rename_i tail cut
      obtain ⟨gap, verb, resubmit, after, nonempty, space, rfl⟩ := startsGapResubmit_iff.mp found
      refine ⟨before, negation, gap, verb, after, ?_, resubmit, nonempty, space, ?_⟩
      · exact List.mem_pair.mpr (List.mem_pair.mp known).symm
      · rw [split, afterLiteral_some cut]
        simp only [List.append_assoc]
  · rintro ⟨before, negation, gap, verb, after, known, resubmit, nonempty, space, split⟩
    refine ⟨before, negation.toList ++ (gap ++ (verb.toList ++ after)), ?_, ?_⟩
    · rw [split]
      simp only [List.append_assoc]
    · refine List.any_eq_true.mpr ⟨negation, List.mem_pair.mpr (List.mem_pair.mp known).symm, ?_⟩
      rw [afterLiteral_append]
      exact startsGapResubmit_iff.mpr ⟨gap, verb, resubmit, after, nonempty, space, rfl⟩

/-- Categories under which the same request may be asked again. -/
def transientCategories : List String :=
  busyCategories ++ ["conversion_unavailable", "no_liquidity", "auth"]

/-- Categories that offer the switch of settlement mode. -/
def switchCategories : List String :=
  ["settlement_type_unavailable", "invalid_request", "route_unsupported"]

section

variable [Host]

/-- The prose names no refused credential. -/
def Uncredited (message : String) : Prop :=
  ∀ word ∈ credentialWords, ¬ word.toList <:+: (Host.toLowerCase message).toList

/-- Only the credential rule stands ahead of the doubt. -/
theorem byMessage_tells {message : String}
    (tells : TellsNotToResubmit (Host.toLowerCase message)) :
    byMessage message = .in_doubt ∨ byMessage message = .auth ∧ ¬ Uncredited message := by
  have found := (saysDoNotResubmit_iff _).mpr tells
  unfold byMessage
  dsimp only
  cases credential : includesAny (Host.toLowerCase message) credentialWords with
  | false =>
    left
    rw [if_neg (by decide), if_pos found]
  | true =>
    right
    refine ⟨if_pos rfl, fun uncredited => ?_⟩
    obtain ⟨word, mem, inside⟩ := List.any_eq_true.mp credential
    exact uncredited word mem ((includes_iff _ _).mp inside)

theorem pairDecline_kind {message : String} {detail : FailureDetail}
    (h : pairDecline message = some detail) : ∃ advice, detail = .pair_unsupported advice := by
  unfold pairDecline at h
  split at h
  · cases h
    exact ⟨_, rfl⟩
  · cases h

/-- What a refused route reads as: the pair, or the route itself. -/
theorem routeDecline_kind (message : String) :
    (∃ advice, (pairDecline message).getD .route_unsupported = .pair_unsupported advice) ∨
      (pairDecline message).getD .route_unsupported = .route_unsupported := by
  cases declined : pairDecline message with
  | none => exact .inr rfl
  | some detail =>
    obtain ⟨advice, rfl⟩ := pairDecline_kind declined
    exact .inl ⟨advice, rfl⟩

/-- A category other than "unknown" decides alone whether to ask again. -/
theorem byCategory_retryable {category : String} (message : String) (known : category ≠ "unknown") :
    (byCategory category message).retryable = transientCategories.contains category := by
  unfold byCategory
  split
  · rename_i busy
    have member : category ∈ busyCategories := List.contains_iff_mem.mp busy
    exact (List.contains_iff_mem.mpr (List.mem_append_left _ member)).symm
  · rename_i idle
    have others : transientCategories.contains category =
        ["conversion_unavailable", "no_liquidity", "auth"].contains category := by
      rw [transientCategories, List.contains_append, Bool.eq_false_iff.mpr idle, Bool.false_or]
    rw [others]
    split
    · rfl
    · rfl
    · rfl
    · rfl
    · rfl
    · rfl
    · rfl
    · rcases routeDecline_kind message with ⟨advice, pair⟩ | route
      · rw [pair]
        rfl
      · rw [route]
        rfl
    · exact absurd rfl known
    · simp_all [failure, retryableOf]

/-- A category whose reading offers the switch, for prose that says not to resubmit. -/
theorem byCategory_switches {category message : String} {offer : SettlementFallback}
    (tells : TellsNotToResubmit (Host.toLowerCase message))
    (offered : switchOf (byCategory category message).detail = some offer) :
    category ∈ switchCategories := by
  unfold byCategory at offered
  split at offered
  · cases offered
  · split at offered
    · cases offered
    · cases offered
    · cases offered
    · decide
    · decide
    · cases offered
    · cases offered
    · decide
    · rcases byMessage_tells tells with inDoubt | ⟨auth, -⟩
      · rw [inDoubt] at offered
        cases offered
      · rw [auth] at offered
        cases offered
    · cases offered

variable (parseJson : String → Option Value)

/-- The switch is offered for a category that refuses the route or the request, and for
nothing else. -/
theorem settlementFallback_tells {settlement : SettlementType} {status : IntentStatus}
    {error : ErrorValue} {category : Option String} {offer : SettlementFallback}
    (tells : TellsNotToResubmit (Host.toLowerCase error.message))
    (offered : settlementFallback parseJson settlement status (some error) category = some offer) :
    ∃ named ∈ switchCategories, category = some named := by
  unfold settlementFallback at offered
  split at offered
  · cases offered
  dsimp only at offered
  split at offered
  · cases offered
  unfold classifyFailure at offered
  cases served : textSet category with
  | true =>
    rw [served, if_pos rfl] at offered
    cases category with
    | none => cases served
    | some named => exact ⟨named, byCategory_switches tells offered, rfl⟩
  | false =>
    rw [served, if_neg (by decide), ErrorValue.httpCode_text] at offered
    dsimp only [ErrorValue.message_text] at offered
    rcases byMessage_tells tells with inDoubt | ⟨auth, -⟩
    · rw [inDoubt] at offered
      cases offered
    · rw [auth] at offered
      cases offered

omit [Host] in
theorem structured503_transient {message : String} {detail : FailureDetail}
    (h : structured503 parseJson message = some detail) : retryableOf detail = true := by
  unfold structured503 at h
  split at h
  · split at h
    · cases h
      rfl
    · split at h
      · cases h
        rfl
      · cases h
  · cases h

omit [Host] in
/-- An HTTP code ends the request only as a bad, forbidden or missing one. -/
theorem byCode_final (code : JsNumber) (message : String) :
    (if code.value = some 503 then failure ((structured503 parseJson message).getD .busy)
        else failure (byStatus code)).retryable = false ↔
      ∃ status ∈ notRetryableStatuses, code.value = some status := by
  have listed (value : Option ℚ) : (∃ status ∈ notRetryableStatuses, value = some status) ↔
      value = some 400 ∨ value = some 403 ∨ value = some 404 := by
    simp [notRetryableStatuses]
  rw [listed]
  split
  · rename_i unavailable
    have transient : retryableOf ((structured503 parseJson message).getD .busy) = true := by
      cases read : structured503 parseJson message with
      | none => rfl
      | some detail => exact structured503_transient parseJson read
    simp only [failure, transient, unavailable]
    norm_num
  · unfold byStatus
    split
    · rename_i unauthorized
      simp only [failure, retryableOf, unauthorized]
      norm_num
    · split
      · rename_i limited
        simp only [failure, retryableOf, limited]
        norm_num
      · simp only [failure, retryableOf, Bool.not_eq_false', List.any_eq_true, beq_iff_eq]
        exact listed code.value

/-- A reason that says not to resubmit. Where the prose decides and blames no credential, it is
in doubt and not retried; an HTTP code makes it final only as a refused request; a category
only unless it is a transient one. The switch is offered under the categories that refuse the
route or the request, and never by the prose. -/
theorem doNotResubmit_decided (error : ErrorValue) (category : Option String)
    (tells : TellsNotToResubmit (Host.toLowerCase error.message)) :
    ((textSet category = false ∧ error.httpCode = none ∨ category = some "unknown") →
        Uncredited error.message →
        classifyFailure parseJson error category = ⟨.in_doubt, false⟩) ∧
      (textSet category = false → ∀ code, error.httpCode = some code →
        ((classifyFailure parseJson error category).retryable = false ↔
          ∃ status ∈ notRetryableStatuses, code.value = some status)) ∧
      (∀ named, category = some named → named ≠ "" → named ≠ "unknown" →
        ((classifyFailure parseJson error category).retryable = false ↔
          named ∉ transientCategories)) ∧
      ∀ settlement status,
        (∀ named ∈ switchCategories, category ≠ some named) →
        settlementFallback parseJson settlement status (some error) category = none := by
  refine ⟨fun decides uncredited => ?_, fun unserved code coded => ?_,
    fun named served nonempty known => ?_, fun settlement status other => ?_⟩
  · have inDoubt : byMessage error.message = .in_doubt :=
      (byMessage_tells tells).resolve_right fun auth => auth.2 uncredited
    rcases decides with ⟨unserved, uncoded⟩ | rfl
    · simp only [classifyFailure, unserved, uncoded, inDoubt]
      rfl
    · have served : textSet (some "unknown") = true := rfl
      simp only [classifyFailure, served, if_true, Option.getD_some]
      unfold byCategory
      rw [if_neg (by decide)]
      rw [inDoubt]
      rfl
  · simp only [classifyFailure, unserved, coded]
    exact byCode_final parseJson code error.message
  · have served' : textSet (some named) = true := by simpa [textSet] using nonempty
    subst served
    rw [classifyFailure, served', if_pos rfl, Option.getD_some,
      byCategory_retryable _ known, ← Bool.not_eq_true, List.contains_iff_mem]
  · cases offered : settlementFallback parseJson settlement status (some error) category with
    | none => rfl
    | some offer =>
      obtain ⟨named, mem, rfl⟩ := settlementFallback_tells parseJson tells offered
      exact absurd rfl (other named mem)

end

/-- A solver's words for a pull whose funds may have moved. -/
def pullInDoubt : ErrorValue := .text "Pull in doubt: DO NOT re-submit this order"

theorem pullInDoubt_tells :
    TellsNotToResubmit (plainHost.toLowerCase pullInDoubt.message) :=
  (saysDoNotResubmit_iff _).mp (by decide)

/-- The category is believed over the prose: asked again, and the switch offered. -/
theorem doNotResubmit_retried :
    TellsNotToResubmit (plainHost.toLowerCase pullInDoubt.message) ∧
      (@classifyFailure plainHost (fun _ => none) pullInDoubt (some "no_liquidity")).retryable =
        true ∧
      @settlementFallback plainHost (fun _ => none) .stealth .failed (some pullInDoubt)
        (some "invalid_request") = some .request_rejected :=
  ⟨pullInDoubt_tells, by decide, by decide⟩

theorem doNotResubmit_decided_sample :
    @classifyFailure plainHost (fun _ => none) pullInDoubt none = ⟨.in_doubt, false⟩ :=
  (@doNotResubmit_decided plainHost (fun _ => none) pullInDoubt none pullInDoubt_tells).1
    (.inl ⟨rfl, rfl⟩) fun word mem inside =>
      absurd ((includes_iff _ _).mpr inside)
        (by revert word mem; decide)

end XochiSdk.Client
