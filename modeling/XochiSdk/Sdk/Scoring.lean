import XochiSdk.Js.Map
import XochiSdk.Js.Value
import Mathlib.Algebra.Order.Floor.Ring
import Mathlib.Data.Rat.Floor
import Mathlib.Data.List.Sort

/-!
# Attestation scoring

`scoring.ts`: attestations grouped by category, each group's points counted with diminishing
returns and capped. Points and multipliers are exact fractions.
-/

namespace XochiSdk.Sdk

open XochiSdk.Js

inductive ProviderCategory where
  | humanity
  | identity
  | reputation
  | compliance
  deriving DecidableEq, Repr

def ProviderCategory.name : ProviderCategory → String
  | .humanity => "humanity"
  | .identity => "identity"
  | .reputation => "reputation"
  | .compliance => "compliance"

/-- The keys of `byCategory`, in order. -/
def categories : List ProviderCategory := [.humanity, .identity, .reputation, .compliance]

/-- `CATEGORY_MAX`. -/
def categoryMax : ProviderCategory → Int
  | .humanity => 25
  | .identity => 35
  | .reputation => 20
  | .compliance => 40

structure Attestation where
  category : String
  points : ℚ
  deriving DecidableEq

structure Score where
  total : Int
  byCategory : List (ProviderCategory × Int)
  deriving DecidableEq

/-- `ATTESTATION_MULTIPLIERS`, by position. -/
def multiplier : Nat → ℚ
  | 0 => 1
  | 1 => 1 / 4
  | _ => 1 / 10

/-- `category in byCategory`: an own key, or a member every object inherits. -/
def inByCategory (category : String) : Bool :=
  categories.any (·.name == category) || (inheritedMember category).isSome

/-- `grouped`: the attestations under each key the object owns. -/
abbrev Grouped := JsMap String (List Attestation)

/-- `if (!grouped[category]) grouped[category] = []; grouped[category].push(att)`. A name the
object inherits is there already, and is no array: `push` is not a function on it. -/
def pushAttestation (grouped : Grouped) (att : Attestation) : Except String Grouped :=
  match grouped.get att.category with
  | some atts => .ok (grouped.set att.category (atts ++ [att]))
  | none =>
    if (inheritedMember att.category).isSome then
      .error "grouped[att.category].push is not a function"
    else .ok (grouped.set att.category [att])

/-- One pass of the grouping loop. -/
def groupOne (grouped : Grouped) (att : Attestation) : Except String Grouped :=
  if inByCategory att.category then pushAttestation grouped att else .ok grouped

def groupAttestations (attestations : List Attestation) : Except String Grouped :=
  attestations.foldlM groupOne .empty

/-- Points, largest first; the sort is stable. -/
def sortPoints (points : List ℚ) : List ℚ := points.insertionSort (fun a b => b ≤ a)

/-- The floors of the points times their multipliers, from position `i` on. -/
def diminishing (i : Nat) : List ℚ → Int
  | [] => 0
  | p :: ps => ⌊p * multiplier i⌋ + diminishing (i + 1) ps

def categoryScore (points : List ℚ) : Int := diminishing 0 (sortPoints points)

def calculateScoreFromAttestations (attestations : List Attestation) : Except String Score := do
  let grouped ← groupAttestations attestations
  let byCategory := categories.map fun category =>
    let providers := (grouped.get category.name).getD []
    (category, min (categoryScore (providers.map (·.points))) (categoryMax category))
  return ⟨(byCategory.map (·.2)).sum, byCategory⟩

/-- The points of the attestations of one category. -/
def pointsOf (category : ProviderCategory) (attestations : List Attestation) : List ℚ :=
  (attestations.filter (·.category == category.name)).map (·.points)

/-- What the scoring comes to where it returns. -/
def scoreOf (attestations : List Attestation) : Score :=
  let byCategory := categories.map fun category =>
    (category, min (categoryScore (pointsOf category attestations)) (categoryMax category))
  ⟨(byCategory.map (·.2)).sum, byCategory⟩

/-- One score is nowhere above another. -/
def Score.Below (less more : Score) : Prop :=
  less.total ≤ more.total ∧
    List.Forall₂ (fun x y => x.1 = y.1 ∧ x.2 ≤ y.2) less.byCategory more.byCategory

theorem mem_categories (category : ProviderCategory) : category ∈ categories := by
  cases category <;> simp [categories]

/-- No inherited name is an own key of the groups. -/
def Clean (grouped : Grouped) : Prop :=
  ∀ key, (inheritedMember key).isSome → grouped.get key = none

theorem pushAttestation_ok {grouped : Grouped} {att : Attestation}
    (plain : inheritedMember att.category = none) :
    pushAttestation grouped att =
      .ok (grouped.set att.category ((grouped.get att.category).getD [] ++ [att])) := by
  unfold pushAttestation
  cases grouped.get att.category with
  | none => simp [plain]
  | some atts => rfl

theorem Clean.set {grouped : Grouped} (clean : Clean grouped) {key : String}
    (plain : inheritedMember key = none) (atts : List Attestation) :
    Clean (grouped.set key atts) := by
  intro other inherited
  rw [JsMap.get_set, if_neg]
  · exact clean other inherited
  · intro same
    rw [same, plain] at inherited
    exact absurd inherited (by decide)

theorem groupOne_plain {grouped : Grouped} {att : Attestation} (clean : Clean grouped)
    (plain : inheritedMember att.category = none) :
    ∃ next, groupOne grouped att = .ok next ∧ Clean next ∧
      ∀ c : ProviderCategory, (next.get c.name).getD [] =
        (grouped.get c.name).getD [] ++ [att].filter (·.category == c.name) := by
  unfold groupOne
  by_cases known : inByCategory att.category = true
  · rw [if_pos known, pushAttestation_ok plain]
    refine ⟨_, rfl, clean.set plain _, ?_⟩
    intro c
    rw [JsMap.get_set]
    by_cases same : c.name = att.category
    · simp [same]
    · have differs : (att.category == c.name) = false := by simpa using Ne.symm same
      simp [same, differs]
  · rw [if_neg known]
    refine ⟨grouped, rfl, clean, ?_⟩
    intro c
    have differs : (att.category == c.name) = false := by
      by_contra same
      rw [Bool.not_eq_false, beq_iff_eq] at same
      apply known
      simp only [inByCategory, Bool.or_eq_true, List.any_eq_true, beq_iff_eq]
      exact .inl ⟨c, mem_categories c, same.symm⟩
    simp [differs]

theorem groupOne_inherited {grouped : Grouped} {att : Attestation} (clean : Clean grouped)
    (inherited : (inheritedMember att.category).isSome) :
    ∃ message, groupOne grouped att = .error message := by
  have known : inByCategory att.category = true := by simp [inByCategory, inherited]
  unfold groupOne pushAttestation
  rw [if_pos known, clean _ inherited]
  simp [inherited]

theorem group_plain {attestations : List Attestation}
    (plain : ∀ att ∈ attestations, inheritedMember att.category = none) (grouped : Grouped)
    (clean : Clean grouped) :
    ∃ final, attestations.foldlM groupOne grouped = .ok final ∧
      ∀ c : ProviderCategory, (final.get c.name).getD [] =
        (grouped.get c.name).getD [] ++ attestations.filter (·.category == c.name) := by
  induction attestations generalizing grouped with
  | nil => exact ⟨grouped, rfl, by simp⟩
  | cons att rest ih =>
    obtain ⟨next, stepped, kept, owns⟩ := groupOne_plain clean (plain att (by simp))
    obtain ⟨final, done, ends⟩ := ih (fun a h => plain a (by simp [h])) next kept
    refine ⟨final, ?_, ?_⟩
    · rw [List.foldlM_cons, stepped]
      exact done
    · intro c
      rw [ends, owns, List.append_assoc, ← List.filter_append]
      rfl

theorem group_inherited {attestations : List Attestation}
    (some_inherited : ∃ att ∈ attestations, (inheritedMember att.category).isSome)
    (grouped : Grouped) (clean : Clean grouped) :
    ∃ message, attestations.foldlM groupOne grouped = .error message := by
  induction attestations generalizing grouped with
  | nil => simp at some_inherited
  | cons att rest ih =>
    rw [List.foldlM_cons]
    by_cases plain : inheritedMember att.category = none
    · obtain ⟨next, stepped, kept, -⟩ := groupOne_plain clean plain
      rw [stepped]
      apply ih _ next kept
      obtain ⟨a, among, inherited⟩ := some_inherited
      rcases List.mem_cons.mp among with rfl | later
      · simp [plain] at inherited
      · exact ⟨a, later, inherited⟩
    · obtain ⟨message, thrown⟩ := groupOne_inherited clean (Option.isSome_iff_ne_none.mpr plain)
      exact ⟨message, by rw [thrown]; rfl⟩

theorem calculateScore_plain {attestations : List Attestation}
    (plain : ∀ att ∈ attestations, inheritedMember att.category = none) :
    calculateScoreFromAttestations attestations = .ok (scoreOf attestations) := by
  obtain ⟨final, done, owns⟩ := group_plain plain .empty (fun _ _ => rfl)
  have grouped : groupAttestations attestations = .ok final := done
  unfold calculateScoreFromAttestations
  rw [grouped]
  have own_eq : ∀ c : ProviderCategory, (final.get c.name).getD [] =
      attestations.filter (·.category == c.name) := by
    intro c
    rw [owns]
    rfl
  change Except.ok _ = _
  simp only [own_eq]
  rfl

theorem calculateScore_inherited {attestations : List Attestation}
    (some_inherited : ∃ att ∈ attestations, (inheritedMember att.category).isSome) :
    ∃ message, calculateScoreFromAttestations attestations = .error message := by
  obtain ⟨message, thrown⟩ := group_inherited some_inherited .empty (fun _ _ => rfl)
  have grouped : groupAttestations attestations = .error message := thrown
  refine ⟨message, ?_⟩
  unfold calculateScoreFromAttestations
  rw [grouped]
  rfl

/-! ## One category -/

theorem sortPoints_perm {points other : List ℚ} (h : points.Perm other) :
    sortPoints points = sortPoints other := by
  unfold sortPoints
  refine List.Perm.eq_of_pairwise ?_ (List.pairwise_insertionSort _ _)
    (List.pairwise_insertionSort _ _) ?_
  · intro a b _ _ hab hba
    exact le_antisymm hba hab
  · exact ((List.perm_insertionSort _ _).trans h).trans (List.perm_insertionSort _ _).symm

theorem multiplier_nonneg (i : Nat) : 0 ≤ multiplier i := by
  unfold multiplier
  split <;> norm_num

theorem multiplier_falls (i : Nat) : multiplier (i + 1) ≤ multiplier i := by
  match i with
  | 0 => norm_num [multiplier]
  | 1 => norm_num [multiplier]
  | n + 2 => simp [multiplier]

/-- Points that are not positive count for less further back. -/
theorem diminishing_falls {points : List ℚ} (low : ∀ x ∈ points, x ≤ 0) (i : Nat) :
    diminishing i points ≤ diminishing (i + 1) points := by
  induction points generalizing i with
  | nil => exact le_refl _
  | cons x rest ih =>
    have head : ⌊x * multiplier i⌋ ≤ ⌊x * multiplier (i + 1)⌋ := by
      apply Int.floor_le_floor
      exact mul_le_mul_of_nonpos_left (multiplier_falls i) (low x (by simp))
    have tail := ih (fun y h => low y (by simp [h])) (i + 1)
    simp only [diminishing]
    omega

/-- Putting a non-negative number before smaller ones loses nothing, for all that it moves them
to lower multipliers. -/
theorem diminishing_shift {points : List ℚ} (sorted : points.Pairwise (fun a b => b ≤ a)) {p : ℚ}
    (nonneg : 0 ≤ p) (largest : ∀ x ∈ points, x ≤ p) (i : Nat) :
    diminishing i points ≤ ⌊p * multiplier i⌋ + diminishing (i + 1) points := by
  have gained : 0 ≤ ⌊p * multiplier i⌋ :=
    Int.floor_nonneg.mpr (mul_nonneg nonneg (multiplier_nonneg i))
  induction points generalizing i p with
  | nil => simpa [diminishing] using gained
  | cons x rest ih =>
    obtain ⟨first, later⟩ := List.pairwise_cons.mp sorted
    have below : x ≤ p := largest x (by simp)
    by_cases sign : 0 ≤ x
    · have head : ⌊x * multiplier i⌋ ≤ ⌊p * multiplier i⌋ :=
        Int.floor_le_floor (mul_le_mul_of_nonneg_right below (multiplier_nonneg i))
      have tail := ih later sign first (i + 1)
        (Int.floor_nonneg.mpr (mul_nonneg sign (multiplier_nonneg _)))
      simp only [diminishing]
      omega
    · have low : ∀ y ∈ x :: rest, y ≤ 0 := by
        intro y among
        rcases List.mem_cons.mp among with rfl | among
        · exact (not_le.mp sign).le
        · exact (first y among).trans (not_le.mp sign).le
      have fallen := diminishing_falls low i
      omega

theorem diminishing_insert {points : List ℚ} (sorted : points.Pairwise (fun a b => b ≤ a)) {p : ℚ}
    (nonneg : 0 ≤ p) (i : Nat) :
    diminishing i points ≤ diminishing i (points.orderedInsert (fun a b => b ≤ a) p) := by
  induction points generalizing i with
  | nil =>
    simp only [List.orderedInsert_nil, diminishing, add_zero]
    exact Int.floor_nonneg.mpr (mul_nonneg nonneg (multiplier_nonneg i))
  | cons x rest ih =>
    obtain ⟨first, later⟩ := List.pairwise_cons.mp sorted
    rw [List.orderedInsert_cons]
    by_cases here : x ≤ p
    · rw [if_pos here]
      refine diminishing_shift sorted nonneg ?_ i
      intro y among
      rcases List.mem_cons.mp among with rfl | among
      · exact here
      · exact (first y among).trans here
    · rw [if_neg here]
      have tail := ih later (i + 1)
      simp only [diminishing]
      omega

theorem categoryScore_perm {points other : List ℚ} (h : points.Perm other) :
    categoryScore points = categoryScore other := by
  unfold categoryScore
  rw [sortPoints_perm h]

theorem categoryScore_grows {p : ℚ} (nonneg : 0 ≤ p) (points : List ℚ) :
    categoryScore points ≤ categoryScore (p :: points) := by
  exact diminishing_insert (List.pairwise_insertionSort _ _) nonneg 0

/-! ## The whole score -/

theorem pointsOf_perm {attestations other : List Attestation} (h : attestations.Perm other)
    (c : ProviderCategory) : (pointsOf c attestations).Perm (pointsOf c other) :=
  (h.filter _).map _

theorem scoreOf_perm {attestations other : List Attestation} (h : attestations.Perm other) :
    scoreOf attestations = scoreOf other := by
  have same : ∀ c, categoryScore (pointsOf c attestations) = categoryScore (pointsOf c other) :=
    fun c => categoryScore_perm (pointsOf_perm h c)
  unfold scoreOf
  simp only [same]

theorem pointsOf_cons (c : ProviderCategory) (att : Attestation) (rest : List Attestation) :
    pointsOf c (att :: rest) =
      if att.category = c.name then att.points :: pointsOf c rest else pointsOf c rest := by
  unfold pointsOf
  by_cases same : att.category = c.name
  · simp [same]
  · simp [same]

theorem scoreOf_unknown {att : Attestation} (unknown : ∀ c : ProviderCategory, att.category ≠ c.name)
    (rest : List Attestation) : scoreOf (att :: rest) = scoreOf rest := by
  unfold scoreOf
  simp only [pointsOf_cons, unknown, if_false]

theorem scoreOf_grows {att : Attestation} (nonneg : 0 ≤ att.points) (rest : List Attestation) :
    (scoreOf rest).Below (scoreOf (att :: rest)) := by
  have each : ∀ c, min (categoryScore (pointsOf c rest)) (categoryMax c) ≤
      min (categoryScore (pointsOf c (att :: rest))) (categoryMax c) := by
    intro c
    apply min_le_min_right
    rw [pointsOf_cons]
    split
    · exact categoryScore_grows nonneg _
    · exact le_refl _
  constructor
  · have humanity := each .humanity
    have identity := each .identity
    have reputation := each .reputation
    have compliance := each .compliance
    simp only [scoreOf, categories, List.map_cons, List.map_nil, List.sum_cons, List.sum_nil]
    omega
  · simp [scoreOf, categories, each]

/-- What the score of a list is to satisfy: it is returned, for every order of the list alike;
each category is capped and the total is their sum; and it is not below the score of the list
without one of its attestations, of non-negative points, and equal to it where that attestation
is of no known category. -/
structure Scored (attestations : List Attestation) (score : Score) : Prop where
  returned : ∀ other, other.Perm attestations → calculateScoreFromAttestations other = .ok score
  keys : score.byCategory.map (·.1) = categories
  capped : ∀ entry ∈ score.byCategory, entry.2 ≤ categoryMax entry.1
  summed : score.total = (score.byCategory.map (·.2)).sum
  grows : ∀ before att after, attestations = before ++ att :: after → 0 ≤ att.points →
    ∃ less, calculateScoreFromAttestations (before ++ after) = .ok less ∧ less.Below score
  known : ∀ before att after, attestations = before ++ att :: after →
    (∀ c : ProviderCategory, att.category ≠ c.name) →
    calculateScoreFromAttestations (before ++ after) = .ok score

theorem scored_of_plain {attestations : List Attestation}
    (plain : ∀ att ∈ attestations, inheritedMember att.category = none) :
    Scored attestations (scoreOf attestations) := by
  have without : ∀ before att after, attestations = before ++ att :: after →
      calculateScoreFromAttestations (before ++ after) = .ok (scoreOf (before ++ after)) ∧
      scoreOf attestations = scoreOf (att :: (before ++ after)) := by
    rintro before att after rfl
    refine ⟨calculateScore_plain ?_, scoreOf_perm List.perm_middle⟩
    intro a among
    apply plain
    simp only [List.mem_append, List.mem_cons] at among ⊢
    tauto
  constructor
  case returned =>
    intro other perm
    rw [calculateScore_plain (fun att among => plain att (perm.subset among)), scoreOf_perm perm]
  case keys => rfl
  case capped =>
    intro entry among
    simp only [scoreOf, List.mem_map] at among
    obtain ⟨c, -, rfl⟩ := among
    exact min_le_right _ _
  case summed => rfl
  case grows =>
    intro before att after split nonneg
    obtain ⟨returned, same⟩ := without before att after split
    exact ⟨_, returned, by rw [same]; exact scoreOf_grows nonneg _⟩
  case known =>
    intro before att after split unknown
    obtain ⟨returned, same⟩ := without before att after split
    rw [returned, same, scoreOf_unknown unknown]

/-- The scoring is an order-free capped sum of exactly the lists in which no category is the name
of a member every object inherits. On such a name it throws. -/
theorem scores_soundly_iff (attestations : List Attestation) :
    (∃ score, Scored attestations score) ↔
      ∀ att ∈ attestations, inheritedMember att.category = none := by
  constructor
  · rintro ⟨score, scored⟩ att among
    by_contra inherited
    obtain ⟨message, thrown⟩ :=
      calculateScore_inherited ⟨att, among, Option.isSome_iff_ne_none.mpr inherited⟩
    rw [scored.returned attestations (.refl _)] at thrown
    cases thrown
  · intro plain
    exact ⟨scoreOf attestations, scored_of_plain plain⟩

theorem toString_category_throws :
    ¬ ∃ score, Scored [⟨"toString", 5⟩] score := by
  rintro ⟨score, scored⟩
  have thrown : calculateScoreFromAttestations [⟨"toString", 5⟩] =
      .error "grouped[att.category].push is not a function" := rfl
  rw [scored.returned _ (.refl _)] at thrown
  cases thrown

end XochiSdk.Sdk
