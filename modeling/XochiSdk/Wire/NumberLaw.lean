import XochiSdk.Wire.NumberTokens
import Mathlib.Data.List.Dedup

/-!
# Which documents keep their number literals

The difference of two texts tells whether they hold the same numbers, each as often. What the
formatter drops is the members that a later member of the same key overwrites, and their numbers
with them.
-/

namespace XochiSdk.Wire

open XochiSdk.Js XochiSdk.Library JsonText Signer

/-! ## Counting -/

theorem get_tokenCounts (tokens : List Token) (t : Token) :
    ((tokenCounts tokens).get t).getD 0 = tokens.count t := by
  have counted : ∀ (m : JsMap Token Nat),
      ((tokens.foldl (fun out t => out.set t ((out.get t).getD 0 + 1)) m).get t).getD 0 =
        (m.get t).getD 0 + tokens.count t := by
    induction tokens with
    | nil => exact fun m => rfl
    | cons u tokens ih =>
      intro m
      rw [List.foldl_cons, ih, JsMap.get_set, List.count_cons]
      by_cases same : t = u
      · subst same
        simp only [if_true, Option.getD_some, beq_self_eq_true]
        omega
      · have other : (u == t) = false := by simpa using fun h => same h.symm
        rw [if_neg same, other]
        rfl
  have all := counted .empty
  rwa [JsMap.get_empty, Option.getD_none, Nat.zero_add] at all

theorem keysOnce_tokenCounts (tokens : List Token) : (tokenCounts tokens).KeysOnce := by
  have all : ∀ m : JsMap Token Nat, m.KeysOnce →
      (tokens.foldl (fun out t => out.set t ((out.get t).getD 0 + 1)) m).KeysOnce := by
    induction tokens with
    | nil => exact fun m once => once
    | cons t tokens ih => exact fun m once => ih _ (JsMap.keysOnce_set once t _)
  exact all .empty List.nodup_nil

/-- There is no surplus exactly where no spelling occurs more often. -/
theorem surplus_nil {a b : List Token} :
    surplus (tokenCounts a) (tokenCounts b) = [] ↔ ∀ t, a.count t ≤ b.count t := by
  rw [surplus, List.flatMap_eq_nil_iff]
  constructor
  · intro none_ t
    rw [← get_tokenCounts a, ← get_tokenCounts b]
    cases found : (tokenCounts a).get t with
    | none => exact Nat.zero_le _
    | some n =>
      have enough := none_ _ (JsMap.mem_of_get found)
      rw [List.replicate_eq_nil_iff] at enough
      exact Nat.le_of_sub_eq_zero enough
  · rintro less ⟨t, n⟩ mem
    have count : n = a.count t := by
      rw [← get_tokenCounts a, JsMap.get_of_mem (keysOnce_tokenCounts a) mem]
      rfl
    rw [List.replicate_eq_nil_iff, get_tokenCounts, count]
    exact Nat.sub_eq_zero_of_le (less t)

/-- A difference is empty in both directions. -/
def TokenDiff.Empty (d : TokenDiff) : Prop := d.servedOnly = [] ∧ d.vendoredOnly = []

theorem numberTokenDiff_empty {served vendored : List Char} :
    (numberTokenDiff served vendored).Empty ↔
      (numberTokens served).Perm (numberTokens vendored) := by
  have parts : (numberTokenDiff served vendored).Empty ↔
      surplus (tokenCounts (numberTokens served)) (tokenCounts (numberTokens vendored)) = [] ∧
      surplus (tokenCounts (numberTokens vendored)) (tokenCounts (numberTokens served)) = [] :=
    Iff.rfl
  rw [parts, surplus_nil, surplus_nil, List.perm_iff_count]
  constructor
  · rintro ⟨less, more⟩ t
    exact le_antisymm (less t) (more t)
  · intro same
    exact ⟨fun t => (same t).le, fun t => (same t).ge⟩

theorem rewrittenNumbers_nil {served written : List Char} :
    rewrittenNumbers served written = [] ↔
      ∀ t ∈ numberTokens served, t ∈ numberTokens written := by
  simp [rewrittenNumbers, List.filter_eq_nil_iff]

/-! ## The numbers of the members that are kept -/

/-- The members that no later one of the same key overwrites. -/
def survivors : List (Key × JsonData) → List (Key × JsonData)
  | [] => []
  | m :: ms => if m.1 ∈ ms.map (·.1) then survivors ms else m :: survivors ms

theorem mem_survivors {ms : List (Key × JsonData)} {key : Key} {x : JsonData} :
    (key, x) ∈ survivors ms ↔ lastAt ms key = some x := by
  induction ms with
  | nil => simp [survivors, lastAt_nil]
  | cons m ms ih =>
    rw [survivors, lastAt_cons]
    split_ifs with later same same
    · rw [ih]
      subst same
      have found : lastAt ms m.1 ≠ none := fun none_ => lastAt_isNone.mp none_ later
      obtain ⟨y, found⟩ := Option.ne_none_iff_exists'.mp found
      rw [found, Option.some_or]
    · rw [ih, Option.or_none]
    · subst same
      rw [lastAt_isNone.mpr later, Option.none_or, List.mem_cons, ih, lastAt_isNone.mpr later]
      constructor
      · rintro (eq | none_)
        · rw [← eq]
        · cases none_
      · rintro eq
        obtain rfl := Option.some.inj eq
        exact Or.inl rfl
    · rw [List.mem_cons, ih, Option.or_none]
      constructor
      · rintro (eq | found)
        · exact absurd (congrArg Prod.fst eq).symm same
        · exact found
      · exact Or.inr

theorem survivors_nodup (ms : List (Key × JsonData)) : (survivors ms).Nodup := by
  induction ms with
  | nil => exact List.nodup_nil
  | cons m ms ih =>
    rw [survivors]
    split_ifs with later
    · exact ih
    · refine List.nodup_cons.mpr ⟨fun among => later ?_, ih⟩
      exact List.mem_map.mpr ⟨_, mem_of_lastAt (mem_survivors.mp among), rfl⟩

theorem homed_survivors (ms : List (Key × JsonData)) : (homed ms).Perm (survivors ms) := by
  rw [List.perm_ext_iff_of_nodup ((homed_distinct ms).of_map _) (survivors_nodup ms)]
  rintro ⟨key, x⟩
  rw [mem_homed, mem_survivors]

mutual

/-- The numbers of the members that are kept. -/
def keptNums : JsonData → List Token
  | .null => []
  | .bool _ => []
  | .num token => [token]
  | .str _ => []
  | .arr xs => keptElements xs
  | .obj ms => keptMembers ms

def keptElements : List JsonData → List Token
  | [] => []
  | x :: xs => keptNums x ++ keptElements xs

def keptMembers : List (Key × JsonData) → List Token
  | [] => []
  | (k, x) :: ms => (if k ∈ ms.map (·.1) then [] else keptNums x) ++ keptMembers ms

end

mutual

/-- No member with a number in it is overwritten by a later one of the same key. -/
def NumbersKept : JsonData → Prop
  | .null => True
  | .bool _ => True
  | .num _ => True
  | .str _ => True
  | .arr xs => NumbersKeptElements xs
  | .obj ms => NumbersKeptMembers ms

def NumbersKeptElements : List JsonData → Prop
  | [] => True
  | x :: xs => NumbersKept x ∧ NumbersKeptElements xs

def NumbersKeptMembers : List (Key × JsonData) → Prop
  | [] => True
  | (k, x) :: ms =>
    (if k ∈ ms.map (·.1) then nums x = [] else NumbersKept x) ∧ NumbersKeptMembers ms

end

mutual

theorem keptNums_sublist : ∀ x, (keptNums x).Sublist (nums x)
  | .null => .slnil
  | .bool _ => .slnil
  | .num _ => List.Sublist.refl _
  | .str _ => .slnil
  | .arr xs => keptElements_sublist xs
  | .obj ms => keptMembers_sublist ms

theorem keptElements_sublist : ∀ xs, (keptElements xs).Sublist (numsElements xs)
  | [] => .slnil
  | x :: xs => (keptNums_sublist x).append (keptElements_sublist xs)

theorem keptMembers_sublist : ∀ ms, (keptMembers ms).Sublist (numsMembers ms)
  | [] => .slnil
  | (k, x) :: ms => by
    rw [keptMembers, numsMembers]
    refine List.Sublist.append ?_ (keptMembers_sublist ms)
    split_ifs
    · exact List.nil_sublist _
    · exact keptNums_sublist x

end

theorem append_eq_of_sublist {α : Type} {as bs cs ds : List α} (first : as.Sublist cs)
    (second : bs.Sublist ds) : as ++ bs = cs ++ ds ↔ as = cs ∧ bs = ds := by
  constructor
  · intro same
    have lengths := congrArg List.length same
    simp only [List.length_append] at lengths
    have shorter := first.length_le
    have shorter' := second.length_le
    exact ⟨first.eq_of_length (by omega), second.eq_of_length (by omega)⟩
  · rintro ⟨rfl, rfl⟩
    rfl

mutual

theorem numbersKept_iff : ∀ x, NumbersKept x ↔ keptNums x = nums x
  | .null => iff_of_true trivial rfl
  | .bool _ => iff_of_true trivial rfl
  | .num _ => iff_of_true trivial rfl
  | .str _ => iff_of_true trivial rfl
  | .arr xs => numbersKeptElements_iff xs
  | .obj ms => numbersKeptMembers_iff ms

theorem numbersKeptElements_iff : ∀ xs, NumbersKeptElements xs ↔ keptElements xs = numsElements xs
  | [] => iff_of_true trivial rfl
  | x :: xs => by
    rw [NumbersKeptElements, keptElements, numsElements, numbersKept_iff x,
      numbersKeptElements_iff xs,
      append_eq_of_sublist (keptNums_sublist x) (keptElements_sublist xs)]

theorem numbersKeptMembers_iff : ∀ ms, NumbersKeptMembers ms ↔ keptMembers ms = numsMembers ms
  | [] => iff_of_true trivial rfl
  | (k, x) :: ms => by
    rw [NumbersKeptMembers, keptMembers, numsMembers, numbersKeptMembers_iff ms]
    split_ifs with later
    · rw [append_eq_of_sublist (List.nil_sublist _) (keptMembers_sublist ms), @eq_comm _ []]
    · rw [append_eq_of_sublist (keptNums_sublist x) (keptMembers_sublist ms), numbersKept_iff x]

end

theorem numsMembers_eq (ms : List (Key × JsonData)) :
    numsMembers ms = ms.flatMap fun m => nums m.2 := by
  induction ms with
  | nil => rfl
  | cons m ms ih => rw [numsMembers, List.flatMap_cons, ih]

theorem keys_normalMembers (ms : List (Key × JsonData)) :
    (normalMembers ms).map (·.1) = ms.map (·.1) := by
  rw [normalMembers_eq, List.map_map]
  rfl

mutual

/-- The normal form holds the numbers of the members that are kept. -/
theorem nums_normal : ∀ x, (nums (normal x)).Perm (keptNums x)
  | .null => .refl _
  | .bool _ => .refl _
  | .num _ => .refl _
  | .str _ => .refl _
  | .arr xs => nums_normalElements xs
  | .obj ms => by
    rw [normal, nums, numsMembers_eq]
    refine ((homed_survivors _).flatMap_right _).trans ?_
    rw [keptNums, ← numsMembers_eq]
    exact nums_normalMembers ms

theorem nums_normalElements : ∀ xs, (numsElements (normalElements xs)).Perm (keptElements xs)
  | [] => .refl _
  | x :: xs => (nums_normal x).append (nums_normalElements xs)

theorem nums_normalMembers : ∀ ms : List (Key × JsonData),
    (numsMembers (survivors (normalMembers ms))).Perm (keptMembers ms)
  | [] => .refl _
  | (k, x) :: ms => by
    rw [normalMembers, survivors, keptMembers, keys_normalMembers]
    split_ifs with later
    · exact nums_normalMembers ms
    · exact (nums_normal x).append (nums_normalMembers ms)

end

/-! ## The formatter -/

/-- What a refresh relies on: the written text has the served numbers, each as often, and the
writer's post-condition finds nothing. -/
def SpellingsSurvive (text out : List Char) : Prop :=
  (numberTokenDiff text out).Empty ∧ rewrittenNumbers text out = []

/-- The tokens of a document are its numbers in order, and the difference of two texts is empty
exactly where they hold the same; a document's numbers survive the formatter exactly where no member
that holds one is overwritten. -/
theorem numbers_survive_iff (text : List Char) (x : JsonData) (said : Document text x) :
    numberTokens text = nums x ∧
    (∀ other, (numberTokenDiff text other).Empty ↔
      (numberTokens text).Perm (numberTokens other)) ∧
    ∀ out, formatDocument text = .ok out → (SpellingsSurvive text out ↔ NumbersKept x) := by
  refine ⟨numberTokens_document said, fun other => numberTokenDiff_empty, fun out h => ?_⟩
  have written : numberTokens out = nums (normal x) := by
    rw [formatDocument_document said] at h
    split_ifs at h
    obtain rfl := Except.ok.inj h
    exact numberTokens_document (formatted_document said)
  rw [numbersKept_iff, SpellingsSurvive, numberTokenDiff_empty, rewrittenNumbers_nil,
    numberTokens_document said, written]
  constructor
  · rintro ⟨same, -⟩
    exact (keptNums_sublist x).eq_of_length (same.trans (nums_normal x)).length_eq.symm
  · intro kept
    have same : (nums x).Perm (nums (normal x)) := by
      rw [← kept]
      exact (nums_normal x).symm
    exact ⟨same, fun t among => same.mem_iff.mp among⟩

/-- An object with two members of one key: the formatter keeps the second. -/
def twiceDocument : List Char :=
  ['\x7b', '"', 'a', '"', ':', '1', ',', '"', 'a', '"', ':', '2', '\x7d']

theorem digit_number {c : Char} (digit : isDecimalDigit c = true) (nonzero : c ≠ '0') :
    Number [c] :=
  ⟨[], [c], [], [], rfl, Or.inl rfl,
    Or.inr ⟨⟨by simp, by simpa using digit⟩, by simpa using nonzero⟩, Or.inl rfl, Or.inl rfl⟩

theorem twiceDocument_document :
    Document twiceDocument (.obj [([97], .num ['1']), ([97], .num ['2'])]) := by
  have key : Body ['a'] [97] := .plain (by decide) (by decide) (by decide) .nil
  have blank : Ws [] := List.forall_mem_nil _
  have second := Says.lastMember blank key blank blank
    (.num (digit_number (show isDecimalDigit '2' = true by decide) (by decide))) blank
  exact ⟨[], _, [], rfl, blank, blank, .obj (.member blank key blank blank
    (.num (digit_number (show isDecimalDigit '1' = true by decide) (by decide))) blank second)⟩

/-- The overwritten number is missing from what the formatter writes, and the post-condition that is
supposed to be unreachable finds it. -/
theorem overwritten_number_lost :
    ∃ out, formatDocument twiceDocument = .ok out ∧
      numberTokenDiff twiceDocument out = ⟨[['1']], []⟩ ∧
      rewrittenNumbers twiceDocument out = [['1']] := by
  refine ⟨formatted (.obj [([97], .num ['1']), ([97], .num ['2'])]),
    formatDocument_ok.mpr ⟨_, twiceDocument_document, by decide, rfl⟩, ?_, ?_⟩
  · have written := numberTokens_document (formatted_document twiceDocument_document)
    have served := numberTokens_document twiceDocument_document
    rw [numberTokenDiff, written, served]
    rfl
  · have written := numberTokens_document (formatted_document twiceDocument_document)
    have served := numberTokens_document twiceDocument_document
    rw [rewrittenNumbers, written, served]
    decide

theorem numbers_survive_sample :
    numberTokens twiceDocument = [['1'], ['2']] ∧
    (∀ other, (numberTokenDiff twiceDocument other).Empty ↔
      (numberTokens twiceDocument).Perm (numberTokens other)) ∧
    ∀ out, formatDocument twiceDocument = .ok out → (SpellingsSurvive twiceDocument out ↔
      NumbersKept (.obj [([97], .num ['1']), ([97], .num ['2'])])) :=
  numbers_survive_iff _ _ twiceDocument_document

end XochiSdk.Wire
