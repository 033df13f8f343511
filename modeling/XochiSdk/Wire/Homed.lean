import XochiSdk.Wire.FormatScan
import Mathlib.Data.List.Lex

/-!
# The members of an object

An object keeps the last member of each key, in an order that depends on its keys alone. So what it
holds is settled by what each key reads.
-/

namespace XochiSdk.Wire

open XochiSdk.Js XochiSdk.Library JsonText Signer

/-! ## What a key reads -/

/-- A stable sort keeps what stands in any class of related elements as it stood. -/
theorem filter_insertionSort {α : Type} {r : α → α → Prop} [DecidableRel r] {p : α → Bool}
    (related : ∀ a b, p a = true → p b = true → r a b) (l : List α) :
    (l.insertionSort r).filter p = l.filter p := by
  have inserted : ∀ (a : α) (l : List α),
      (l.orderedInsert r a).filter p = (a :: l).filter p := by
    intro a l
    induction l with
    | nil => rfl
    | cons b l ih =>
      rw [List.orderedInsert_cons]
      split_ifs with first
      · rfl
      · rw [List.filter_cons, ih]
        by_cases pb : p b = true
        · have pa : ¬p a = true := fun pa => first (related a b pa pb)
          simp [List.filter_cons, pa]
        · simp [List.filter_cons, pb]
  induction l with
  | nil => rfl
  | cons a l ih =>
    rw [List.insertionSort_cons, inserted, List.filter_cons, List.filter_cons, ih]

/-- What a key reads in a list of members: the last. -/
def lastAt (ms : List (Key × JsonData)) (key : Key) : Option JsonData :=
  (JsonData.obj ms).member key

theorem lastAt_nil (key : Key) : lastAt [] key = none := rfl

theorem lastAt_eq (ms : List (Key × JsonData)) (key : Key) :
    lastAt ms key = (ms.filter (·.1 == key)).getLast?.map (·.2) := by
  rw [lastAt, JsonData.member, ← List.head?_filter, List.filter_reverse, List.head?_reverse]

theorem lastAt_cons (m : Key × JsonData) (ms : List (Key × JsonData)) (key : Key) :
    lastAt (m :: ms) key = (lastAt ms key).or (if m.1 = key then some m.2 else none) := by
  rw [lastAt_eq, lastAt_eq]
  by_cases same : m.1 = key
  · rw [List.filter_cons_of_pos (by simpa using same), List.getLast?_cons, if_pos same]
    cases (ms.filter (·.1 == key)).getLast? <;> rfl
  · rw [List.filter_cons_of_neg (by simpa using same), if_neg same, Option.or_none]

theorem lastAt_isNone {ms : List (Key × JsonData)} {key : Key} :
    lastAt ms key = none ↔ key ∉ ms.map (·.1) := by
  induction ms with
  | nil => simp [lastAt_nil]
  | cons m ms ih =>
    rw [lastAt_cons, Option.or_eq_none_iff, ih, List.map_cons, List.mem_cons, not_or, and_comm]
    refine and_congr_left fun _ => ?_
    by_cases same : m.1 = key
    · simp [same]
    · simp [same, Ne.symm same]

theorem mem_of_lastAt {ms : List (Key × JsonData)} {key : Key} {x : JsonData}
    (h : lastAt ms key = some x) : (key, x) ∈ ms := by
  induction ms with
  | nil => cases h
  | cons m ms ih =>
    rw [lastAt_cons, Option.or_eq_some_iff] at h
    rcases h with later | ⟨-, first⟩
    · exact List.mem_cons_of_mem _ (ih later)
    · split_ifs at first with same
      obtain rfl := Option.some.inj first
      obtain rfl := same
      exact List.mem_cons_self

theorem lastAt_of_mem {ms : List (Key × JsonData)} {key : Key} {x : JsonData}
    (distinct : (ms.map (·.1)).Nodup) (mem : (key, x) ∈ ms) : lastAt ms key = some x :=
  JsonData.member_of_mem distinct mem

theorem mem_iff_lastAt {ms : List (Key × JsonData)} {key : Key} {x : JsonData}
    (distinct : (ms.map (·.1)).Nodup) : (key, x) ∈ ms ↔ lastAt ms key = some x :=
  ⟨lastAt_of_mem distinct, mem_of_lastAt⟩

/-! ## Setting the members of a sorted list -/

theorem keyLt_iff {a b : Key} : keyLt a b = true ↔ a < b := by
  induction a generalizing b with
  | nil => cases b <;> simp [keyLt]
  | cons u us ih =>
    cases b with
    | nil => simp [keyLt]
    | cons v vs =>
      rw [keyLt, List.cons_lt_cons_iff]
      by_cases same : u = v
      · subst same
        simp [ih]
      · simp [same]

theorem sortEntries_sorted (entries : List (Key × JsonData)) :
    (sortEntries entries).Pairwise fun a b => a.1 ≤ b.1 := by
  have le_iff : ∀ a b : Key × JsonData, (!keyLt b.1 a.1) = true ↔ a.1 ≤ b.1 := by
    intro a b
    rw [Bool.not_eq_true', ← Bool.not_eq_true, keyLt_iff, not_lt]
  have total : Std.Total fun a b : Key × JsonData => (!keyLt b.1 a.1) = true :=
    ⟨fun a b => by rw [le_iff, le_iff]; exact le_total _ _⟩
  have transitive : IsTrans (Key × JsonData) fun a b => (!keyLt b.1 a.1) = true :=
    ⟨fun a b c first second => by rw [le_iff] at *; exact le_trans first second⟩
  refine (List.pairwise_insertionSort (fun a b : Key × JsonData => (!keyLt b.1 a.1) = true)
    entries).imp ?_
  intro a b related
  exact (le_iff a b).mp related

theorem lastAt_sortEntries (entries : List (Key × JsonData)) (key : Key) :
    lastAt (sortEntries entries) key = lastAt entries key := by
  rw [lastAt_eq, lastAt_eq, sortEntries, filter_insertionSort]
  intro a b ha hb
  obtain rfl : a.1 = key := by simpa using ha
  have same : b.1 = a.1 := by simpa using hb
  rw [same, Bool.not_eq_true', ← Bool.not_eq_true, keyLt_iff]
  exact lt_irrefl _

theorem mem_setMember {ms : List (Key × JsonData)} {entry : Key × JsonData} {key : Key}
    {x : JsonData} : (key, x) ∈ setMember ms entry ↔
      (key, x) = entry ∨ key ≠ entry.1 ∧ (key, x) ∈ ms := by
  unfold setMember
  split_ifs with known
  · obtain ⟨m, among, same⟩ := List.any_eq_true.mp known
    rw [List.mem_map]
    constructor
    · rintro ⟨n, stays, eq⟩
      split_ifs at eq with there
      · exact Or.inl eq.symm
      · subst eq
        exact Or.inr ⟨there, stays⟩
    · rintro (rfl | ⟨other, stays⟩)
      · exact ⟨m, among, if_pos (by simpa using same)⟩
      · exact ⟨(key, x), stays, if_neg other⟩
  · rw [List.mem_append, List.mem_singleton]
    constructor
    · rintro (stays | rfl)
      · refine Or.inr ⟨?_, stays⟩
        rintro rfl
        exact known (List.any_eq_true.mpr ⟨_, stays, by simp⟩)
      · exact Or.inl rfl
    · rintro (rfl | ⟨-, stays⟩)
      · exact Or.inr rfl
      · exact Or.inl stays

theorem mem_foldl_setMember {entries ms : List (Key × JsonData)} {key : Key} {x : JsonData} :
    (key, x) ∈ entries.foldl setMember ms ↔
      lastAt entries key = some x ∨ lastAt entries key = none ∧ (key, x) ∈ ms := by
  induction entries generalizing ms with
  | nil => simp [lastAt_nil]
  | cons e entries ih =>
    rw [List.foldl_cons, ih, lastAt_cons, mem_setMember]
    cases lastAt entries key with
    | some y => simp
    | none =>
      by_cases same : e.1 = key
      · subst same
        simp [Prod.ext_iff, eq_comm]
      · have other : (key, x) ≠ e := fun eq => same (by rw [← eq])
        simp [same, other, Ne.symm same]

/-- Setting a member whose key is last among the keys keeps them in order. -/
theorem setMember_sorted {ms : List (Key × JsonData)} {entry : Key × JsonData}
    (sorted : ms.Pairwise fun a b => a.1 < b.1) (last : ∀ m ∈ ms, m.1 ≤ entry.1) :
    (setMember ms entry).Pairwise fun a b => a.1 < b.1 := by
  unfold setMember
  split_ifs with known
  · rw [List.pairwise_map]
    refine sorted.imp ?_
    intro a b less
    split_ifs with first second second
    · rw [first, second] at less
      exact absurd less (lt_irrefl _)
    · rwa [first] at less
    · rwa [second] at less
    · exact less
  · rw [List.pairwise_append]
    refine ⟨sorted, List.pairwise_singleton _ _, ?_⟩
    intro m among e same
    obtain rfl := List.mem_singleton.mp same
    refine lt_of_le_of_ne (last m among) fun eq => ?_
    exact known (List.any_eq_true.mpr ⟨m, among, by simp [eq]⟩)

theorem foldl_setMember_sorted {entries ms : List (Key × JsonData)}
    (sorted : ms.Pairwise fun a b => a.1 < b.1) (last : ∀ m ∈ ms, ∀ e ∈ entries, m.1 ≤ e.1)
    (rising : entries.Pairwise fun a b => a.1 ≤ b.1) :
    (entries.foldl setMember ms).Pairwise fun a b => a.1 < b.1 := by
  induction entries generalizing ms with
  | nil => exact sorted
  | cons e entries ih =>
    obtain ⟨least, rising⟩ := List.pairwise_cons.mp rising
    refine ih (setMember_sorted sorted fun m among => last m among e List.mem_cons_self) ?_ rising
    rintro ⟨key, x⟩ among f later
    rcases mem_setMember.mp among with rfl | ⟨-, stays⟩
    · exact least f later
    · exact last _ stays f (List.mem_cons_of_mem _ later)

/-- The members as they were set. -/
def setInOrder (entries : List (Key × JsonData)) : List (Key × JsonData) :=
  (sortEntries entries).foldl setMember []

theorem mem_setInOrder {entries : List (Key × JsonData)} {key : Key} {x : JsonData} :
    (key, x) ∈ setInOrder entries ↔ lastAt entries key = some x := by
  rw [setInOrder, mem_foldl_setMember, lastAt_sortEntries]
  simp

theorem setInOrder_sorted (entries : List (Key × JsonData)) :
    (setInOrder entries).Pairwise fun a b => a.1 < b.1 :=
  foldl_setMember_sorted List.Pairwise.nil (by simp) (sortEntries_sorted entries)

theorem setInOrder_nodup (entries : List (Key × JsonData)) : (setInOrder entries).Nodup :=
  (setInOrder_sorted entries).imp fun less eq => absurd less (by rw [eq]; exact lt_irrefl _)

theorem setInOrder_congr {entries entries' : List (Key × JsonData)}
    (same : ∀ key, lastAt entries key = lastAt entries' key) :
    setInOrder entries = setInOrder entries' := by
  have perm : (setInOrder entries).Perm (setInOrder entries') := by
    rw [List.perm_ext_iff_of_nodup (setInOrder_nodup _) (setInOrder_nodup _)]
    rintro ⟨key, x⟩
    rw [mem_setInOrder, mem_setInOrder, same]
  refine perm.eq_of_pairwise ?_ (setInOrder_sorted _) (setInOrder_sorted _)
  intro a b _ _ less more
  exact absurd less (lt_asymm more)

/-! ## The order of an object's keys -/

theorem ownOrder_perm (members : List (Key × JsonData)) : (ownOrder members).Perm members := by
  refine ((List.perm_insertionSort _ _).append_right _).trans ?_
  have split := List.filter_append_perm (fun m : Key × JsonData => (indexKey m.1).isSome) members
  simpa [Option.not_isSome] using split

theorem homed_perm (entries : List (Key × JsonData)) :
    (homed entries).Perm (setInOrder entries) :=
  ownOrder_perm _

theorem mem_homed {entries : List (Key × JsonData)} {key : Key} {x : JsonData} :
    (key, x) ∈ homed entries ↔ lastAt entries key = some x := by
  rw [(homed_perm entries).mem_iff, mem_setInOrder]

theorem homed_distinct (entries : List (Key × JsonData)) : ((homed entries).map (·.1)).Nodup := by
  rw [((homed_perm entries).map _).nodup_iff, List.nodup_iff_pairwise_ne, List.pairwise_map]
  exact (setInOrder_sorted entries).imp ne_of_lt

theorem lastAt_homed (entries : List (Key × JsonData)) (key : Key) :
    lastAt (homed entries) key = lastAt entries key := by
  ext x
  rw [← mem_iff_lastAt (homed_distinct entries), mem_homed]

/-- An object is what its keys read. -/
theorem homed_congr {entries entries' : List (Key × JsonData)}
    (same : ∀ key, lastAt entries key = lastAt entries' key) : homed entries = homed entries' :=
  congrArg ownOrder (setInOrder_congr same)

end XochiSdk.Wire
