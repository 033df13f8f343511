import XochiSdk.Wire.Homed

/-!
# The normal form of a value

Normalising keeps what every key reads, and two values that agree in that have one normal form.
-/

namespace XochiSdk.Wire

open XochiSdk.Js XochiSdk.Library JsonText Signer

/-! ## The same value -/

/-- Two texts' values are the same where an object's key reads its last member. Numbers are the same
when they are spelled the same. -/
inductive SameValue : JsonData → JsonData → Prop where
  | null : SameValue .null .null
  | bool (b : Bool) : SameValue (.bool b) (.bool b)
  | num (token : List Char) : SameValue (.num token) (.num token)
  | str (us : List Nat) : SameValue (.str us) (.str us)
  | arrNil : SameValue (.arr []) (.arr [])
  | arrCons {x y : JsonData} {xs ys : List JsonData} (head : SameValue x y)
      (tail : SameValue (.arr xs) (.arr ys)) : SameValue (.arr (x :: xs)) (.arr (y :: ys))
  | obj {ms ns : List (Key × JsonData)}
      (keys : ∀ key, (lastAt ms key).isSome = (lastAt ns key).isSome)
      (members : ∀ key x y, lastAt ms key = some x → lastAt ns key = some y → SameValue x y) :
      SameValue (.obj ms) (.obj ns)

theorem normalMembers_eq (ms : List (Key × JsonData)) :
    normalMembers ms = ms.map fun m => (m.1, normal m.2) := by
  induction ms with
  | nil => rfl
  | cons m ms ih => rw [normalMembers, ih, List.map_cons]

theorem lastAt_normalMembers (ms : List (Key × JsonData)) (key : Key) :
    lastAt (normalMembers ms) key = (lastAt ms key).map normal := by
  induction ms with
  | nil => rfl
  | cons m ms ih =>
    rw [normalMembers, lastAt_cons, lastAt_cons, ih]
    cases lastAt ms key with
    | some x => rfl
    | none => split_ifs <;> rfl

theorem mem_homed_normal {ms : List (Key × JsonData)} {key : Key} {y : JsonData} :
    (key, y) ∈ homed (normalMembers ms) ↔ ∃ x, lastAt ms key = some x ∧ normal x = y := by
  rw [mem_homed, lastAt_normalMembers, Option.map_eq_some_iff]

theorem normal_congr {x y : JsonData} (same : SameValue x y) : normal x = normal y := by
  induction same with
  | null => rfl
  | bool b => rfl
  | num token => rfl
  | str us => rfl
  | arrNil => rfl
  | @arrCons x y xs ys _ _ head tail =>
    have rest : normalElements xs = normalElements ys := by simpa [normal] using tail
    rw [normal, normal, normalElements, normalElements, head, rest]
  | @obj ms ns keys _ members =>
    rw [normal, normal]
    refine congrArg JsonData.obj (homed_congr fun key => ?_)
    rw [lastAt_normalMembers, lastAt_normalMembers]
    have both := keys key
    cases first : lastAt ms key with
    | none =>
      rw [first] at both
      rw [Option.isSome_eq_false_iff.mp both.symm |> Option.isNone_iff_eq_none.mp]
    | some x =>
      rw [first] at both
      obtain ⟨y, second⟩ := Option.isSome_iff_exists.mp both.symm
      rw [second, Option.map_some, Option.map_some, members key x y first second]

mutual

theorem sameValue_normal : ∀ x, SameValue x (normal x)
  | .null => .null
  | .bool b => .bool b
  | .num token => .num token
  | .str us => .str us
  | .arr xs => sameValue_elements xs
  | .obj ms => by
    rw [normal]
    refine .obj (fun key => ?_) fun key x y first second => ?_
    · rw [lastAt_homed, lastAt_normalMembers, Option.isSome_map]
    · rw [lastAt_homed, lastAt_normalMembers, first, Option.map_some] at second
      obtain rfl := Option.some.inj second
      exact sameValue_members ms (key, x) (mem_of_lastAt first)

theorem sameValue_elements : ∀ xs, SameValue (.arr xs) (.arr (normalElements xs))
  | [] => .arrNil
  | x :: xs => .arrCons (sameValue_normal x) (sameValue_elements xs)

theorem sameValue_members : ∀ ms : List (Key × JsonData), ∀ m ∈ ms, SameValue m.2 (normal m.2)
  | [] => fun _ none => absurd none List.not_mem_nil
  | (_, x) :: ms => fun m among => (List.mem_cons.mp among).elim
      (fun eq => eq ▸ sameValue_normal x) fun later => sameValue_members ms m later

end

/-- Normalising twice is normalising once. -/
theorem normal_normal (x : JsonData) : normal (normal x) = normal x :=
  (normal_congr (sameValue_normal x)).symm

/-! ## How deep the normal form nests -/

theorem heightMembers_le {ms : List (Key × JsonData)} {n : Nat} :
    heightMembers ms ≤ n ↔ ∀ m ∈ ms, height m.2 + 1 ≤ n := by
  induction ms with
  | nil => simp [heightMembers]
  | cons m ms ih => rw [heightMembers, max_le_iff, ih, List.forall_mem_cons]

mutual

theorem height_normal : ∀ x, height (normal x) ≤ height x
  | .null => le_refl _
  | .bool _ => le_refl _
  | .num _ => le_refl _
  | .str _ => le_refl _
  | .arr xs => height_normalElements xs
  | .obj ms => by
    rw [normal, height, height, heightMembers_le]
    rintro ⟨key, y⟩ among
    obtain ⟨x, found, rfl⟩ := mem_homed_normal.mp among
    have below := heightMembers_le.mp (le_refl (heightMembers ms)) _ (mem_of_lastAt found)
    have less := height_normalMembers ms _ (mem_of_lastAt found)
    exact (Nat.succ_le_succ less).trans below

theorem height_normalElements : ∀ xs, heightElements (normalElements xs) ≤ heightElements xs
  | [] => le_refl _
  | x :: xs => max_le_max (Nat.succ_le_succ (height_normal x)) (height_normalElements xs)

theorem height_normalMembers : ∀ ms : List (Key × JsonData), ∀ m ∈ ms,
    height (normal m.2) ≤ height m.2
  | [] => fun _ none => absurd none List.not_mem_nil
  | (_, x) :: ms => fun m among => (List.mem_cons.mp among).elim
      (fun eq => eq ▸ height_normal x) fun later => height_normalMembers ms m later

end

/-! ## Values that differ in the order of members -/

/-- The same value with the members of its objects, which have no key twice, in another order. -/
inductive Reordered : JsonData → JsonData → Prop where
  | null : Reordered .null .null
  | bool (b : Bool) : Reordered (.bool b) (.bool b)
  | num (token : List Char) : Reordered (.num token) (.num token)
  | str (us : List Nat) : Reordered (.str us) (.str us)
  | arrNil : Reordered (.arr []) (.arr [])
  | arrCons {x y : JsonData} {xs ys : List JsonData} (head : Reordered x y)
      (tail : Reordered (.arr xs) (.arr ys)) : Reordered (.arr (x :: xs)) (.arr (y :: ys))
  | obj {ms ns : List (Key × JsonData)} (distinct : (ms.map (·.1)).Nodup)
      (keys : (ms.map (·.1)).Perm (ns.map (·.1)))
      (members : ∀ key x y, (key, x) ∈ ms → (key, y) ∈ ns → Reordered x y) :
      Reordered (.obj ms) (.obj ns)

theorem Reordered.same {x y : JsonData} (h : Reordered x y) : SameValue x y := by
  induction h with
  | null => exact .null
  | bool b => exact .bool b
  | num token => exact .num token
  | str us => exact .str us
  | arrNil => exact .arrNil
  | arrCons _ _ head tail => exact .arrCons head tail
  | obj distinct keys _ members =>
    refine .obj (fun key => ?_) fun key x y first second =>
      members key x y (mem_of_lastAt first) (mem_of_lastAt second)
    rw [Bool.eq_iff_iff, ← not_iff_not, Bool.not_eq_true, Bool.not_eq_true,
      Option.isSome_eq_false_iff, Option.isSome_eq_false_iff, Option.isNone_iff_eq_none,
      Option.isNone_iff_eq_none, lastAt_isNone, lastAt_isNone, keys.mem_iff]

theorem Reordered.height {x y : JsonData} (h : Reordered x y) : height x = height y := by
  induction h with
  | null => rfl
  | bool b => rfl
  | num token => rfl
  | str us => rfl
  | arrNil => rfl
  | @arrCons x y xs ys _ _ head tail =>
    have rest : heightElements xs = heightElements ys := tail
    show max (Wire.height x + 1) (heightElements xs) = max (Wire.height y + 1) (heightElements ys)
    rw [head, rest]
  | @obj ms ns _ keys _ members =>
    show heightMembers ms = heightMembers ns
    refine le_antisymm (heightMembers_le.mpr ?_) (heightMembers_le.mpr ?_)
    · rintro ⟨key, x⟩ among
      obtain ⟨⟨key', y⟩, there, rfl⟩ := List.mem_map.mp
        (keys.mem_iff.mp (List.mem_map.mpr ⟨(key, x), among, rfl⟩))
      have same := members _ x y among there
      simp only [same]
      exact heightMembers_le.mp (le_refl _) _ there
    · rintro ⟨key, y⟩ among
      obtain ⟨⟨key', x⟩, there, rfl⟩ := List.mem_map.mp
        (keys.mem_iff.mpr (List.mem_map.mpr ⟨(key, y), among, rfl⟩))
      have same := members _ x y there among
      simp only [← same]
      exact heightMembers_le.mp (le_refl _) _ there

end XochiSdk.Wire
