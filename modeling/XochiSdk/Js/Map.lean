import Mathlib.Data.List.Basic

/-!
# JavaScript maps

`Map`: entries in the order their keys were first set.
-/

namespace XochiSdk.Js

variable {κ α : Type} [DecidableEq κ]

/-- `Map`. -/
structure JsMap (κ α : Type) where
  entries : List (κ × α)

namespace JsMap

def empty : JsMap κ α := ⟨[]⟩

/-- `map.get(key)`. -/
def get (m : JsMap κ α) (key : κ) : Option α := m.entries.lookup key

/-- `map.has(key)`. -/
def has (m : JsMap κ α) (key : κ) : Bool := (m.get key).isSome

/-- `map.set(key, value)`: an old key keeps its place. -/
def set (m : JsMap κ α) (key : κ) (value : α) : JsMap κ α :=
  if m.has key then ⟨m.entries.map fun e => if e.1 = key then (key, value) else e⟩
  else ⟨m.entries ++ [(key, value)]⟩

/-- `map.delete(key)`. -/
def delete (m : JsMap κ α) (key : κ) : JsMap κ α := ⟨m.entries.filter fun e => e.1 ≠ key⟩

@[simp] theorem get_empty (key : κ) : (empty : JsMap κ α).get key = none := rfl

theorem lookup_replace {entries : List (κ × α)} {key : κ} (value : α)
    (present : (entries.lookup key).isSome) (other : κ) :
    (entries.map fun e => if e.1 = key then (key, value) else e).lookup other =
      if other = key then some value else entries.lookup other := by
  induction entries with
  | nil => simp at present
  | cons e rest ih =>
    obtain ⟨k, v⟩ := e
    by_cases here : k = key
    · subst here
      simp only [List.map_cons, if_true, List.lookup_cons]
      by_cases same : other = k
      · subst same
        simp
      · have other_k : (other == k) = false := by simpa using same
        simp only [other_k, if_neg same]
        clear ih present
        induction rest with
        | nil => rfl
        | cons e rest ih =>
          obtain ⟨k', v'⟩ := e
          by_cases here : k' = k
          · subst here
            simp only [List.map_cons, if_true, List.lookup_cons, other_k]
            exact ih
          · simp only [List.map_cons, if_neg here, List.lookup_cons]
            rw [ih]
    · have skip : (key == k) = false := by simpa using fun h => here h.symm
      rw [List.lookup_cons, skip] at present
      simp only [List.map_cons, if_neg here, List.lookup_cons]
      rw [ih present]
      by_cases same : other = key
      · subst same
        simp [skip]
      · simp only [if_neg same]

theorem get_set (m : JsMap κ α) (key other : κ) (value : α) :
    (m.set key value).get other = if other = key then some value else m.get other := by
  unfold set get
  split
  · rename_i present
    exact lookup_replace value present other
  · rename_i absent
    have absent : m.entries.lookup key = none := by
      rw [← Option.not_isSome_iff_eq_none]
      exact absent
    rw [List.lookup_append]
    by_cases same : other = key
    · subst same
      simp [absent]
    · have skip : (other == key) = false := by simpa using same
      simp [List.lookup_cons, skip, same]

theorem get_set_of_ne (m : JsMap κ α) {key other : κ} (value : α) (h : other ≠ key) :
    (m.set key value).get other = m.get other := by
  rw [get_set, if_neg h]

theorem get_delete (m : JsMap κ α) (key other : κ) :
    (m.delete key).get other = if other = key then none else m.get other := by
  unfold delete get
  induction m.entries with
  | nil => simp
  | cons e rest ih =>
    obtain ⟨k, v⟩ := e
    by_cases here : k = key
    · subst here
      rw [List.filter_cons_of_neg (by simp), ih, List.lookup_cons]
      by_cases same : other = k
      · simp [same]
      · have skip : (other == k) = false := by simpa using same
        simp [skip]
    · rw [List.filter_cons_of_pos (by simpa using here), List.lookup_cons, List.lookup_cons, ih]
      by_cases same : other = key
      · subst same
        have skip : (other == k) = false := by simpa using fun h => here h.symm
        simp [skip]
      · simp only [if_neg same]

@[simp] theorem get_delete_self (m : JsMap κ α) (key : κ) : (m.delete key).get key = none := by
  rw [get_delete, if_pos rfl]

theorem get_delete_of_ne (m : JsMap κ α) {key other : κ} (h : other ≠ key) :
    (m.delete key).get other = m.get other := by
  rw [get_delete, if_neg h]

/-- No key has two entries. -/
def KeysOnce (m : JsMap κ α) : Prop := (m.entries.map (·.1)).Nodup

theorem keysOnce_set {m : JsMap κ α} (once : KeysOnce m) (key : κ) (value : α) :
    KeysOnce (m.set key value) := by
  unfold KeysOnce set
  split_ifs with known
  · have keys : ((m.entries.map fun e => if e.1 = key then (key, value) else e).map (·.1)) =
        m.entries.map (·.1) := by
      rw [List.map_map]
      refine List.map_congr_left fun e _ => ?_
      simp only [Function.comp_apply]
      split_ifs with same
      · exact same.symm
      · rfl
    rw [keys]
    exact once
  · rw [List.map_append, List.map_singleton]
    refine List.nodup_append.mpr ⟨once, by simp, ?_⟩
    intro a among b last eq
    rw [List.mem_singleton] at last
    subst eq last
    obtain ⟨e, there, same⟩ := List.mem_map.mp among
    rw [has, get, Bool.not_eq_true, Option.isSome_eq_false_iff, Option.isNone_iff_eq_none,
      List.lookup_eq_none_iff] at known
    have differs := known e there
    rw [same] at differs
    simp at differs

theorem get_of_mem {m : JsMap κ α} (once : KeysOnce m) {key : κ} {value : α}
    (mem : (key, value) ∈ m.entries) : m.get key = some value := by
  obtain ⟨entries⟩ := m
  simp only [KeysOnce] at once
  show entries.lookup key = some value
  induction entries with
  | nil => cases mem
  | cons e entries ih =>
    rw [List.map_cons, List.nodup_cons] at once
    rcases List.mem_cons.mp mem with rfl | later
    · simp
    · have other : (key == e.1) = false := by
        rw [beq_eq_false_iff_ne]
        rintro rfl
        exact once.1 (List.mem_map.mpr ⟨_, later, rfl⟩)
      rw [List.lookup_cons, other]
      exact ih once.2 later

theorem mem_of_get {m : JsMap κ α} {key : κ} {value : α} (found : m.get key = some value) :
    (key, value) ∈ m.entries := by
  obtain ⟨before, after, split, -⟩ := List.lookup_eq_some_iff.mp found
  rw [split]
  simp

end JsMap

end XochiSdk.Js
