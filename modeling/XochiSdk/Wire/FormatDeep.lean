import XochiSdk.Wire.FormatScan

/-!
# Texts that nest too deep

A text of the grammar that nests past the bound is refused for that, and for nothing else.
-/

namespace XochiSdk.Wire

open XochiSdk.Js XochiSdk.Library JsonText Signer

theorem scanValue_deep {fuel depth : Nat} {cs : List Char} (deep : maxDepth < depth) :
    scanValue (fuel + 1) depth cs = .error .incomparable := by
  rw [scanValue.eq_def]
  simp only [if_pos deep]

/-- How a text of the grammar that nests too deep is refused, wherever it stands. -/
def Stopped : Part → List Char → JsonData → Prop
  | .value, v, x => ∀ fuel depth rest, v.length < fuel → maxDepth < depth + height x → Ends rest →
      scanValue fuel depth (v ++ rest) = .error .incomparable
  | .elements, inner, .arr (x :: xs) => ∀ fuel depth rest, inner.length + 1 < fuel →
      maxDepth < depth + heightElements (x :: xs) →
      valueElements fuel depth (inner ++ ']' :: rest) = .error .incomparable
  | .members, inner, .obj (m :: ms) => ∀ fuel depth rest, inner.length + 1 < fuel →
      maxDepth < depth + heightMembers (m :: ms) →
      valueMembers fuel depth (inner ++ '\x7d' :: rest) = .error .incomparable
  | _, _, _ => True

theorem stopped_leaf {v : List Char} {x : JsonData} (leaf : height x = 0) :
    Stopped .value v x := by
  intro fuel depth rest enough deep _
  obtain ⟨fuel, rfl⟩ : ∃ n, fuel = n + 1 := ⟨fuel - 1, by omega⟩
  exact scanValue_deep (by omega)

theorem stopped_of_derived {part : Part} {cs : List Char} {x : JsonData}
    (derived : Says part cs x) : Stopped part cs x := by
  induction derived with
  | null => exact stopped_leaf rfl
  | true_ => exact stopped_leaf rfl
  | false_ => exact stopped_leaf rfl
  | num => exact stopped_leaf rfl
  | str => exact stopped_leaf rfl
  | @arr cs x inner ih =>
    intro fuel depth rest enough deep _
    obtain ⟨fuel, rfl⟩ : ∃ n, fuel = n + 1 := ⟨fuel - 1, by omega⟩
    by_cases shallow : depth ≤ maxDepth
    · have scanned := scanned_of_derived inner
      rw [List.cons_append, List.append_assoc, List.singleton_append]
      simp only [List.length_cons, List.length_append, List.length_nil] at enough
      cases x with
      | arr xs =>
        cases xs with
        | nil => exact absurd deep (not_lt.mpr shallow)
        | cons x xs =>
          rw [scanValue_array shallow (scanned.1 _), ih fuel depth rest (by omega) deep]
          rfl
      | null | bool | num | str | obj => exact scanned.elim
    · exact scanValue_deep (not_le.mp shallow)
  | @obj cs x inner ih =>
    intro fuel depth rest enough deep _
    obtain ⟨fuel, rfl⟩ : ∃ n, fuel = n + 1 := ⟨fuel - 1, by omega⟩
    by_cases shallow : depth ≤ maxDepth
    · have scanned := scanned_of_derived inner
      rw [List.cons_append, List.append_assoc, List.singleton_append]
      simp only [List.length_cons, List.length_append, List.length_nil] at enough
      cases x with
      | obj ms =>
        cases ms with
        | nil => exact absurd deep (not_lt.mpr shallow)
        | cons m ms =>
          rw [scanValue_object shallow (scanned.1 _), ih fuel depth rest (by omega) deep]
          rfl
      | null | bool | num | str | arr => exact scanned.elim
    · exact scanValue_deep (not_le.mp shallow)
  | noElements => trivial
  | @lastElement w v w' x ws said ws' ih =>
    intro fuel depth rest enough deep
    obtain ⟨fuel, rfl⟩ : ∃ n, fuel = n + 1 := ⟨fuel - 1, by omega⟩
    simp only [List.length_append] at enough
    rw [heightElements, heightElements] at deep
    rw [List.append_assoc, List.append_assoc, valueElements_step ws said,
      ih fuel (depth + 1) _ (by omega) (by omega) (ends_before ws' (Or.inr (Or.inl rfl)))]
    rfl
  | @element w v w' cs x y ys ws said ws' _ ih ihRest =>
    intro fuel depth rest enough deep
    obtain ⟨fuel, rfl⟩ : ∃ n, fuel = n + 1 := ⟨fuel - 1, by omega⟩
    simp only [List.length_append, List.length_cons] at enough
    rw [heightElements] at deep
    rw [List.append_assoc, List.append_assoc, List.append_assoc, List.cons_append,
      valueElements_step ws said]
    have ends := @ends_before w' (cs ++ ']' :: rest) ',' ws' (Or.inl rfl)
    by_cases here : depth + 1 + height x ≤ maxDepth
    · rw [scanned_of_derived said fuel (depth + 1) _ (by omega) here ends]
      simp only [bind, Except.bind, skipWs_mark ws' (show isWs ',' = false by decide),
        ihRest fuel depth rest (by omega) (by omega)]
    · rw [ih fuel (depth + 1) _ (by omega) (not_le.mp here) ends]
      rfl
  | noMembers => trivial
  | @lastMember w k w₁ w₂ v w' key x ws name ws₁ ws₂ said ws' ih =>
    intro fuel depth rest enough deep
    obtain ⟨fuel, rfl⟩ : ∃ n, fuel = n + 1 := ⟨fuel - 1, by omega⟩
    simp only [List.length_append, List.length_cons] at enough
    rw [heightMembers, heightMembers] at deep
    simp only [List.append_assoc, List.cons_append]
    rw [valueMembers_step ws name ws₁ ws₂ said,
      ih fuel (depth + 1) _ (by omega) (by omega) (ends_before ws' (Or.inr (Or.inr rfl)))]
    rfl
  | @member w k w₁ w₂ v w' cs key x m ms ws name ws₁ ws₂ said ws' _ ih ihRest =>
    intro fuel depth rest enough deep
    obtain ⟨fuel, rfl⟩ : ∃ n, fuel = n + 1 := ⟨fuel - 1, by omega⟩
    simp only [List.length_append, List.length_cons] at enough
    rw [heightMembers] at deep
    simp only [List.append_assoc, List.cons_append]
    rw [valueMembers_step ws name ws₁ ws₂ said]
    have ends := @ends_before w' (cs ++ '\x7d' :: rest) ',' ws' (Or.inl rfl)
    by_cases here : depth + 1 + height x ≤ maxDepth
    · rw [scanned_of_derived said fuel (depth + 1) _ (by omega) here ends]
      simp only [bind, Except.bind, skipWs_mark ws' (show isWs ',' = false by decide),
        ihRest fuel depth rest (by omega) (by omega)]
    · rw [ih fuel (depth + 1) _ (by omega) (not_le.mp here) ends]
      rfl

/-- A document is scanned where it is no deeper than the bound, and incomparable where it is. -/
theorem scan_document {text : List Char} {x : JsonData} (said : Document text x) :
    scan text = if height x ≤ maxDepth then .ok (normal x) else .error .incomparable := by
  split_ifs with bounded
  · exact scan_iff.mpr ⟨x, said, bounded, rfl⟩
  · obtain ⟨w, v, w', rfl, ws, ws', said⟩ := said
    have stopped := stopped_of_derived said ((w ++ (v ++ w')).length + 1) 0 w'
      (by simp only [List.length_append]; omega) (by omega) (ends_of_ws ws')
    rw [scan, skipWs_value ws said, stopped]
    rfl

end XochiSdk.Wire
