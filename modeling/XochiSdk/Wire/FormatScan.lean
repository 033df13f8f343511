import XochiSdk.Wire.FormatTokens

/-!
# The scanner and the grammar

A scan takes the texts of the grammar that nest no deeper than its bound, and no others, and its
tree is what the text says with every object's members homed.
-/

namespace XochiSdk.Wire

open XochiSdk.Js XochiSdk.Library JsonText Signer

mutual

/-- A value with the members of its objects as an object holds them. -/
def normal : JsonData → JsonData
  | .arr xs => .arr (normalElements xs)
  | .obj ms => .obj (homed (normalMembers ms))
  | .null => .null
  | .bool b => .bool b
  | .num token => .num token
  | .str us => .str us

def normalElements : List JsonData → List JsonData
  | [] => []
  | x :: xs => normal x :: normalElements xs

def normalMembers : List (Key × JsonData) → List (Key × JsonData)
  | [] => []
  | (k, x) :: ms => (k, normal x) :: normalMembers ms

end

mutual

/-- How deep a value nests. -/
def height : JsonData → Nat
  | .arr xs => heightElements xs
  | .obj ms => heightMembers ms
  | .null => 0
  | .bool _ => 0
  | .num _ => 0
  | .str _ => 0

def heightElements : List JsonData → Nat
  | [] => 0
  | x :: xs => max (height x + 1) (heightElements xs)

def heightMembers : List (Key × JsonData) → Nat
  | [] => 0
  | (_, x) :: ms => max (height x + 1) (heightMembers ms)

end

/-! ## What is scanned is in the grammar -/

theorem readWord_some {literal : String} {cs rest : List Char}
    (h : readWord literal cs = some rest) : cs = literal.toList ++ rest := by
  unfold readWord at h
  split_ifs at h with starts
  obtain ⟨tail, rfl⟩ := List.isPrefixOf_iff_prefix.mp starts
  obtain rfl := Option.some.inj h
  simp

theorem readLiteral_sound {cs rest : List Char} {y : JsonData}
    (h : readLiteral cs = .ok (y, rest)) :
    ∃ v, cs = v ++ rest ∧ Says .value v y ∧ normal y = y ∧ height y = 0 := by
  unfold readLiteral at h
  split at h
  · simp only [Except.ok.injEq, Prod.mk.injEq] at h
    obtain ⟨rfl, rfl⟩ := h
    exact ⟨_, readWord_some ‹readWord "true" cs = some _›, .true_, rfl, rfl⟩
  · simp only [Except.ok.injEq, Prod.mk.injEq] at h
    obtain ⟨rfl, rfl⟩ := h
    exact ⟨_, readWord_some ‹readWord "false" cs = some _›, .false_, rfl, rfl⟩
  · simp only [Except.ok.injEq, Prod.mk.injEq] at h
    obtain ⟨rfl, rfl⟩ := h
    exact ⟨_, readWord_some ‹readWord "null" cs = some _›, .null, rfl, rfl⟩
  · simp [bad] at h

/-- A value at the front of a text, and what is scanned of it. -/
def ScansValue (depth : Nat) (cs : List Char) (y : JsonData) (rest : List Char) : Prop :=
  ∃ v x, cs = v ++ rest ∧ Says .value v x ∧ y = normal x ∧ depth + height x ≤ maxDepth

def ScansElements (depth : Nat) (cs : List Char) (ys : List JsonData) (rest : List Char) : Prop :=
  ∃ inner x xs, cs = inner ++ ']' :: rest ∧ Says .elements inner (.arr (x :: xs)) ∧
    ys = normalElements (x :: xs) ∧ depth + heightElements (x :: xs) ≤ maxDepth

def ScansMembers (depth : Nat) (cs : List Char) (ys : List (Key × JsonData)) (rest : List Char) :
    Prop :=
  ∃ inner m ms, cs = inner ++ '\x7d' :: rest ∧ Says .members inner (.obj (m :: ms)) ∧
    ys = normalMembers (m :: ms) ∧ depth + heightMembers (m :: ms) ≤ maxDepth

theorem scanValue_sound {fuel depth : Nat} {cs rest : List Char} {y : JsonData}
    (elements : ∀ depth cs ys rest, valueElements fuel depth cs = .ok (ys, rest) →
      ScansElements depth cs ys rest)
    (members : ∀ depth cs ys rest, valueMembers fuel depth cs = .ok (ys, rest) →
      ScansMembers depth cs ys rest)
    (h : scanValue (fuel + 1) depth cs = .ok (y, rest)) : ScansValue depth cs y rest := by
  rw [scanValue.eq_def] at h
  simp only at h
  split_ifs at h with deep
  split at h
  · simp [bad] at h
  · -- a string
    obtain ⟨⟨us, rest'⟩, read, returned⟩ := bind_ok.mp h
    simp only [pure, Except.pure, Except.ok.injEq, Prod.mk.injEq] at returned
    obtain ⟨rfl, rfl⟩ := returned
    obtain ⟨body, rfl, said⟩ := readString_sound read
    exact ⟨'"' :: (body ++ ['"']), .str us, by simp, .str said, rfl, not_lt.mp deep⟩
  · -- an object
    rename_i tail
    obtain ⟨w, ws, left⟩ := skipWs_split tail
    split at h
    · rename_i after closed
      simp only [Except.ok.injEq, Prod.mk.injEq] at h
      obtain ⟨rfl, rfl⟩ := h
      refine ⟨'\x7b' :: (w ++ ['\x7d']), .obj [], ?_, .obj (.noMembers ws), rfl, not_lt.mp deep⟩
      rw [closed] at left
      simp [left]
    · obtain ⟨⟨entries, rest'⟩, read, returned⟩ := bind_ok.mp h
      simp only [pure, Except.pure, Except.ok.injEq, Prod.mk.injEq] at returned
      obtain ⟨rfl, rfl⟩ := returned
      obtain ⟨inner, m, ms, rfl, said, rfl, bounded⟩ := members _ _ _ _ read
      exact ⟨'\x7b' :: (inner ++ ['\x7d']), _, by simp, .obj said, rfl, bounded⟩
  · -- an array
    rename_i tail
    obtain ⟨w, ws, left⟩ := skipWs_split tail
    split at h
    · rename_i after closed
      simp only [Except.ok.injEq, Prod.mk.injEq] at h
      obtain ⟨rfl, rfl⟩ := h
      refine ⟨'[' :: (w ++ [']']), .arr [], ?_, .arr (.noElements ws), rfl, not_lt.mp deep⟩
      rw [closed] at left
      simp [left]
    · obtain ⟨⟨elems, rest'⟩, read, returned⟩ := bind_ok.mp h
      simp only [pure, Except.pure, Except.ok.injEq, Prod.mk.injEq] at returned
      obtain ⟨rfl, rfl⟩ := returned
      obtain ⟨inner, x, xs, rfl, said, rfl, bounded⟩ := elements _ _ _ _ read
      exact ⟨'[' :: (inner ++ [']']), _, by simp, .arr said, rfl, bounded⟩
  · split_ifs at h with numeric
    · obtain ⟨⟨token, rest'⟩, read, returned⟩ := bind_ok.mp h
      simp only [pure, Except.pure, Except.ok.injEq, Prod.mk.injEq] at returned
      obtain ⟨rfl, rfl⟩ := returned
      obtain ⟨split, number⟩ := readNumber_sound read
      exact ⟨token, .num token, split, .num number, rfl, not_lt.mp deep⟩
    · obtain ⟨v, split, said, same, flat⟩ := readLiteral_sound h
      exact ⟨v, y, split, said, same.symm, by rw [flat]; exact not_lt.mp deep⟩

theorem valueElements_sound {fuel depth : Nat} {cs rest : List Char} {ys : List JsonData}
    (values : ∀ depth cs y rest, scanValue fuel depth cs = .ok (y, rest) →
      ScansValue depth cs y rest)
    (elements : ∀ depth cs ys rest, valueElements fuel depth cs = .ok (ys, rest) →
      ScansElements depth cs ys rest)
    (h : valueElements (fuel + 1) depth cs = .ok (ys, rest)) : ScansElements depth cs ys rest := by
  rw [valueElements] at h
  obtain ⟨⟨y, after⟩, read, h⟩ := bind_ok.mp h
  obtain ⟨w, ws, left⟩ := skipWs_split cs
  obtain ⟨v, x, split, said, rfl, bounded⟩ := values _ _ _ _ read
  obtain ⟨w', ws', right⟩ := skipWs_split after
  simp only at h
  split at h
  · rename_i tail comma
    obtain ⟨⟨others, rest'⟩, later, returned⟩ := bind_ok.mp h
    simp only [pure, Except.pure, Except.ok.injEq, Prod.mk.injEq] at returned
    obtain ⟨rfl, rfl⟩ := returned
    obtain ⟨inner, x', xs, rfl, saidRest, rfl, boundedRest⟩ := elements _ _ _ _ later
    refine ⟨w ++ (v ++ (w' ++ ',' :: inner)), x, x' :: xs, ?_, .element ws said ws' saidRest, rfl,
      ?_⟩
    · rw [left, split, right, comma]
      simp
    · rw [heightElements]
      omega
  · rename_i tail closed
    simp only [pure, Except.pure, Except.ok.injEq, Prod.mk.injEq] at h
    obtain ⟨rfl, rfl⟩ := h
    refine ⟨w ++ (v ++ w'), x, [], ?_, .lastElement ws said ws', rfl, ?_⟩
    · rw [left, split, right, closed]
      simp
    · rw [heightElements, heightElements]
      omega
  · simp [bad] at h

theorem valueMembers_sound {fuel depth : Nat} {cs rest : List Char} {ys : List (Key × JsonData)}
    (values : ∀ depth cs y rest, scanValue fuel depth cs = .ok (y, rest) →
      ScansValue depth cs y rest)
    (members : ∀ depth cs ys rest, valueMembers fuel depth cs = .ok (ys, rest) →
      ScansMembers depth cs ys rest)
    (h : valueMembers (fuel + 1) depth cs = .ok (ys, rest)) : ScansMembers depth cs ys rest := by
  rw [valueMembers] at h
  obtain ⟨w, ws, left⟩ := skipWs_split cs
  split at h
  · rename_i tail quoted
    obtain ⟨⟨k, after⟩, read, scanned⟩ := bind_ok.mp h
    obtain ⟨body, rfl, name⟩ := readString_sound read
    obtain ⟨w₁, ws₁, gap⟩ := skipWs_split after
    simp only at scanned
    split at scanned
    · rename_i tail' colon
      obtain ⟨⟨y, after'⟩, readValue, closing⟩ := bind_ok.mp scanned
      obtain ⟨w₂, ws₂, gap₂⟩ := skipWs_split tail'
      obtain ⟨v, x, split, said, rfl, bounded⟩ := values _ _ _ _ readValue
      obtain ⟨w', ws', right⟩ := skipWs_split after'
      have whole : cs = w ++ '"' :: (body ++ '"' :: (w₁ ++ ':' :: (w₂ ++ (v ++ after')))) := by
        rw [left, quoted]
        conv_lhs => rw [gap, colon, gap₂, split]
      simp only at closing
      split at closing
      · rename_i tail'' comma
        obtain ⟨⟨others, rest'⟩, later, returned⟩ := bind_ok.mp closing
        simp only [pure, Except.pure, Except.ok.injEq, Prod.mk.injEq] at returned
        obtain ⟨rfl, rfl⟩ := returned
        obtain ⟨inner, m, ms, rfl, saidRest, rfl, boundedRest⟩ := members _ _ _ _ later
        refine ⟨w ++ '"' :: (body ++ '"' :: (w₁ ++ ':' :: (w₂ ++ (v ++ (w' ++ ',' :: inner))))),
          (k, x), m :: ms, ?_, .member ws name ws₁ ws₂ said ws' saidRest, rfl, ?_⟩
        · rw [whole, right, comma]
          simp
        · rw [heightMembers]
          omega
      · rename_i tail'' closed
        simp only [pure, Except.pure, Except.ok.injEq, Prod.mk.injEq] at closing
        obtain ⟨rfl, rfl⟩ := closing
        refine ⟨w ++ '"' :: (body ++ '"' :: (w₁ ++ ':' :: (w₂ ++ (v ++ w')))), (k, x), [], ?_,
          .lastMember ws name ws₁ ws₂ said ws', rfl, ?_⟩
        · rw [whole, right, closed]
          simp
        · rw [heightMembers, heightMembers]
          omega
      · simp [bad] at closing
    · simp [bad] at scanned
  · simp [bad] at h

/-- What a scan takes is in the grammar, whatever its fuel. -/
theorem scan_parts_sound (fuel : Nat) :
    (∀ depth cs y rest, scanValue fuel depth cs = .ok (y, rest) → ScansValue depth cs y rest) ∧
    (∀ depth cs ys rest, valueElements fuel depth cs = .ok (ys, rest) →
      ScansElements depth cs ys rest) ∧
    ∀ depth cs ys rest, valueMembers fuel depth cs = .ok (ys, rest) →
      ScansMembers depth cs ys rest := by
  induction fuel with
  | zero =>
    refine ⟨fun _ _ _ _ h => ?_, fun _ _ _ _ h => ?_, fun _ _ _ _ h => ?_⟩
    · simp [scanValue, bad] at h
    · simp [valueElements, bad] at h
    · simp [valueMembers, bad] at h
  | succ fuel ih =>
    obtain ⟨values, elements, members⟩ := ih
    exact ⟨fun _ _ _ _ => scanValue_sound elements members,
      fun _ _ _ _ => valueElements_sound values elements,
      fun _ _ _ _ => valueMembers_sound values members⟩

/-! ## What is in the grammar is scanned -/

theorem isWs_iff {c : Char} : isWs c = true ↔ c = ' ' ∨ c = '\t' ∨ c = '\n' ∨ c = '\r' := by
  simp [isWs, or_assoc]

theorem token_not_ws {c : Char} (token : isToken c = true) : isWs c = false := by
  by_contra blank
  rw [Bool.not_eq_false, isWs_iff] at blank
  rcases blank with rfl | rfl | rfl | rfl <;> exact absurd token (by decide)

theorem ends_of_ws {w : List Char} (ws : Ws w) : Ends w := by
  intro c first
  have blank := ws c (List.mem_of_mem_head? first)
  rcases isWs_iff.mp blank with rfl | rfl | rfl | rfl <;> decide

theorem ends_before {w tail : List Char} {c : Char} (ws : Ws w)
    (closes : c = ',' ∨ c = ']' ∨ c = '\x7d') : Ends (w ++ c :: tail) := by
  cases w with
  | nil =>
    intro d first
    obtain rfl := Option.some.inj first
    rcases closes with rfl | rfl | rfl <;> decide
  | cons d w =>
    intro e first
    obtain rfl := Option.some.inj first
    exact ends_of_ws ws d rfl

/-- Past the white space before it a value is where its text is. -/
theorem skipWs_value {w v tail : List Char} {x : JsonData} (ws : Ws w) (said : Says .value v x) :
    skipWs (w ++ (v ++ tail)) = v ++ tail := by
  obtain ⟨c, rest, rfl, token⟩ := Says.value_token said
  rw [skipWs_append ws, List.cons_append, skipWs_token (token_not_ws token)]

theorem skipWs_mark {w tail : List Char} {c : Char} (ws : Ws w) (mark : isWs c = false) :
    skipWs (w ++ c :: tail) = c :: tail := by
  rw [skipWs_append ws, skipWs_token mark]

section

variable {fuel depth : Nat} (shallow : depth ≤ maxDepth)
include shallow

theorem scanValue_numeric {c : Char} {cs : List Char}
    (numeric : c = '-' ∨ isDecimalDigit c = true) :
    scanValue (fuel + 1) depth (c :: cs) =
      readNumber (c :: cs) >>= fun (token, rest) => .ok (.num token, rest) := by
  rw [scanValue.eq_def]
  simp only [if_neg (not_lt.mpr shallow)]
  split
  · rename_i same
    cases same
  · rename_i same
    rw [(List.cons.inj same).1] at numeric
    exact absurd numeric (by decide)
  · rename_i same
    rw [(List.cons.inj same).1] at numeric
    exact absurd numeric (by decide)
  · rename_i same
    rw [(List.cons.inj same).1] at numeric
    exact absurd numeric (by decide)
  · rename_i same
    obtain ⟨rfl, rfl⟩ := List.cons.inj same
    rw [if_pos numeric]
    rfl

theorem scanValue_quote (cs : List Char) :
    scanValue (fuel + 1) depth ('"' :: cs) =
      readString cs >>= fun (us, rest) => .ok (.str us, rest) := by
  rw [scanValue.eq_def]
  simp only [if_neg (not_lt.mpr shallow)]
  rfl

theorem scanValue_word {cs : List Char} {y : JsonData} {literal : String}
    (word : literal = "true" ∧ y = .bool true ∨ literal = "false" ∧ y = .bool false ∨
      literal = "null" ∧ y = .null) :
    scanValue (fuel + 1) depth (literal.toList ++ cs) = .ok (y, cs) := by
  rw [scanValue.eq_def]
  simp only [if_neg (not_lt.mpr shallow)]
  rcases word with ⟨rfl, rfl⟩ | ⟨rfl, rfl⟩ | ⟨rfl, rfl⟩ <;> rfl

theorem scanValue_noElements {w rest : List Char} (ws : Ws w) :
    scanValue (fuel + 1) depth ('[' :: (w ++ ']' :: rest)) = .ok (.arr [], rest) := by
  rw [scanValue.eq_def]
  simp only [if_neg (not_lt.mpr shallow), skipWs_mark ws (show isWs ']' = false by decide)]

theorem scanValue_array {cs : List Char} (open_ : ∀ tail, skipWs cs ≠ ']' :: tail) :
    scanValue (fuel + 1) depth ('[' :: cs) =
      valueElements fuel depth cs >>= fun (ys, rest) => .ok (.arr ys, rest) := by
  rw [scanValue.eq_def]
  simp only [if_neg (not_lt.mpr shallow)]
  rfl

theorem scanValue_noMembers {w rest : List Char} (ws : Ws w) :
    scanValue (fuel + 1) depth ('\x7b' :: (w ++ '\x7d' :: rest)) = .ok (.obj (homed []), rest) := by
  rw [scanValue.eq_def]
  simp only [if_neg (not_lt.mpr shallow), skipWs_mark ws (show isWs '\x7d' = false by decide)]

theorem scanValue_object {cs : List Char} (open_ : ∀ tail, skipWs cs ≠ '\x7d' :: tail) :
    scanValue (fuel + 1) depth ('\x7b' :: cs) =
      valueMembers fuel depth cs >>= fun (ms, rest) => .ok (.obj (homed ms), rest) := by
  rw [scanValue.eq_def]
  simp only [if_neg (not_lt.mpr shallow)]
  rfl

end

/-- What a text of the grammar is scanned to, wherever it stands. -/
def Scanned : Part → List Char → JsonData → Prop
  | .value, v, x => ∀ fuel depth rest, v.length < fuel → depth + height x ≤ maxDepth → Ends rest →
      scanValue fuel depth (v ++ rest) = .ok (normal x, rest)
  | .elements, inner, .arr (x :: xs) => (∀ rest tail, skipWs (inner ++ rest) ≠ ']' :: tail) ∧
      ∀ fuel depth rest, inner.length + 1 < fuel →
      depth + heightElements (x :: xs) ≤ maxDepth →
      valueElements fuel depth (inner ++ ']' :: rest) = .ok (normalElements (x :: xs), rest)
  | .elements, inner, .arr [] => Ws inner
  | .members, inner, .obj (m :: ms) => (∀ rest tail, skipWs (inner ++ rest) ≠ '\x7d' :: tail) ∧
      ∀ fuel depth rest, inner.length + 1 < fuel →
      depth + heightMembers (m :: ms) ≤ maxDepth →
      valueMembers fuel depth (inner ++ '\x7d' :: rest) = .ok (normalMembers (m :: ms), rest)
  | .members, inner, .obj [] => Ws inner
  | _, _, _ => False

theorem valueElements_step {fuel depth : Nat} {w v tail : List Char} {x : JsonData} (ws : Ws w)
    (said : Says .value v x) :
    valueElements (fuel + 1) depth (w ++ (v ++ tail)) =
      scanValue fuel (depth + 1) (v ++ tail) >>= fun (y, tail) => match skipWs tail with
        | ',' :: rest => valueElements fuel depth rest >>= fun (ys, rest) => .ok (y :: ys, rest)
        | ']' :: rest => .ok ([y], rest)
        | rest => bad "an unclosed array" rest := by
  rw [valueElements, skipWs_value ws said]
  rfl

theorem open_elements {w v tail : List Char} {x : JsonData} (ws : Ws w) (said : Says .value v x)
    (rest : List Char) : skipWs (w ++ (v ++ tail)) ≠ ']' :: rest := by
  rw [skipWs_value ws said]
  obtain ⟨c, cs, rfl, token⟩ := Says.value_token said
  intro same
  rw [List.cons_append] at same
  obtain rfl := (List.cons.inj same).1
  exact absurd token (by decide)

theorem valueMembers_step {fuel depth : Nat} {w k w₁ w₂ v tail : List Char} {key : Key}
    {x : JsonData} (ws : Ws w) (name : Body k key) (ws₁ : Ws w₁) (ws₂ : Ws w₂)
    (said : Says .value v x) :
    valueMembers (fuel + 1) depth
        (w ++ '"' :: (k ++ '"' :: (w₁ ++ ':' :: (w₂ ++ (v ++ tail))))) =
      scanValue fuel (depth + 1) (v ++ tail) >>= fun (y, tail) => match skipWs tail with
        | ',' :: rest => valueMembers fuel depth rest >>= fun (ms, rest) =>
            .ok ((key, y) :: ms, rest)
        | '\x7d' :: rest => .ok ([(key, y)], rest)
        | rest => bad "an unclosed object" rest := by
  rw [valueMembers, skipWs_mark ws (show isWs '"' = false by decide)]
  simp only [readString_complete name, bind, Except.bind,
    skipWs_mark ws₁ (show isWs ':' = false by decide), skipWs_value ws₂ said]
  rfl

/-- Every text of the grammar is scanned to what it says. -/
theorem scanned_of_derived {part : Part} {cs : List Char} {x : JsonData}
    (derived : Says part cs x) : Scanned part cs x := by
  induction derived with
  | null =>
    intro fuel depth rest enough bounded _
    obtain ⟨fuel, rfl⟩ : ∃ n, fuel = n + 1 := ⟨fuel - 1, by omega⟩
    exact @scanValue_word _ _ bounded _ _ "null" (Or.inr (Or.inr ⟨rfl, rfl⟩))
  | true_ =>
    intro fuel depth rest enough bounded _
    obtain ⟨fuel, rfl⟩ : ∃ n, fuel = n + 1 := ⟨fuel - 1, by omega⟩
    exact @scanValue_word _ _ bounded _ _ "true" (Or.inl ⟨rfl, rfl⟩)
  | false_ =>
    intro fuel depth rest enough bounded _
    obtain ⟨fuel, rfl⟩ : ∃ n, fuel = n + 1 := ⟨fuel - 1, by omega⟩
    exact @scanValue_word _ _ bounded _ _ "false" (Or.inr (Or.inl ⟨rfl, rfl⟩))
  | @num cs number =>
    intro fuel depth rest enough bounded ends
    obtain ⟨fuel, rfl⟩ : ∃ n, fuel = n + 1 := ⟨fuel - 1, by omega⟩
    obtain ⟨c, tail, rfl, numeric⟩ := Number.first number
    have read := readNumber_complete number ends
    rw [List.cons_append] at read ⊢
    have shallow : depth ≤ maxDepth := bounded
    rw [scanValue_numeric shallow numeric, read]
    rfl
  | @str cs us body =>
    intro fuel depth rest enough bounded _
    obtain ⟨fuel, rfl⟩ : ∃ n, fuel = n + 1 := ⟨fuel - 1, by omega⟩
    have shallow : depth ≤ maxDepth := bounded
    rw [List.cons_append, scanValue_quote shallow, List.append_assoc, List.singleton_append,
      readString_complete body]
    rfl
  | @arr cs x inner ih =>
    intro fuel depth rest enough bounded _
    obtain ⟨fuel, rfl⟩ : ∃ n, fuel = n + 1 := ⟨fuel - 1, by omega⟩
    rw [List.cons_append, List.append_assoc, List.singleton_append]
    simp only [List.length_cons, List.length_append, List.length_nil] at enough
    cases x with
    | arr xs =>
      cases xs with
      | nil => exact scanValue_noElements bounded ih
      | cons x xs =>
        rw [scanValue_array (by omega) (ih.1 _), ih.2 fuel depth rest (by omega) bounded]
        rfl
    | null | bool | num | str | obj => exact ih.elim
  | @obj cs x inner ih =>
    intro fuel depth rest enough bounded _
    obtain ⟨fuel, rfl⟩ : ∃ n, fuel = n + 1 := ⟨fuel - 1, by omega⟩
    rw [List.cons_append, List.append_assoc, List.singleton_append]
    simp only [List.length_cons, List.length_append, List.length_nil] at enough
    cases x with
    | obj ms =>
      cases ms with
      | nil => exact scanValue_noMembers bounded ih
      | cons m ms =>
        rw [scanValue_object (by omega) (ih.1 _), ih.2 fuel depth rest (by omega) bounded]
        rfl
    | null | bool | num | str | arr => exact ih.elim
  | noElements ws => exact ws
  | @lastElement w v w' x ws said ws' ih =>
    refine ⟨fun rest tail => ?_, fun fuel depth rest enough bounded => ?_⟩
    · rw [List.append_assoc, List.append_assoc]
      exact open_elements ws said tail
    · obtain ⟨fuel, rfl⟩ : ∃ n, fuel = n + 1 := ⟨fuel - 1, by omega⟩
      simp only [List.length_append] at enough
      rw [heightElements, heightElements] at bounded
      have ends := @ends_before w' rest ']' ws' (Or.inr (Or.inl rfl))
      have read := ih fuel (depth + 1) _ (by omega) (by omega) ends
      rw [List.append_assoc, List.append_assoc, valueElements_step ws said, read]
      simp only [bind, Except.bind, skipWs_mark ws' (show isWs ']' = false by decide)]
      rfl
  | @element w v w' cs x y ys ws said ws' rest_ ih ihRest =>
    refine ⟨fun rest tail => ?_, fun fuel depth rest enough bounded => ?_⟩
    · rw [List.append_assoc, List.append_assoc]
      exact open_elements ws said tail
    · obtain ⟨fuel, rfl⟩ : ∃ n, fuel = n + 1 := ⟨fuel - 1, by omega⟩
      simp only [List.length_append, List.length_cons] at enough
      rw [heightElements] at bounded
      have ends := @ends_before w' (cs ++ ']' :: rest) ',' ws' (Or.inl rfl)
      have read := ih fuel (depth + 1) _ (by omega) (by omega) ends
      rw [List.append_assoc, List.append_assoc, List.append_assoc, List.cons_append,
        valueElements_step ws said, read]
      simp only [bind, Except.bind, skipWs_mark ws' (show isWs ',' = false by decide),
        ihRest.2 fuel depth rest (by omega) (by omega)]
      rfl
  | noMembers ws => exact ws
  | @lastMember w k w₁ w₂ v w' key x ws name ws₁ ws₂ said ws' ih =>
    refine ⟨fun rest tail => ?_, fun fuel depth rest enough bounded => ?_⟩
    · rw [List.append_assoc, List.cons_append, skipWs_mark ws (by decide)]
      simp
    · obtain ⟨fuel, rfl⟩ : ∃ n, fuel = n + 1 := ⟨fuel - 1, by omega⟩
      simp only [List.length_append, List.length_cons] at enough
      rw [heightMembers, heightMembers] at bounded
      simp only [List.append_assoc, List.cons_append]
      have ends := @ends_before w' rest '\x7d' ws' (Or.inr (Or.inr rfl))
      have read := ih fuel (depth + 1) _ (by omega) (by omega) ends
      rw [valueMembers_step ws name ws₁ ws₂ said, read]
      simp only [bind, Except.bind, skipWs_mark ws' (show isWs '\x7d' = false by decide)]
      rfl
  | @member w k w₁ w₂ v w' cs key x m ms ws name ws₁ ws₂ said ws' rest_ ih ihRest =>
    refine ⟨fun rest tail => ?_, fun fuel depth rest enough bounded => ?_⟩
    · rw [List.append_assoc, List.cons_append, skipWs_mark ws (by decide)]
      simp
    · obtain ⟨fuel, rfl⟩ : ∃ n, fuel = n + 1 := ⟨fuel - 1, by omega⟩
      simp only [List.length_append, List.length_cons] at enough
      rw [heightMembers] at bounded
      simp only [List.append_assoc, List.cons_append]
      have ends := @ends_before w' (cs ++ '\x7d' :: rest) ',' ws' (Or.inl rfl)
      have read := ih fuel (depth + 1) _ (by omega) (by omega) ends
      rw [valueMembers_step ws name ws₁ ws₂ said, read]
      simp only [bind, Except.bind, skipWs_mark ws' (show isWs ',' = false by decide),
        ihRest.2 fuel depth rest (by omega) (by omega)]
      rfl

/-- A scan takes exactly the texts of the grammar within its depth, to what they say. -/
theorem scan_iff {text : List Char} {y : JsonData} :
    scan text = .ok y ↔ ∃ x, Document text x ∧ height x ≤ maxDepth ∧ y = normal x := by
  constructor
  · intro h
    obtain ⟨⟨root, rest⟩, scanned, finished⟩ := bind_ok.mp h
    obtain ⟨w, ws, left⟩ := skipWs_split text
    obtain ⟨v, x, split, said, rfl, bounded⟩ := (scan_parts_sound _).1 _ _ _ _ scanned
    obtain ⟨w', ws', right⟩ := skipWs_split rest
    simp only at finished
    split at finished
    · rename_i empty
      obtain rfl := Except.ok.inj finished
      rw [empty, List.append_nil] at right
      refine ⟨x, ⟨w, v, w', ?_, ws, ws', said⟩, by omega, rfl⟩
      rw [left, split, right]
    · simp [bad] at finished
  · rintro ⟨x, ⟨w, v, w', rfl, ws, ws', said⟩, bounded, rfl⟩
    have scanned := scanned_of_derived said ((w ++ (v ++ w')).length + 1) 0 w'
      (by simp only [List.length_append]; omega) (by omega) (ends_of_ws ws')
    have blank : skipWs w' = [] := by
      have := skipWs_append ws' []
      rwa [List.append_nil] at this
    rw [scan, skipWs_value ws said]
    simp only [scanned, bind, Except.bind, blank]
    rfl

end XochiSdk.Wire
