import XochiSdk.Wire.NormalForm

/-!
# What is written

The writer's text is in the grammar, and says the tree it was written from.
-/

namespace XochiSdk.Wire

open XochiSdk.Js XochiSdk.Library JsonText Signer

/-! ## Strings -/

/-- Code units of 16 bits. -/
def Units (us : List Nat) : Prop := ∀ u ∈ us, u < 0x10000

theorem toNat_ofNat {u : Nat} (valid : u.isValidChar) : (Char.ofNat u).toNat = u := by
  rw [Char.ofNat, dif_pos valid]
  rfl

theorem charUnits_ofNat {u : Nat} (below : u < 0x10000) (single : ¬isHigh u ∧ ¬isLow u) :
    charUnits (Char.ofNat u) = [u] := by
  simp only [isHigh, isLow, Bool.and_eq_true, decide_eq_true_eq] at single
  have valid : u.isValidChar := by unfold Nat.isValidChar; omega
  rw [charUnits, toNat_ofNat valid, if_pos below]

theorem charUnits_pair {u v : Nat} (high : isHigh u) (low : isLow v) :
    charUnits (Char.ofNat (0x10000 + (u - 0xd800) * 0x400 + (v - 0xdc00))) = [u, v] := by
  simp only [isHigh, isLow, Bool.and_eq_true, decide_eq_true_eq] at high low
  have valid : (0x10000 + (u - 0xd800) * 0x400 + (v - 0xdc00)).isValidChar := by
    unfold Nat.isValidChar
    omega
  rw [charUnits, toNat_ofNat valid, if_neg (by omega)]
  have first : 0xd800 + (0x10000 + (u - 0xd800) * 0x400 + (v - 0xdc00) - 0x10000) / 0x400 = u := by
    omega
  have second : 0xdc00 + (0x10000 + (u - 0xd800) * 0x400 + (v - 0xdc00) - 0x10000) % 0x400 = v := by
    omega
  rw [first, second]

theorem hexDigit_hexDigit {d : Nat} (small : d < 16) :
    JsonText.hexDigit (Js.hexDigit d) = some d := by
  have known : ∀ d < 16, JsonText.hexDigit (Js.hexDigit d) = some d := by decide
  exact known d small

theorem body_plain {u : Nat} {c : Char} {cs : List Char} {us vs : List Nat} (code : c.toNat = u)
    (spelled : charUnits c = vs) (quote : u ≠ 34) (escape : u ≠ 92) (control : 32 ≤ u)
    (rest : Body cs us) : Body (c :: cs) (vs ++ us) := by
  rw [← spelled]
  refine .plain ?_ ?_ (by omega) rest
  · rintro rfl
    exact quote (code.symm.trans (by decide))
  · rintro rfl
    exact escape (code.symm.trans (by decide))

theorem body_escape {u : Nat} {cs : List Char} {us : List Nat} (below : u < 0x10000)
    (rest : Body cs us) : Body (escapeUnit u ++ cs) (u :: us) := by
  have spelled := Body.unicode (hexDigit_hexDigit (show u / 4096 % 16 < 16 by omega))
    (hexDigit_hexDigit (show u / 256 % 16 < 16 by omega))
    (hexDigit_hexDigit (show u / 16 % 16 < 16 by omega))
    (hexDigit_hexDigit (show u % 16 < 16 by omega)) rest
  have value : ((u / 4096 % 16 * 16 + u / 256 % 16) * 16 + u / 16 % 16) * 16 + u % 16 = u := by
    omega
  rw [value] at spelled
  exact spelled

theorem quoteUnit_body {u : Nat} {cs : List Char} {us : List Nat} (below : u < 0x10000)
    (rest : Body cs us) : Body (quoteUnit u ++ cs) (u :: us) := by
  unfold quoteUnit
  split_ifs with b t n f r quote escape half
  · subst b
    exact .short rfl rest
  · subst t
    exact .short rfl rest
  · subst n
    exact .short rfl rest
  · subst f
    exact .short rfl rest
  · subst r
    exact .short rfl rest
  · subst quote
    exact .short rfl rest
  · subst escape
    exact .short rfl rest
  · exact body_escape below rest
  · rw [not_or, not_or] at half
    have valid : u.isValidChar := by
      have single := half.2
      simp only [isHigh, isLow, Bool.and_eq_true, decide_eq_true_eq] at single
      unfold Nat.isValidChar
      omega
    exact body_plain (toNat_ofNat valid) (charUnits_ofNat below half.2) quote escape (by omega) rest

theorem quoteBody_body {us : List Nat} (known : Units us) : Body (quoteBody us) us := by
  induction us using quoteBody.induct with
  | case1 => exact .nil
  | case2 u =>
    have one := quoteUnit_body (known u List.mem_cons_self) .nil
    rwa [List.append_nil] at one
  | case3 u v us pair ih =>
    rw [quoteBody, if_pos pair]
    have below := ih fun w among => known w (List.mem_cons_of_mem _ (List.mem_cons_of_mem _ among))
    have spelled := charUnits_pair pair.1 pair.2
    obtain ⟨high, low⟩ := pair
    simp only [isHigh, isLow, Bool.and_eq_true, decide_eq_true_eq] at high low
    exact body_plain (toNat_ofNat (by unfold Nat.isValidChar; omega)) spelled (by omega) (by omega)
      (by omega) below
  | case4 u v us single ih =>
    rw [quoteBody, if_neg single]
    exact quoteUnit_body (known u List.mem_cons_self)
      (ih fun w among => known w (List.mem_cons_of_mem _ among))

theorem quote_derived {us : List Nat} (known : Units us) : Says .value (quote us) (.str us) :=
  .str (quoteBody_body known)

/-! ## Values that a text can say -/

mutual

/-- The numbers are spelled as numbers, the strings of 16-bit units. -/
def Sayable : JsonData → Prop
  | .null => True
  | .bool _ => True
  | .num token => Number token
  | .str us => Units us
  | .arr xs => SayableElements xs
  | .obj ms => SayableMembers ms

def SayableElements : List JsonData → Prop
  | [] => True
  | x :: xs => Sayable x ∧ SayableElements xs

def SayableMembers : List (Key × JsonData) → Prop
  | [] => True
  | (k, x) :: ms => Units k ∧ Sayable x ∧ SayableMembers ms

end

theorem sayableMembers_iff {ms : List (Key × JsonData)} :
    SayableMembers ms ↔ ∀ m ∈ ms, Units m.1 ∧ Sayable m.2 := by
  induction ms with
  | nil => simp [SayableMembers]
  | cons m ms ih => rw [SayableMembers, ih, List.forall_mem_cons, and_assoc]

theorem units_append {us vs : List Nat} (first : Units us) (second : Units vs) :
    Units (us ++ vs) := fun u among => (List.mem_append.mp among).elim (first u) (second u)

theorem charUnits_units (c : Char) : Units (charUnits c) := by
  have valid := c.valid
  have top : c.toNat < 0x110000 := by
    have code : c.val.toNat = c.toNat := rfl
    rcases valid with low | ⟨-, high⟩
    · omega
    · omega
  intro u among
  unfold charUnits at among
  split_ifs at among with small
  · rw [List.mem_singleton.mp among]
    exact small
  · simp only [List.mem_cons, List.not_mem_nil, or_false] at among
    omega

theorem shortEscape_below {e : Char} {u : Nat} (h : shortEscape e = some u) : u < 0x10000 := by
  unfold shortEscape at h
  split at h <;> simp at h <;> omega

theorem hexDigit_below {c : Char} {d : Nat} (h : JsonText.hexDigit c = some d) : d < 16 := by
  unfold JsonText.hexDigit at h
  simp only [Char.le_def, UInt32.le_iff_toNat_le] at h
  have code : c.val.toNat = c.toNat := rfl
  split_ifs at h with digit lower upper
  · have last := digit.2
    rw [code] at last
    have : ('9' : Char).val.toNat = 57 := rfl
    obtain rfl := Option.some.inj h
    omega
  · have last := lower.2
    rw [code] at last
    have : ('f' : Char).val.toNat = 102 := rfl
    obtain rfl := Option.some.inj h
    omega
  · have last := upper.2
    rw [code] at last
    have : ('F' : Char).val.toNat = 70 := rfl
    obtain rfl := Option.some.inj h
    omega

theorem body_units {cs : List Char} {us : List Nat} (body : Body cs us) : Units us := by
  induction body with
  | nil => exact fun _ none => absurd none List.not_mem_nil
  | @plain c _ _ _ _ _ _ ih => exact units_append (charUnits_units c) ih
  | @short _ _ u us escape _ ih =>
    exact List.forall_mem_cons.mpr ⟨shortEscape_below escape, ih⟩
  | unicode h₁ h₂ h₃ h₄ _ ih =>
    have := hexDigit_below h₁
    have := hexDigit_below h₂
    have := hexDigit_below h₃
    have := hexDigit_below h₄
    exact List.forall_mem_cons.mpr ⟨by omega, ih⟩

theorem sayable_of_derived {part : Part} {cs : List Char} {x : JsonData} (said : Says part cs x) :
    Sayable x := by
  induction said with
  | null => trivial
  | true_ => trivial
  | false_ => trivial
  | num number => exact number
  | str body => exact body_units body
  | arr _ ih => exact ih
  | obj _ ih => exact ih
  | noElements => trivial
  | lastElement _ _ _ ih => exact ⟨ih, trivial⟩
  | element _ _ _ _ ih rest => exact ⟨ih, rest⟩
  | noMembers => trivial
  | lastMember _ name _ _ _ _ ih => exact ⟨body_units name, ih, trivial⟩
  | member _ name _ _ _ _ _ ih rest => exact ⟨body_units name, ih, rest⟩

mutual

theorem sayable_normal : ∀ {x}, Sayable x → Sayable (normal x)
  | .null, h => h
  | .bool _, h => h
  | .num _, h => h
  | .str _, h => h
  | .arr xs, h => @sayable_normalElements xs h
  | .obj ms, h => by
    rw [normal, Sayable, sayableMembers_iff]
    rintro ⟨key, y⟩ among
    obtain ⟨x, found, rfl⟩ := mem_homed_normal.mp among
    exact ⟨(sayableMembers_iff.mp h _ (mem_of_lastAt found)).1,
      sayable_normalMembers h _ (mem_of_lastAt found)⟩

theorem sayable_normalElements : ∀ {xs}, SayableElements xs → SayableElements (normalElements xs)
  | [], _ => trivial
  | _ :: _, h => ⟨sayable_normal h.1, sayable_normalElements h.2⟩

theorem sayable_normalMembers : ∀ {ms : List (Key × JsonData)}, SayableMembers ms →
    ∀ m ∈ ms, Sayable (normal m.2)
  | [], _ => fun _ none => absurd none List.not_mem_nil
  | (_, _) :: _, h => fun m among => (List.mem_cons.mp among).elim
      (fun eq => eq ▸ sayable_normal h.2.1) fun later => sayable_normalMembers h.2.2 m later

end

/-! ## The writer -/

theorem ws_line {indent : List Char} (ws : Ws indent) : Ws ('\n' :: indent) :=
  List.forall_mem_cons.mpr ⟨rfl, ws⟩

theorem ws_deeper {indent : List Char} (ws : Ws indent) : Ws (indent ++ "  ".toList) := by
  have blanks : "  ".toList = [' ', ' '] := rfl
  intro c among
  rcases List.mem_append.mp among with inside | blank
  · exact ws c inside
  · rw [blanks] at blank
    simp only [List.mem_cons, List.not_mem_nil, or_false, or_self] at blank
    rw [blank]
    rfl

mutual

theorem write_derived : ∀ {x : JsonData} {indent}, Sayable x → Ws indent →
    Says .value (write indent x) x
  | .null, _, _, _ => .null
  | .bool true, _, _, _ => .true_
  | .bool false, _, _, _ => .false_
  | .num _, _, number, _ => .num number
  | .str _, _, known, _ => quote_derived known
  | .arr [], _, _, _ => .arr (.noElements (List.forall_mem_nil _))
  | .arr (x :: xs), indent, h, ws => by
    have inner :=
      writeElements_derived (x :: xs) (List.cons_ne_nil _ _) h (ws_deeper ws) (ws_line ws)
    have spelled := Says.arr inner
    rw [write]
    simpa [List.append_assoc] using spelled
  | .obj [], _, _, _ => .obj (.noMembers (List.forall_mem_nil _))
  | .obj (m :: ms), indent, h, ws => by
    have inner :=
      writeMembers_derived (m :: ms) (List.cons_ne_nil _ _) h (ws_deeper ws) (ws_line ws)
    have spelled := Says.obj inner
    rw [write]
    simpa [List.append_assoc] using spelled

theorem writeElements_derived : ∀ xs {inner w : List Char}, xs ≠ [] → SayableElements xs →
    Ws inner → Ws w → Says .elements ('\n' :: (writeElements inner xs ++ w)) (.arr xs)
  | [], _, _, some_, _, _, _ => absurd rfl some_
  | [x], inner, w, _, h, ws, ws' => by
    have spelled := Says.lastElement (ws_line ws) (write_derived h.1 ws) ws'
    rw [writeElements]
    simpa [List.append_assoc] using spelled
  | x :: y :: ys, inner, w, _, h, ws, ws' => by
    have rest := writeElements_derived (y :: ys) (List.cons_ne_nil _ _) h.2 ws ws'
    have spelled := Says.element (ws_line ws) (write_derived h.1 ws) (List.forall_mem_nil _) rest
    rw [writeElements]
    simpa [List.append_assoc] using spelled

theorem writeMembers_derived : ∀ ms {inner w : List Char}, ms ≠ [] → SayableMembers ms →
    Ws inner → Ws w → Says .members ('\n' :: (writeMembers inner ms ++ w)) (.obj ms)
  | [], _, _, some_, _, _, _ => absurd rfl some_
  | [(k, x)], inner, w, _, h, ws, ws' => by
    have blank : Ws [' '] := List.forall_mem_cons.mpr ⟨rfl, List.forall_mem_nil _⟩
    have spelled := Says.lastMember (ws_line ws) (quoteBody_body h.1) (List.forall_mem_nil _) blank
      (write_derived h.2.1 ws) ws'
    rw [writeMembers, quote]
    simpa [List.append_assoc] using spelled
  | (k, x) :: m :: ms, inner, w, _, h, ws, ws' => by
    have blank : Ws [' '] := List.forall_mem_cons.mpr ⟨rfl, List.forall_mem_nil _⟩
    have rest := writeMembers_derived (m :: ms) (List.cons_ne_nil _ _) h.2.2 ws ws'
    have spelled := Says.member (ws_line ws) (quoteBody_body h.1) (List.forall_mem_nil _) blank
      (write_derived h.2.1 ws) (List.forall_mem_nil _) rest
    rw [writeMembers, quote]
    simpa [List.append_assoc] using spelled

end

/-- What `formatDocument` writes. -/
def formatted (x : JsonData) : List Char := write [] (normal x) ++ ['\n']

theorem formatted_document {text : List Char} {x : JsonData} (said : Document text x) :
    Document (formatted x) (normal x) := by
  obtain ⟨_, _, _, _, _, _, said⟩ := said
  refine ⟨[], write [] (normal x), ['\n'], rfl, List.forall_mem_nil _,
    ws_line (List.forall_mem_nil _), ?_⟩
  exact write_derived (sayable_normal (sayable_of_derived said)) (List.forall_mem_nil _)

theorem formatDocument_ok {text out : List Char} :
    formatDocument text = .ok out ↔
      ∃ x, Document text x ∧ height x ≤ maxDepth ∧ out = formatted x := by
  unfold formatDocument
  rw [bind_ok]
  constructor
  · rintro ⟨y, scanned, returned⟩
    obtain ⟨x, said, bounded, rfl⟩ := scan_iff.mp scanned
    exact ⟨x, said, bounded, (Except.ok.inj returned).symm⟩
  · rintro ⟨x, said, bounded, rfl⟩
    exact ⟨normal x, scan_iff.mpr ⟨x, said, bounded, rfl⟩, rfl⟩

end XochiSdk.Wire
