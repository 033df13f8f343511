import XochiSdk.Widget.Params
import XochiSdk.Client.StoredDeposit
import XochiSdk.Solver.BidSeal

/-!
# The parameters, written and read

Each field has one reader and one writer. What the writer of a field accepts its reader gives back,
and what its reader gives the writer accepts; the loop over the fields carries both to whole
objects and whole query strings. The exception is a list with a hole, which the writer's check
passes over: its reader drops it.
-/

namespace XochiSdk.Widget

open XochiSdk.Js XochiSdk.Library XochiSdk.Signer

/-! ## Numbers -/

theorem isCounting_canonical {max : Nat} {s : String} (h : isCounting max s = true) :
    isCanonicalDecimal s = true ∧ s.toList.length ≤ max + 1 := by
  unfold isCounting at h
  split at h
  · next c rest shape =>
    simp only [Bool.and_eq_true, decide_eq_true_eq] at h
    obtain ⟨⟨⟨low, high⟩, short⟩, digits⟩ := h
    refine ⟨?_, by rw [shape, List.length_cons]; omega⟩
    unfold isCanonicalDecimal
    rw [shape]
    split
    · next same => cases same
    · rfl
    · next same =>
      cases same
      simp [low, high, digits]
  · cases h

theorem isCounting_digits {max : Nat} {s : String} (h : isCounting max s = true) :
    ∀ c ∈ s.toList, isDigit c = true := by
  have decimal := Solver.canonical_isDecimal (isCounting_canonical h).1
  unfold isDecimal at decimal
  simp only [Bool.and_eq_true, List.all_eq_true] at decimal
  exact decimal.2

/-- A counting number is how its value prints. -/
theorem isCounting_repr {max : Nat} {s : String} (h : isCounting max s = true) :
    toString (numberOf s : Int) = s :=
  Solver.canonical_repr (isCounting_canonical h).1

theorem numberOf_lt {s : String} (digits : ∀ c ∈ s.toList, isDigit c = true) :
    numberOf s < 10 ^ s.toList.length := by
  unfold numberOf readDigits
  have all_ (cs : List Char) (digits : ∀ c ∈ cs, isDigit c = true) (n : Nat) :
      cs.foldl (fun n c => n * 10 + digitValue c) n < (n + 1) * 10 ^ cs.length := by
    induction cs generalizing n with
    | nil => simp
    | cons c cs ih =>
      have digit := digits c List.mem_cons_self
      have small : digitValue c < 10 := by
        have := (Solver.digitChar_isDigit digit).1
        unfold digitValue
        rw [if_pos digit]
        exact this
      have rest := ih (fun d mem => digits d (List.mem_cons_of_mem _ mem)) (n * 10 + digitValue c)
      calc _ < (n * 10 + digitValue c + 1) * 10 ^ cs.length := rest
        _ ≤ ((n + 1) * 10) * 10 ^ cs.length := Nat.mul_le_mul_right _ (by omega)
        _ = (n + 1) * 10 ^ (c :: cs).length := by rw [List.length_cons, Nat.pow_succ']; ring
  have := all_ s.toList digits 0
  simpa using this

theorem chainId_small {s : String} (h : chainIdPattern s = true) : numberOf s < 2 ^ 53 - 1 := by
  have below := numberOf_lt (isCounting_digits h)
  have short := (isCounting_canonical h).2
  have : 10 ^ s.toList.length ≤ 10 ^ 12 := Nat.pow_le_pow_right (by decide) short
  omega

/-- A number whose text is a counting number is that number. -/
theorem number_of_text {x : JsNumber} {n : Int} (text : x.text = toString n)
    (value : x.value = some (n : ℚ)) : Value.num x = Value.ofInt n := by
  unfold Value.ofInt JsNumber.ofInt
  obtain ⟨value', text', _, _⟩ := x
  cases value
  cases text
  rfl

/-- A chain id is the number its text spells. -/
theorem isChainId_iff {value : Value} :
    isChainId value = true ↔ ∃ s, chainIdPattern s = true ∧ value = Value.ofInt (numberOf s) ∧
      shownValue value = s := by
  constructor
  · intro h
    unfold isChainId at h
    split at h
    · next x =>
      rw [Bool.and_eq_true, Option.isSome_iff_exists] at h
      obtain ⟨⟨n, safe⟩, pattern⟩ := h
      obtain rfl := Client.ofInt_safeInteger safe
      have same : toString n = toString (numberOf (toString n) : Int) :=
        (isCounting_repr pattern).symm
      exact ⟨toString n, pattern, congrArg Value.ofInt (intRepr_injective same), rfl⟩
    · cases h
  · rintro ⟨s, pattern, rfl, shown⟩
    have text : toString (numberOf s : Int) = s := isCounting_repr pattern
    have small := chainId_small pattern
    unfold isChainId Value.ofInt
    simp only [JsNumber.ofInt, text, pattern, Bool.and_true]
    unfold safeInteger JsNumber.toInteger
    simp
    omega

theorem problemUnless_none {ok : Bool} {problem : String} :
    problemUnless ok problem = none ↔ ok = true := by
  unfold problemUnless
  cases ok <;> simp

/-! ## Plain texts -/

theorem isDigit_plain {c : Char} (h : isDigit c = true) : IsPlain c := by
  unfold isDigit at h
  simp only [Bool.and_eq_true, decide_eq_true_eq] at h
  have low : 48 ≤ c.toNat := h.1
  have high : c.toNat ≤ 57 := h.2
  left
  simp [isFormSafe, low, high]

theorem isUpper_plain {c : Char} (h : isUpper c = true) : IsPlain c := by
  unfold isUpper at h
  simp only [Bool.and_eq_true, decide_eq_true_eq] at h
  have low : 65 ≤ c.toNat := h.1
  have high : c.toNat ≤ 90 := h.2
  left
  simp [isFormSafe, low, high]

theorem isLetter_plain {c : Char} (h : isLetter c = true) : IsPlain c := by
  unfold isLetter at h
  rcases Bool.or_eq_true_iff.mp h with upper | lower
  · exact isUpper_plain upper
  · simp only [Bool.and_eq_true, decide_eq_true_eq] at lower
    have low : 97 ≤ c.toNat := lower.1
    have high : c.toNat ≤ 122 := lower.2
    left
    simp [isFormSafe, low, high]

theorem isCounting_plain {max : Nat} {s : String} (h : isCounting max s = true) : PlainText s :=
  fun c mem => isDigit_plain (isCounting_digits h c mem)

theorem symbolPattern_plain {s : String} (h : symbolPattern s = true) : PlainText s := by
  unfold symbolPattern at h
  simp only [Bool.and_eq_true, List.all_eq_true, Bool.or_eq_true] at h
  intro c mem
  rcases h.2 c mem with letter | digit
  · exact isLetter_plain letter
  · exact isDigit_plain digit

theorem amountPattern_plain {s : String} (h : amountPattern s = true) : PlainText s := by
  unfold amountPattern at h
  rw [Bool.and_eq_true] at h
  intro c mem
  rw [← List.takeWhile_append_dropWhile (p := isDigit) (l := s.toList)] at mem
  have run {cs : List Char} (h : isDigitRun cs = true) : ∀ c ∈ cs, IsPlain c := by
    unfold isDigitRun at h
    simp only [Bool.and_eq_true, List.all_eq_true] at h
    exact fun c mem => isDigit_plain (h.2 c mem)
  rcases List.mem_append.mp mem with whole | rest
  · exact run h.1 c whole
  · have fraction := h.2
    split at fraction
    · next none_ => rw [none_] at rest; cases rest
    · next d ds shape =>
      rw [Bool.and_eq_true, beq_iff_eq] at fraction
      obtain ⟨rfl, digits⟩ := fraction
      rw [shape] at rest
      rcases List.mem_cons.mp rest with rfl | rest
      · exact .inl rfl
      · exact run digits c rest

theorem embedCode_chars {s : String} (h : embedCodePattern s = true) :
    ∀ c ∈ s.toList, isUpper c = true ∨ isDigit c = true ∨ c = '_' ∨ c = '-' := by
  unfold embedCodePattern at h
  split at h
  · next d rest shape =>
    simp only [Bool.and_eq_true, List.all_eq_true, Bool.or_eq_true, beq_iff_eq] at h
    obtain ⟨⟨⟨first, -⟩, -⟩, later⟩ := h
    intro c mem
    rw [shape] at mem
    rcases List.mem_cons.mp mem with rfl | mem
    · exact first.elim .inl fun digit => .inr (.inl digit)
    · rcases later c mem with ((upper | digit) | under) | dash
      · exact .inl upper
      · exact .inr (.inl digit)
      · exact .inr (.inr (.inl under))
      · exact .inr (.inr (.inr dash))
  · cases h

theorem embedCode_plain {s : String} (h : embedCodePattern s = true) : PlainText s := by
  intro c mem
  rcases embedCode_chars h c mem with upper | digit | rfl | rfl
  · exact isUpper_plain upper
  · exact isDigit_plain digit
  · exact .inl rfl
  · exact .inl rfl

theorem strictEq_str {value : Value} {s : String} :
    value.strictEq (.str s) = true ↔ value = .str s := by
  cases value <;> simp [Value.strictEq]

/-! ## Objects -/

section

variable [UpperCase]

open UpperCase (toUpperCase)

def ofCount (n : Nat) : Value := Value.ofInt n

/-- `params[field]`, of what the parser returns. -/
def EmbedParams.value (params : EmbedParams) : EmbedField → Option Value
  | .fromChainId => params.fromChainId.map ofCount
  | .toChainId => params.toChainId.map ofCount
  | .sellSymbol => params.sellSymbol.map .str
  | .buySymbol => params.buySymbol.map .str
  | .amount => params.amount.map .str
  | .settlement => params.settlement.map fun settlement => .str settlement.text
  | .theme => params.theme.map fun theme => .str theme.text
  | .layout => params.layout.map fun layout => .str layout.text
  | .howItWorks => params.howItWorks.map .bool
  | .height => params.height.map ofCount
  | .locks => params.locks.map fun locks => .arr (locks.map fun lock => .str lock.text)
  | .fromChains => params.fromChains.map fun chains => .arr (chains.map ofCount)
  | .toChains => params.toChains.map fun chains => .arr (chains.map ofCount)
  | .sellTokens => params.sellTokens.map fun tokens => .arr (tokens.map .str)
  | .buyTokens => params.buyTokens.map fun tokens => .arr (tokens.map .str)
  | .ref => params.ref.map .str
  | .promo => params.promo.map .str

/-- What the parser returns, as an object. -/
def EmbedParams.toObject (params : EmbedParams) : HostObject :=
  EmbedField.all.filterMap fun field =>
    (params.value field).map fun value => (field.name, .whole value)

/-- A value as the frame gives it back: a list of locks in the order of `EMBED_LOCKS`. -/
def inOrder (field : EmbedField) (value : Value) : Value :=
  match field, value with
  | .locks, .arr locks => .arr ((locksOf locks).map fun lock => .str lock.text)
  | _, value => value

/-- A host's value as an object equal to the host's has it, its locks in the order of
`EMBED_LOCKS`. An array with a hole equals none without. -/
def Given.inOrder (field : EmbedField) (given : Given) : Given :=
  if given.holes = [] then .whole (Widget.inOrder field given.value) else given

/-- The same value, but for the order of a list of locks. -/
def SameValue (field : EmbedField) (written read : Value) : Prop :=
  match field, written, read with
  | .locks, .arr xs, .arr ys => xs.Perm ys
  | _, x, y => x = y

/-- A number whose text is that of a small integer is that integer. -/
def Printed (value : Value) : Prop :=
  ∀ x, value = .num x → ∀ n : Int, n.natAbs ≤ 2 ^ 53 → x.text = toString n → x.value = some (n : ℚ)

/-- An object a host passes: its height prints as numbers do. -/
structure EmbedObject where
  members : HostObject
  printed : Printed (members.get "height").value

/-- The reader of a field, on the text the query has for it. -/
def readField (field : EmbedField) (text : Option String) : Option Value :=
  match field with
  | .fromChainId | .toChainId => (parseChainId (text.getD "")).map ofCount
  | .sellSymbol | .buySymbol => (parseSymbol (text.getD "")).map .str
  | .amount => (parseAmount (text.getD "")).map .str
  | .settlement => (parseSettlement text).map fun settlement => .str settlement.text
  | .theme => (findKnown embedThemes EmbedTheme.text text).map fun theme => .str theme.text
  | .layout => (findKnown embedLayouts EmbedLayout.text text).map fun layout => .str layout.text
  | .howItWorks => (parseHowItWorks text).map .bool
  | .height => (parseEmbedHeight (text.getD "")).map ofCount
  | .locks => (parseLocks text).map fun locks => .arr (locks.map fun lock => .str lock.text)
  | .fromChains | .toChains =>
    (parseChains text).map fun chains => .arr (chains.map ofCount)
  | .sellTokens | .buyTokens => (parseTokens text).map fun tokens => .arr (tokens.map .str)
  | .ref | .promo => (normalizeEmbedCode (text.getD "")).map .str

theorem value_parse (search : String) (field : EmbedField) :
    (parseEmbedParams search).value field =
      readField field ((UrlSearchParams.ofText search).get field.param) := by
  unfold parseEmbedParams
  generalize UrlSearchParams.ofText search = query
  cases field <;> rfl

/-- What a field's reader and writer agree on, and the list they do not. -/
structure Agrees (field : EmbedField) : Prop where
  plain : ∀ given, fieldProblem field given = none → PlainText (fieldText field given.value)
  reads : ∀ value, (field = .height → Printed value) → fieldProblem field (.whole value) = none →
    readField field (some (fieldText field value)) = some (inOrder field value)
  accepts : ∀ text value, readField field text = some value →
    fieldProblem field (.whole value) = none ∧ inOrder field value = value
  /-- A list of locks is read without its hole; any other list with a hole is dropped. -/
  dropped : ∀ given, given.holes ≠ [] → fieldProblem field given = none → field ≠ .locks →
    readField field (some (fieldText field given.value)) = none

omit [UpperCase] in
/-- Only an array has holes. -/
theorem Given.array_of_hole {given : Given} (holed : given.holes ≠ []) :
    ∃ items, given.value = .arr items := by
  obtain ⟨i, mem⟩ := List.exists_mem_of_ne_nil _ holed
  obtain ⟨items, same, -⟩ := given.absent i mem
  exact ⟨items, same⟩

/-- A field whose check is of one value, and of no array. -/
theorem agrees_of {field : EmbedField} {ok : Value → Bool} {problem : String}
    (checks : ∀ value holes absent,
      fieldProblem field ⟨value, holes, absent⟩ = problemUnless (ok value) problem)
    (flat : ∀ items, ok (.arr items) = false)
    (plain : ∀ value, ok value = true → PlainText (fieldText field value))
    (reads : ∀ value, (field = .height → Printed value) → ok value = true →
      readField field (some (fieldText field value)) = some (inOrder field value))
    (accepts : ∀ text value, readField field text = some value →
      ok value = true ∧ inOrder field value = value) : Agrees field := by
  refine ⟨?_, ?_, ?_, ?_⟩
  · rintro ⟨value, holes, absent⟩ h
    rw [checks, problemUnless_none] at h
    exact plain value h
  · intro value printed h
    rw [Given.whole, checks, problemUnless_none] at h
    exact reads value printed h
  · intro text value h
    rw [Given.whole, checks, problemUnless_none]
    exact accepts text value h
  · rintro ⟨value, holes, absent⟩ holed h _
    obtain ⟨items, rfl⟩ : ∃ items, value = .arr items := Given.array_of_hole holed
    rw [checks, problemUnless_none, flat] at h
    cases h

/-! ## The fields of one value -/

theorem agrees_chainId {field : EmbedField} (h : field = .fromChainId ∨ field = .toChainId) :
    Agrees field := by
  have plain (value : Value) (ok : isChainId value = true) : PlainText (shownValue value) := by
    obtain ⟨s, pattern, -, shown⟩ := isChainId_iff.mp ok
    rw [shown]
    exact isCounting_plain pattern
  have reads (value : Value) (ok : isChainId value = true) :
      (parseChainId (shownValue value)).map ofCount = some value := by
    obtain ⟨s, pattern, rfl, shown⟩ := isChainId_iff.mp ok
    rw [shown]
    unfold parseChainId
    rw [if_pos pattern]
    rfl
  have accepts (text : Option String) (value : Value)
      (read : (parseChainId (text.getD "")).map ofCount = some value) :
      isChainId value = true ∧ value = value := by
    unfold parseChainId at read
    split at read
    · next pattern =>
      cases read
      exact ⟨isChainId_iff.mpr ⟨_, pattern, rfl, isCounting_repr pattern⟩, rfl⟩
    · cases read
  rcases h with rfl | rfl
  · exact agrees_of (fun _ _ _ => rfl) (by intro _; rfl) plain (fun value _ => reads value) accepts
  · exact agrees_of (fun _ _ _ => rfl) (by intro _; rfl) plain (fun value _ => reads value) accepts

/-- A text that the pattern confines. -/
def isTextOf (pattern : String → Bool) (value : Value) : Bool :=
  match value with
  | .str s => pattern s
  | _ => false

/-- A field of texts that a pattern confines. -/
theorem agrees_text {field : EmbedField} {read : String → Option String} {pattern : String → Bool}
    {problem : String}
    (checks : ∀ value holes absent, fieldProblem field ⟨value, holes, absent⟩ =
      problemUnless (isTextOf pattern value) problem)
    (shown : ∀ value, fieldText field value = shownValue value)
    (order : ∀ value, inOrder field value = value)
    (reader : ∀ text, readField field text = (read (text.getD "")).map .str)
    (plain : ∀ s, pattern s = true → PlainText s)
    (kept : ∀ s, pattern s = true → read s = some s)
    (found : ∀ s t, read s = some t → pattern t = true) : Agrees field := by
  have is_text {value : Value} (ok : isTextOf pattern value = true) :
      ∃ s, value = .str s ∧ pattern s = true := by
    cases value with
    | str s => exact ⟨s, rfl, ok⟩
    | _ => cases ok
  refine agrees_of checks (fun _ => rfl) ?_ ?_ ?_
  · intro value ok
    obtain ⟨s, rfl, ok⟩ := is_text ok
    rw [shown]
    exact plain s ok
  · intro value _ ok
    obtain ⟨s, rfl, ok⟩ := is_text ok
    rw [shown, order, reader]
    exact congrArg (Option.map Value.str) (kept s ok)
  · intro text value h
    rw [reader] at h
    obtain ⟨s, held, rfl⟩ := Option.map_eq_some_iff.mp h
    exact ⟨found _ s held, order _⟩

theorem agrees_symbol {field : EmbedField} (h : field = .sellSymbol ∨ field = .buySymbol) :
    Agrees field := by
  have kept (s : String) (ok : symbolPattern s = true) : parseSymbol s = some s := by
    unfold parseSymbol
    rw [if_pos ok]
  have found (s t : String) (read : parseSymbol s = some t) : symbolPattern t = true := by
    unfold parseSymbol at read
    split at read
    · next ok => cases read; exact ok
    · cases read
  rcases h with rfl | rfl
  · exact agrees_text (fun _ _ _ => rfl) (fun _ => rfl) (fun _ => rfl) (fun _ => rfl)
      (fun _ => symbolPattern_plain) kept found
  · exact agrees_text (fun _ _ _ => rfl) (fun _ => rfl) (fun _ => rfl) (fun _ => rfl)
      (fun _ => symbolPattern_plain) kept found

theorem agrees_amount : Agrees .amount := by
  refine agrees_text (fun _ _ _ => rfl) (fun _ => rfl) (fun _ => rfl) (fun _ => rfl)
    (fun _ => amountPattern_plain) ?_ ?_
  · intro s ok
    unfold parseAmount
    rw [if_pos ok]
  · intro s t read
    unfold parseAmount at read
    split at read
    · next ok => cases read; exact ok
    · cases read

theorem normalizeEmbedCode_some {s t : String} (h : normalizeEmbedCode s = some t) :
    embedCodePattern t = true := by
  unfold normalizeEmbedCode at h
  dsimp only at h
  split at h
  · next ok => cases h; exact ok
  · cases h

/-- A code in its stored form is its own stored form. -/
theorem normalizeEmbedCode_stored {t : String} (stored : embedCodePattern t = true) :
    normalizeEmbedCode t = some t := by
  have low : ∀ c ∈ t.toList, c.toNat < 97 ∧ isWhiteSpace c = false := by
    intro c mem
    rcases embedCode_chars stored c mem with upper | digit | rfl | rfl
    · unfold isUpper at upper
      simp only [Bool.and_eq_true, decide_eq_true_eq] at upper
      have low : 65 ≤ c.toNat := upper.1
      have high : c.toNat ≤ 90 := upper.2
      refine ⟨by omega, ?_⟩
      simp [isWhiteSpace]
      omega
    · unfold isDigit at digit
      simp only [Bool.and_eq_true, decide_eq_true_eq] at digit
      have low : 48 ≤ c.toNat := digit.1
      have high : c.toNat ≤ 57 := digit.2
      refine ⟨by omega, ?_⟩
      simp [isWhiteSpace]
      omega
    · decide
    · decide
  have trimmed : trim t = t := by
    have dropped (cs : List Char) (solid : ∀ c ∈ cs, isWhiteSpace c = false) :
        cs.dropWhile isWhiteSpace = cs := by
      cases cs with
      | nil => rfl
      | cons c cs => rw [List.dropWhile_cons_of_neg (by simp [solid c List.mem_cons_self])]
    unfold trim trimChars
    rw [dropped t.toList fun c mem => (low c mem).2,
      dropped t.toList.reverse fun c mem => (low c (List.mem_reverse.mp mem)).2,
      List.reverse_reverse, String.ofList_toList]
  unfold normalizeEmbedCode
  rw [trimmed, UpperCase.toUpperCase_fixed t fun c mem => (low c mem).1]
  exact if_pos stored

theorem agrees_code {field : EmbedField} (h : field = .ref ∨ field = .promo) : Agrees field := by
  have plain (s : String) (ok : (normalizeEmbedCode s == some s) = true) : PlainText s :=
    embedCode_plain (normalizeEmbedCode_some (beq_iff_eq.mp ok))
  have kept (s : String) (ok : (normalizeEmbedCode s == some s) = true) :
      normalizeEmbedCode s = some s := beq_iff_eq.mp ok
  have found (s t : String) (read : normalizeEmbedCode s = some t) :
      (normalizeEmbedCode t == some t) = true :=
    beq_iff_eq.mpr (normalizeEmbedCode_stored (normalizeEmbedCode_some read))
  rcases h with rfl | rfl
  · exact agrees_text (fun _ _ _ => rfl) (fun _ => rfl) (fun _ => rfl) (fun _ => rfl) plain kept
      found
  · exact agrees_text (fun _ _ _ => rfl) (fun _ => rfl) (fun _ => rfl) (fun _ => rfl) plain kept
      found

omit [UpperCase] in
theorem findKnown_some {α : Type} {all : List α} {shown : α → String} {text : Option String}
    {known : α} (h : findKnown all shown text = some known) :
    text = some (shown known) ∧ known ∈ all := by
  have found : (text == some (shown known)) = true :=
    List.find?_some (p := fun known => text == some (shown known)) h
  exact ⟨beq_iff_eq.mp found, List.mem_of_find?_eq_some h⟩

omit [UpperCase] in
theorem isKnown_iff {α : Type} {all : List α} {shown : α → String} {value : Value} :
    isKnown all shown value = true ↔ ∃ known ∈ all, value = .str (shown known) := by
  unfold isKnown
  simp only [List.any_eq_true, strictEq_str]

omit [UpperCase] in
/-- A known text is found as one that is shown alike. -/
theorem findKnown_known {α : Type} {all : List α} (shown : α → String) {known : α}
    (mem : known ∈ all) : ∃ other, findKnown all shown (some (shown known)) = some other ∧
      shown other = shown known := by
  cases found : findKnown all shown (some (shown known)) with
  | none =>
    unfold findKnown at found
    have := List.find?_eq_none.mp found known mem
    simp at this
  | some other => exact ⟨other, rfl, (Option.some.inj (findKnown_some found).1).symm⟩

/-- A field of known texts. -/
theorem agrees_known {α : Type} {field : EmbedField} {all : List α} {shown : α → String}
    {problem : String}
    (checks : ∀ value holes absent,
      fieldProblem field ⟨value, holes, absent⟩ = problemUnless (isKnown all shown value) problem)
    (text : ∀ value, fieldText field value = shownValue value)
    (order : ∀ value, inOrder field value = value)
    (reader : ∀ text, readField field text =
      (findKnown all shown text).map fun known => .str (shown known))
    (plain : ∀ known ∈ all, PlainText (shown known)) : Agrees field := by
  refine agrees_of checks ?_ ?_ ?_ ?_
  · intro items
    refine Bool.eq_false_iff.mpr fun ok => ?_
    obtain ⟨known, -, same⟩ := isKnown_iff.mp ok
    cases same
  · intro value ok
    obtain ⟨known, mem, rfl⟩ := isKnown_iff.mp ok
    rw [text]
    exact plain known mem
  · intro value _ ok
    obtain ⟨known, mem, rfl⟩ := isKnown_iff.mp ok
    obtain ⟨other, found, same⟩ := findKnown_known shown mem
    rw [text, order, reader]
    change (findKnown all shown (some (shown known))).map _ = _
    rw [found, ← same]
    rfl
  · intro text value h
    rw [reader] at h
    obtain ⟨known, found, rfl⟩ := Option.map_eq_some_iff.mp h
    exact ⟨isKnown_iff.mpr ⟨known, (findKnown_some found).2, rfl⟩, order _⟩

omit [UpperCase] in
theorem parseSettlement_known (text : Option String) :
    parseSettlement text = findKnown [.public_, .stealth] EmbedSettlement.text text := by
  unfold parseSettlement findKnown
  by_cases first : text = some "public"
  · subst first
    rfl
  · by_cases second : text = some "stealth"
    · subst second
      rfl
    · simp [first, second, EmbedSettlement.text]

theorem agrees_settlement : Agrees .settlement := by
  have checks (value : Value) (holes : List Nat)
      (absent : ∀ i ∈ holes, ∃ items, value = .arr items ∧ items[i]? = some .undefined) :
      fieldProblem .settlement ⟨value, holes, absent⟩ =
        problemUnless (isKnown [.public_, .stealth] EmbedSettlement.text value)
          "must be \"public\" or \"stealth\"" := by
    unfold isKnown
    rw [List.any_cons, List.any_cons, List.any_nil, Bool.or_false]
    rfl
  refine agrees_known checks (fun _ => rfl) (fun _ => rfl) ?_ (by decide)
  intro text
  change (parseSettlement text).map _ = _
  rw [parseSettlement_known]

theorem agrees_theme : Agrees .theme :=
  agrees_known (fun _ _ _ => rfl) (fun _ => rfl) (fun _ => rfl) (fun _ => rfl) (by decide)

theorem agrees_layout : Agrees .layout :=
  agrees_known (fun _ _ _ => rfl) (fun _ => rfl) (fun _ => rfl) (fun _ => rfl) (by decide)

/-- What the writer asks of a flag. -/
def isBoolean (value : Value) : Bool :=
  match value with
  | .bool _ => true
  | _ => false

theorem agrees_howItWorks : Agrees .howItWorks := by
  have checks (value : Value) (holes : List Nat)
      (absent : ∀ i ∈ holes, ∃ items, value = .arr items ∧ items[i]? = some .undefined) :
      fieldProblem .howItWorks ⟨value, holes, absent⟩ =
        problemUnless (isBoolean value) "must be a boolean" := rfl
  refine agrees_of checks ?_ ?_ ?_ ?_
  · intro _
    rfl
  · intro value ok
    cases value with
    | bool b =>
      cases b with
      | false => exact (by decide : PlainText "0")
      | true => exact (by decide : PlainText "1")
    | _ => cases ok
  · intro value _ ok
    cases value with
    | bool b => cases b <;> rfl
    | _ => cases ok
  · intro text value h
    obtain ⟨b, -, rfl⟩ := Option.map_eq_some_iff.mp h
    exact ⟨rfl, rfl⟩

omit [UpperCase] in
theorem parseEmbedHeight_some {s : String} {n : Nat} (h : parseEmbedHeight s = some n) :
    pixelsPattern s = true ∧ n = numberOf s := by
  unfold parseEmbedHeight at h
  split at h
  · next pattern =>
    dsimp only at h
    split at h
    · cases h
      exact ⟨pattern, rfl⟩
    · cases h
  · cases h

/-- What the parser asks of a height. -/
def isHeight (value : Value) : Bool :=
  match value with
  | .num x => (parseEmbedHeight x.text).isSome
  | _ => false

theorem agrees_height : Agrees .height := by
  have is_height {value : Value} (ok : isHeight value = true) :
      ∃ x n, value = .num x ∧ parseEmbedHeight x.text = some n := by
    cases value with
    | num x =>
      obtain ⟨n, read⟩ := Option.isSome_iff_exists.mp ok
      exact ⟨x, n, rfl, read⟩
    | _ => cases ok
  have checks (value : Value) (holes : List Nat)
      (absent : ∀ i ∈ holes, ∃ items, value = .arr items ∧ items[i]? = some .undefined) :
      fieldProblem .height ⟨value, holes, absent⟩ = problemUnless (isHeight value)
        ("must be a whole number of pixels from " ++ toString embedHeightMin ++ " to " ++
          toString embedHeightMax) := rfl
  refine agrees_of checks ?_ ?_ ?_ ?_
  · intro _
    rfl
  · intro value ok
    obtain ⟨x, n, rfl, read⟩ := is_height ok
    exact isCounting_plain (parseEmbedHeight_some read).1
  · intro value printed ok
    obtain ⟨x, n, rfl, read⟩ := is_height ok
    obtain ⟨pattern, rfl⟩ := parseEmbedHeight_some read
    have text := (isCounting_repr pattern).symm
    have below := numberOf_lt (isCounting_digits pattern)
    have short := (isCounting_canonical pattern).2
    have : 10 ^ x.text.toList.length ≤ 10 ^ 4 := Nat.pow_le_pow_right (by decide) short
    have value := printed rfl x rfl (numberOf x.text) (by omega) text
    change (parseEmbedHeight x.text).map _ = some (Value.num x)
    rw [read, number_of_text text value]
    rfl
  · intro text value h
    obtain ⟨n, read, rfl⟩ := Option.map_eq_some_iff.mp h
    obtain ⟨pattern, rfl⟩ := parseEmbedHeight_some read
    refine ⟨?_, rfl⟩
    change (parseEmbedHeight (toString (numberOf (text.getD "") : Int))).isSome = true
    rw [isCounting_repr pattern, read]
    rfl

/-! ## The fields of lists -/

/-- What the parser asks of the entries of a list. -/
structure Listed (pattern : String → Bool) (items : List String) : Prop where
  filled : items ≠ []
  short : items.length ≤ maxEmbedList
  each : ∀ s ∈ items, pattern s = true
  distinct : (items.map toUpperCase).Nodup

omit [UpperCase] in
theorem dedup_length {α : Type} [DecidableEq α] {keys : List α} :
    keys.dedup.length = keys.length ↔ keys.Nodup := by
  constructor
  · intro same
    exact List.dedup_eq_self.mp ((List.dedup_sublist keys).eq_of_length same)
  · intro distinct
    rw [List.dedup_eq_self.mpr distinct]

theorem parseList_listed {raw : Option String} {pattern : String → Bool} {items : List String}
    (h : parseList raw pattern = some items) : Listed pattern items := by
  unfold parseList at h
  split at h
  · cases h
  · next raw =>
    dsimp only at h
    split at h
    · cases h
    · split at h
      · cases h
      · next _ fits =>
        cases h
        simp only [Bool.or_eq_true, decide_eq_true_eq, Bool.not_eq_true', not_or, Nat.not_lt,
          Bool.not_eq_false, List.all_eq_true, bne_iff_ne, ne_eq, Decidable.not_not] at fits
        obtain ⟨⟨short, each⟩, distinct⟩ := fits
        refine ⟨?_, short, each, dedup_length.mp distinct⟩
        intro none_
        have pieces := List.splitOn_ne_nil ',' raw.toList
        unfold splitCommas at none_
        cases split_ : raw.toList.splitOn ',' with
        | nil => exact pieces split_
        | cons piece rest =>
          rw [split_] at none_
          cases none_

omit [UpperCase] in
/-- Texts without a comma, joined by commas, split into themselves. -/
theorem splitCommas_join {items : List String} (filled : items ≠ [])
    (free : ∀ s ∈ items, ',' ∉ s.toList) : splitCommas (",".intercalate items) = items := by
  unfold splitCommas
  have texts : items.map String.toList ≠ [] := by simpa using filled
  rw [String.toList_intercalate]
  change ((([','] : List Char).intercalate (items.map String.toList)).splitOn ',').map _ = _
  rw [List.splitOn_intercalate ',' ?_ texts, List.map_map]
  · calc items.map (String.ofList ∘ String.toList) = items.map id :=
          List.map_congr_left fun s _ => String.ofList_toList
      _ = items := List.map_id items
  · intro chars mem
    obtain ⟨s, held, rfl⟩ := List.mem_map.mp mem
    exact free s held

/-- Entries without a comma, joined by commas, are read back. -/
theorem parseList_join {pattern : String → Bool} {items : List String}
    (listed : Listed pattern items)
    (free : ∀ s, pattern s = true → s ≠ "" ∧ ',' ∉ s.toList) :
    parseList (some (",".intercalate items)) pattern = some items := by
  have pieces : splitCommas (",".intercalate items) = items :=
    splitCommas_join listed.filled fun s mem => (free s (listed.each s mem)).2
  have some_ : ",".intercalate items ≠ "" := by
    intro none_
    rw [none_] at pieces
    have only : items = [""] := pieces.symm.trans (by decide)
    rw [only] at listed
    exact (free "" (listed.each "" List.mem_cons_self)).1 rfl
  have whole : items.take (maxEmbedList + 1) = items :=
    List.take_of_length_le (Nat.le_succ_of_le listed.short)
  unfold parseList
  simp only [if_neg some_, pieces, whole]
  rw [if_neg]
  simp only [Bool.or_eq_true, decide_eq_true_eq, Bool.not_eq_true', not_or, Nat.not_lt,
    Bool.not_eq_false, List.all_eq_true, bne_iff_ne, ne_eq, Decidable.not_not]
  exact ⟨⟨listed.short, listed.each⟩, dedup_length.mpr listed.distinct⟩

/-- An empty text among those joined, and the reader drops them all. -/
theorem parseList_empty {pattern : String → Bool} {items : List String}
    (short : items.length ≤ maxEmbedList) (free : ∀ s ∈ items, ',' ∉ s.toList)
    (empty : "" ∈ items) (refused : pattern "" = false) :
    parseList (some (",".intercalate items)) pattern = none := by
  have pieces : splitCommas (",".intercalate items) = items :=
    splitCommas_join (List.ne_nil_of_mem empty) free
  have whole : items.take (maxEmbedList + 1) = items :=
    List.take_of_length_le (Nat.le_succ_of_le short)
  have strange : items.all pattern = false := List.all_eq_false.mpr ⟨"", empty, by simp [refused]⟩
  unfold parseList
  dsimp only
  split
  · rfl
  · rw [pieces, whole, strange]
    simp

/-- A kind of entry: the values a writer accepts are those of the texts its pattern confines. -/
structure ListEntry (entry : Value → Bool) (pattern : String → Bool) (of : String → Value) :
    Prop where
  iff : ∀ value, entry value = true ↔ ∃ s, pattern s = true ∧ value = of s
  text : ∀ s, pattern s = true → (of s).text = some s ∧ (of s).isNullish = false
  free : ∀ s, pattern s = true → s ≠ "" ∧ PlainText s ∧ ',' ∉ s.toList

section

variable {entry : Value → Bool} {pattern : String → Bool} {of : String → Value}

omit [UpperCase] in
theorem Given.items_whole (values : List Value) :
    (Given.whole (.arr values)).items = some (values.map some) := by
  unfold Given.items Given.whole
  dsimp only
  congr 1
  apply List.ext_getElem <;> simp

omit [UpperCase] in
/-- What is read of an array is its items, and `undefined` at a hole. -/
theorem Given.value_of_items {given : Given} {items : List (Option Value)}
    (h : given.items = some items) : given.value = .arr (items.map (·.getD .undefined)) := by
  unfold Given.items at h
  split at h
  · next values same =>
    cases h
    rw [same]
    congr 1
    apply List.ext_getElem
    · simp
    · intro i below _
      simp only [List.getElem_map, List.getElem_mapIdx]
      split
      · next hole =>
        obtain ⟨others, same', at_⟩ := given.absent i hole
        rw [same] at same'
        cases same'
        rw [List.getElem?_eq_getElem below] at at_
        exact Option.some.inj at_
      · rfl
  · cases h

omit [UpperCase] in
theorem Given.none_of_hole {given : Given} {items : List (Option Value)} (holed : given.holes ≠ [])
    (h : given.items = some items) : none ∈ items := by
  obtain ⟨i, hole⟩ := List.exists_mem_of_ne_nil _ holed
  obtain ⟨values, same, at_⟩ := given.absent i hole
  unfold Given.items at h
  rw [same] at h
  cases h
  have below := (List.getElem?_eq_some_iff.mp at_).1
  refine List.mem_iff_getElem.mpr ⟨i, by simpa using below, ?_⟩
  simp [hole]

/-- What the writer asks of the entries of a list, a hole being none. -/
structure Sparse (pattern : String → Bool) (items : List (Option String)) : Prop where
  filled : items ≠ []
  short : items.length ≤ maxEmbedList
  each : ∀ s, some s ∈ items → pattern s = true
  distinct : (items.map (Option.map toUpperCase)).Nodup

/-- Without holes the writer asks what the parser does. -/
theorem sparse_some {items : List String} :
    Sparse pattern (items.map some) ↔ Listed pattern items := by
  have keys : (items.map some).map (Option.map toUpperCase) = (items.map toUpperCase).map some := by
    rw [List.map_map, List.map_map]
    rfl
  have nodup : ((items.map toUpperCase).map some).Nodup ↔ (items.map toUpperCase).Nodup :=
    List.nodup_map_iff (Option.some_injective _)
  constructor
  · rintro ⟨filled, short, each, distinct⟩
    rw [keys, nodup] at distinct
    exact ⟨by simpa using filled, by simpa using short, fun s mem => each s (by simpa using mem),
      distinct⟩
  · rintro ⟨filled, short, each, distinct⟩
    refine ⟨by simpa using filled, by simpa using short, fun s mem => each s (by simpa using mem),
      ?_⟩
    rw [keys, nodup]
    exact distinct

omit [UpperCase] in
theorem ListEntry.texts (kind : ListEntry entry pattern of) {items : List (Option Value)}
    (each : ∀ value, some value ∈ items → entry value = true) :
    ∃ texts : List (Option String), (∀ s, some s ∈ texts → pattern s = true) ∧
      items = texts.map (Option.map of) := by
  induction items with
  | nil => exact ⟨[], by simp, rfl⟩
  | cons item rest ih =>
    obtain ⟨texts, all_, rfl⟩ := ih fun value mem => each value (List.mem_cons_of_mem _ mem)
    cases item with
    | none => exact ⟨none :: texts, by simpa using all_, rfl⟩
    | some value =>
      obtain ⟨s, ok, rfl⟩ := (kind.iff value).mp (each value List.mem_cons_self)
      refine ⟨some s :: texts, ?_, rfl⟩
      intro t mem
      rcases List.mem_cons.mp mem with same | mem
      · cases same
        exact ok
      · exact all_ t mem

theorem isList_sparse (kind : ListEntry entry pattern of) {given : Given} :
    isList given entry = true ↔
      ∃ texts, Sparse pattern texts ∧ given.items = some (texts.map (Option.map of)) := by
  have keys_of {texts : List (Option String)} (each : ∀ s, some s ∈ texts → pattern s = true) :
      (texts.map (Option.map of)).map
        (fun item => item.map fun held => toUpperCase (shownValue held)) =
        texts.map (Option.map toUpperCase) := by
    rw [List.map_map]
    apply List.map_congr_left
    intro item mem
    cases item with
    | none => rfl
    | some s =>
      change some (toUpperCase ((of s).text.getD "")) = _
      rw [(kind.text s (each s mem)).1]
      rfl
  unfold isList
  constructor
  · intro h
    split at h
    · next items found =>
      split at h
      · cases h
      · next fits =>
        split at h
        · cases h
        · next each =>
          simp only [not_or, Nat.not_lt] at fits
          simp only [Bool.not_eq_true', Bool.not_eq_false, List.all_eq_true] at each
          obtain ⟨texts, all_, rfl⟩ := kind.texts fun value mem => each (some value) mem
          dsimp only at h
          rw [keys_of all_, beq_iff_eq] at h
          refine ⟨texts, ⟨?_, by simpa using fits.2, all_, dedup_length.mp h⟩, found⟩
          rintro rfl
          exact fits.1 rfl
    · cases h
  · rintro ⟨texts, sparse, found⟩
    have some_ : ¬((texts.map (Option.map of)).length = 0 ∨
        maxEmbedList < (texts.map (Option.map of)).length) := by
      rw [List.length_map, not_or, Nat.not_lt]
      exact ⟨fun none_ => sparse.filled (List.length_eq_zero_iff.mp none_), sparse.short⟩
    have each : ((texts.map (Option.map of)).all fun item => item.all entry) = true := by
      rw [List.all_eq_true]
      intro item mem
      obtain ⟨text, held, rfl⟩ := List.mem_map.mp mem
      cases text with
      | none => rfl
      | some s => exact (kind.iff _).mpr ⟨s, sparse.each s held, rfl⟩
    rw [found]
    dsimp only
    rw [if_neg some_, each, if_neg (by decide), keys_of sparse.each, beq_iff_eq]
    exact dedup_length.mpr sparse.distinct

theorem isList_iff (kind : ListEntry entry pattern of) {value : Value} :
    isList (.whole value) entry = true ↔
      ∃ items, Listed pattern items ∧ value = .arr (items.map of) := by
  rw [isList_sparse kind]
  constructor
  · rintro ⟨texts, sparse, found⟩
    have read : value = .arr ((texts.map (Option.map of)).map (·.getD .undefined)) :=
      Given.value_of_items found
    obtain ⟨values, rfl⟩ : ∃ values, value = .arr values := ⟨_, read⟩
    rw [Given.items_whole] at found
    have present : ∀ text ∈ texts, ∃ s, text = some s := by
      intro text mem
      have held : text.map of ∈ values.map some := by
        rw [Option.some.inj found]
        exact List.mem_map_of_mem mem
      obtain ⟨v, -, same⟩ := List.mem_map.mp held
      cases text with
      | none => cases same
      | some s => exact ⟨s, rfl⟩
    obtain ⟨items, rfl⟩ : ∃ items : List String, texts = items.map some := by
      refine ⟨texts.reduceOption, ?_⟩
      clear read found sparse
      induction texts with
      | nil => rfl
      | cons text rest ih =>
        obtain ⟨s, rfl⟩ := present text List.mem_cons_self
        have later := ih fun t mem => present t (List.mem_cons_of_mem _ mem)
        exact congrArg (some s :: ·) later
    refine ⟨items, sparse_some.mp sparse, ?_⟩
    rw [read, List.map_map, List.map_map]
    rfl
  · rintro ⟨items, listed, rfl⟩
    refine ⟨items.map some, sparse_some.mpr listed, ?_⟩
    rw [Given.items_whole, List.map_map, List.map_map]
    rfl

omit [UpperCase] in
theorem joinText_cons {x y : Value} {rest : List Value} {head tail : String}
    (first : (if x.isNullish then some "" else x.text) = some head)
    (later : Value.joinText (y :: rest) = some tail) :
    Value.joinText (x :: y :: rest) = some (head ++ "," ++ tail) := by
  rw [Value.joinText, later]
  cases nullish : x.isNullish with
  | true =>
    rw [nullish] at first
    cases Option.some.inj first
    rfl
  | false =>
    rw [nullish] at first
    have text : x.text = some head := first
    rw [text]
    rfl
  · exact List.cons_ne_nil y rest

omit [UpperCase] in
theorem joinText_sparse (kind : ListEntry entry pattern of) {texts : List (Option String)}
    (each : ∀ s, some s ∈ texts → pattern s = true) :
    Value.joinText ((texts.map (Option.map of)).map (·.getD .undefined)) =
      some (",".intercalate (texts.map (·.getD ""))) := by
  have shown (text : Option String) (mem : text ∈ texts) :
      (if ((text.map of).getD .undefined).isNullish then some ""
        else ((text.map of).getD .undefined).text) = some (text.getD "") := by
    cases text with
    | none => rfl
    | some s =>
      have text := kind.text s (each s mem)
      simp only [Option.map_some, Option.getD_some, text.2, Bool.false_eq_true, if_false, text.1]
  induction texts with
  | nil => rfl
  | cons text rest ih =>
    have first := shown text List.mem_cons_self
    cases rest with
    | nil =>
      simp only [List.map_cons, List.map_nil, Value.joinText, first, String.intercalate_singleton]
    | cons other rest =>
      have later := ih (fun s mem => each s (List.mem_cons_of_mem _ mem))
        fun text mem => shown text (List.mem_cons_of_mem _ mem)
      simp only [List.map_cons] at later
      simp only [List.map_cons, String.intercalate_cons_cons]
      exact joinText_cons first later

omit [UpperCase] in
theorem joinText_of (kind : ListEntry entry pattern of) {items : List String}
    (each : ∀ s ∈ items, pattern s = true) :
    Value.joinText (items.map of) = some (",".intercalate items) := by
  have given : ∀ s, some s ∈ items.map some → pattern s = true :=
    fun s mem => each s (by simpa using mem)
  have joined := joinText_sparse kind given
  simp only [List.map_map] at joined
  have same : items.map ((fun text => text.getD "") ∘ some) = items := List.map_id items
  rw [same] at joined
  exact joined

omit [UpperCase] in
theorem join_plain {items : List String} (each : ∀ s ∈ items, PlainText s) :
    PlainText (",".intercalate items) := by
  induction items with
  | nil => decide
  | cons s rest ih =>
    have first := each s List.mem_cons_self
    cases rest with
    | nil => simpa using first
    | cons t rest =>
      have later := ih fun s mem => each s (List.mem_cons_of_mem _ mem)
      rw [String.intercalate_cons_cons]
      intro c mem
      simp only [String.toList_append, List.mem_append] at mem
      rcases mem with (mem | mem) | mem
      · exact first c mem
      · exact (by decide : PlainText ",") c mem
      · exact later c mem

/-- A field of a list that is written as it stands. -/
theorem agrees_list {field : EmbedField} {α : Type} (numbers : String → α) (shown : α → Value)
    {problem : String} (kind : ListEntry entry pattern of) (same : ∀ s, shown (numbers s) = of s)
    (checks : ∀ given, fieldProblem field given = problemUnless (isList given entry) problem)
    (text : ∀ items, fieldText field (.arr items) = (Value.joinText items).getD "")
    (order : ∀ value, inOrder field value = value)
    (reader : ∀ text, readField field text =
      (parseList text pattern).map fun items => .arr ((items.map numbers).map shown)) :
    Agrees field := by
  have whole (items : List String) : (items.map numbers).map shown = items.map of := by
    rw [List.map_map]
    exact List.map_congr_left fun s _ => same s
  have accepted {given : Given} (h : fieldProblem field given = none) :
      ∃ texts, Sparse pattern texts ∧ given.items = some (texts.map (Option.map of)) ∧
        fieldText field given.value = ",".intercalate (texts.map (·.getD "")) := by
    rw [checks, problemUnless_none] at h
    obtain ⟨texts, sparse, found⟩ := (isList_sparse kind).mp h
    refine ⟨texts, sparse, found, ?_⟩
    rw [Given.value_of_items found, text, joinText_sparse kind sparse.each]
    rfl
  have each {texts : List (Option String)} (sparse : Sparse pattern texts) {P : String → Prop}
      (empty : P "") (held : ∀ s, pattern s = true → P s) :
      ∀ s ∈ texts.map (·.getD ""), P s := by
    intro s mem
    obtain ⟨text, present, rfl⟩ := List.mem_map.mp mem
    cases text with
    | none => exact empty
    | some s => exact held s (sparse.each s present)
  refine ⟨?_, ?_, ?_, ?_⟩
  · intro given h
    obtain ⟨texts, sparse, -, written⟩ := accepted h
    rw [written]
    exact join_plain (each sparse (by decide) fun s ok => (kind.free s ok).2.1)
  · intro value _ h
    rw [checks, problemUnless_none] at h
    obtain ⟨items, listed, rfl⟩ := (isList_iff kind).mp h
    have read := parseList_join listed fun s ok => ⟨(kind.free s ok).1, (kind.free s ok).2.2⟩
    rw [text, joinText_of kind listed.each, order, reader, Option.getD_some, read,
      Option.map_some, whole]
  · intro read value h
    rw [reader] at h
    obtain ⟨items, held, rfl⟩ := Option.map_eq_some_iff.mp h
    rw [whole, checks, problemUnless_none]
    exact ⟨(isList_iff kind).mpr ⟨items, parseList_listed held, rfl⟩, order _⟩
  · intro given holed h _
    obtain ⟨texts, sparse, found, written⟩ := accepted h
    have hole : none ∈ texts := by
      have item := Given.none_of_hole holed found
      obtain ⟨entry, mem, same⟩ := List.mem_map.mp item
      rw [Option.map_eq_none_iff.mp same] at mem
      exact mem
    have refused : pattern "" = false := by
      refine Bool.eq_false_iff.mpr fun ok => ?_
      exact (kind.free "" ok).1 rfl
    rw [written, reader, parseList_empty (by simpa using sparse.short)
      (each sparse (by decide) fun s ok => (kind.free s ok).2.2)
      (List.mem_map.mpr ⟨none, hole, rfl⟩) refused]
    rfl

end

omit [UpperCase] in
theorem chainEntry : ListEntry isChainId chainIdPattern fun s => Value.ofInt (numberOf s) := by
  refine ⟨?_, ?_, ?_⟩
  · intro value
    rw [isChainId_iff]
    constructor
    · rintro ⟨s, pattern, same, -⟩
      exact ⟨s, pattern, same⟩
    · rintro ⟨s, pattern, rfl⟩
      exact ⟨s, pattern, rfl, isCounting_repr pattern⟩
  · intro s pattern
    exact ⟨congrArg some (isCounting_repr pattern), rfl⟩
  · intro s pattern
    refine ⟨?_, isCounting_plain pattern, ?_⟩
    · rintro rfl
      cases pattern
    · intro mem
      have digit := isCounting_digits pattern ',' mem
      cases digit

omit [UpperCase] in
theorem symbolEntry : ListEntry isSymbol symbolPattern .str := by
  refine ⟨?_, fun s _ => ⟨rfl, rfl⟩, ?_⟩
  · intro value
    constructor
    · intro ok
      cases value with
      | str s => exact ⟨s, ok, rfl⟩
      | _ => cases ok
    · rintro ⟨s, ok, rfl⟩
      exact ok
  · intro s pattern
    refine ⟨?_, symbolPattern_plain pattern, ?_⟩
    · rintro rfl
      cases pattern
    · intro mem
      unfold symbolPattern at pattern
      simp only [Bool.and_eq_true, List.all_eq_true] at pattern
      have known := pattern.2 ',' mem
      revert known
      decide

theorem agrees_chains {field : EmbedField} (h : field = .fromChains ∨ field = .toChains) :
    Agrees field := by
  have reader (text : Option String) :
      (parseChains text).map (fun chains => Value.arr (chains.map ofCount)) =
        (parseList text chainIdPattern).map fun items =>
          .arr ((items.map numberOf).map ofCount) := by
    unfold parseChains
    rw [Option.map_map]
    rfl
  rcases h with rfl | rfl
  · exact agrees_list numberOf ofCount chainEntry (fun _ => rfl) (fun _ => rfl) (fun _ => rfl)
      (fun _ => rfl) reader
  · exact agrees_list numberOf ofCount chainEntry (fun _ => rfl) (fun _ => rfl) (fun _ => rfl)
      (fun _ => rfl) reader

theorem agrees_tokens {field : EmbedField} (h : field = .sellTokens ∨ field = .buyTokens) :
    Agrees field := by
  have reader (text : Option String) :
      (parseTokens text).map (fun tokens => Value.arr (tokens.map .str)) =
        (parseList text symbolPattern).map fun items => .arr ((items.map id).map .str) := by
    unfold parseTokens
    simp only [List.map_id]
  rcases h with rfl | rfl
  · exact agrees_list id .str symbolEntry (fun _ => rfl) (fun _ => rfl) (fun _ => rfl)
      (fun _ => rfl) reader
  · exact agrees_list id .str symbolEntry (fun _ => rfl) (fun _ => rfl) (fun _ => rfl)
      (fun _ => rfl) reader

/-! ## The locks -/

/-- A lock by its text. -/
def isLockText (s : String) : Bool := embedLocks.any fun known => known.text == s

omit [UpperCase] in
theorem isLockText_iff {s : String} : isLockText s = true ↔ ∃ lock : EmbedLock, lock.text = s := by
  unfold isLockText
  simp only [List.any_eq_true, beq_iff_eq]
  constructor
  · rintro ⟨lock, -, same⟩
    exact ⟨lock, same⟩
  · rintro ⟨lock, same⟩
    exact ⟨lock, by cases lock <;> decide, same⟩

omit [UpperCase] in
theorem lockEntry : ListEntry (isKnown embedLocks EmbedLock.text) isLockText .str := by
  refine ⟨?_, fun s _ => ⟨rfl, rfl⟩, ?_⟩
  · intro value
    rw [isKnown_iff]
    constructor
    · rintro ⟨lock, -, rfl⟩
      exact ⟨lock.text, isLockText_iff.mpr ⟨lock, rfl⟩, rfl⟩
    · rintro ⟨s, known, rfl⟩
      obtain ⟨lock, rfl⟩ := isLockText_iff.mp known
      exact ⟨lock, by cases lock <;> decide, rfl⟩
  · intro s known
    obtain ⟨lock, rfl⟩ := isLockText_iff.mp known
    cases lock <;> decide

omit [UpperCase] in
theorem lockText_injective {a b : EmbedLock} (h : a.text = b.text) : a = b := by
  revert h
  cases a <;> cases b <;> decide

/-- The locks among texts, in the order of `EMBED_LOCKS`. -/
def orderedLocks (items : List String) : List EmbedLock :=
  embedLocks.filter fun known => items.contains known.text

omit [UpperCase] in
theorem mem_orderedLocks {items : List String} {lock : EmbedLock} :
    lock ∈ orderedLocks items ↔ lock.text ∈ items := by
  unfold orderedLocks
  rw [List.mem_filter, List.contains_iff_mem]
  constructor
  · exact fun h => h.2
  · exact fun h => ⟨by cases lock <;> decide, h⟩

omit [UpperCase] in
theorem locksOf_str (items : List String) : locksOf (items.map .str) = orderedLocks items := by
  unfold locksOf orderedLocks
  apply List.filter_congr
  intro lock _
  rw [Bool.eq_iff_iff, List.any_eq_true, List.contains_iff_mem]
  constructor
  · rintro ⟨value, mem, same⟩
    obtain ⟨s, held, rfl⟩ := List.mem_map.mp mem
    cases strictEq_str.mp same
    exact held
  · intro held
    exact ⟨.str lock.text, List.mem_map_of_mem held, strictEq_str.mpr rfl⟩

omit [UpperCase] in
theorem orderedLocks_again (items : List String) :
    orderedLocks ((orderedLocks items).map EmbedLock.text) = orderedLocks items := by
  apply List.filter_congr
  intro lock _
  rw [Bool.eq_iff_iff, List.contains_iff_mem, List.contains_iff_mem, List.mem_map]
  constructor
  · rintro ⟨other, mem, same⟩
    rw [← same]
    exact mem_orderedLocks.mp mem
  · intro held
    exact ⟨lock, mem_orderedLocks.mpr held, rfl⟩

omit [UpperCase] in
theorem orderedLocks_nodup (items : List String) :
    ((orderedLocks items).map EmbedLock.text).Nodup := by
  have distinct : embedLocks.Nodup := by decide
  exact (distinct.filter _).map_on fun _ _ _ _ same => lockText_injective same

/-- Putting a list of locks in order drops and adds none. -/
theorem orderedLocks_perm {pattern : String → Bool} {items : List String}
    (listed : Listed pattern items) (known : ∀ s ∈ items, isLockText s = true) :
    items.Perm ((orderedLocks items).map EmbedLock.text) := by
  have nodup : items.Nodup := listed.distinct.of_map _
  rw [List.perm_ext_iff_of_nodup nodup (orderedLocks_nodup items)]
  intro s
  rw [List.mem_map]
  constructor
  · intro mem
    obtain ⟨lock, rfl⟩ := isLockText_iff.mp (known s mem)
    exact ⟨lock, mem_orderedLocks.mpr mem, rfl⟩
  · rintro ⟨lock, mem, rfl⟩
    exact mem_orderedLocks.mp mem

/-- What is asked of a list is asked of it in any order. -/
theorem Listed.perm {pattern : String → Bool} (other : String → Bool)
    {items items' : List String} (listed : Listed pattern items) (perm : items.Perm items')
    (each : ∀ s ∈ items, other s = true) : Listed other items' := by
  refine ⟨?_, ?_, fun s mem => each s (perm.mem_iff.mpr mem), ?_⟩
  · rintro rfl
    exact listed.filled perm.eq_nil
  · rw [← perm.length_eq]
    exact listed.short
  · exact (perm.map _).nodup_iff.mp listed.distinct

omit [UpperCase] in
theorem lockEntryPattern_known {s : String} (h : isLockText s = true) :
    lockEntryPattern s = true := by
  obtain ⟨lock, rfl⟩ := isLockText_iff.mp h
  cases lock <;> decide

omit [UpperCase] in
theorem lockEntryPattern_free {s : String} (h : lockEntryPattern s = true) :
    s ≠ "" ∧ ',' ∉ s.toList := by
  unfold lockEntryPattern at h
  simp only [Bool.and_eq_true, List.all_eq_true] at h
  constructor
  · rintro rfl
    cases h.1
  · intro mem
    have letter := h.2 ',' mem
    revert letter
    decide

/-- The locks of a list are read back in their order. -/
theorem parseLocks_join {items : List String} (listed : Listed isLockText items) :
    parseLocks (some (",".intercalate ((orderedLocks items).map EmbedLock.text))) =
      some (orderedLocks items) := by
  have perm := orderedLocks_perm listed listed.each
  have ordered := listed.perm isLockText perm listed.each
  have written := listed.perm lockEntryPattern perm fun s mem =>
    lockEntryPattern_known (listed.each s mem)
  have known : ((orderedLocks items).map EmbedLock.text).all isLockText = true :=
    List.all_eq_true.mpr ordered.each
  unfold parseLocks
  rw [parseList_join written fun _ => lockEntryPattern_free]
  change (if ((orderedLocks items).map EmbedLock.text).all isLockText = true then
    some (orderedLocks ((orderedLocks items).map EmbedLock.text)) else none) = _
  rw [if_pos known, orderedLocks_again]

theorem parseLocks_some {text : Option String} {locks : List EmbedLock}
    (h : parseLocks text = some locks) :
    ∃ items, Listed isLockText items ∧ locks = orderedLocks items := by
  unfold parseLocks at h
  split at h
  · cases h
  · next items read =>
    split at h
    · next known =>
      cases h
      have listed := parseList_listed read
      exact ⟨items, listed.perm isLockText (List.Perm.refl items) (List.all_eq_true.mp known), rfl⟩
    · cases h

omit [UpperCase] in
theorem str_map_text (locks : List EmbedLock) :
    locks.map (fun lock => Value.str lock.text) = (locks.map EmbedLock.text).map .str := by
  rw [List.map_map]
  rfl

theorem agrees_locks : Agrees .locks := by
  refine ⟨?_, ?_, ?_, ?_⟩
  · intro given h
    obtain ⟨texts, -, found⟩ := (isList_sparse lockEntry).mp (problemUnless_none.mp h)
    rw [Given.value_of_items found]
    refine join_plain fun s mem => ?_
    obtain ⟨lock, -, rfl⟩ := List.mem_map.mp mem
    cases lock <;> decide
  · intro value _ h
    obtain ⟨items, listed, rfl⟩ := (isList_iff lockEntry).mp (problemUnless_none.mp h)
    change (parseLocks (some (",".intercalate ((locksOf (items.map .str)).map EmbedLock.text)))).map
      _ = some (Value.arr ((locksOf (items.map .str)).map _))
    rw [locksOf_str, parseLocks_join listed]
    rfl
  · intro text value h
    obtain ⟨locks, read, rfl⟩ := Option.map_eq_some_iff.mp h
    obtain ⟨items, listed, rfl⟩ := parseLocks_some read
    have ordered := listed.perm isLockText (orderedLocks_perm listed listed.each) listed.each
    rw [str_map_text]
    refine ⟨problemUnless_none.mpr ((isList_iff lockEntry).mpr ⟨_, ordered, rfl⟩), ?_⟩
    change Value.arr ((locksOf _).map fun lock => .str lock.text) = _
    rw [locksOf_str, orderedLocks_again, str_map_text]
  · intro given _ _ other
    exact absurd rfl other

/-- Every field's reader and writer agree. -/
theorem agrees (field : EmbedField) : Agrees field := by
  cases field with
  | fromChainId => exact agrees_chainId (.inl rfl)
  | toChainId => exact agrees_chainId (.inr rfl)
  | sellSymbol => exact agrees_symbol (.inl rfl)
  | buySymbol => exact agrees_symbol (.inr rfl)
  | amount => exact agrees_amount
  | settlement => exact agrees_settlement
  | theme => exact agrees_theme
  | layout => exact agrees_layout
  | howItWorks => exact agrees_howItWorks
  | height => exact agrees_height
  | locks => exact agrees_locks
  | fromChains => exact agrees_chains (.inl rfl)
  | toChains => exact agrees_chains (.inr rfl)
  | sellTokens => exact agrees_tokens (.inl rfl)
  | buyTokens => exact agrees_tokens (.inr rfl)
  | ref => exact agrees_code (.inl rfl)
  | promo => exact agrees_code (.inr rfl)

/-- A value is accepted whatever the order of its locks. -/
theorem fieldProblem_same {field : EmbedField} {written read : Value}
    (same : SameValue field written read) (h : fieldProblem field (.whole read) = none) :
    fieldProblem field (.whole written) = none := by
  unfold SameValue at same
  split at same
  · next xs ys =>
    obtain ⟨items, listed, shape⟩ := (isList_iff lockEntry).mp (problemUnless_none.mp h)
    cases shape
    have texts : xs = (xs.map shownValue).map .str := by
      rw [List.map_map]
      conv_lhs => rw [← List.map_id xs]
      apply List.map_congr_left
      intro value mem
      obtain ⟨s, -, rfl⟩ := List.mem_map.mp (same.mem_iff.mp mem)
      rfl
    have perm : items.Perm (xs.map shownValue) := by
      have back : (items.map Value.str).map shownValue = items := by
        rw [List.map_map]
        exact List.map_id items
      have mapped := same.symm.map shownValue
      rwa [back] at mapped
    rw [texts]
    exact problemUnless_none.mpr ((isList_iff lockEntry).mpr
      ⟨_, listed.perm isLockText perm listed.each, rfl⟩)
  · rw [same]
    exact h

/-- What comes back is the value, but for the order of its locks. -/
theorem sameValue_inOrder {field : EmbedField} {value : Value}
    (h : fieldProblem field (.whole value) = none) :
    SameValue field value (inOrder field value) := by
  unfold inOrder
  split
  · obtain ⟨items, listed, shape⟩ := (isList_iff lockEntry).mp (problemUnless_none.mp h)
    cases shape
    change (items.map Value.str).Perm _
    rw [locksOf_str, str_map_text]
    exact (orderedLocks_perm listed listed.each).map _
  · next other =>
    unfold SameValue
    split
    · exact absurd rfl (other _ rfl)
    · rfl

/-! ## The loop over the fields -/

omit [UpperCase] in
theorem mem_all (field : EmbedField) : field ∈ EmbedField.all := by
  cases field <;> decide

omit [UpperCase] in
theorem param_injective {a b : EmbedField} (h : a.param = b.param) : a = b :=
  List.inj_on_of_nodup_map (by decide : (EmbedField.all.map EmbedField.param).Nodup) (mem_all a)
    (mem_all b) h

omit [UpperCase] in
theorem name_injective {a b : EmbedField} (h : a.name = b.name) : a = b :=
  List.inj_on_of_nodup_map (by decide : (EmbedField.all.map EmbedField.name).Nodup) (mem_all a)
    (mem_all b) h

/-- What an object has under a field. -/
def given (members : HostObject) (field : EmbedField) : Option Given :=
  let held := members.get field.name
  if held.value.isUndefined then none else some held

/-- The entry of a field in the query. -/
def written (members : HostObject) (field : EmbedField) : Option (String × String) :=
  (given members field).map fun held => (field.param, fieldText field held.value)

omit [UpperCase] in
theorem set_new {query : UrlSearchParams} {name value : String}
    (absent : ∀ pair ∈ query.list, pair.1 ≠ name) :
    query.set name value = ⟨query.list ++ [(name, value)]⟩ := by
  unfold UrlSearchParams.set
  rw [if_neg]
  intro present
  obtain ⟨pair, mem, same⟩ := List.any_eq_true.mp present
  exact absent pair mem (beq_iff_eq.mp same)

theorem writeField_ok {members : HostObject} {query query' : UrlSearchParams} {field : EmbedField}
    (absent : ∀ pair ∈ query.list, pair.1 ≠ field.param) :
    writeField members query field = .ok query' ↔
      (∀ held, given members field = some held → fieldProblem field held = none) ∧
        query'.list = query.list ++ (written members field).toList := by
  unfold writeField written given
  dsimp only
  cases unset : (members.get field.name).value.isUndefined with
  | true =>
    simp only [if_true, Except.ok.injEq, reduceCtorEq, false_implies, implies_true, true_and,
      Option.map_none, Option.toList_none, List.append_nil]
    constructor
    · rintro rfl
      rfl
    · intro same
      cases query
      cases query'
      cases same
      rfl
  | false =>
    simp only [Bool.false_eq_true, if_false, Option.some.injEq, forall_eq', Option.map_some,
      Option.toList_some]
    cases problem : fieldProblem field (members.get field.name) with
    | some _ => simp
    | none =>
      simp only [set_new absent, Except.ok.injEq, true_and]
      constructor
      · rintro rfl
        rfl
      · intro same
        cases query'
        cases same
        rfl

/-- The loop writes every field that is given, in its order, and stops at one with a problem. -/
theorem writeFields_ok {members : HostObject} {fields : List EmbedField}
    {query query' : UrlSearchParams}
    (distinct : (fields.map EmbedField.param).Nodup)
    (absent : ∀ pair ∈ query.list, pair.1 ∉ fields.map EmbedField.param) :
    fields.foldlM (writeField members) query = .ok query' ↔
      (∀ field ∈ fields, ∀ held, given members field = some held →
        fieldProblem field held = none) ∧
      query'.list = query.list ++ fields.filterMap (written members) := by
  induction fields generalizing query with
  | nil =>
    simp only [List.foldlM_nil, List.filterMap_nil, List.append_nil]
    constructor
    · intro same
      cases same
      exact ⟨by simp, rfl⟩
    · rintro ⟨-, same⟩
      cases query
      cases query'
      cases same
      rfl
  | cons field rest ih =>
    rw [List.map_cons, List.nodup_cons] at distinct
    have first : ∀ pair ∈ query.list, pair.1 ≠ field.param := by
      intro pair mem same
      exact absent pair mem (by rw [same]; exact List.mem_cons_self)
    have next {query₁ : UrlSearchParams}
        (list : query₁.list = query.list ++ (written members field).toList) :
        ∀ pair ∈ query₁.list, pair.1 ∉ rest.map EmbedField.param := by
      intro pair mem held
      rw [list, List.mem_append] at mem
      rcases mem with mem | mem
      · exact absent pair mem (List.mem_cons_of_mem _ held)
      · unfold written at mem
        rw [Option.mem_toList, Option.map_eq_some_iff] at mem
        obtain ⟨value, -, rfl⟩ := mem
        exact distinct.1 held
    have tail : (field :: rest).filterMap (written members) =
        (written members field).toList ++ rest.filterMap (written members) := by
      cases entry : written members field <;> simp [entry]
    rw [List.foldlM_cons]
    constructor
    · intro ran
      cases one : writeField members query field with
      | error problem =>
        rw [one] at ran
        cases ran
      | ok query₁ =>
        rw [one] at ran
        obtain ⟨good, list⟩ := (writeField_ok first).mp one
        obtain ⟨later, list'⟩ := (ih distinct.2 (next list)).mp ran
        refine ⟨?_, by rw [list', list, tail, List.append_assoc]⟩
        intro field' mem
        rcases List.mem_cons.mp mem with rfl | mem
        · exact good
        · exact later field' mem
    · rintro ⟨good, list⟩
      have one : writeField members query field =
          .ok ⟨query.list ++ (written members field).toList⟩ :=
        (writeField_ok first).mpr ⟨good field List.mem_cons_self, rfl⟩
      rw [one]
      apply (ih distinct.2 (next rfl)).mpr
      refine ⟨fun field' mem => good field' (List.mem_cons_of_mem _ mem), ?_⟩
      rw [list, tail, List.append_assoc]

/-- Only keys of `EMBED_PARAM`. -/
def KnownKeys (members : HostObject) : Prop :=
  ∀ member ∈ members, ∃ field : EmbedField, member.1 = field.name

/-- A query as it stands. -/
def searchText (pairs : List (String × String)) : String :=
  if pairs = [] then "" else String.ofList ('?' :: ['&'].intercalate (pairs.map spelledPair))

omit [UpperCase] in
theorem ofText_searchText {pairs : List (String × String)} (plain : PlainPairs pairs) :
    UrlSearchParams.ofText (searchText pairs) = ⟨pairs⟩ := by
  unfold searchText
  split
  · next none_ =>
    rw [none_]
    rfl
  · exact ofText_plain plain

omit [UpperCase] in
theorem param_plain (field : EmbedField) : PlainText field.param := by
  have all_ : ∀ field ∈ EmbedField.all, PlainText field.param := by decide
  exact all_ field (mem_all field)

theorem written_plain {members : HostObject}
    (good : ∀ field held, given members field = some held → fieldProblem field held = none) :
    PlainPairs (EmbedField.all.filterMap (written members)) := by
  intro pair mem
  obtain ⟨field, -, entry⟩ := List.mem_filterMap.mp mem
  obtain ⟨value, held, rfl⟩ := Option.map_eq_some_iff.mp entry
  exact ⟨param_plain field, (agrees field).plain value (good field value held)⟩

omit [UpperCase] in
theorem knownKeys_iff {members : HostObject} :
    (members.find? fun member => !(EmbedField.all.map EmbedField.name).contains member.1) = none ↔
      KnownKeys members := by
  rw [List.find?_eq_none]
  unfold KnownKeys
  constructor
  · intro h member mem
    have held := h member mem
    rw [Bool.not_eq_true', Bool.not_eq_false, List.contains_iff_mem, List.mem_map] at held
    obtain ⟨field, -, same⟩ := held
    exact ⟨field, same.symm⟩
  · intro h member mem
    obtain ⟨field, same⟩ := h member mem
    rw [Bool.not_eq_true', Bool.not_eq_false, List.contains_iff_mem, List.mem_map]
    exact ⟨field, mem_all field, same.symm⟩

/-- The object is written exactly where its keys are known and no value has a problem; its text is
the given fields as they stand. -/
theorem encodeEmbedParams_ok {members : HostObject} {text : String} :
    encodeEmbedParams (.object members) = .ok text ↔ KnownKeys members ∧
      (∀ field held, given members field = some held → fieldProblem field held = none) ∧
      text = searchText (EmbedField.all.filterMap (written members)) := by
  have distinct : (EmbedField.all.map EmbedField.param).Nodup := by decide
  have loop (query : UrlSearchParams) :
      EmbedField.all.foldlM (writeField members) .empty = .ok query ↔
        (∀ field held, given members field = some held → fieldProblem field held = none) ∧
        query = ⟨EmbedField.all.filterMap (written members)⟩ := by
    rw [writeFields_ok distinct (by simp [UrlSearchParams.empty])]
    constructor
    · rintro ⟨good, list⟩
      refine ⟨fun field => good field (mem_all field), ?_⟩
      cases query
      cases list
      rfl
    · rintro ⟨good, rfl⟩
      exact ⟨fun field _ => good field, rfl⟩
  have shown (good : ∀ field held, given members field = some held →
      fieldProblem field held = none) :
      (let search := replaceCommas
          (UrlSearchParams.toText ⟨EmbedField.all.filterMap (written members)⟩)
        if search = [] then "" else String.ofList ('?' :: search)) =
        searchText (EmbedField.all.filterMap (written members)) := by
    dsimp only
    rw [replaceCommas_toText (written_plain good)]
    unfold searchText
    cases EmbedField.all.filterMap (written members) with
    | nil => rfl
    | cons pair rest =>
      have some_ : ['&'].intercalate ((pair :: rest).map spelledPair) ≠ [] := by
        cases rest <;> simp [spelledPair]
      rw [if_neg some_, if_neg (by simp)]
  unfold encodeEmbedParams HostParams.ownMembers
  dsimp only
  split
  · next unknown =>
    have strange : ¬KnownKeys members := by
      rw [← knownKeys_iff, unknown]
      simp
    simp [strange]
  · next none_ =>
    have known := knownKeys_iff.mp none_
    constructor
    · intro ran
      cases query : EmbedField.all.foldlM (writeField members) .empty with
      | error problem =>
        rw [query] at ran
        cases ran
      | ok query' =>
        obtain ⟨good, rfl⟩ := (loop query').mp query
        rw [query] at ran
        cases ran
        exact ⟨known, good, shown good⟩
    · rintro ⟨-, good, rfl⟩
      rw [(loop _).mpr ⟨good, rfl⟩]
      exact congrArg Except.ok (shown good)

omit [UpperCase] in
/-- An entry for each field that has one, found by the field's key. -/
theorem lookup_fields {α : Type} {key : EmbedField → String}
    (injective : ∀ {a b}, key a = key b → a = b) (entry : EmbedField → Option α)
    (field : EmbedField) :
    (EmbedField.all.filterMap fun other => (entry other).map fun x => (key other, x)).lookup
      (key field) = entry field := by
  have all_ (fields : List EmbedField) :
      (fields.filterMap fun other => (entry other).map fun x => (key other, x)).lookup
        (key field) = if field ∈ fields then entry field else none := by
    induction fields with
    | nil => rfl
    | cons other rest ih =>
      by_cases same : other = field
      · subst same
        rw [if_pos List.mem_cons_self]
        cases held : entry other with
        | none =>
          rw [List.filterMap_cons_none (by rw [held]; rfl), ih, held]
          simp
        | some x =>
          rw [List.filterMap_cons_some (by rw [held]; rfl), List.lookup_cons_self]
      · have skip : (field ∈ other :: rest) ↔ field ∈ rest := by
          rw [List.mem_cons]
          exact or_iff_right (Ne.symm same)
        rw [if_congr skip rfl rfl, ← ih]
        cases held : entry other with
        | none => rw [List.filterMap_cons_none (by rw [held]; rfl)]
        | some x =>
          have differ : (key field == key other) = false :=
            beq_eq_false_iff_ne.mpr fun h => same (injective h).symm
          rw [List.filterMap_cons_some (by rw [held]; rfl), List.lookup_cons, differ]
  rw [all_, if_pos (mem_all field)]

omit [UpperCase] in
theorem lookup_written (members : HostObject) (field : EmbedField) :
    (EmbedField.all.filterMap (written members)).lookup field.param =
      (given members field).map fun held => fieldText field held.value := by
  have entries : written members = fun other =>
      ((given members other).map fun held => fieldText other held.value).map fun x =>
        (other.param, x) := by
    funext other
    unfold written
    rw [Option.map_map]
    rfl
  rw [entries]
  exact lookup_fields param_injective
    (fun other => (given members other).map fun held => fieldText other held.value) field

theorem readField_none (field : EmbedField) : readField field none = none := by
  have code : normalizeEmbedCode "" = none := by
    unfold normalizeEmbedCode
    rw [show trim "" = "" from rfl, UpperCase.toUpperCase_fixed "" (by simp)]
    rfl
  cases field with
  | ref => exact congrArg (Option.map Value.str) code
  | promo => exact congrArg (Option.map Value.str) code
  | _ => rfl

/-- The parser reads of each field what was written of it. -/
theorem parse_written {members : HostObject} {text : String}
    (h : encodeEmbedParams (.object members) = .ok text) (field : EmbedField) :
    (parseEmbedParams text).value field =
      (given members field).bind fun held =>
        readField field (some (fieldText field held.value)) := by
  obtain ⟨-, good, rfl⟩ := encodeEmbedParams_ok.mp h
  rw [value_parse, ofText_searchText (written_plain good)]
  change readField field ((EmbedField.all.filterMap (written members)).lookup _) = _
  rw [lookup_written]
  cases given members field with
  | none => exact readField_none field
  | some held => rfl

/-- What is written without a hole is read back, a list of locks in their order. -/
theorem parse_encode {members : HostObject} {text : String}
    (printed : Printed (members.get "height").value)
    (h : encodeEmbedParams (.object members) = .ok text) {field : EmbedField} {value : Value}
    (held : given members field = some (.whole value)) :
    (parseEmbedParams text).value field = some (inOrder field value) := by
  have good := (encodeEmbedParams_ok.mp h).2.1
  rw [parse_written h, held]
  refine (agrees field).reads value ?_ (good field _ held)
  rintro rfl
  unfold given at held
  dsimp only at held
  split at held
  · cases held
  · rw [show members.get "height" = Given.whole value from Option.some.inj held] at printed
    exact printed

/-- A list with a hole is written, and read as none. -/
theorem parse_dropped {members : HostObject} {text : String}
    (h : encodeEmbedParams (.object members) = .ok text) {field : EmbedField} {holed : Given}
    (held : given members field = some holed) (hole : holed.holes ≠ []) (other : field ≠ .locks) :
    (parseEmbedParams text).value field = none := by
  rw [parse_written h, held]
  exact (agrees field).dropped holed hole ((encodeEmbedParams_ok.mp h).2.1 field holed held) other

/-- Some query string gives the value under the field, but for the order of its locks. -/
def Readable (field : EmbedField) (held : Given) : Prop :=
  ∃ search read, (parseEmbedParams search).value field = some read ∧ held.holes = [] ∧
    SameValue field held.value read

omit [UpperCase] in
theorem Given.eq_whole {held : Given} (unholed : held.holes = []) : held = .whole held.value := by
  obtain ⟨value, holes, absent⟩ := held
  cases unholed
  rfl

theorem Readable.accepted {field : EmbedField} {held : Given} (h : Readable field held) :
    fieldProblem field held = none := by
  obtain ⟨search, read, found, unholed, same⟩ := h
  rw [value_parse] at found
  rw [Given.eq_whole unholed]
  exact fieldProblem_same same ((agrees field).accepts _ read found).1

/-- Every array given has all its indices. -/
def Unholed (members : HostObject) : Prop :=
  ∀ field held, given members field = some held → held.holes = []

/-- Only keys of `EMBED_PARAM`, and no value that its field has a problem with. -/
structure Unobjectionable (members : HostObject) : Prop where
  known : KnownKeys members
  good : ∀ field held, given members field = some held → fieldProblem field held = none

/-- An object that is written reads back equal, and it is written where its keys are known and its
values are ones the parser gives. -/
structure RoundTrips (object : EmbedObject) : Prop where
  returns : ∀ text, encodeEmbedParams (.object object.members) = .ok text → ∀ field,
    ((parseEmbedParams text).value field).map Given.whole =
      (given object.members field).map (Given.inOrder field)
  accepts : (∃ text, encodeEmbedParams (.object object.members) = .ok text) ↔
    KnownKeys object.members ∧
      ∀ field held, given object.members field = some held → Readable field held

theorem encodeEmbedParams_accepts {members : HostObject} :
    (∃ text, encodeEmbedParams (.object members) = .ok text) ↔ Unobjectionable members := by
  constructor
  · rintro ⟨text, ran⟩
    obtain ⟨known, good, -⟩ := encodeEmbedParams_ok.mp ran
    exact ⟨known, good⟩
  · rintro ⟨known, good⟩
    exact ⟨_, encodeEmbedParams_ok.mpr ⟨known, good, rfl⟩⟩

/-- Readable values are accepted. -/
theorem unobjectionable_of_readable {members : HostObject} (known : KnownKeys members)
    (readable : ∀ field held, given members field = some held → Readable field held) :
    Unobjectionable members :=
  ⟨known, fun field held found => (readable field held found).accepted⟩

/-- Without holes an object round-trips. -/
theorem roundTrips_unholed (object : EmbedObject) (unholed : Unholed object.members) :
    RoundTrips object := by
  have back {text : String} (ran : encodeEmbedParams (.object object.members) = .ok text)
      {field : EmbedField} {held : Given} (found : given object.members field = some held) :
      (parseEmbedParams text).value field = some (inOrder field held.value) := by
    rw [Given.eq_whole (unholed field held found)] at found
    exact parse_encode object.printed ran found
  constructor
  · intro text ran field
    cases found : given object.members field with
    | none =>
      rw [parse_written ran, found]
      rfl
    | some held =>
      rw [back ran found, Option.map_some, Option.map_some, Given.inOrder,
        if_pos (unholed field held found)]
  · constructor
    · rintro ⟨text, ran⟩
      obtain ⟨known, good, -⟩ := encodeEmbedParams_ok.mp ran
      refine ⟨known, fun field held found => ?_⟩
      have whole := unholed field held found
      have fine := good field held found
      rw [Given.eq_whole whole] at fine
      exact ⟨text, _, back ran found, whole, sameValue_inOrder fine⟩
    · rintro ⟨known, readable⟩
      exact encodeEmbedParams_accepts.mpr (unobjectionable_of_readable known readable)

/-- What is refused anyway is refused for an unknown key or a value no query gives. -/
theorem roundTrips_refused (object : EmbedObject) (refused : ¬Unobjectionable object.members) :
    RoundTrips object := by
  constructor
  · intro text ran
    exact absurd (encodeEmbedParams_accepts.mp ⟨text, ran⟩) refused
  · constructor
    · exact fun ran => absurd (encodeEmbedParams_accepts.mp ran) refused
    · rintro ⟨known, readable⟩
      exact absurd (unobjectionable_of_readable known readable) refused

/-- An object that is accepted with a hole does not come back. -/
theorem RoundTrips.unholed {object : EmbedObject} (roundTrips : RoundTrips object)
    (accepted : Unobjectionable object.members) : Unholed object.members := by
  intro field held found
  obtain ⟨-, readable⟩ := roundTrips.accepts.mp (encodeEmbedParams_accepts.mpr accepted)
  obtain ⟨_, _, -, unholed, -⟩ := readable field held found
  exact unholed

/-! ## What the parser returns -/

omit [UpperCase] in
theorem ofCount_injective : Function.Injective ofCount := by
  intro a b same
  have numbers : JsNumber.ofInt a = JsNumber.ofInt b := Value.num.inj same
  have values : some ((a : Int) : ℚ) = some ((b : Int) : ℚ) := congrArg JsNumber.value numbers
  simpa using values

omit [UpperCase] in
theorem str_injective : Function.Injective Value.str := fun _ _ => Value.str.inj

omit [UpperCase] in
/-- What the parser returns is known by its fields. -/
theorem params_eq {params params' : EmbedParams}
    (h : ∀ field, params.value field = params'.value field) : params = params' := by
  have arr {α : Type} {shown : α → Value} (injective : Function.Injective shown) :
      Function.Injective fun xs : List α => Value.arr (xs.map shown) := by
    intro xs ys same
    exact List.map_injective_iff.mpr injective (Value.arr.inj same)
  have settlement : Function.Injective fun s : EmbedSettlement => Value.str s.text := by
    intro a b same
    revert same
    cases a <;> cases b <;> simp [EmbedSettlement.text]
  have theme : Function.Injective fun t : EmbedTheme => Value.str t.text := by
    intro a b same
    revert same
    cases a <;> cases b <;> simp [EmbedTheme.text]
  have layout : Function.Injective fun l : EmbedLayout => Value.str l.text := by
    intro a b same
    revert same
    cases a <;> cases b <;> simp [EmbedLayout.text]
  have lock : Function.Injective fun l : EmbedLock => Value.str l.text := by
    intro a b same
    exact lockText_injective (Value.str.inj same)
  have flag : Function.Injective Value.bool := fun _ _ => Value.bool.inj
  cases params
  cases params'
  rw [EmbedParams.mk.injEq]
  exact ⟨Option.map_injective ofCount_injective (h .fromChainId),
    Option.map_injective ofCount_injective (h .toChainId),
    Option.map_injective str_injective (h .sellSymbol),
    Option.map_injective str_injective (h .buySymbol),
    Option.map_injective str_injective (h .amount),
    Option.map_injective settlement (h .settlement), Option.map_injective theme (h .theme),
    Option.map_injective layout (h .layout), Option.map_injective flag (h .howItWorks),
    Option.map_injective ofCount_injective (h .height), Option.map_injective (arr lock) (h .locks),
    Option.map_injective (arr ofCount_injective) (h .fromChains),
    Option.map_injective (arr ofCount_injective) (h .toChains),
    Option.map_injective (arr str_injective) (h .sellTokens),
    Option.map_injective (arr str_injective) (h .buyTokens),
    Option.map_injective str_injective (h .ref), Option.map_injective str_injective (h .promo)⟩

omit [UpperCase] in
theorem value_defined {params : EmbedParams} {field : EmbedField} {value : Value}
    (h : params.value field = some value) : value.isUndefined = false := by
  cases field <;> obtain ⟨_, -, rfl⟩ := Option.map_eq_some_iff.mp h <;> rfl

omit [UpperCase] in
theorem given_toObject (params : EmbedParams) (field : EmbedField) :
    given params.toObject field = (params.value field).map .whole := by
  have entries : params.toObject = EmbedField.all.filterMap fun other =>
      ((params.value other).map Given.whole).map fun held => (other.name, held) := by
    unfold EmbedParams.toObject
    simp only [Option.map_map]
    rfl
  have found : params.toObject.lookup field.name = (params.value field).map Given.whole := by
    rw [entries]
    exact lookup_fields name_injective (fun other => (params.value other).map Given.whole) field
  unfold given HostObject.get
  rw [found]
  cases held : params.value field with
  | none => rfl
  | some value =>
    change (if value.isUndefined = true then none else some (Given.whole value)) = _
    rw [value_defined held]
    rfl

omit [UpperCase] in
theorem printed_ofCount (n : Nat) : Printed (ofCount n) := by
  intro x same m _ text
  cases Value.num.inj same
  have equal : (n : Int) = m := intRepr_injective text
  rw [← equal]
  rfl

omit [UpperCase] in
/-- Among what the parser returns only a height need print as its number does, and it does. -/
theorem printed_toObject (params : EmbedParams) : Printed (params.toObject.get "height").value := by
  have found := given_toObject params .height
  unfold given at found
  change (if (params.toObject.get "height").value.isUndefined = true then none
    else some (params.toObject.get "height")) = _ at found
  split at found
  · next unset =>
    intro x same
    rw [same] at unset
    cases unset
  · obtain ⟨value, held, same⟩ := Option.map_eq_some_iff.mp found.symm
    obtain ⟨n, -, rfl⟩ := Option.map_eq_some_iff.mp held
    rw [← same]
    exact printed_ofCount n

/-- What the parser returns is accepted, and parses to itself. -/
theorem parse_again (search : String) :
    (encodeEmbedParams (.object (parseEmbedParams search).toObject)).map parseEmbedParams =
      .ok (parseEmbedParams search) := by
  have known : KnownKeys (parseEmbedParams search).toObject := by
    intro member mem
    obtain ⟨field, -, entry⟩ := List.mem_filterMap.mp mem
    obtain ⟨value, -, rfl⟩ := Option.map_eq_some_iff.mp entry
    exact ⟨field, rfl⟩
  have kept (field : EmbedField) (value : Value)
      (held : (parseEmbedParams search).value field = some value) :
      fieldProblem field (.whole value) = none ∧ inOrder field value = value := by
    rw [value_parse] at held
    exact (agrees field).accepts _ value held
  have good (field : EmbedField) (held : Given)
      (found : given (parseEmbedParams search).toObject field = some held) :
      fieldProblem field held = none := by
    rw [given_toObject] at found
    obtain ⟨value, here, rfl⟩ := Option.map_eq_some_iff.mp found
    exact (kept field value here).1
  have ran := encodeEmbedParams_ok.mpr ⟨known, good, rfl⟩
  rw [ran]
  refine congrArg Except.ok (params_eq fun field => ?_)
  cases here : (parseEmbedParams search).value field with
  | none =>
    rw [parse_written ran, given_toObject, here]
    rfl
  | some value =>
    have found : given (parseEmbedParams search).toObject field = some (.whole value) := by
      rw [given_toObject, here]
      rfl
    rw [parse_encode (printed_toObject _) ran found, (kept field value here).2]

/-! ## The round trip -/

/-- An object round-trips exactly where it leaves no index of a list out or is refused anyway; a
list with a hole that is written comes back as none, but for the locks; and what any query string
gives is written and read back the same. -/
theorem embed_params_round_trip (object : EmbedObject) (search : String) :
    (RoundTrips object ↔ (Unobjectionable object.members → Unholed object.members)) ∧
      (∀ text, encodeEmbedParams (.object object.members) = .ok text → ∀ field holed,
        given object.members field = some holed → holed.holes ≠ [] → field ≠ .locks →
          (parseEmbedParams text).value field = none) ∧
      (encodeEmbedParams (.object (parseEmbedParams search).toObject)).map parseEmbedParams =
        .ok (parseEmbedParams search) := by
  refine ⟨⟨RoundTrips.unholed, ?_⟩, ?_, parse_again search⟩
  · intro unholed
    by_cases accepted : Unobjectionable object.members
    · exact roundTrips_unholed object (unholed accepted)
    · exact roundTrips_refused object accepted
  · intro text ran field holed held hole other
    exact parse_dropped ran held hole other

end

/-- A host whose tables hold ASCII only. -/
@[reducible] def asciiUpperCase : UpperCase where
  toUpperCase s := String.ofList (s.toList.map Char.toUpper)
  toUpperCase_fixed s below := by
    have fixed : s.toList.map Char.toUpper = s.toList := by
      conv_rhs => rw [← List.map_id s.toList]
      apply List.map_congr_left
      intro c mem
      have small := below c mem
      unfold Char.toUpper
      rw [dif_neg]
      · rfl
      · intro lower
        have low : 97 ≤ c.toNat := lower.1
        omega
    rw [fixed, String.ofList_toList]

/-- `\x7bfromChains: [ , 8453]\x7d`. -/
def holedChains : EmbedObject where
  members := [("fromChains", ⟨.arr [.undefined, Value.ofInt 8453], [0], by simp⟩)]
  printed := fun x same => by cases same

/-- The list is written with its hole, and the frame allows every chain. -/
theorem holed_chains_dropped :
    @encodeEmbedParams asciiUpperCase (.object holedChains.members) = .ok "?fromChains=,8453" ∧
      (@parseEmbedParams asciiUpperCase "?fromChains=,8453").fromChains = none ∧
      ¬@RoundTrips asciiUpperCase holedChains := by
  have wrote : @encodeEmbedParams asciiUpperCase (.object holedChains.members) =
      .ok "?fromChains=,8453" := by
    decide
  have read : (@parseEmbedParams asciiUpperCase "?fromChains=,8453").fromChains = none := by
    decide
  refine ⟨wrote, read, fun roundTrips => ?_⟩
  have back := @RoundTrips.returns asciiUpperCase holedChains roundTrips _ wrote .fromChains
  unfold EmbedParams.value at back
  rw [read] at back
  cases back

end XochiSdk.Widget
