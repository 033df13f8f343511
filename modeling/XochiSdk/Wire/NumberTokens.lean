import XochiSdk.Wire.FormatLaw
import XochiSdk.Js.Map

/-!
# Number literals

`numberTokens` and `numberTokenDiff` of `packages/spec/wire/compare.mjs`, and the post-condition
that `generate.mjs` holds the formatter to.
-/

namespace XochiSdk.Wire

open XochiSdk.Js XochiSdk.Library JsonText Signer

abbrev Token := List Char

/-- The rest of a text past a string's closing quote. -/
def skipQuoted : List Char → List Char
  | [] => []
  | ['\\'] => []
  | '\\' :: _ :: cs => skipQuoted cs
  | c :: cs => if c = '"' then cs else skipQuoted cs

/-- `"0123456789.eE+-".includes(c)`. -/
def isNumberChar (c : Char) : Bool :=
  isDecimalDigit c || c == '.' || c == 'e' || c == 'E' || c == '+' || c == '-'

/-- The loop of `numberTokens`; each round passes at least one character. -/
def lexNumbers : Nat → List Char → List Token
  | _, [] => []
  | 0, _ => []
  | fuel + 1, c :: cs =>
    if c = '"' then lexNumbers fuel (skipQuoted cs)
    else if c = '-' ∨ isDecimalDigit c then
      (c :: cs.takeWhile isNumberChar) :: lexNumbers fuel (cs.dropWhile isNumberChar)
    else lexNumbers fuel cs

def numberTokens (text : List Char) : List Token := lexNumbers text.length text

/-- `counts`. -/
def tokenCounts (tokens : List Token) : JsMap Token Nat :=
  tokens.foldl (fun out t => out.set t ((out.get t).getD 0 + 1)) .empty

/-- `surplus(a, b)`. -/
def surplus (a b : JsMap Token Nat) : List Token :=
  a.entries.flatMap fun (t, n) => List.replicate (n - (b.get t).getD 0) t

structure TokenDiff where
  servedOnly : List Token
  vendoredOnly : List Token

def numberTokenDiff (served vendored : List Char) : TokenDiff :=
  let s := tokenCounts (numberTokens served)
  let v := tokenCounts (numberTokens vendored)
  { servedOnly := surplus s v, vendoredOnly := surplus v s }

/-- `rewrittenNumbers` of the writer: the spellings served and not written. -/
def rewrittenNumbers (served formatted : List Char) : List Token :=
  (numberTokens served).reverse.dedup.reverse.filter fun t => !(numberTokens formatted).contains t

/-! ## The lexer's rounds -/

theorem skipQuoted_length (cs : List Char) : (skipQuoted cs).length ≤ cs.length := by
  induction cs using skipQuoted.induct with
  | case1 => exact le_refl _
  | case2 => exact Nat.zero_le _
  | case3 c cs ih =>
    rw [skipQuoted]
    simp only [List.length_cons]
    omega
  | case4 cs _ _ => simp [skipQuoted]
  | case5 c cs single pair other ih =>
    rw [skipQuoted, if_neg other]
    · simp only [List.length_cons]
      omega
    · exact single
    · exact pair

theorem lexNumbers_fuel {fuel : Nat} {cs : List Char} (enough : cs.length ≤ fuel) :
    lexNumbers fuel cs = numberTokens cs := by
  have any : ∀ n m (cs : List Char), cs.length ≤ n → cs.length ≤ m →
      lexNumbers n cs = lexNumbers m cs := by
    intro n
    induction n with
    | zero =>
      intro m cs short _
      obtain rfl := List.eq_nil_of_length_eq_zero (Nat.le_zero.mp short)
      cases m <;> rfl
    | succ n ih =>
      intro m cs first second
      cases cs with
      | nil => cases m <;> rfl
      | cons c cs =>
        simp only [List.length_cons] at first second
        obtain ⟨m, rfl⟩ : ∃ k, m = k + 1 := ⟨m - 1, by omega⟩
        have quoted := skipQuoted_length cs
        have dropped := (List.dropWhile_sublist (l := cs) isNumberChar).length_le
        rw [lexNumbers, lexNumbers, ih m (skipQuoted cs) (by omega) (by omega),
          ih m (cs.dropWhile isNumberChar) (by omega) (by omega), ih m cs (by omega) (by omega)]
  exact any fuel cs.length cs enough (le_refl _)

theorem numberTokens_cons (c : Char) (cs : List Char) :
    numberTokens (c :: cs) = if c = '"' then numberTokens (skipQuoted cs)
      else if c = '-' ∨ isDecimalDigit c then
        (c :: cs.takeWhile isNumberChar) :: numberTokens (cs.dropWhile isNumberChar)
      else numberTokens cs := by
  have quoted := skipQuoted_length cs
  have dropped := (List.dropWhile_sublist (l := cs) isNumberChar).length_le
  rw [numberTokens, List.length_cons, lexNumbers, lexNumbers_fuel quoted, lexNumbers_fuel dropped,
    lexNumbers_fuel (le_refl _)]

theorem numberTokens_plain {c : Char} {cs : List Char} (quote : c ≠ '"')
    (numeric : ¬(c = '-' ∨ isDecimalDigit c = true)) :
    numberTokens (c :: cs) = numberTokens cs := by
  rw [numberTokens_cons, if_neg quote, if_neg numeric]

theorem ends_after_ws {w rest : List Char} (ws : Ws w) (ends : Ends rest) : Ends (w ++ rest) := by
  cases w with
  | nil => exact ends
  | cons c w =>
    intro d first
    exact ends_of_ws ws d first

theorem numberTokens_ws {w cs : List Char} (ws : Ws w) :
    numberTokens (w ++ cs) = numberTokens cs := by
  induction w with
  | nil => rfl
  | cons c w ih =>
    obtain ⟨blank, ws⟩ := List.forall_mem_cons.mp ws
    rw [List.cons_append, numberTokens_plain, ih ws]
    · rcases isWs_iff.mp blank with rfl | rfl | rfl | rfl <;> decide
    · rcases isWs_iff.mp blank with rfl | rfl | rfl | rfl <;> decide

/-! ## Strings hold no tokens -/

theorem skipQuoted_plain {c : Char} {cs : List Char} (escape : c ≠ '\\') :
    skipQuoted (c :: cs) = if c = '"' then cs else skipQuoted cs := by
  rw [skipQuoted]
  · exact fun same => absurd same escape
  · exact fun _ _ same => absurd same escape

theorem skipQuoted_hex {c : Char} {cs : List Char} {d : Nat}
    (hex : JsonText.hexDigit c = some d) : skipQuoted (c :: cs) = skipQuoted cs := by
  have quote : c ≠ '"' := by
    rintro rfl
    have none_ : JsonText.hexDigit '"' = none := by decide
    rw [none_] at hex
    cases hex
  have escape : c ≠ '\\' := by
    rintro rfl
    have none_ : JsonText.hexDigit '\\' = none := by decide
    rw [none_] at hex
    cases hex
  rw [skipQuoted_plain escape, if_neg quote]

theorem skipQuoted_body {body rest : List Char} {us : List Nat} (said : Body body us) :
    skipQuoted (body ++ '"' :: rest) = rest := by
  induction said with
  | nil => rw [List.nil_append, skipQuoted_plain (by decide), if_pos rfl]
  | plain quote escape _ _ ih => rw [List.cons_append, skipQuoted_plain escape, if_neg quote, ih]
  | short _ _ ih => rw [List.cons_append, List.cons_append, skipQuoted, ih]
  | unicode h₁ h₂ h₃ h₄ _ ih =>
    simp only [List.cons_append]
    rw [skipQuoted, skipQuoted_hex h₁, skipQuoted_hex h₂, skipQuoted_hex h₃, skipQuoted_hex h₄, ih]

theorem numberTokens_string {body rest : List Char} {us : List Nat} (said : Body body us) :
    numberTokens ('"' :: (body ++ '"' :: rest)) = numberTokens rest := by
  rw [numberTokens_cons, if_pos rfl, skipQuoted_body said]

/-! ## A number is one token -/

theorem isNumberChar_digit {c : Char} (digit : isDecimalDigit c = true) :
    isNumberChar c = true := by
  rw [isNumberChar, digit]
  rfl

theorem number_chars {token : List Char} (number : Number token) :
    ∀ c ∈ token, isNumberChar c = true := by
  obtain ⟨sign, whole, fraction, exponent, rfl, signed, shapeW, shapeF, shapeE⟩ := number.parts
  have run : ∀ digits, Digits digits → ∀ c ∈ digits, isNumberChar c = true :=
    fun digits run c among => isNumberChar_digit (run.2 c among)
  have some_ : ∀ c ∈ sign, isNumberChar c = true := by
    rcases signed with rfl | rfl
    · exact List.forall_mem_nil _
    · exact List.forall_mem_singleton.mpr rfl
  have integer : ∀ c ∈ whole, isNumberChar c = true := by
    rcases shapeW with rfl | ⟨digits, -⟩
    · exact List.forall_mem_singleton.mpr (by decide)
    · exact run whole digits
  have decimals : ∀ c ∈ fraction, isNumberChar c = true := by
    rcases shapeF with rfl | ⟨digits, shape, rfl⟩
    · exact List.forall_mem_nil _
    · exact List.forall_mem_cons.mpr ⟨by decide, run digits shape⟩
  have power : ∀ c ∈ exponent, isNumberChar c = true := by
    rcases shapeE with rfl | ⟨e, plus, digits, marked, signed, shape, rfl⟩
    · exact List.forall_mem_nil _
    · refine List.forall_mem_cons.mpr ⟨by rcases marked with rfl | rfl <;> decide, ?_⟩
      refine List.forall_mem_append.mpr ⟨?_, run digits shape⟩
      rcases signed with rfl | rfl | rfl
      · exact List.forall_mem_nil _
      · exact List.forall_mem_singleton.mpr (by decide)
      · exact List.forall_mem_singleton.mpr (by decide)
  exact List.forall_mem_append.mpr ⟨List.forall_mem_append.mpr
    ⟨List.forall_mem_append.mpr ⟨some_, integer⟩, decimals⟩, power⟩

theorem number_ends {cs rest : List Char} (inside : ∀ c ∈ cs, isNumberChar c = true)
    (ends : Ends rest) :
    (cs ++ rest).takeWhile isNumberChar = cs ∧ (cs ++ rest).dropWhile isNumberChar = rest := by
  rw [List.takeWhile_append_of_pos inside, List.dropWhile_append_of_pos inside]
  cases rest with
  | nil => simp
  | cons c rest =>
    obtain ⟨digit, point, e, upper, plus, minus⟩ := ends c rfl
    have stops : isNumberChar c = false := by
      simp [isNumberChar, digit, point, e, upper, plus, minus]
    rw [List.takeWhile_cons_of_neg (by simp [stops]), List.dropWhile_cons_of_neg (by simp [stops])]
    simp

theorem numberTokens_number {token rest : List Char} (number : Number token) (ends : Ends rest) :
    numberTokens (token ++ rest) = token :: numberTokens rest := by
  have inside := number_chars number
  obtain ⟨c, cs, rfl, numeric⟩ := Number.first number
  have quote : c ≠ '"' := by
    rintro rfl
    exact absurd numeric (by decide)
  obtain ⟨taken, dropped⟩ := number_ends (List.forall_mem_cons.mp inside).2 ends
  rw [List.cons_append, numberTokens_cons, if_neg quote, if_pos numeric, taken, dropped]

/-! ## The tokens of a text -/

mutual

/-- The numbers of a value, in the order of its text. -/
def nums : JsonData → List Token
  | .null => []
  | .bool _ => []
  | .num token => [token]
  | .str _ => []
  | .arr xs => numsElements xs
  | .obj ms => numsMembers ms

def numsElements : List JsonData → List Token
  | [] => []
  | x :: xs => nums x ++ numsElements xs

def numsMembers : List (Key × JsonData) → List Token
  | [] => []
  | (_, x) :: ms => nums x ++ numsMembers ms

end

theorem ends_close {c : Char} {rest : List Char} (closes : c = ']' ∨ c = '\x7d') :
    Ends (c :: rest) :=
  @ends_before [] rest c (List.forall_mem_nil _) (Or.inr closes)

theorem numberTokens_derived {part : Part} {cs : List Char} {x : JsonData} (said : Says part cs x) :
    ∀ rest, Ends rest → numberTokens (cs ++ rest) = nums x ++ numberTokens rest := by
  induction said with
  | null =>
    intro rest _
    iterate 4 rw [List.cons_append, numberTokens_plain (by decide) (by decide)]
    rfl
  | true_ =>
    intro rest _
    iterate 4 rw [List.cons_append, numberTokens_plain (by decide) (by decide)]
    rfl
  | false_ =>
    intro rest _
    iterate 5 rw [List.cons_append, numberTokens_plain (by decide) (by decide)]
    rfl
  | num number =>
    intro rest ends
    rw [numberTokens_number number ends]
    rfl
  | str body =>
    intro rest _
    rw [List.cons_append, List.append_assoc, List.singleton_append, numberTokens_string body]
    rfl
  | arr _ ih =>
    intro rest _
    rw [List.cons_append, List.append_assoc, List.singleton_append,
      numberTokens_plain (by decide) (by decide),
      ih (']' :: rest) (ends_close (Or.inl rfl)),
      numberTokens_plain (by decide) (by decide)]
  | obj _ ih =>
    intro rest _
    rw [List.cons_append, List.append_assoc, List.singleton_append,
      numberTokens_plain (by decide) (by decide),
      ih ('\x7d' :: rest) (ends_close (Or.inr rfl)),
      numberTokens_plain (by decide) (by decide)]
  | noElements ws =>
    intro rest _
    exact numberTokens_ws ws
  | @lastElement w v w' x ws _ ws' ih =>
    intro rest ends
    rw [List.append_assoc, List.append_assoc, numberTokens_ws ws, ih _ (ends_after_ws ws' ends),
      numberTokens_ws ws', nums, numsElements, numsElements, List.append_nil]
  | element ws _ ws' _ ih ihRest =>
    intro rest ends
    rw [List.append_assoc, List.append_assoc, List.append_assoc, List.cons_append,
      numberTokens_ws ws, ih _ (ends_before ws' (Or.inl rfl)), numberTokens_ws ws',
      numberTokens_plain (by decide) (by decide), ihRest rest ends, ← List.append_assoc]
    rfl
  | noMembers ws =>
    intro rest _
    exact numberTokens_ws ws
  | @lastMember w k w₁ w₂ v w' key x ws name ws₁ ws₂ _ ws' ih =>
    intro rest ends
    simp only [List.append_assoc, List.cons_append]
    rw [numberTokens_ws ws, numberTokens_string name, numberTokens_ws ws₁,
      numberTokens_plain (by decide) (by decide), numberTokens_ws ws₂,
      ih _ (ends_after_ws ws' ends), numberTokens_ws ws', nums, numsMembers, numsMembers,
      List.append_nil]
  | member ws name ws₁ ws₂ _ ws' _ ih ihRest =>
    intro rest ends
    simp only [List.append_assoc, List.cons_append]
    rw [numberTokens_ws ws, numberTokens_string name, numberTokens_ws ws₁,
      numberTokens_plain (by decide) (by decide), numberTokens_ws ws₂,
      ih _ (ends_before ws' (Or.inl rfl)), numberTokens_ws ws',
      numberTokens_plain (by decide) (by decide), ihRest rest ends, ← List.append_assoc]
    rfl

/-- The tokens of a document are its numbers. -/
theorem numberTokens_document {text : List Char} {x : JsonData} (said : Document text x) :
    numberTokens text = nums x := by
  obtain ⟨w, v, w', rfl, ws, ws', said⟩ := said
  have none_ : numberTokens w' = [] := by
    have blank := @numberTokens_ws w' [] ws'
    rwa [List.append_nil] at blank
  rw [numberTokens_ws ws, numberTokens_derived said _ (ends_of_ws ws'), none_, List.append_nil]

end XochiSdk.Wire
