import XochiSdk.Js.Search
import Mathlib.Data.List.TakeWhile
import XochiSdk.Library.JsonText

/-!
# The read token of a cut body

`packages/client/src/transport/redact.ts`: `readTokenFromPrefix`, which reads the `read_token` of
an error body that was cut before it could be parsed.

Whatever the cut left out, what is read is a member of the document's own object.
-/

namespace XochiSdk.Client

open XochiSdk.Js XochiSdk.Library

/-- `READ_TOKEN_LENGTH`. -/
def readTokenLength : Nat := 43

/-- `[A-Za-z0-9_-]`. -/
def isTokenChar (c : Char) : Bool :=
  ('A' ≤ c && c ≤ 'Z') || ('a' ≤ c && c ≤ 'z') || isDigit c || c == '_' || c == '-'

/-- `[^"\\]`. -/
def isUnquoted (c : Char) : Bool := c != '"' && c != '\\'

/-- The matches of a pattern from a place on, each with its index and what it captures, none over
the one before it. The pattern tells what it captures at a text's head, and what is left after. -/
def matchesFrom {α : Type} (pattern : List Char → Option (α × List Char)) :
    Nat → Nat → List Char → List (Nat × α)
  | _, _, [] => []
  | skip + 1, index, _ :: cs => matchesFrom pattern skip (index + 1) cs
  | 0, index, c :: cs =>
    match pattern (c :: cs) with
    | none => matchesFrom pattern 0 (index + 1) cs
    | some (captured, rest) =>
      (index, captured) :: matchesFrom pattern (cs.length - rest.length) (index + 1) cs

/-- `text.matchAll(pattern)`. -/
def matchAll {α : Type} (pattern : List Char → Option (α × List Char)) (text : List Char) :
    List (Nat × α) :=
  matchesFrom pattern 0 0 text

/-- `"name"\s*:`. -/
def afterKey (name : String) (cs : List Char) : Option (List Char) := do
  let rest ← afterLiteral "\"" cs
  let rest ← afterLiteral name rest
  let rest ← afterLiteral "\"" rest
  afterLiteral ":" (skipSpace rest)

/-- `PREFIX_INTENT_ID`. -/
def prefixIntentId (cs : List Char) : Option (List Char × List Char) := do
  let rest ← afterKey "intent_id" cs
  let rest ← afterLiteral "\"" (skipSpace rest)
  let closed ← afterLiteral "\"" (rest.dropWhile isUnquoted)
  pure (rest.takeWhile isUnquoted, closed)

/-- `PREFIX_READ_TOKEN_KEY`. -/
def prefixReadTokenKey (cs : List Char) : Option (Unit × List Char) :=
  (afterKey "read_token" cs).map fun rest => ((), rest)

/-- `PREFIX_READ_TOKEN`. -/
def prefixReadToken (cs : List Char) : Option (List Char × List Char) := do
  let rest ← afterKey "read_token" cs
  let rest ← afterLiteral "\"" (skipSpace rest)
  let token := rest.take readTokenLength
  if token.length = readTokenLength ∧ token.all isTokenChar then
    let closed ← afterLiteral "\"" (rest.drop readTokenLength)
    pure (token, closed)
  else none

/-- The loop of `jsonDepthAt`, over the characters before its index. -/
def jsonDepthFrom (depth : Int) (inString : Bool) : List Char → Int
  | [] => if inString then -1 else depth
  | c :: cs =>
    if inString then
      if c = '\\' then
        match cs with
        | [] => -1
        | _ :: cs => jsonDepthFrom depth true cs
      else if c = '"' then jsonDepthFrom depth false cs
      else jsonDepthFrom depth true cs
    else if c = '"' then jsonDepthFrom depth true cs
    else if c = '\x7b' ∨ c = '[' then jsonDepthFrom (depth + 1) false cs
    else if c = '\x7d' ∨ c = ']' then
      if depth - 1 = 0 then -1 else jsonDepthFrom (depth - 1) false cs
    else jsonDepthFrom depth false cs

def jsonDepthAt (text : List Char) (index : Nat) : Int := jsonDepthFrom 0 false (text.take index)

/-- `/^\s*\{/`. -/
def opensObject (text : List Char) : Bool :=
  (afterLiteral "\x7b" (skipSpace text)).isSome

def readTokenFromPrefix (text intentId : String) : Option String :=
  let cs := text.toList
  if !opensObject cs then none
  else
    match matchAll prefixIntentId cs with
    | [(index, id)] =>
      if String.ofList id ≠ intentId then none
      else if jsonDepthAt cs index ≠ 1 then none
      else if (matchAll prefixReadTokenKey cs).length ≠ 1 then none
      else
        match (matchAll prefixReadToken cs).head? with
        | some (index, token) =>
          if jsonDepthAt cs index = 1 then some (String.ofList token) else none
        | none => none
    | _ => none

/-! ## What a match stands on -/

theorem matchesFrom_sound {α : Type} {pattern : List Char → Option (α × List Char)} {cs : List Char}
    {skip index i : Nat} {a : α} (mem : (i, a) ∈ matchesFrom pattern skip index cs) :
    ∃ before rest after, cs = before ++ rest ∧ i = index + before.length ∧
      pattern rest = some (a, after) := by
  induction cs generalizing skip index with
  | nil => simp [matchesFrom] at mem
  | cons c cs ih =>
    have later {skip : Nat} (mem : (i, a) ∈ matchesFrom pattern skip (index + 1) cs) :
        ∃ before rest after, c :: cs = before ++ rest ∧ i = index + before.length ∧
          pattern rest = some (a, after) := by
      obtain ⟨before, rest, after, split, place, found⟩ := ih mem
      refine ⟨c :: before, rest, after, by rw [split]; rfl, ?_, found⟩
      rw [place, List.length_cons]
      omega
    cases skip with
    | succ skip => exact later mem
    | zero =>
      cases found : pattern (c :: cs) with
      | none =>
        simp only [matchesFrom, found] at mem
        exact later mem
      | some captured =>
        simp only [matchesFrom, found, List.mem_cons] at mem
        rcases mem with same | mem
        · cases same
          exact ⟨[], c :: cs, captured.2, rfl, by simp, found⟩
        · exact later mem

theorem skipSpace_blank (cs : List Char) :
    ∃ s, cs = s ++ skipSpace cs ∧ ∀ c ∈ s, isWhiteSpace c = true :=
  ⟨cs.takeWhile isWhiteSpace, List.takeWhile_append_dropWhile.symm,
    fun _ => List.mem_takeWhile_imp⟩

theorem afterKey_some {name : String} {cs rest : List Char} (h : afterKey name cs = some rest) :
    ∃ s, (∀ c ∈ s, isWhiteSpace c = true) ∧
      cs = '"' :: (name.toList ++ '"' :: (s ++ ':' :: rest)) := by
  unfold afterKey at h
  simp only [Option.bind_eq_bind, Option.bind_eq_some_iff] at h
  obtain ⟨r₁, opened, r₂, named, r₃, closed, colon⟩ := h
  obtain ⟨s, split, blank⟩ := skipSpace_blank r₃
  refine ⟨s, blank, ?_⟩
  rw [afterLiteral_some opened, afterLiteral_some named, afterLiteral_some closed, split,
    afterLiteral_some colon]
  rfl

/-- A member's text as a pattern reads it: the key, and a value of unescaped characters. -/
def MemberText (name : String) (content cs : List Char) : Prop :=
  ∃ s s' rest, (∀ c ∈ s, isWhiteSpace c = true) ∧ (∀ c ∈ s', isWhiteSpace c = true) ∧
    (∀ c ∈ content, c ≠ '"' ∧ c ≠ '\\') ∧
    cs = '"' :: (name.toList ++ '"' :: (s ++ ':' :: (s' ++ '"' :: (content ++ '"' :: rest))))

theorem unquoted_of_all {cs : List Char} (h : cs.all isUnquoted = true) :
    ∀ c ∈ cs, c ≠ '"' ∧ c ≠ '\\' := by
  intro c mem
  have free := List.all_eq_true.mp h c mem
  simpa [isUnquoted] using free

theorem prefixIntentId_some {cs id rest : List Char} (h : prefixIntentId cs = some (id, rest)) :
    MemberText "intent_id" id cs := by
  unfold prefixIntentId at h
  simp only [Option.bind_eq_bind, Option.bind_eq_some_iff, Option.pure_def, Option.some.injEq,
    Prod.mk.injEq] at h
  obtain ⟨r₁, keyed, r₂, opened, r₃, closed, rfl, rfl⟩ := h
  obtain ⟨s, blank, rfl⟩ := afterKey_some keyed
  obtain ⟨s', split, blank'⟩ := skipSpace_blank r₁
  refine ⟨s, s', r₃, blank, blank', ?_, ?_⟩
  · exact unquoted_of_all (List.all_eq_true.mpr fun c mem => List.mem_takeWhile_imp mem)
  · have whole : r₂ = r₂.takeWhile isUnquoted ++ '"' :: r₃ := by
      calc r₂ = r₂.takeWhile isUnquoted ++ r₂.dropWhile isUnquoted :=
            List.takeWhile_append_dropWhile.symm
        _ = _ := by rw [afterLiteral_some closed]; rfl
    rw [split, afterLiteral_some opened]
    exact congrArg (fun t => '"' :: ("intent_id".toList ++ '"' :: (s ++ ':' :: (s' ++ '"' :: t))))
      whole

theorem isTokenChar_free {c : Char} (h : isTokenChar c = true) : c ≠ '"' ∧ c ≠ '\\' := by
  constructor
  · rintro rfl
    revert h
    decide
  · rintro rfl
    revert h
    decide

theorem prefixReadToken_some {cs token rest : List Char}
    (h : prefixReadToken cs = some (token, rest)) : MemberText "read_token" token cs := by
  unfold prefixReadToken at h
  simp only [Option.bind_eq_bind, Option.bind_eq_some_iff] at h
  obtain ⟨r₁, keyed, r₂, opened, held⟩ := h
  obtain ⟨s, blank, rfl⟩ := afterKey_some keyed
  obtain ⟨s', split, blank'⟩ := skipSpace_blank r₁
  split at held
  · rename_i whole
    simp only [Option.bind_eq_some_iff, Option.pure_def, Option.some.injEq, Prod.mk.injEq] at held
    obtain ⟨r₃, closed, rfl, rfl⟩ := held
    refine ⟨s, s', r₃, blank, blank', ?_, ?_⟩
    · intro c mem
      exact isTokenChar_free (List.all_eq_true.mp whole.2 c mem)
    · have parts : r₂ = r₂.take readTokenLength ++ '"' :: r₃ := by
        calc r₂ = r₂.take readTokenLength ++ r₂.drop readTokenLength :=
              (List.take_append_drop _ _).symm
          _ = _ := by rw [afterLiteral_some closed]; rfl
      rw [split, afterLiteral_some opened]
      exact congrArg
        (fun t => '"' :: ("read_token".toList ++ '"' :: (s ++ ':' :: (s' ++ '"' :: t)))) parts
  · cases held

theorem opensObject_some {cs : List Char} (h : opensObject cs = true) :
    ∃ s rest, (∀ c ∈ s, isWhiteSpace c = true) ∧ cs = s ++ '\x7b' :: rest := by
  obtain ⟨rest, opened⟩ := Option.isSome_iff_exists.mp h
  obtain ⟨s, split, blank⟩ := skipSpace_blank cs
  exact ⟨s, rest, blank, by rw [split, afterLiteral_some opened]; rfl⟩

/-! ## The depth -/

/-- The mode of the loop's flag. -/
def stringMode (inString : Bool) : JsonText.Mode := if inString then .inside else .outside

theorem jsonDepthFrom_read (depth : Int) (inString : Bool) (cs : List Char)
    (h : jsonDepthFrom depth inString cs = 1) :
    JsonText.read (stringMode inString, depth) cs = some (.outside, 1) := by
  fun_induction jsonDepthFrom depth inString cs with
  | case1 | case3 | case9 => cases h
  | case2 depth inString out =>
    rw [Bool.not_eq_true] at out
    rw [out, h]
    rfl
  | case4 depth c cs ih =>
    exact (JsonText.read_cons rfl).trans ((JsonText.read_cons rfl).trans (ih h))
  | case5 depth cs _ ih => exact (JsonText.read_cons rfl).trans (ih h)
  | case6 depth c cs escape quote ih =>
    exact (JsonText.read_cons (JsonText.step_inside depth quote escape)).trans (ih h)
  | case7 depth inString cs out ih =>
    rw [Bool.not_eq_true] at out
    rw [out]
    exact (JsonText.read_cons rfl).trans (ih h)
  | case8 depth inString c cs out quote opens ih =>
    rw [Bool.not_eq_true] at out
    rw [out]
    have down : JsonText.step (.outside, depth) c = some (.outside, depth + 1) := by
      simp [JsonText.step, quote, opens]
    exact (JsonText.read_cons down).trans (ih h)
  | case10 depth inString c cs out quote shut closes more ih =>
    rw [Bool.not_eq_true] at out
    rw [out]
    have up : JsonText.step (.outside, depth) c = some (.outside, depth - 1) := by
      simp [JsonText.step, quote, shut, closes, more]
    exact (JsonText.read_cons up).trans (ih h)
  | case11 depth inString c cs out quote shut other ih =>
    rw [Bool.not_eq_true] at out
    rw [out]
    have stays : JsonText.step (.outside, depth) c = some (.outside, depth) := by
      simp [JsonText.step, quote, shut, other]
    exact (JsonText.read_cons stays).trans (ih h)

/-! ## What is read -/

theorem blank_of_ws {c : Char} (h : JsonText.isWs c = true) : isWhiteSpace c = true := by
  simp only [JsonText.isWs, Bool.or_eq_true, beq_iff_eq] at h
  rcases h with ((rfl | rfl) | rfl) | rfl <;> rfl

theorem token_not_blank {c : Char} (h : JsonText.isToken c = true) : ¬isWhiteSpace c = true := by
  simp only [JsonText.isToken, Bool.or_eq_true, beq_iff_eq] at h
  rcases h with (((((((((rfl | rfl) | rfl) | rfl) | rfl) | rfl) | rfl) | rfl) | rfl) | rfl) | digit
  all_goals try decide
  simp only [JsonText.isDecimalDigit, Bool.and_eq_true, decide_eq_true_eq] at digit
  have low : 48 ≤ c.toNat := digit.1
  have high : c.toNat ≤ 57 := digit.2
  simp only [isWhiteSpace, Bool.or_eq_true, Bool.and_eq_true, decide_eq_true_eq, beq_iff_eq]
  omega

/-- A match at depth one, in a text that opens an object, is a member of the object of every
document the text is the head of. -/
theorem MemberText.member {before found tail content : List Char} {name : String} {x : JsonData}
    (met : MemberText name content found)
    (document : JsonText.Document (before ++ found ++ tail) x)
    (opens : opensObject (before ++ found) = true)
    (free : ∀ c ∈ name.toList, c ≠ '"' ∧ c ≠ '\\')
    (depth : jsonDepthAt (before ++ found) before.length = 1) :
    ∃ ms, x = .obj ms ∧ (JsonText.units name.toList, .str (JsonText.units content)) ∈ ms := by
  obtain ⟨s, s', rest, blank, blank', free', rfl⟩ := met
  obtain ⟨w, after, blanks, brace⟩ := opensObject_some opens
  unfold jsonDepthAt at depth
  rw [List.take_left] at depth
  have whole : before ++ '"' :: (name.toList ++ '"' :: (s ++ ':' :: (s' ++ '"' ::
      (content ++ '"' :: rest)))) ++ tail = before ++ '"' :: (name.toList ++ '"' ::
        (s ++ ':' :: (s' ++ '"' :: (content ++ '"' :: (rest ++ tail))))) := by simp
  exact document.member (fun _ => blank_of_ws) (fun _ => token_not_blank) blanks
    (by rw [brace, List.append_assoc, List.cons_append]) free blank blank' free' whole
    (jsonDepthFrom_read 0 false before depth)

/-- What a pattern captures at depth one, under its key. -/
theorem matchAll_member {pattern : List Char → Option (List Char × List Char)}
    {text tail content : List Char} {name : String} {index : Nat} {x : JsonData}
    (sound : ∀ cs after, pattern cs = some (content, after) → MemberText name content cs)
    (mem : (index, content) ∈ matchAll pattern text)
    (document : JsonText.Document (text ++ tail) x) (distinct : x.DistinctKeys)
    (opens : opensObject text = true) (free : ∀ c ∈ name.toList, c ≠ '"' ∧ c ≠ '\\')
    (depth : jsonDepthAt text index = 1) :
    x.member (JsonText.units name.toList) = some (.str (JsonText.units content)) := by
  obtain ⟨before, found, after, rfl, place, matched⟩ := matchesFrom_sound mem
  rw [place, Nat.zero_add] at depth
  obtain ⟨ms, rfl, held⟩ := (sound found after matched).member document opens free depth
  exact JsonData.member_of_mem distinct held

/-- What is read off a cut body is what its document's own object holds, whatever was cut. -/
theorem readTokenFromPrefix_sound {text intentId token document : String} {x : JsonData}
    (head : text.toList <+: document.toList) (parsed : JsonText.Document document.toList x)
    (distinct : x.DistinctKeys) (found : readTokenFromPrefix text intentId = some token) :
    x.member (JsonText.units "intent_id".toList) = some (.str (JsonText.units intentId.toList)) ∧
      x.member (JsonText.units "read_token".toList) =
        some (.str (JsonText.units token.toList)) := by
  obtain ⟨tail, whole⟩ := head
  rw [← whole] at parsed
  simp only [readTokenFromPrefix] at found
  split at found
  · cases found
  rename_i opens
  rw [Bool.not_eq_true, Bool.not_eq_false'] at opens
  split at found
  · rename_i index id ids
    split at found
    · cases found
    rename_i named
    rw [not_not] at named
    split at found
    · cases found
    rename_i depth
    rw [not_not] at depth
    split at found
    · cases found
    split at found
    · rename_i index' token' met
      split at found
      · rename_i depth'
        cases found
        have id_mem : (index, id) ∈ matchAll prefixIntentId text.toList := by
          rw [ids]
          exact List.mem_singleton_self _
        have token_mem := List.mem_of_mem_head? met
        have idFree : ∀ c ∈ "intent_id".toList, c ≠ '"' ∧ c ≠ '\\' :=
          unquoted_of_all (by decide +kernel)
        have tokenFree : ∀ c ∈ "read_token".toList, c ≠ '"' ∧ c ≠ '\\' :=
          unquoted_of_all (by decide +kernel)
        simp only [← named, String.toList_ofList]
        exact ⟨matchAll_member (fun _ _ => prefixIntentId_some) id_mem parsed distinct opens
            idFree depth,
          matchAll_member (fun _ _ => prefixReadToken_some) token_mem parsed distinct opens
            tokenFree depth'⟩
      · cases found
    · cases found
  · cases found

/-! ## A sample -/

/-- A body cut in the text of its last member. -/
def cutBody : String :=
  "\x7b\"intent_id\":\"i1\",\"read_token\":\"0123456789abcdefghijklmnopqrstuvwxyzABCDEF_\",\"code\":\"bu"

/-- The body before the cut. -/
def wholeBody : String :=
  "\x7b\"intent_id\":\"i1\",\"read_token\":\"0123456789abcdefghijklmnopqrstuvwxyzABCDEF_\",\"code\":\"busy\"\x7d"

def wholeData : JsonData :=
  .obj [(JsonText.units "intent_id".toList, .str (JsonText.units "i1".toList)),
    (JsonText.units "read_token".toList,
      .str (JsonText.units "0123456789abcdefghijklmnopqrstuvwxyzABCDEF_".toList)),
    (JsonText.units "code".toList, .str (JsonText.units "busy".toList))]

theorem wholeBody_parsed : JsonText.Document wholeBody.toList wholeData := by
  have spelled (text : String)
      (plain : (text.toList.all fun c => isUnquoted c && decide (32 ≤ c.toNat)) = true) :
      JsonText.Body text.toList (JsonText.units text.toList) := by
    refine .of_plain fun c mem => ?_
    have free := List.all_eq_true.mp plain c mem
    simpa [isUnquoted, and_assoc] using free
  have close : JsonText.Ws [] := by simp [JsonText.Ws]
  have code := JsonText.Says.lastMember close (spelled "code" (by decide +kernel)) close close
    (.str (spelled "busy" (by decide +kernel))) close
  have token := JsonText.Says.member close (spelled "read_token" (by decide +kernel)) close close
    (.str (spelled "0123456789abcdefghijklmnopqrstuvwxyzABCDEF_" (by decide +kernel))) close code
  have id := JsonText.Says.member close (spelled "intent_id" (by decide +kernel)) close close
    (.str (spelled "i1" (by decide +kernel))) close token
  refine ⟨[], _, [], ?_, close, close, .obj id⟩
  decide +kernel

/-- The sample's token, read off the cut body, is the whole body's. -/
theorem readTokenFromPrefix_sound_sample :
    wholeData.member (JsonText.units "intent_id".toList) =
        some (.str (JsonText.units "i1".toList)) ∧
      wholeData.member (JsonText.units "read_token".toList) =
        some (.str (JsonText.units "0123456789abcdefghijklmnopqrstuvwxyzABCDEF_".toList)) := by
  have head : cutBody.toList <+: wholeBody.toList :=
    List.isPrefixOf_iff_prefix.mp (by decide +kernel)
  have distinct : wholeData.DistinctKeys := by
    unfold wholeData JsonData.DistinctKeys
    decide +kernel
  have found : readTokenFromPrefix cutBody "i1" =
      some "0123456789abcdefghijklmnopqrstuvwxyzABCDEF_" := by decide +kernel
  exact readTokenFromPrefix_sound head wholeBody_parsed distinct found

end XochiSdk.Client
