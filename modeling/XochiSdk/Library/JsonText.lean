import Mathlib.Data.List.Nodup

/-!
# JSON texts

The grammar of JSON, as a relation between a text and what it says, and a reader that follows a
text no further than its brackets and its strings: where it stands outside every string, at what
depth, or inside one. A derivation tells where in its text such a reader can meet an opening quote.
-/

namespace XochiSdk.Library

/-- What a text says. A string is its UTF-16 code units, a number its text. -/
inductive JsonData where
  | null
  | bool (b : Bool)
  | num (text : List Char)
  | str (units : List Nat)
  | arr (elements : List JsonData)
  | obj (members : List (List Nat × JsonData))

namespace JsonData

/-- The member that a parse keeps under a key: the last. -/
def member (x : JsonData) (key : List Nat) : Option JsonData :=
  match x with
  | .obj ms => (ms.reverse.find? fun m => m.1 == key).map (·.2)
  | _ => none

/-- No two members of the object itself have one key. -/
def DistinctKeys : JsonData → Prop
  | .obj ms => (ms.map (·.1)).Nodup
  | _ => True

theorem find_of_distinct {ms : List (List Nat × JsonData)} {key : List Nat} {x : JsonData}
    (distinct : (ms.map (·.1)).Nodup) (mem : (key, x) ∈ ms) :
    (ms.find? fun m => m.1 == key) = some (key, x) := by
  induction ms with
  | nil => simp at mem
  | cons m ms ih =>
    rw [List.map_cons, List.nodup_cons] at distinct
    rcases List.mem_cons.mp mem with rfl | mem
    · simp
    · have other : m.1 ≠ key := by
        rintro rfl
        exact distinct.1 (List.mem_map.mpr ⟨(m.1, x), mem, rfl⟩)
      rw [List.find?_cons_of_neg (by simpa using other)]
      exact ih distinct.2 mem

theorem member_of_mem {ms : List (List Nat × JsonData)} {key : List Nat} {x : JsonData}
    (distinct : (JsonData.obj ms).DistinctKeys) (mem : (key, x) ∈ ms) :
    (JsonData.obj ms).member key = some x := by
  have reversed : (ms.reverse.map (·.1)).Nodup := by
    rw [List.map_reverse, List.nodup_reverse]
    exact distinct
  simp [member, find_of_distinct reversed (List.mem_reverse.mpr mem)]

end JsonData

namespace JsonText

/-- A character's UTF-16 code units. -/
def charUnits (c : Char) : List Nat :=
  if c.toNat < 0x10000 then [c.toNat]
  else [0xd800 + (c.toNat - 0x10000) / 0x400, 0xdc00 + (c.toNat - 0x10000) % 0x400]

def units (cs : List Char) : List Nat := cs.flatMap charUnits

/-- The white space between tokens. -/
def isWs (c : Char) : Bool := c == ' ' || c == '\t' || c == '\n' || c == '\r'

def Ws (cs : List Char) : Prop := ∀ c ∈ cs, isWs c = true

def shortEscape : Char → Option Nat
  | '"' => some 34
  | '\\' => some 92
  | '/' => some 47
  | 'b' => some 8
  | 'f' => some 12
  | 'n' => some 10
  | 'r' => some 13
  | 't' => some 9
  | _ => none

def hexDigit (c : Char) : Option Nat :=
  if '0' ≤ c ∧ c ≤ '9' then some (c.toNat - 48)
  else if 'a' ≤ c ∧ c ≤ 'f' then some (c.toNat - 87)
  else if 'A' ≤ c ∧ c ≤ 'F' then some (c.toNat - 55)
  else none

/-- The text between a string's quotes, with the units it spells. -/
inductive Body : List Char → List Nat → Prop where
  | nil : Body [] []
  | plain {c : Char} {cs : List Char} {us : List Nat} (quote : c ≠ '"') (escape : c ≠ '\\')
      (control : 32 ≤ c.toNat) (rest : Body cs us) : Body (c :: cs) (charUnits c ++ us)
  | short {e : Char} {cs : List Char} {u : Nat} {us : List Nat} (escape : shortEscape e = some u)
      (rest : Body cs us) : Body ('\\' :: e :: cs) (u :: us)
  | unicode {c₁ c₂ c₃ c₄ : Char} {cs : List Char} {d₁ d₂ d₃ d₄ : Nat} {us : List Nat}
      (h₁ : hexDigit c₁ = some d₁) (h₂ : hexDigit c₂ = some d₂) (h₃ : hexDigit c₃ = some d₃)
      (h₄ : hexDigit c₄ = some d₄) (rest : Body cs us) :
      Body ('\\' :: 'u' :: c₁ :: c₂ :: c₃ :: c₄ :: cs)
        ((((d₁ * 16 + d₂) * 16 + d₃) * 16 + d₄) :: us)

def isDecimalDigit (c : Char) : Bool := '0' ≤ c && c ≤ '9'

def Digits (cs : List Char) : Prop := cs ≠ [] ∧ ∀ c ∈ cs, isDecimalDigit c = true

/-- A number: a sign, a whole part without leading zeros, a fraction and an exponent. -/
structure Number (cs : List Char) : Prop where
  parts : ∃ sign whole fraction exponent, cs = sign ++ whole ++ fraction ++ exponent ∧
    (sign = [] ∨ sign = ['-']) ∧
    (whole = ['0'] ∨ Digits whole ∧ whole.head? ≠ some '0') ∧
    (fraction = [] ∨ ∃ digits, Digits digits ∧ fraction = '.' :: digits) ∧
    (exponent = [] ∨ ∃ e plus digits, (e = 'e' ∨ e = 'E') ∧
      (plus = [] ∨ plus = ['+'] ∨ plus = ['-']) ∧ Digits digits ∧ exponent = e :: (plus ++ digits))

/-- What a derivation is of: a value, or what stands between an array's or an object's brackets,
which says an array or an object. -/
inductive Part where
  | value
  | elements
  | members

/-- The grammar. -/
inductive Says : Part → List Char → JsonData → Prop where
  | null : Says .value ['n', 'u', 'l', 'l'] .null
  | true_ : Says .value ['t', 'r', 'u', 'e'] (.bool true)
  | false_ : Says .value ['f', 'a', 'l', 's', 'e'] (.bool false)
  | num {cs : List Char} (number : Number cs) : Says .value cs (.num cs)
  | str {cs : List Char} {us : List Nat} (body : Body cs us) :
      Says .value ('"' :: (cs ++ ['"'])) (.str us)
  | arr {cs : List Char} {x : JsonData} (inner : Says .elements cs x) :
      Says .value ('[' :: (cs ++ [']'])) x
  | obj {cs : List Char} {x : JsonData} (inner : Says .members cs x) :
      Says .value ('\x7b' :: (cs ++ ['\x7d'])) x
  | noElements {w : List Char} (ws : Ws w) : Says .elements w (.arr [])
  | lastElement {w v w' : List Char} {x : JsonData} (ws : Ws w) (value : Says .value v x)
      (ws' : Ws w') : Says .elements (w ++ (v ++ w')) (.arr [x])
  | element {w v w' cs : List Char} {x y : JsonData} {ys : List JsonData} (ws : Ws w)
      (value : Says .value v x) (ws' : Ws w') (rest : Says .elements cs (.arr (y :: ys))) :
      Says .elements (w ++ (v ++ (w' ++ ',' :: cs))) (.arr (x :: y :: ys))
  | noMembers {w : List Char} (ws : Ws w) : Says .members w (.obj [])
  | lastMember {w k w₁ w₂ v w' : List Char} {key : List Nat} {x : JsonData} (ws : Ws w)
      (name : Body k key) (ws₁ : Ws w₁) (ws₂ : Ws w₂) (value : Says .value v x) (ws' : Ws w') :
      Says .members (w ++ '"' :: (k ++ '"' :: (w₁ ++ ':' :: (w₂ ++ (v ++ w'))))) (.obj [(key, x)])
  | member {w k w₁ w₂ v w' cs : List Char} {key : List Nat} {x : JsonData}
      {m : List Nat × JsonData} {ms : List (List Nat × JsonData)} (ws : Ws w) (name : Body k key)
      (ws₁ : Ws w₁) (ws₂ : Ws w₂) (value : Says .value v x) (ws' : Ws w')
      (rest : Says .members cs (.obj (m :: ms))) :
      Says .members (w ++ '"' :: (k ++ '"' :: (w₁ ++ ':' :: (w₂ ++ (v ++ (w' ++ ',' :: cs))))))
        (.obj ((key, x) :: m :: ms))

/-- A whole text: a value, white space around it. -/
def Document (text : List Char) (x : JsonData) : Prop :=
  ∃ w v w', text = w ++ (v ++ w') ∧ Ws w ∧ Ws w' ∧ Says .value v x

/-! ## The reader -/

/-- Where a reader stands. -/
inductive Mode where
  | outside
  | inside
  | escaped
  deriving DecidableEq

/-- The reader past one character, with its depth; `none` past the close of the whole. -/
def step (at_ : Mode × Int) (c : Char) : Option (Mode × Int) :=
  match at_ with
  | (.inside, n) =>
    if c = '\\' then some (.escaped, n)
    else if c = '"' then some (.outside, n)
    else some (.inside, n)
  | (.escaped, n) => some (.inside, n)
  | (.outside, n) =>
    if c = '"' then some (.inside, n)
    else if c = '\x7b' ∨ c = '[' then some (.outside, n + 1)
    else if c = '\x7d' ∨ c = ']' then if n - 1 = 0 then none else some (.outside, n - 1)
    else some (.outside, n)

def read (at_ : Mode × Int) : List Char → Option (Mode × Int)
  | [] => some at_
  | c :: cs => (step at_ c).bind fun next => read next cs

theorem read_cons {at_ next : Mode × Int} {c : Char} {cs : List Char} (h : step at_ c = some next) :
    read at_ (c :: cs) = read next cs := by
  rw [read, h]
  rfl

theorem read_append (at_ : Mode × Int) (cs ds : List Char) :
    read at_ (cs ++ ds) = (read at_ cs).bind fun next => read next ds := by
  induction cs generalizing at_ with
  | nil => rfl
  | cons c cs ih =>
    simp only [List.cons_append, read]
    cases step at_ c with
    | none => rfl
    | some next => exact ih next

/-- A character that leaves a reader outside where it is. -/
def Plain (c : Char) : Prop := c ≠ '"' ∧ c ≠ '\x7b' ∧ c ≠ '[' ∧ c ≠ '\x7d' ∧ c ≠ ']'

theorem read_plain {cs : List Char} (plain : ∀ c ∈ cs, Plain c) (n : Int) :
    read (.outside, n) cs = some (.outside, n) := by
  induction cs with
  | nil => rfl
  | cons c cs ih =>
    obtain ⟨quote, brace, bracket, close, close'⟩ := plain c (by simp)
    have stays : step (.outside, n) c = some (.outside, n) := by
      simp [step, quote, brace, bracket, close, close']
    rw [read_cons stays]
    exact ih fun c mem => plain c (by simp [mem])

theorem Ws.plain {cs : List Char} (ws : Ws cs) : ∀ c ∈ cs, Plain c := by
  intro c mem
  have white := ws c mem
  refine ⟨?_, ?_, ?_, ?_, ?_⟩ <;> rintro rfl <;> cases white

theorem plain_of_digit {c : Char} (digit : isDecimalDigit c = true) : Plain c := by
  refine ⟨?_, ?_, ?_, ?_, ?_⟩ <;> rintro rfl <;> cases digit

theorem Number.plain {cs : List Char} (number : Number cs) : ∀ c ∈ cs, Plain c := by
  obtain ⟨sign, whole, fraction, exponent, rfl, signs, wholes, fractions, exponents⟩ := number.parts
  have digits {ds : List Char} (h : Digits ds) : ∀ c ∈ ds, Plain c := fun c mem =>
    plain_of_digit (h.2 c mem)
  have sign_ : ∀ c ∈ sign, Plain c := by
    rcases signs with rfl | rfl
    · simp
    · simp [Plain]
  have whole_ : ∀ c ∈ whole, Plain c := by
    rcases wholes with rfl | ⟨h, -⟩
    · simp [Plain]
    · exact digits h
  have fraction_ : ∀ c ∈ fraction, Plain c := by
    rcases fractions with rfl | ⟨ds, h, rfl⟩
    · simp
    · exact List.forall_mem_cons.mpr ⟨by simp [Plain], digits h⟩
  have exponent_ : ∀ c ∈ exponent, Plain c := by
    rcases exponents with rfl | ⟨e, plus, ds, es, pluses, h, rfl⟩
    · simp
    · refine List.forall_mem_cons.mpr ⟨by rcases es with rfl | rfl <;> simp [Plain], ?_⟩
      refine List.forall_mem_append.mpr ⟨?_, digits h⟩
      rcases pluses with rfl | rfl | rfl <;> simp [Plain]
  intro c mem
  simp only [List.mem_append] at mem
  rcases mem with ((h | h) | h) | h
  · exact sign_ c h
  · exact whole_ c h
  · exact fraction_ c h
  · exact exponent_ c h

/-! ## Inside a string -/

/-- Every proper part of the text leaves the reader inside a string. -/
def Hidden (at_ : Mode × Int) (cs : List Char) : Prop :=
  ∀ a c b, cs = a ++ c :: b → ∃ m, read at_ a = some (m, at_.2) ∧ m ≠ .outside

theorem Hidden.nil (at_ : Mode × Int) : Hidden at_ [] := by
  intro a c b split
  simp at split

theorem Hidden.cons {m m' : Mode} {n : Int} {c : Char} {cs : List Char} (inside : m ≠ .outside)
    (next : step (m, n) c = some (m', n)) (rest : Hidden (m', n) cs) :
    Hidden (m, n) (c :: cs) := by
  intro a d b split
  cases a with
  | nil => exact ⟨m, rfl, inside⟩
  | cons d' a =>
    cases split
    obtain ⟨last, reads, hidden⟩ := rest a d b rfl
    exact ⟨last, by rw [read, next]; exact reads, hidden⟩

theorem hexDigit_plain {c : Char} {d : Nat} (h : hexDigit c = some d) : c ≠ '"' ∧ c ≠ '\\' := by
  constructor
  · rintro rfl
    cases h
  · rintro rfl
    cases h

theorem step_inside {c : Char} (n : Int) (quote : c ≠ '"') (escape : c ≠ '\\') :
    step (.inside, n) c = some (.inside, n) := by
  simp [step, quote, escape]

/-- A string's body leaves the reader inside it, up to the closing quote. -/
theorem Body.reads {cs : List Char} {us : List Nat} (body : Body cs us) (n : Int) :
    read (.inside, n) (cs ++ ['"']) = some (.outside, n) ∧ Hidden (.inside, n) (cs ++ ['"']) := by
  induction body with
  | nil => exact ⟨rfl, .cons (by decide) rfl (.nil _)⟩
  | plain quote escape _ _ ih =>
    have stays := step_inside n quote escape
    refine ⟨?_, .cons (by decide) stays ih.2⟩
    exact (read_cons stays).trans ih.1
  | short _ _ ih =>
    exact ⟨ih.1, .cons (by decide) rfl (.cons (by decide) rfl ih.2)⟩
  | unicode h₁ h₂ h₃ h₄ _ ih =>
    have stays {c : Char} {d : Nat} (h : hexDigit c = some d) :
        step (.inside, n) c = some (.inside, n) :=
      step_inside n (hexDigit_plain h).1 (hexDigit_plain h).2
    constructor
    · refine ((read_cons rfl).trans (read_cons rfl)).trans ?_
      refine ((read_cons (stays h₁)).trans (read_cons (stays h₂))).trans ?_
      exact ((read_cons (stays h₃)).trans (read_cons (stays h₄))).trans ih.1
    · exact .cons (by decide) rfl (.cons (by decide) rfl (.cons (by decide) (stays h₁)
        (.cons (by decide) (stays h₂) (.cons (by decide) (stays h₃)
          (.cons (by decide) (stays h₄) ih.2)))))

/-- Text with nothing to escape is a body, and spells itself. -/
theorem Body.of_plain {cs : List Char} (free : ∀ c ∈ cs, c ≠ '"' ∧ c ≠ '\\' ∧ 32 ≤ c.toNat) :
    Body cs (units cs) := by
  induction cs with
  | nil => exact .nil
  | cons c cs ih =>
    obtain ⟨quote, escape, control⟩ := free c (by simp)
    exact .plain quote escape control (ih fun c mem => free c (List.mem_cons_of_mem _ mem))

/-- A body without quotes and backslashes is the text up to the first quote, and spells it. -/
theorem Body.unquoted {cs t name t' : List Char} {us : List Nat} (body : Body cs us)
    (free : ∀ c ∈ name, c ≠ '"' ∧ c ≠ '\\') (same : cs ++ '"' :: t = name ++ '"' :: t') :
    t = t' ∧ us = units name := by
  induction body generalizing name with
  | nil =>
    cases name with
    | nil =>
      cases same
      exact ⟨rfl, rfl⟩
    | cons c name =>
      cases same
      exact absurd rfl (free '"' (by simp)).1
  | plain quote _ _ _ ih =>
    cases name with
    | nil =>
      cases same
      exact absurd rfl quote
    | cons c name =>
      obtain ⟨rfl, tails⟩ := List.cons.inj same
      obtain ⟨rest, spelled⟩ := ih (fun c mem => free c (List.mem_cons_of_mem _ mem)) tails
      exact ⟨rest, by rw [spelled]; rfl⟩
  | short | unicode =>
    cases name with
    | nil => cases same
    | cons c name =>
      obtain ⟨rfl, -⟩ := List.cons.inj same
      exact absurd rfl (free '\\' (by simp)).2

/-! ## Where an opening quote stands -/

/-- A character of two texts joined is in the first, or in the second. -/
theorem split_append {cs ds a b : List Char} {c : Char} (h : cs ++ ds = a ++ c :: b) :
    (∃ t, cs = a ++ c :: t ∧ b = t ++ ds) ∨ ∃ t, a = cs ++ t ∧ ds = t ++ c :: b := by
  rcases List.append_eq_append_iff.mp h with ⟨t, rfl, rfl⟩ | ⟨t, rfl, same⟩
  · exact .inr ⟨t, rfl, rfl⟩
  · cases t with
    | nil => exact .inr ⟨[], by simp, by simpa using same.symm⟩
    | cons d t =>
      cases same
      exact .inl ⟨t, rfl, rfl⟩

theorem kept_append {cs ds : List Char} {n : Int}
    (first : read (.outside, n) cs = some (.outside, n))
    (second : read (.outside, n) ds = some (.outside, n)) :
    read (.outside, n) (cs ++ ds) = some (.outside, n) := by
  rw [read_append, first]
  exact second

/-- From this depth, no quote that opens a string stands at a lower one, and what follows one that
stands at it is a `spot`. -/
def Opens (n : Int) (cs : List Char) (spot : List Char → Prop) : Prop :=
  ∀ a b k, cs = a ++ '"' :: b → read (.outside, n) a = some (.outside, k) →
    n ≤ k ∧ (k = n → spot b)

namespace Opens

variable {n : Int} {cs ds : List Char} {spot spot' : List Char → Prop}

theorem none (free : '"' ∉ cs) : Opens n cs spot := by
  intro a b k split
  exact absurd (by simp [split]) free

theorem append (kept : read (.outside, n) cs = some (.outside, n)) (first : Opens n cs spot')
    (here : ∀ t, spot' t → spot (t ++ ds)) (second : Opens n ds spot) :
    Opens n (cs ++ ds) spot := by
  intro a b k split reads
  rcases split_append split with ⟨t, before, rfl⟩ | ⟨t, rfl, after⟩
  · exact ⟨(first a t k before reads).1, fun same => here t ((first a t k before reads).2 same)⟩
  · rw [read_append, kept] at reads
    exact second t b k after reads

theorem plain (plain : ∀ c ∈ cs, Plain c) (second : Opens n ds spot) : Opens n (cs ++ ds) spot :=
  @append n cs ds spot (fun _ => False) (read_plain plain n) (.none fun mem => (plain _ mem).1 rfl)
    (fun _ h => h.elim) second

theorem imp (h : Opens n cs spot') (weaker : ∀ b, spot' b → spot b) : Opens n cs spot :=
  fun a b k split reads =>
    ⟨(h a b k split reads).1, fun same => weaker b ((h a b k split reads).2 same)⟩

end Opens

theorem string_reads {cs : List Char} {us : List Nat} (body : Body cs us) (n : Int) :
    read (.outside, n) ('"' :: (cs ++ ['"'])) = some (.outside, n) :=
  (body.reads n).1

theorem string_opens {cs : List Char} {us : List Nat} (body : Body cs us) (n : Int) :
    Opens n ('"' :: (cs ++ ['"'])) fun b => b = cs ++ ['"'] := by
  intro a b k split reads
  cases a with
  | nil =>
    cases split
    cases reads
    exact ⟨Int.le_refl _, fun _ => rfl⟩
  | cons c a =>
    obtain ⟨rfl, tails⟩ := List.cons.inj split
    obtain ⟨m, inside, hidden⟩ := (body.reads n).2 a '"' b tails
    have same : some (m, n) = some (Mode.outside, k) := inside.symm.trans reads
    cases same
    exact absurd rfl hidden

theorem bracket_reads {cs : List Char} {o c : Char} {n : Int} (positive : 1 ≤ n)
    (opens : o = '\x7b' ∨ o = '[') (closes : c = '\x7d' ∨ c = ']')
    (inner : read (.outside, n + 1) cs = some (.outside, n + 1)) :
    read (.outside, n) (o :: (cs ++ [c])) = some (.outside, n) := by
  have down : step (.outside, n) o = some (.outside, n + 1) := by
    rcases opens with rfl | rfl <;> simp [step]
  have up : step (.outside, n + 1) c = some (.outside, n) := by
    have away : n ≠ 0 := by omega
    rcases closes with rfl | rfl <;> simp [step, away]
  rw [read_cons down, read_append, inner]
  exact read_cons up

theorem bracket_opens {cs : List Char} {o c : Char} {n : Int} {spot spot' : List Char → Prop}
    (opens : o = '\x7b' ∨ o = '[') (closes : c = '\x7d' ∨ c = ']')
    (inner : Opens (n + 1) cs spot') : Opens n (o :: (cs ++ [c])) spot := by
  have down : step (.outside, n) o = some (.outside, n + 1) := by
    rcases opens with rfl | rfl <;> simp [step]
  intro a b k split reads
  cases a with
  | nil =>
    obtain ⟨rfl, -⟩ := List.cons.inj split
    rcases opens with h | h <;> cases h
  | cons d a =>
    obtain ⟨rfl, tails⟩ := List.cons.inj split
    rw [read_cons down] at reads
    rcases split_append tails with ⟨t, before, -⟩ | ⟨t, rfl, after⟩
    · have deeper := (inner a t k before reads).1
      exact ⟨by omega, fun same => by omega⟩
    · have close : c = '"' := by
        cases t with
        | nil => exact (List.cons.inj after).1
        | cons e t =>
          have := (List.cons.inj after).2
          simp at this
      rw [close] at closes
      rcases closes with h | h <;> cases h

/-! ## What stands there -/

/-- A member of this object: its key's text and closing quote, then its value. -/
def KeySpot (x : JsonData) (b : List Char) : Prop :=
  ∃ ms k key w₁ w₂ v y tail, x = .obj ms ∧ (key, y) ∈ ms ∧ Body k key ∧ Ws w₁ ∧ Ws w₂ ∧
    Says .value v y ∧ b = k ++ '"' :: (w₁ ++ ':' :: (w₂ ++ (v ++ tail)))

/-- A string that is a value: a comma follows, or the end. -/
def ValueSpot (b : List Char) : Prop :=
  ∃ cs us w tail, Body cs us ∧ Ws w ∧ (tail = [] ∨ ∃ t, tail = ',' :: t) ∧
    b = cs ++ '"' :: (w ++ tail)

/-- What follows a quote that opens a string at a derivation's own depth. -/
def Spot (part : Part) (x : JsonData) (b : List Char) : Prop :=
  match part with
  | .value => ∃ cs us, Body cs us ∧ b = cs ++ ['"']
  | .elements => True
  | .members => KeySpot x b ∨ ValueSpot b

theorem KeySpot.cons {m : List Nat × JsonData} {ms : List (List Nat × JsonData)} {b : List Char}
    (spot : KeySpot (.obj ms) b) : KeySpot (.obj (m :: ms)) b := by
  obtain ⟨_, k, key, w₁, w₂, v, y, tail, same, mem, rest⟩ := spot
  cases same
  exact ⟨_, k, key, w₁, w₂, v, y, tail, rfl, List.mem_cons_of_mem _ mem, rest⟩

theorem member_reads {w k w₁ w₂ v w' tail : List Char} {key : List Nat} {n : Int} (ws : Ws w)
    (name : Body k key) (ws₁ : Ws w₁) (ws₂ : Ws w₂) (ws' : Ws w')
    (value : read (.outside, n) v = some (.outside, n))
    (rest : read (.outside, n) tail = some (.outside, n)) :
    read (.outside, n) (w ++ '"' :: (k ++ '"' :: (w₁ ++ ':' :: (w₂ ++ (v ++ (w' ++ tail)))))) =
      some (.outside, n) := by
  have colon : ∀ c ∈ [':'], Plain c := by simp [Plain]
  have valued := kept_append value (kept_append (read_plain ws'.plain n) rest)
  have parted := kept_append (read_plain colon n) (kept_append (read_plain ws₂.plain n) valued)
  have named := kept_append (string_reads name n) (kept_append (read_plain ws₁.plain n) parted)
  simpa using kept_append (read_plain ws.plain n) named

/-- A member's text, from its key on, with what follows its value. -/
theorem member_opens {w k w₁ w₂ v w' tail : List Char} {key : List Nat} {x : JsonData}
    {ms : List (List Nat × JsonData)} {n : Int} (ws : Ws w) (name : Body k key) (ws₁ : Ws w₁)
    (ws₂ : Ws w₂) (value : Says .value v x) (ws' : Ws w')
    (kept : read (.outside, n) v = some (.outside, n)) (opens : Opens n v (Spot .value x))
    (ends : tail = [] ∨ ∃ t, tail = ',' :: t) (mem : (key, x) ∈ ms)
    (rest : Opens n tail (Spot .members (.obj ms))) :
    Opens n (w ++ '"' :: (k ++ '"' :: (w₁ ++ ':' :: (w₂ ++ (v ++ (w' ++ tail))))))
      (Spot .members (.obj ms)) := by
  have colon : ∀ c ∈ [':'], Plain c := by simp [Plain]
  have valued : Opens n (v ++ (w' ++ tail)) (Spot .members (.obj ms)) := by
    refine Opens.append kept opens ?_ (Opens.plain ws'.plain rest)
    rintro t ⟨cs, us, body, rfl⟩
    exact .inr ⟨cs, us, w', tail, body, ws', ends, by simp⟩
  have named : Opens n (w₁ ++ ([':'] ++ (w₂ ++ (v ++ (w' ++ tail))))) (Spot .members (.obj ms)) :=
    .plain ws₁.plain (.plain colon (.plain ws₂.plain valued))
  have here (t : List Char) (same : t = k ++ ['"']) :
      Spot .members (.obj ms) (t ++ (w₁ ++ ([':'] ++ (w₂ ++ (v ++ (w' ++ tail)))))) := by
    refine .inl ⟨ms, k, key, w₁, w₂, v, x, w' ++ tail, rfl, mem, name, ws₁, ws₂, value, ?_⟩
    rw [same]
    simp
  have keyed := Opens.append (string_reads name n) (string_opens name n) here named
  have whole := Opens.plain ws.plain keyed
  simpa using whole

/-- A derivation's text leaves the reader at the depth it found it, and every quote that opens a
string in it at that depth stands before what the derivation says. -/
theorem Says.opens {part : Part} {cs : List Char} {x : JsonData} (derived : Says part cs x)
    (n : Int) (positive : 1 ≤ n) :
    read (.outside, n) cs = some (.outside, n) ∧ Opens n cs (Spot part x) := by
  have comma : ∀ c ∈ [','], Plain c := by simp [Plain]
  have colon : ∀ c ∈ [':'], Plain c := by simp [Plain]
  induction derived generalizing n with
  | null | true_ | false_ =>
    refine ⟨read_plain ?_ n, .none ?_⟩ <;> simp [Plain]
  | num number =>
    exact ⟨read_plain number.plain n, .none fun mem => (number.plain _ mem).1 rfl⟩
  | @str cs us body =>
    refine ⟨string_reads body n, (string_opens body n).imp ?_⟩
    rintro b rfl
    exact ⟨cs, us, body, rfl⟩
  | arr inner ih =>
    obtain ⟨reads, opens⟩ := ih (n + 1) (by omega)
    exact ⟨bracket_reads positive (.inr rfl) (.inr rfl) reads,
      bracket_opens (.inr rfl) (.inr rfl) opens⟩
  | obj inner ih =>
    obtain ⟨reads, opens⟩ := ih (n + 1) (by omega)
    exact ⟨bracket_reads positive (.inl rfl) (.inl rfl) reads,
      bracket_opens (.inl rfl) (.inl rfl) opens⟩
  | noElements ws | noMembers ws =>
    exact ⟨read_plain ws.plain n, .none fun mem => (ws.plain _ mem).1 rfl⟩
  | lastElement ws value ws' ih =>
    obtain ⟨reads, opens⟩ := ih n positive
    refine ⟨kept_append (read_plain ws.plain n) (kept_append reads (read_plain ws'.plain n)), ?_⟩
    refine .plain ws.plain (.append reads opens (fun _ _ => trivial) (.none fun mem => ?_))
    exact (ws'.plain _ mem).1 rfl
  | element ws value ws' rest ih ih' =>
    obtain ⟨reads, opens⟩ := ih n positive
    obtain ⟨reads', opens'⟩ := ih' n positive
    have after := kept_append (read_plain ws'.plain n) (kept_append (read_plain comma n) reads')
    refine ⟨kept_append (read_plain ws.plain n) (kept_append reads after), ?_⟩
    exact .plain ws.plain (.append reads opens (fun _ _ => trivial)
      (.plain ws'.plain (.plain comma opens')))
  | lastMember ws name ws₁ ws₂ value ws' ih =>
    obtain ⟨reads, opens⟩ := ih n positive
    have still : read (.outside, n) [] = some (.outside, n) := rfl
    have none (spot : List Char → Prop) : Opens n [] spot := .none (by simp)
    have kept := member_reads ws name ws₁ ws₂ ws' reads still
    have whole := member_opens ws name ws₁ ws₂ value ws' reads opens (.inl rfl)
      (List.mem_singleton_self _) (none _)
    rw [List.append_nil] at kept whole
    exact ⟨kept, whole⟩
  | @member w k w₁ w₂ v w' cs key x m ms ws name ws₁ ws₂ value ws' rest ih ih' =>
    obtain ⟨reads, opens⟩ := ih n positive
    obtain ⟨reads', opens'⟩ := ih' n positive
    have tail : read (.outside, n) (',' :: cs) = some (.outside, n) :=
      kept_append (read_plain comma n) reads'
    have more : Opens n (',' :: cs) (Spot .members (.obj ((key, x) :: m :: ms))) := by
      refine .plain comma (opens'.imp ?_)
      rintro b (spot | spot)
      · exact .inl spot.cons
      · exact .inr spot
    exact ⟨member_reads ws name ws₁ ws₂ ws' reads tail,
      member_opens ws name ws₁ ws₂ value ws' reads opens (.inr ⟨_, rfl⟩) (by simp) more⟩

/-! ## A member read off the text -/

/-- A character that a value, a member or what follows one begins with, past white space. -/
def isToken (c : Char) : Bool :=
  c == '"' || c == '\x7b' || c == '[' || c == '\x7d' || c == ',' || c == ':' || c == '-' ||
    c == 'n' || c == 't' || c == 'f' || isDecimalDigit c

theorem Says.value_token {v : List Char} {x : JsonData} (derived : Says .value v x) :
    ∃ c rest, v = c :: rest ∧ isToken c = true := by
  cases derived with
  | null | true_ | false_ | str | arr | obj => exact ⟨_, _, rfl, rfl⟩
  | num number =>
    obtain ⟨sign, whole, fraction, exponent, rfl, signs, wholes, -, -⟩ := number.parts
    rcases signs with rfl | rfl
    · rcases wholes with rfl | ⟨⟨some_, digits⟩, -⟩
      · exact ⟨_, _, rfl, rfl⟩
      · obtain ⟨c, rest, rfl⟩ := List.exists_cons_of_ne_nil some_
        refine ⟨c, _, rfl, ?_⟩
        simp [isToken, digits c (by simp)]
    · exact ⟨_, _, rfl, rfl⟩

/-- A value that begins with a brace is an object. -/
theorem Says.of_brace {v : List Char} {x : JsonData} (derived : Says .value ('\x7b' :: v) x) :
    ∃ cs, v = cs ++ ['\x7d'] ∧ Says .members cs x := by
  generalize same : '\x7b' :: v = text at derived
  cases derived with
  | null | true_ | false_ | str | arr => cases same
  | num number => exact absurd rfl (number.plain '\x7b' (by simp [← same])).2.1
  | obj inner =>
    cases same
    exact ⟨_, rfl, inner⟩

/-- A value that begins with a quote is a string. -/
theorem Says.of_quote {v : List Char} {x : JsonData} (derived : Says .value ('"' :: v) x) :
    ∃ cs us, v = cs ++ ['"'] ∧ Body cs us ∧ x = .str us := by
  generalize same : '"' :: v = text at derived
  cases derived with
  | null | true_ | false_ | obj | arr => cases same
  | num number => exact absurd rfl (number.plain '"' (by simp [← same])).1
  | str body =>
    cases same
    exact ⟨_, _, rfl, body, rfl⟩

section

variable {blank : Char → Prop}

/-- The first token of a text, past what is blank before it. -/
theorem first_token {w w' r r' : List Char} {c c' : Char} (space : ∀ d ∈ w, blank d)
    (space' : ∀ d ∈ w', blank d) (token : ¬blank c) (token' : ¬blank c')
    (same : w ++ c :: r = w' ++ c' :: r') : c = c' ∧ r = r' := by
  rcases split_append same with ⟨t, rfl, -⟩ | ⟨t, rfl, rest⟩
  · exact absurd (space c' (by simp)) token'
  · cases t with
    | nil => exact List.cons.inj rest
    | cons d t =>
      obtain ⟨rfl, -⟩ := List.cons.inj rest
      exact absurd (space' c (by simp)) token

/-- A string that is a value has no colon after it. -/
theorem ValueSpot.ends {u name s r z : List Char} (spaces : ∀ c, isWs c = true → blank c)
    (tokens : ∀ c, isToken c = true → ¬blank c) (spot : ValueSpot u)
    (free : ∀ c ∈ name, c ≠ '"' ∧ c ≠ '\\') (blanks : ∀ c ∈ s, blank c)
    (same : u ++ '\x7d' :: z = name ++ '"' :: (s ++ ':' :: r)) : False := by
  obtain ⟨cs, us, w, tail, body, ws, ends, rfl⟩ := spot
  have after : w ++ (tail ++ '\x7d' :: z) = s ++ ':' :: r :=
    (body.unquoted free (by simpa using same)).1
  rcases ends with rfl | ⟨t, rfl⟩
  · have colon := first_token (fun c mem => spaces c (ws c mem)) blanks (tokens _ rfl)
      (tokens _ rfl) after
    exact absurd colon.1 (by decide)
  · have colon := first_token (fun c mem => spaces c (ws c mem)) blanks (tokens _ rfl)
      (tokens _ rfl) after
    exact absurd colon.1 (by decide)

/-- A member whose key and text are spelled without escapes. -/
theorem KeySpot.spelled {x : JsonData} {u name s s' content rest z : List Char}
    (spaces : ∀ c, isWs c = true → blank c) (tokens : ∀ c, isToken c = true → ¬blank c)
    (spot : KeySpot x u) (free : ∀ c ∈ name, c ≠ '"' ∧ c ≠ '\\') (blanks : ∀ c ∈ s, blank c)
    (blanks' : ∀ c ∈ s', blank c) (free' : ∀ c ∈ content, c ≠ '"' ∧ c ≠ '\\')
    (same : u ++ z = name ++ '"' :: (s ++ ':' :: (s' ++ '"' :: (content ++ '"' :: rest)))) :
    ∃ ms, x = .obj ms ∧ (units name, .str (units content)) ∈ ms := by
  obtain ⟨ms, k, key, w₁, w₂, v, y, tail, rfl, mem, body, ws₁, ws₂, value, rfl⟩ := spot
  obtain ⟨after, rfl⟩ := body.unquoted free (by simpa using same)
  obtain ⟨c, v', rfl, token⟩ := value.value_token
  have member := (first_token (fun c mem => spaces c (ws₁ c mem)) blanks (tokens _ rfl)
    (tokens _ rfl) after).2
  obtain ⟨rfl, text⟩ := first_token (fun c mem => spaces c (ws₂ c mem)) blanks' (tokens c token)
    (tokens _ rfl) (by simpa using member)
  obtain ⟨cs, us, rfl, body', rfl⟩ := value.of_quote
  obtain ⟨-, rfl⟩ := body'.unquoted free' (by simpa using text)
  exact ⟨ms, rfl, mem⟩

/-- A key and its text met at depth one, in a document that opens a brace, are a member of the
document's object. -/
theorem Document.member {d a name s s' content rest b d' : List Char} {x : JsonData}
    (spaces : ∀ c, isWs c = true → blank c) (tokens : ∀ c, isToken c = true → ¬blank c)
    (document : Document d x) (space : ∀ c ∈ b, blank c) (opens : d = b ++ '\x7b' :: d')
    (free : ∀ c ∈ name, c ≠ '"' ∧ c ≠ '\\') (blanks : ∀ c ∈ s, blank c)
    (blanks' : ∀ c ∈ s', blank c) (free' : ∀ c ∈ content, c ≠ '"' ∧ c ≠ '\\')
    (met : d = a ++ '"' :: (name ++ '"' :: (s ++ ':' :: (s' ++ '"' :: (content ++ '"' :: rest)))))
    (depth : read (.outside, 0) a = some (.outside, 1)) :
    ∃ ms, x = .obj ms ∧ (units name, .str (units content)) ∈ ms := by
  obtain ⟨w, v, w', rfl, ws, ws', value⟩ := document
  obtain ⟨c, v', rfl, token⟩ := value.value_token
  obtain ⟨rfl, -⟩ := first_token (fun c mem => spaces c (ws c mem)) space (tokens c token)
    (tokens _ rfl) opens
  obtain ⟨cs, rfl, inner⟩ := value.of_brace
  obtain ⟨kept, at_⟩ := inner.opens 1 (by decide)
  have down (t : List Char) : read (.outside, 0) (w ++ '\x7b' :: t) = read (.outside, 1) t := by
    rw [read_append, read_plain ws.plain]
    rfl
  rcases split_append met with ⟨t, white, -⟩ | ⟨t, rfl, past⟩
  · exact absurd rfl (ws.plain '"' (by simp [white])).1
  cases t with
  | nil => exact absurd (List.cons.inj past).1 (by decide)
  | cons e t =>
    simp only [List.cons_append, List.append_assoc, List.nil_append] at past
    obtain ⟨rfl, inside⟩ := List.cons.inj past
    rw [down] at depth
    rcases split_append inside with ⟨u, rfl, same⟩ | ⟨t', rfl, closing⟩
    · rcases (at_ t u 1 rfl depth).2 rfl with spot | spot
      · exact spot.spelled spaces tokens free blanks blanks' free' same.symm
      · exact (spot.ends spaces tokens free blanks same.symm).elim
    · -- past the object's brace the reader has stopped
      rw [read_append, kept] at depth
      cases t' with
      | nil => exact absurd (List.cons.inj closing).1 (by decide)
      | cons e t' =>
        obtain ⟨rfl, -⟩ := List.cons.inj closing
        cases depth

end

end JsonText

end XochiSdk.Library
