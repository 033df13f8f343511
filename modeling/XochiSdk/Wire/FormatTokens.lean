import XochiSdk.Wire.Format
import Mathlib.Data.List.TakeWhile

/-!
# The tokens of a text

The readers of strings and numbers take what the grammar has there, and all of it.
-/

namespace XochiSdk.Wire

open XochiSdk.Js XochiSdk.Library JsonText Signer

/-! ## White space -/

theorem skipWs_split (cs : List Char) : ∃ w, Ws w ∧ cs = w ++ skipWs cs := by
  refine ⟨cs.takeWhile isWs, fun c among => ?_, List.takeWhile_append_dropWhile.symm⟩
  exact (List.mem_takeWhile_imp among)

theorem skipWs_append {w : List Char} (ws : Ws w) (cs : List Char) :
    skipWs (w ++ cs) = skipWs cs := by
  induction w with
  | nil => rfl
  | cons c w ih =>
    have blank : isWs c = true := ws c List.mem_cons_self
    rw [List.cons_append, skipWs, List.dropWhile_cons_of_pos blank]
    exact ih fun d among => ws d (List.mem_cons_of_mem _ among)

theorem skipWs_token {c : Char} {cs : List Char} (token : isWs c = false) :
    skipWs (c :: cs) = c :: cs := by
  rw [skipWs, List.dropWhile_cons_of_neg (by simp [token])]

/-! ## Strings -/

theorem readPiece_sound {cs rest : List Char} {us : List Nat} (quote : cs.head? ≠ some '"')
    (h : readPiece cs = .ok (us, rest)) :
    ∃ p, cs = p ++ rest ∧ p ≠ [] ∧ ∀ body vs, Body body vs → Body (p ++ body) (us ++ vs) := by
  unfold readPiece at h
  split at h
  · split at h
    · split at h
      · rename_i h₁ h₂ h₃ h₄
        simp only [Except.ok.injEq, Prod.mk.injEq] at h
        obtain ⟨rfl, rfl⟩ := h
        exact ⟨['\\', 'u', _, _, _, _], rfl, by simp, fun _ _ body => .unicode h₁ h₂ h₃ h₄ body⟩
      · simp [bad] at h
    · simp [bad] at h
  · split at h
    · rename_i escape
      simp only [Except.ok.injEq, Prod.mk.injEq] at h
      obtain ⟨rfl, rfl⟩ := h
      exact ⟨['\\', _], rfl, by simp, fun _ _ body => .short escape body⟩
    · simp [bad] at h
  · simp [bad] at h
  · rename_i c rest' _ other lone
    split_ifs at h with control
    · simp [bad] at h
    · simp only [Except.ok.injEq, Prod.mk.injEq] at h
      obtain ⟨rfl, rfl⟩ := h
      have escape : c ≠ '\\' := by
        rintro rfl
        cases rest' with
        | nil => exact lone rfl rfl
        | cons e rest' => exact other e rest' rfl rfl
      refine ⟨[c], rfl, by simp, fun _ _ body => .plain ?_ escape (not_lt.mp control) body⟩
      rintro rfl
      exact quote rfl
  · simp [bad] at h

theorem readBody_quote (fuel : Nat) (rest : List Char) :
    readBody fuel ('"' :: rest) = .ok ([], rest) := by
  cases fuel <;> rfl

theorem readBody_succ {fuel : Nat} {cs : List Char} (quote : cs.head? ≠ some '"') :
    readBody (fuel + 1) cs = readPiece cs >>= fun (u, rest) =>
      readBody fuel rest >>= fun (us, rest) => .ok (u ++ us, rest) := by
  rw [readBody]
  · rfl
  · rintro rest rfl
    exact quote rfl

theorem readBody_sound {fuel : Nat} {cs rest : List Char} {us : List Nat}
    (h : readBody fuel cs = .ok (us, rest)) : ∃ body, cs = body ++ '"' :: rest ∧ Body body us := by
  by_cases quote : cs.head? = some '"'
  · obtain ⟨tail, rfl⟩ : ∃ tail, cs = '"' :: tail := by
      cases cs with
      | nil => simp at quote
      | cons c cs => exact ⟨cs, by rw [Option.some.inj quote]⟩
    rw [readBody_quote, Except.ok.injEq, Prod.mk.injEq] at h
    obtain ⟨rfl, rfl⟩ := h
    exact ⟨[], rfl, .nil⟩
  · induction fuel generalizing cs us with
    | zero =>
      unfold readBody at h
      split at h
      · exact absurd rfl quote
      · simp [bad] at h
      · rename_i impossible _
        cases impossible
    | succ fuel ih =>
      rw [readBody_succ quote] at h
      obtain ⟨⟨u, after⟩, piece, h⟩ := bind_ok.mp h
      obtain ⟨⟨us', rest'⟩, later, returned⟩ := bind_ok.mp h
      simp only [Except.ok.injEq, Prod.mk.injEq] at returned
      obtain ⟨rfl, rfl⟩ := returned
      obtain ⟨p, rfl, -, extend⟩ := readPiece_sound quote piece
      by_cases closed : after.head? = some '"'
      · obtain ⟨tail, rfl⟩ : ∃ tail, after = '"' :: tail := by
          cases after with
          | nil => simp at closed
          | cons c cs => exact ⟨cs, by rw [Option.some.inj closed]⟩
        rw [readBody_quote, Except.ok.injEq, Prod.mk.injEq] at later
        obtain ⟨rfl, rfl⟩ := later
        exact ⟨p ++ [], by simp, extend _ _ .nil⟩
      · obtain ⟨body, rfl, said⟩ := ih later closed
        exact ⟨p ++ body, by simp, extend _ _ said⟩

/-- One piece of a body is read as the grammar has it. -/
theorem readBody_piece {fuel : Nat} {p cs rest : List Char} {u us : List Nat}
    (first : ∀ tail, readPiece (p ++ tail) = .ok (u, tail)) (quote : p.head? ≠ some '"')
    (piece : p ≠ []) (later : readBody fuel cs = .ok (us, rest)) :
    readBody (fuel + 1) (p ++ cs) = .ok (u ++ us, rest) := by
  rw [readBody_succ, first]
  · simp [bind, Except.bind, later]
  · rwa [List.head?_append_of_ne_nil _ piece]

theorem readBody_complete {body : List Char} {us : List Nat} (said : Body body us)
    {fuel : Nat} (enough : body.length ≤ fuel) (rest : List Char) :
    readBody fuel (body ++ '"' :: rest) = .ok (us, rest) := by
  induction said generalizing fuel with
  | nil => cases fuel <;> rfl
  | @plain c cs us quote escape control said ih =>
    obtain ⟨fuel, rfl⟩ : ∃ n, fuel = n + 1 := ⟨fuel - 1, by simp at enough; omega⟩
    refine readBody_piece (p := [c]) (fun tail => ?_) (by simpa using quote) (by simp)
      (ih (by simp at enough; omega))
    have printable : ¬ c.toNat < 0x20 := by omega
    rw [List.singleton_append, readPiece]
    · rw [if_neg printable]
    · exact fun _ same => absurd same escape
    · exact fun _ _ same => absurd same escape
    · exact fun same => absurd same escape
  | @short e cs u us escape said ih =>
    obtain ⟨fuel, rfl⟩ : ∃ n, fuel = n + 1 := ⟨fuel - 1, by simp at enough; omega⟩
    refine readBody_piece (p := ['\\', e]) (u := [u]) (fun tail => ?_) (by simp) (by simp)
      (ih (by simp at enough; omega))
    have unicode : e ≠ 'u' := by
      rintro rfl
      simp [shortEscape] at escape
    rw [List.cons_append, List.singleton_append, readPiece]
    · rw [escape]
    · exact unicode
  | @unicode c₁ c₂ c₃ c₄ cs d₁ d₂ d₃ d₄ us h₁ h₂ h₃ h₄ said ih =>
    obtain ⟨fuel, rfl⟩ : ∃ n, fuel = n + 1 := ⟨fuel - 1, by simp at enough; omega⟩
    refine readBody_piece (p := ['\\', 'u', c₁, c₂, c₃, c₄])
      (u := [((d₁ * 16 + d₂) * 16 + d₃) * 16 + d₄]) (fun tail => ?_) (by simp) (by simp)
      (ih (by simp at enough; omega))
    simp [readPiece, h₁, h₂, h₃, h₄]

theorem readString_sound {cs rest : List Char} {us : List Nat}
    (h : readString cs = .ok (us, rest)) : ∃ body, cs = body ++ '"' :: rest ∧ Body body us :=
  readBody_sound h

theorem readString_complete {body : List Char} {us : List Nat} (said : Body body us)
    (rest : List Char) : readString (body ++ '"' :: rest) = .ok (us, rest) :=
  readBody_complete said (by simp) rest

/-! ## Numbers -/

/-- A text that does not go on with a number. -/
def Ends (rest : List Char) : Prop :=
  ∀ c ∈ rest.head?, isDecimalDigit c = false ∧ c ≠ '.' ∧ c ≠ 'e' ∧ c ≠ 'E' ∧ c ≠ '+' ∧ c ≠ '-'

theorem readDigitRun_sound {what : String} {cs digits rest : List Char}
    (h : readDigitRun what cs = .ok (digits, rest)) : cs = digits ++ rest ∧ Digits digits := by
  unfold readDigitRun at h
  simp only at h
  split_ifs at h with none
  · simp [bad] at h
  · simp only [Except.ok.injEq, Prod.mk.injEq] at h
    obtain ⟨rfl, rfl⟩ := h
    exact ⟨List.takeWhile_append_dropWhile.symm, none, fun c among => List.mem_takeWhile_imp among⟩

theorem readDigitRun_complete {what : String} {digits rest : List Char} (run : Digits digits)
    (after : ∀ c ∈ rest.head?, isDecimalDigit c = false) :
    readDigitRun what (digits ++ rest) = .ok (digits, rest) := by
  have stop : rest.takeWhile isDecimalDigit = [] ∧ rest.dropWhile isDecimalDigit = rest := by
    cases rest with
    | nil => exact ⟨rfl, rfl⟩
    | cons c rest =>
      have := after c rfl
      simp [this]
  have taken : (digits ++ rest).takeWhile isDecimalDigit = digits := by
    rw [List.takeWhile_append_of_pos run.2, stop.1, List.append_nil]
  have left : (digits ++ rest).dropWhile isDecimalDigit = rest := by
    rw [List.dropWhile_append_of_pos run.2, stop.2]
  simp only [readDigitRun, taken, left, if_neg run.1]

theorem digits_head {digits : List Char} (run : Digits digits) :
    ∃ c cs, digits = c :: cs ∧ isDecimalDigit c = true := by
  obtain ⟨some_, all⟩ := run
  cases digits with
  | nil => exact absurd rfl some_
  | cons c cs => exact ⟨c, cs, rfl, all c List.mem_cons_self⟩

/-- A whole part: zero, or digits that do not start with it. -/
def Whole (cs : List Char) : Prop := cs = ['0'] ∨ Digits cs ∧ cs.head? ≠ some '0'

def Fraction (cs : List Char) : Prop := cs = [] ∨ ∃ digits, Digits digits ∧ cs = '.' :: digits

def Exponent (cs : List Char) : Prop :=
  cs = [] ∨ ∃ e plus digits, (e = 'e' ∨ e = 'E') ∧
    (plus = [] ∨ plus = ['+'] ∨ plus = ['-']) ∧ Digits digits ∧ cs = e :: (plus ++ digits)

theorem readWhole_sound {cs whole rest : List Char} (h : readWhole cs = .ok (whole, rest)) :
    cs = whole ++ rest ∧ Whole whole := by
  unfold readWhole at h
  split at h
  · simp only [Except.ok.injEq, Prod.mk.injEq] at h
    obtain ⟨rfl, rfl⟩ := h
    exact ⟨rfl, Or.inl rfl⟩
  · rename_i other
    obtain ⟨rfl, run⟩ := readDigitRun_sound h
    obtain ⟨c, ds, rfl, -⟩ := digits_head run
    refine ⟨rfl, Or.inr ⟨run, ?_⟩⟩
    intro zero
    exact other (ds ++ rest) (by rw [Option.some.inj zero]; rfl)

theorem readWhole_complete {whole rest : List Char} (shape : Whole whole)
    (after : ∀ c ∈ rest.head?, isDecimalDigit c = false) :
    readWhole (whole ++ rest) = .ok (whole, rest) := by
  rcases shape with rfl | ⟨run, zero⟩
  · rfl
  · obtain ⟨c, ds, rfl, -⟩ := digits_head run
    have other : c ≠ '0' := by simpa using zero
    rw [List.cons_append, readWhole]
    · rw [← List.cons_append, readDigitRun_complete run after]
    · rintro _ same
      exact other (List.cons.inj same).1

theorem readFraction_sound {cs fraction rest : List Char}
    (h : readFraction cs = .ok (fraction, rest)) : cs = fraction ++ rest ∧ Fraction fraction := by
  unfold readFraction at h
  split at h
  · obtain ⟨⟨digits, rest'⟩, read, returned⟩ := bind_ok.mp h
    simp only [pure, Except.pure, Except.ok.injEq, Prod.mk.injEq] at returned
    obtain ⟨rfl, rfl⟩ := returned
    obtain ⟨rfl, run⟩ := readDigitRun_sound read
    exact ⟨rfl, Or.inr ⟨digits, run, rfl⟩⟩
  · simp only [Except.ok.injEq, Prod.mk.injEq] at h
    obtain ⟨rfl, rfl⟩ := h
    exact ⟨rfl, Or.inl rfl⟩

theorem readFraction_complete {fraction rest : List Char} (shape : Fraction fraction)
    (after : ∀ c ∈ rest.head?, isDecimalDigit c = false ∧ c ≠ '.') :
    readFraction (fraction ++ rest) = .ok (fraction, rest) := by
  rcases shape with rfl | ⟨digits, run, rfl⟩
  · cases rest with
    | nil => rfl
    | cons c rest =>
      rw [List.nil_append, readFraction]
      rintro _ same
      exact (after c rfl).2 (List.cons.inj same).1
  · simp [readFraction, readDigitRun_complete run fun c first => (after c first).1, bind,
      Except.bind, pure, Except.pure]

theorem readPlus_sound (cs : List Char) :
    cs = (readPlus cs).1 ++ (readPlus cs).2 ∧
      ((readPlus cs).1 = [] ∨ (readPlus cs).1 = ['+'] ∨ (readPlus cs).1 = ['-']) := by
  unfold readPlus
  split <;> simp

theorem readPlus_complete {plus digits rest : List Char}
    (shape : plus = [] ∨ plus = ['+'] ∨ plus = ['-']) (run : Digits digits) :
    readPlus (plus ++ (digits ++ rest)) = (plus, digits ++ rest) := by
  obtain ⟨c, ds, rfl, digit⟩ := digits_head run
  rcases shape with rfl | rfl | rfl
  · rw [List.nil_append, List.cons_append, readPlus]
    · rintro _ same
      rw [(List.cons.inj same).1] at digit
      exact absurd digit (by decide)
    · rintro _ same
      rw [(List.cons.inj same).1] at digit
      exact absurd digit (by decide)
  · rfl
  · rfl

theorem readExponent_sound {cs exponent rest : List Char}
    (h : readExponent cs = .ok (exponent, rest)) : cs = exponent ++ rest ∧ Exponent exponent := by
  unfold readExponent at h
  split at h
  · rename_i e cs
    split_ifs at h with marked
    · obtain ⟨⟨digits, rest'⟩, read, returned⟩ := bind_ok.mp h
      simp only [pure, Except.pure, Except.ok.injEq, Prod.mk.injEq] at returned
      obtain ⟨rfl, rfl⟩ := returned
      obtain ⟨left, run⟩ := readDigitRun_sound read
      obtain ⟨split, plus⟩ := readPlus_sound cs
      refine ⟨?_, Or.inr ⟨e, _, digits, marked, plus, run, rfl⟩⟩
      rw [List.cons_append, List.append_assoc, ← left]
      exact congrArg _ split
    · simp only [Except.ok.injEq, Prod.mk.injEq] at h
      obtain ⟨rfl, rfl⟩ := h
      exact ⟨rfl, Or.inl rfl⟩
  · simp only [Except.ok.injEq, Prod.mk.injEq] at h
    obtain ⟨rfl, rfl⟩ := h
    exact ⟨rfl, Or.inl rfl⟩

theorem readExponent_complete {exponent rest : List Char} (shape : Exponent exponent)
    (after : ∀ c ∈ rest.head?, isDecimalDigit c = false ∧ c ≠ 'e' ∧ c ≠ 'E') :
    readExponent (exponent ++ rest) = .ok (exponent, rest) := by
  rcases shape with rfl | ⟨e, plus, digits, marked, sign, run, rfl⟩
  · cases rest with
    | nil => rfl
    | cons c rest =>
      obtain ⟨-, lower, upper⟩ := after c rfl
      simp [readExponent, lower, upper]
  · have read := @readDigitRun_complete "an exponent with no digits" _ _ run
      fun c first => (after c first).1
    simp [readExponent, marked, List.append_assoc, readPlus_complete sign run, read, bind,
      Except.bind, pure, Except.pure]

theorem readNumber_sound {cs token rest : List Char} (h : readNumber cs = .ok (token, rest)) :
    cs = token ++ rest ∧ Number token := by
  unfold readNumber at h
  simp only at h
  obtain ⟨⟨whole, after⟩, readW, h⟩ := bind_ok.mp h
  obtain ⟨⟨fraction, after'⟩, readF, h⟩ := bind_ok.mp h
  obtain ⟨⟨exponent, after''⟩, readE, returned⟩ := bind_ok.mp h
  simp only [pure, Except.pure, Except.ok.injEq, Prod.mk.injEq] at returned
  obtain ⟨rfl, rfl⟩ := returned
  obtain ⟨left, shapeW⟩ := readWhole_sound readW
  obtain ⟨rfl, shapeF⟩ := readFraction_sound readF
  obtain ⟨rfl, shapeE⟩ := readExponent_sound readE
  have sign : cs = (readSign cs).1 ++ (readSign cs).2 ∧
      ((readSign cs).1 = [] ∨ (readSign cs).1 = ['-']) := by
    unfold readSign
    split <;> simp
  refine ⟨?_, ⟨_, whole, fraction, exponent, rfl, sign.2, shapeW, shapeF, shapeE⟩⟩
  simp only [List.append_assoc]
  rw [← left, ← sign.1]

theorem Exponent.first {exponent rest : List Char} (shape : Exponent exponent) (ends : Ends rest) :
    ∀ c ∈ (exponent ++ rest).head?, isDecimalDigit c = false ∧ c ≠ '.' := by
  rcases shape with rfl | ⟨e, plus, digits, marked, -, -, rfl⟩
  · exact fun c first => ⟨(ends c first).1, (ends c first).2.1⟩
  · intro c first
    obtain rfl := Option.some.inj first
    rcases marked with rfl | rfl <;> decide

theorem Fraction.first {fraction rest : List Char} (shape : Fraction fraction)
    (after : ∀ c ∈ rest.head?, isDecimalDigit c = false ∧ c ≠ '.') :
    ∀ c ∈ (fraction ++ rest).head?, isDecimalDigit c = false := by
  rcases shape with rfl | ⟨digits, -, rfl⟩
  · exact fun c first => (after c first).1
  · intro c first
    obtain rfl := Option.some.inj first
    decide

theorem Whole.first {whole rest : List Char} (shape : Whole whole) :
    ∃ c cs, whole ++ rest = c :: cs ∧ isDecimalDigit c = true := by
  rcases shape with rfl | ⟨run, -⟩
  · exact ⟨'0', rest, rfl, by decide⟩
  · obtain ⟨c, ds, rfl, digit⟩ := digits_head run
    exact ⟨c, ds ++ rest, rfl, digit⟩

theorem Number.first {token : List Char} (number : Number token) :
    ∃ c cs, token = c :: cs ∧ (c = '-' ∨ isDecimalDigit c = true) := by
  obtain ⟨sign, whole, fraction, exponent, rfl, signed, shape, -, -⟩ := number.parts
  rcases signed with rfl | rfl
  · obtain ⟨c, cs, first, digit⟩ := @Whole.first _ (fraction ++ exponent) shape
    exact ⟨c, cs, by simpa using first, Or.inr digit⟩
  · exact ⟨'-', _, rfl, Or.inl rfl⟩

/-- A number is read whole where the text after it does not go on with one. -/
theorem readNumber_complete {token rest : List Char} (number : Number token) (ends : Ends rest) :
    readNumber (token ++ rest) = .ok (token, rest) := by
  obtain ⟨sign, whole, fraction, exponent, rfl, signed, shapeW, shapeF, shapeE⟩ := number.parts
  have afterF := Exponent.first shapeE ends
  have afterW := Fraction.first shapeF afterF
  have read : readSign (sign ++ (whole ++ (fraction ++ (exponent ++ rest)))) =
      (sign, whole ++ (fraction ++ (exponent ++ rest))) := by
    rcases signed with rfl | rfl
    · obtain ⟨c, cs, first, digit⟩ :=
        @Whole.first _ (fraction ++ (exponent ++ rest)) shapeW
      rw [List.nil_append, first, readSign]
      rintro _ same
      rw [(List.cons.inj same).1] at digit
      exact absurd digit (by decide)
    · rfl
  have readE := readExponent_complete shapeE
    fun c first => ⟨(ends c first).1, (ends c first).2.2.1, (ends c first).2.2.2.1⟩
  simp only [readNumber, List.append_assoc, read, readWhole_complete shapeW afterW,
    readFraction_complete shapeF afterF, readE, bind, Except.bind, pure, Except.pure]

end XochiSdk.Wire
