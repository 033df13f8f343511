import XochiSdk.Js.Value

/-!
# Unsigned-integer inputs

`packages/signer/src/uint.ts`: the spellings of every integer the signer hashes or signs.
-/

namespace XochiSdk.Signer

open XochiSdk.Js

/-- `bigint | number | string`. -/
inductive UintLike where
  | bigint (n : Int)
  | number (x : JsNumber)
  | text (s : String)

def uint32Max : Nat := 2 ^ 32 - 1
def uint64Max : Nat := 2 ^ 64 - 1
def uint256Max : Nat := 2 ^ 256 - 1

/-- `String(value)`. -/
def UintLike.shown : UintLike → String
  | .bigint n => toString n
  | .number x => x.text
  | .text s => s

/-- `Number.isSafeInteger(x)`, with the integer. -/
def safeInteger (x : JsNumber) : Option Int :=
  x.toInteger.bind fun n => if n.natAbs ≤ 2 ^ 53 - 1 then some n else none

/-- `/^(0|[1-9][0-9]*)$/`. -/
def isCanonicalDecimal (s : String) : Bool :=
  match s.toList with
  | [] => false
  | ['0'] => true
  | c :: rest => '1' ≤ c && c ≤ '9' && rest.all isDigit

/-- The integer `value` spells, or `none` when it is not an accepted spelling. -/
def uintSpelling (allowLeadingZeros : Bool) : UintLike → Option Int
  | .bigint n => some n
  | .number x => safeInteger x
  | .text s =>
    if if allowLeadingZeros then isDecimal s else isCanonicalDecimal s then bigInt s else none

theorem isDigit_iff (c : Char) : Js.isDigit c = c.isDigit := by
  unfold Js.isDigit Char.isDigit
  rfl

theorem toDigits_canonical (n : Nat) : isCanonicalDecimal n.repr = true := by
  have run : ∀ n, 0 < n → ∃ c rest, Nat.toDigits 10 n = c :: rest ∧ '1' ≤ c ∧ c ≤ '9' ∧
      ∀ d ∈ rest, Js.isDigit d = true := by
    intro n
    induction n using Nat.strongRecOn with
    | _ n ih =>
      intro positive
      by_cases small : n < 10
      · have digit : ∀ n < 10, 0 < n → '1' ≤ n.digitChar ∧ n.digitChar ≤ '9' := by decide
        refine ⟨n.digitChar, [], Nat.toDigits_of_lt_base small, ?_, ?_, by simp⟩
        · exact (digit n small positive).1
        · exact (digit n small positive).2
      · obtain ⟨c, rest, shape, low, high, digits⟩ := ih (n / 10) (by omega) (by omega)
        have last : ∀ m < 10, Js.isDigit m.digitChar = true := by decide
        refine ⟨c, rest ++ [(n % 10).digitChar], ?_, low, high, ?_⟩
        · rw [Nat.toDigits_of_base_le (by decide) (by omega), shape]
          rfl
        · intro d hd
          rcases List.mem_append.mp hd with inner | final
          · exact digits d inner
          · rw [List.mem_singleton.mp final]
            exact last _ (Nat.mod_lt _ (by decide))
  unfold isCanonicalDecimal
  rw [Nat.toList_repr]
  by_cases zero : n = 0
  · rw [zero, Nat.toDigits_zero]
    rfl
  · obtain ⟨c, rest, shape, low, high, digits⟩ := run n (by omega)
    rw [shape]
    split
    · contradiction
    · rfl
    · next head tail same =>
      cases same
      simp only [Bool.and_eq_true, decide_eq_true_eq, List.all_eq_true]
      exact ⟨⟨low, high⟩, digits⟩

/-- No digit is a base letter or a sign, so a run of digits is read as a decimal one. -/
theorem readIntegerLiteral_digits {cs : List Char} (nonempty : cs ≠ [])
    (digits : ∀ c ∈ cs, Js.isDigit c = true) :
    readIntegerLiteral cs = readRadix 10 Js.isDigit cs := by
  have second {c d : Char} {rest : List Char} (h : Js.isDigit d = false)
      (shape : cs = c :: d :: rest) : False := by
    have := digits d (by rw [shape]; simp)
    rw [h] at this
    cases this
  have first {c : Char} {rest : List Char} (h : Js.isDigit c = false) (shape : cs = c :: rest) :
      False := by
    have := digits c (by rw [shape]; simp)
    rw [h] at this
    cases this
  unfold readIntegerLiteral
  split
  · contradiction
  · exact (second (by decide) rfl).elim
  · exact (second (by decide) rfl).elim
  · exact (second (by decide) rfl).elim
  · exact (second (by decide) rfl).elim
  · exact (second (by decide) rfl).elim
  · exact (second (by decide) rfl).elim
  · exact (first (by decide) rfl).elim
  · exact (first (by decide) rfl).elim
  · rfl

/-- `BigInt` of a run of digits. -/
theorem bigInt_digits {s : String} (nonempty : s.toList ≠ [])
    (digits : ∀ c ∈ s.toList, Js.isDigit c = true) :
    bigInt s = some (readDigits 10 s.toList : Int) := by
  have blank {c : Char} (h : Js.isDigit c = true) : isWhiteSpace c = false := by
    have bound : c.toNat < 128 := by
      simp only [Js.isDigit, Bool.and_eq_true, decide_eq_true_eq] at h
      have : c.toNat ≤ 57 := h.2
      omega
    have known : ∀ n < 128, Js.isDigit (Char.ofNat n) = true →
        isWhiteSpace (Char.ofNat n) = false := by decide +kernel
    have := known c.toNat bound
    rw [Char.ofNat_toNat] at this
    exact this h
  have front {cs : List Char} (h : ∀ c ∈ cs, Js.isDigit c = true) :
      cs.dropWhile isWhiteSpace = cs := by
    cases cs with
    | nil => rfl
    | cons c cs => simp [blank (h c (by simp))]
  have untrimmed : trimChars s.toList = s.toList := by
    unfold trimChars
    rw [front digits, front (fun c hc => digits c (List.mem_reverse.mp hc)), List.reverse_reverse]
  have decimal : readRadix 10 Js.isDigit s.toList = some (readDigits 10 s.toList : Int) := by
    have all : s.toList.all Js.isDigit = true := List.all_eq_true.mpr digits
    have filled : s.toList.isEmpty = false := by
      cases h : s.toList with
      | nil => exact absurd h nonempty
      | cons c cs => rfl
    simp [readRadix, all, filled]
  unfold bigInt
  rw [untrimmed, readIntegerLiteral_digits nonempty digits, decimal]

theorem readDigits_ten {cs : List Char} (digits : ∀ c ∈ cs, Js.isDigit c = true) (n : Nat) :
    cs.foldl (fun n c => n * 10 + digitValue c) n = Nat.ofDigitChars 10 cs n := by
  induction cs generalizing n with
  | nil => rfl
  | cons c cs ih =>
    have value : digitValue c = c.toNat - '0'.toNat := by
      unfold digitValue
      rw [if_pos (digits c (by simp))]
    rw [List.foldl_cons, Nat.ofDigitChars_cons, ih (fun d hd => digits d (by simp [hd])), value,
      Nat.mul_comm]

/-- A printed number is a canonical spelling of itself. -/
theorem uintSpelling_repr (n : Nat) (allowLeadingZeros : Bool) :
    uintSpelling allowLeadingZeros (.text n.repr) = some (n : Int) := by
  have digits : ∀ c ∈ n.repr.toList, Js.isDigit c = true := by
    intro c hc
    rw [Nat.toList_repr] at hc
    rw [isDigit_iff]
    exact Nat.isDigit_of_mem_toDigits (by decide) (by decide) hc
  have nonempty : n.repr.toList ≠ [] := by
    rw [Nat.toList_repr]
    exact Nat.toDigits_ne_nil
  have accepted : (if allowLeadingZeros then isDecimal n.repr else isCanonicalDecimal n.repr) =
      true := by
    cases allowLeadingZeros with
    | false => exact toDigits_canonical n
    | true =>
      have filled : n.repr.toList.isEmpty = false := by
        cases h : n.repr.toList with
        | nil => exact absurd h nonempty
        | cons c cs => rfl
      have all : n.repr.toList.all Js.isDigit = true := List.all_eq_true.mpr digits
      change isDecimal n.repr = true
      unfold isDecimal
      rw [filled, all]
      rfl
  have value : readDigits 10 n.repr.toList = n := by
    unfold readDigits
    rw [readDigits_ten digits, Nat.toList_repr, Nat.ofDigitChars_ten_toDigits]
  change (if (if allowLeadingZeros then isDecimal n.repr else isCanonicalDecimal n.repr) then
    bigInt n.repr else none) = _
  rw [if_pos accepted, bigInt_digits nonempty digits, value]

end XochiSdk.Signer
