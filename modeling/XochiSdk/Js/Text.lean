import Mathlib.Algebra.Ring.Nat
import Mathlib.Data.List.Basic

/-!
# JavaScript text

The string operations the client and the signer use, over the characters of a string, so
that every one of them computes. The case mappings are not here: past ASCII they are the
host's tables (`Host` in `XochiSdk.Js.Host`); the two uses that are confined to hex digits
by a regular expression fold ASCII only.
-/

namespace XochiSdk.Js

/-- `WhiteSpace` and `LineTerminator` of the language: what `trim` and `BigInt` skip. -/
def isWhiteSpace (c : Char) : Bool :=
  let n := c.toNat
  (9 ≤ n && n ≤ 13) || n == 0x20 || n == 0xA0 || n == 0x1680 || (0x2000 ≤ n && n ≤ 0x200A) ||
    n == 0x2028 || n == 0x2029 || n == 0x202F || n == 0x205F || n == 0x3000 || n == 0xFEFF

def trimChars (cs : List Char) : List Char :=
  ((cs.dropWhile isWhiteSpace).reverse.dropWhile isWhiteSpace).reverse

/-- `String.prototype.trim`. -/
def trim (s : String) : String := String.ofList (trimChars s.toList)

def isDigit (c : Char) : Bool := '0' ≤ c && c ≤ '9'

def isHexDigit (c : Char) : Bool :=
  isDigit c || ('a' ≤ c && c ≤ 'f') || ('A' ≤ c && c ≤ 'F')

/-- The value of a digit in a base up to 16. -/
def digitValue (c : Char) : Nat :=
  if isDigit c then c.toNat - '0'.toNat
  else if 'a' ≤ c && c ≤ 'f' then c.toNat - 'a'.toNat + 10
  else c.toNat - 'A'.toNat + 10

def readDigits (base : Nat) (cs : List Char) : Nat :=
  cs.foldl (fun n c => n * base + digitValue c) 0

/-- `/^\d+$/`. -/
def isDecimal (s : String) : Bool := !s.toList.isEmpty && s.toList.all isDigit

/-- `/^0x[0-9a-f]+$/i`. -/
def isHexText (s : String) : Bool :=
  match s.toList with
  | '0' :: x :: rest => (x == 'x' || x == 'X') && !rest.isEmpty && rest.all isHexDigit
  | _ => false

/-- `/^0x[0-9a-fA-F]{n}$/`. -/
def isHexOfLength (n : Nat) (s : String) : Bool :=
  match s.toList with
  | '0' :: 'x' :: rest => rest.length == n && rest.all isHexDigit
  | _ => false

/-- `s.length`: UTF-16 code units. -/
def utf16Length (s : String) : Nat :=
  (s.toList.map fun c => if c.toNat < 0x10000 then 1 else 2).sum

/-- `s.startsWith("0x")`. -/
def startsWithHex (s : String) : Bool :=
  match s.toList with
  | '0' :: 'x' :: _ => true
  | _ => false

def asciiLowerChar (c : Char) : Char :=
  if 'A' ≤ c && c ≤ 'Z' then Char.ofNat (c.toNat + 32) else c

/-- `toLowerCase` on text a regular expression has confined to ASCII. -/
def asciiLower (s : String) : String := String.ofList (s.toList.map asciiLowerChar)

/-- The digits of a non-decimal literal, in a base the prefix names. -/
def readRadix (base : Nat) (isBaseDigit : Char → Bool) (cs : List Char) : Option Int :=
  if !cs.isEmpty && cs.all isBaseDigit then some (readDigits base cs) else none

/-- The `StringIntegerLiteral` of trimmed text: signed decimal, or `0x` / `0o` / `0b` with no
sign. Empty text is zero. -/
def readIntegerLiteral : List Char → Option Int
  | [] => some 0
  | '0' :: 'x' :: rest | '0' :: 'X' :: rest => readRadix 16 isHexDigit rest
  | '0' :: 'o' :: rest | '0' :: 'O' :: rest => readRadix 8 (fun c => '0' ≤ c && c ≤ '7') rest
  | '0' :: 'b' :: rest | '0' :: 'B' :: rest => readRadix 2 (fun c => c == '0' || c == '1') rest
  | '-' :: rest => (readRadix 10 isDigit rest).map (- ·)
  | '+' :: rest => readRadix 10 isDigit rest
  | cs => readRadix 10 isDigit cs

/-- `BigInt(text)`; `none` is the `SyntaxError`. -/
def bigInt (s : String) : Option Int := readIntegerLiteral (trimChars s.toList)

/-- A nonnegative integer rounded to the nearest double, ties to even: what `Number(text)`
reads from a run of decimal digits. `none` is `Infinity`. -/
def roundToDouble (n : Nat) : Option Nat :=
  if n < 2 ^ 53 then some n
  else
    let unit := 2 ^ (n.log2 - 52)
    let down := n / unit
    let rest := n % unit
    let rounded :=
      if 2 * rest < unit || (2 * rest == unit && down % 2 == 0) then down else down + 1
    if rounded * unit < 2 ^ 1024 then some (rounded * unit) else none

example : bigInt " 0x1F " = some 31 := by decide
example : bigInt "" = some 0 := by decide
example : bigInt "1e3" = none := by decide

end XochiSdk.Js
