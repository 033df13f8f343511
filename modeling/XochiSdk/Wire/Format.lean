import XochiSdk.Wire.ResolveRef
import XochiSdk.Js.Hex
import Mathlib.Data.List.Sort

/-!
# The vendored form of a document

`packages/spec/wire/format.mjs`: a text is scanned into a tree whose numbers are their own text,
with keys sorted, and the tree is written out again. An error holds what is left of the text where it was
raised.
-/

namespace XochiSdk.Wire

open XochiSdk.Js XochiSdk.Library JsonText

/-- What the formatter throws. -/
inductive FormatError where
  | malformed (what : String) (rest : List Char)
  | incomparable

def bad {α : Type} (what : String) (rest : List Char) : Except FormatError α :=
  .error (.malformed what rest)

/-- `ws()`. -/
def skipWs (cs : List Char) : List Char := cs.dropWhile isWs

/-! ## Strings -/

/-- What stands for itself in a string, or an escape. -/
def readPiece : List Char → Except FormatError (List Nat × List Char)
  | '\\' :: 'u' :: cs =>
    match cs with
    | c₁ :: c₂ :: c₃ :: c₄ :: rest =>
      match hexDigit c₁, hexDigit c₂, hexDigit c₃, hexDigit c₄ with
      | some d₁, some d₂, some d₃, some d₄ =>
        .ok ([((d₁ * 16 + d₂) * 16 + d₃) * 16 + d₄], rest)
      | _, _, _, _ => bad "an invalid \\u escape" cs
    | _ => bad "an invalid \\u escape" cs
  | '\\' :: e :: rest =>
    match shortEscape e with
    | some u => .ok ([u], rest)
    | none => bad "an invalid string escape" rest
  | ['\\'] => bad "an invalid string escape" []
  | c :: rest =>
    if c.toNat < 0x20 then bad "an unescaped control character in a string" (c :: rest)
    else .ok (charUnits c, rest)
  | [] => bad "an unterminated string" []

/-- `readString`, after the opening quote; each round reads at least one character. -/
def readBody : Nat → List Char → Except FormatError (List Nat × List Char)
  | _, '"' :: rest => .ok ([], rest)
  | 0, cs => bad "an unterminated string" cs
  | fuel + 1, cs => do
    let (u, rest) ← readPiece cs
    let (us, rest) ← readBody fuel rest
    return (u ++ us, rest)

def readString (cs : List Char) : Except FormatError (List Nat × List Char) := readBody cs.length cs

/-! ## Numbers -/

def readSign : List Char → List Char × List Char
  | '-' :: cs => (['-'], cs)
  | cs => ([], cs)

/-- `while (isDigit(text[i])) i += 1`, at least once. -/
def readDigitRun (what : String) (cs : List Char) : Except FormatError (List Char × List Char) :=
  let digits := cs.takeWhile isDecimalDigit
  if digits = [] then bad what cs else .ok (digits, cs.dropWhile isDecimalDigit)

def readWhole : List Char → Except FormatError (List Char × List Char)
  | '0' :: cs => .ok (['0'], cs)
  | cs => readDigitRun "a number with no integer part" cs

def readFraction : List Char → Except FormatError (List Char × List Char)
  | '.' :: cs => do
    let (digits, rest) ← readDigitRun "a fraction with no digits" cs
    return ('.' :: digits, rest)
  | cs => .ok ([], cs)

def readPlus : List Char → List Char × List Char
  | '+' :: cs => (['+'], cs)
  | '-' :: cs => (['-'], cs)
  | cs => ([], cs)

def readExponent : List Char → Except FormatError (List Char × List Char)
  | e :: cs =>
    if e = 'e' ∨ e = 'E' then do
      let (digits, rest) ← readDigitRun "an exponent with no digits" (readPlus cs).2
      return (e :: ((readPlus cs).1 ++ digits), rest)
    else .ok ([], e :: cs)
  | [] => .ok ([], [])

def readNumber (cs : List Char) : Except FormatError (List Char × List Char) := do
  let (whole, rest) ← readWhole (readSign cs).2
  let (fraction, rest) ← readFraction rest
  let (exponent, rest) ← readExponent rest
  return ((readSign cs).1 ++ whole ++ fraction ++ exponent, rest)

/-! ## Keys -/

/-- `a < b` of two strings: code unit by code unit. -/
def keyLt : Key → Key → Bool
  | [], [] => false
  | [], _ :: _ => true
  | _ :: _, [] => false
  | a :: as, b :: bs => if a = b then keyLt as bs else decide (a < b)

/-- The index of a key that an object keeps first: an integer below 2^32 - 1. -/
def indexKey (k : Key) : Option Nat := (arrayIndex k).filter (· < 2 ^ 32 - 1)

/-- `entries.sort((a, b) => …)`, which is stable. -/
def sortEntries (entries : List (Key × JsonData)) : List (Key × JsonData) :=
  entries.insertionSort fun a b => !keyLt b.1 a.1

/-- `object[key] = value`: in its place, or last. -/
def setMember (members : List (Key × JsonData)) (entry : Key × JsonData) :
    List (Key × JsonData) :=
  if members.any (·.1 == entry.1) then members.map fun m => if m.1 = entry.1 then entry else m
  else members ++ [entry]

/-- The members of an object in the order of `Object.keys`: the index keys by number, then the
others as they were set. -/
def ownOrder (members : List (Key × JsonData)) : List (Key × JsonData) :=
  (members.filter fun m => (indexKey m.1).isSome).insertionSort
      (fun a b => decide ((indexKey a.1).getD 0 ≤ (indexKey b.1).getD 0)) ++
    members.filter fun m => (indexKey m.1).isNone

/-- `Object.fromEntries(entries.sort(…))`. -/
def homed (entries : List (Key × JsonData)) : List (Key × JsonData) :=
  ownOrder ((sortEntries entries).foldl setMember [])

/-! ## The scanner -/

/-- `text.startsWith(literal, i)`. -/
def readWord (literal : String) (cs : List Char) : Option (List Char) :=
  if literal.toList.isPrefixOf cs then some (cs.drop literal.toList.length) else none

def readLiteral (cs : List Char) : Except FormatError (JsonData × List Char) :=
  match readWord "true" cs, readWord "false" cs, readWord "null" cs with
  | some rest, _, _ => .ok (.bool true, rest)
  | none, some rest, _ => .ok (.bool false, rest)
  | none, none, some rest => .ok (.null, rest)
  | none, none, none => bad "a value that is not JSON" cs

mutual

/-- `value(depth)`; a value reads at least one character, so the text's length is fuel enough. -/
def scanValue : Nat → Nat → List Char → Except FormatError (JsonData × List Char)
  | 0, _, cs => bad "end of input where a value was expected" cs
  | fuel + 1, depth, cs =>
    if depth > maxDepth then .error .incomparable
    else match cs with
      | [] => bad "end of input where a value was expected" []
      | '"' :: rest => do
        let (us, rest) ← readString rest
        return (.str us, rest)
      | '\x7b' :: rest =>
        match skipWs rest with
        | '\x7d' :: rest => .ok (.obj (homed []), rest)
        | _ => do
          let (entries, rest) ← valueMembers fuel depth rest
          return (.obj (homed entries), rest)
      | '[' :: rest =>
        match skipWs rest with
        | ']' :: rest => .ok (.arr [], rest)
        | _ => do
          let (elements, rest) ← valueElements fuel depth rest
          return (.arr elements, rest)
      | c :: rest =>
        if c = '-' ∨ isDecimalDigit c then do
          let (token, rest) ← readNumber (c :: rest)
          return (.num token, rest)
        else readLiteral (c :: rest)

/-- The elements of an array, up to its bracket. -/
def valueElements : Nat → Nat → List Char → Except FormatError (List JsonData × List Char)
  | 0, _, cs => bad "an unclosed array" cs
  | fuel + 1, depth, cs => do
    let (x, rest) ← scanValue fuel (depth + 1) (skipWs cs)
    match skipWs rest with
    | ',' :: rest => do
      let (xs, rest) ← valueElements fuel depth rest
      return (x :: xs, rest)
    | ']' :: rest => return ([x], rest)
    | rest => bad "an unclosed array" rest

/-- The members of an object, up to its brace. -/
def valueMembers : Nat → Nat → List Char → Except FormatError (List (Key × JsonData) × List Char)
  | 0, _, cs => bad "an unclosed object" cs
  | fuel + 1, depth, cs =>
    match skipWs cs with
    | '"' :: rest => do
      let (k, rest) ← readString rest
      match skipWs rest with
      | ':' :: rest => do
        let (x, rest) ← scanValue fuel (depth + 1) (skipWs rest)
        match skipWs rest with
        | ',' :: rest => do
          let (ms, rest) ← valueMembers fuel depth rest
          return ((k, x) :: ms, rest)
        | '\x7d' :: rest => return ([(k, x)], rest)
        | rest => bad "an unclosed object" rest
      | rest => bad "an object member with no colon" rest
    | rest => bad "an object key that is not a string" rest

end

def scan (text : List Char) : Except FormatError JsonData := do
  let (root, rest) ← scanValue (text.length + 1) 0 (skipWs text)
  match skipWs rest with
  | [] => return root
  | rest => bad "trailing content after the document" rest

/-! ## The writer -/

def isHigh (u : Nat) : Bool := 0xd800 ≤ u && u < 0xdc00

def isLow (u : Nat) : Bool := 0xdc00 ≤ u && u < 0xe000

/-- `\uXXXX`. -/
def escapeUnit (u : Nat) : List Char :=
  ['\\', 'u', Js.hexDigit (u / 4096 % 16), Js.hexDigit (u / 256 % 16), Js.hexDigit (u / 16 % 16),
    Js.hexDigit (u % 16)]

/-- A code unit that is no half of a character. -/
def quoteUnit (u : Nat) : List Char :=
  if u = 8 then ['\\', 'b']
  else if u = 9 then ['\\', 't']
  else if u = 10 then ['\\', 'n']
  else if u = 12 then ['\\', 'f']
  else if u = 13 then ['\\', 'r']
  else if u = 34 then ['\\', '"']
  else if u = 92 then ['\\', '\\']
  else if u < 0x20 ∨ isHigh u ∨ isLow u then escapeUnit u
  else [Char.ofNat u]

def quoteBody : List Nat → List Char
  | [] => []
  | [u] => quoteUnit u
  | u :: v :: us =>
    if isHigh u ∧ isLow v then
      Char.ofNat (0x10000 + (u - 0xd800) * 0x400 + (v - 0xdc00)) :: quoteBody us
    else quoteUnit u ++ quoteBody (v :: us)

/-- `JSON.stringify` of a string. -/
def quote (us : List Nat) : List Char := '"' :: (quoteBody us ++ ['"'])

mutual

def write (indent : List Char) : JsonData → List Char
  | .num token => token
  | .null => "null".toList
  | .str us => quote us
  | .bool b => if b then "true".toList else "false".toList
  | .arr [] => "[]".toList
  | .arr (x :: xs) =>
    "[\n".toList ++ writeElements (indent ++ "  ".toList) (x :: xs) ++ '\n' :: (indent ++ [']'])
  | .obj [] => "\x7b\x7d".toList
  | .obj (m :: ms) =>
    "\x7b\n".toList ++ writeMembers (indent ++ "  ".toList) (m :: ms) ++
      '\n' :: (indent ++ ['\x7d'])

def writeElements (inner : List Char) : List JsonData → List Char
  | [] => []
  | [x] => inner ++ write inner x
  | x :: y :: ys => inner ++ write inner x ++ ",\n".toList ++ writeElements inner (y :: ys)

def writeMembers (inner : List Char) : List (Key × JsonData) → List Char
  | [] => []
  | [(k, x)] => inner ++ quote k ++ ": ".toList ++ write inner x
  | (k, x) :: m :: ms =>
    inner ++ quote k ++ ": ".toList ++ write inner x ++ ",\n".toList ++ writeMembers inner (m :: ms)

end

/-- `formatDocument`. -/
def formatDocument (text : List Char) : Except FormatError (List Char) := do
  let root ← scan text
  return write [] root ++ ['\n']

end XochiSdk.Wire
