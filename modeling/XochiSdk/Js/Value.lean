import XochiSdk.Js.Text
import Mathlib.Data.Rat.Defs
import Mathlib.Data.Rat.Cast.CharZero

/-!
# JavaScript values off the wire

A served document reaches the client as parsed JSON whose members are `unknown`. The
readers below are the language's own conversions (`String(x)`, `BigInt(String(x))`,
`JSON.stringify`), which the checks apply to members they have no type for.
-/

namespace XochiSdk.Js

/-- A JavaScript number: its exact value (`none` for `NaN` and the infinities) and the text
`String(x)` prints for it. Up to `2^53` in magnitude the text of an integer is its decimal
expansion; past it the language prints the shortest digits that read back, which nothing
here depends on. The text of a fraction or of a non-finite number is no integer literal. -/
structure JsNumber where
  value : Option ℚ
  text : String
  text_of_safe : ∀ n : Int, value = some (n : ℚ) → n.natAbs ≤ 2 ^ 53 → text = toString n
  text_of_fraction : (∀ n : Int, value ≠ some (n : ℚ)) → bigInt text = none

namespace JsNumber

def ofInt (n : Int) : JsNumber where
  value := some n
  text := toString n
  text_of_safe := by
    intro m hm _
    have : n = m := by simpa using hm
    rw [this]
  text_of_fraction := fun h => absurd rfl (h n)

def nan : JsNumber := ⟨none, "NaN", by simp, fun _ => by decide⟩

def infinity : JsNumber := ⟨none, "Infinity", by simp, fun _ => by decide⟩

def negInfinity : JsNumber := ⟨none, "-Infinity", by simp, fun _ => by decide⟩

/-- `Number.isFinite`. -/
def isFinite (x : JsNumber) : Bool := x.value.isSome

/-- `Number.isInteger(x)`, with the integer. -/
def toInteger (x : JsNumber) : Option Int :=
  x.value.bind fun q => if q.den = 1 then some q.num else none

end JsNumber

/-- A value a JSON document can hold, and `undefined` for a member that is not there. -/
inductive Value where
  | undefined
  | null
  | bool (b : Bool)
  | num (n : JsNumber)
  | str (s : String)
  | arr (xs : List Value)
  | obj (fields : List (String × Value))
  deriving Inhabited

/-- A plain object: its own members, each key once. -/
abbrev Obj := List (String × Value)

/-- What `o[key]` prints for a member every plain object inherits. -/
def inheritedMember (key : String) : Option String :=
  if key == "constructor" then some "function Object() \x7b [native code] \x7d"
  else if key == "__proto__" then some "[object Object]"
  else if ["hasOwnProperty", "isPrototypeOf", "propertyIsEnumerable", "toLocaleString", "toString",
      "valueOf", "__defineGetter__", "__defineSetter__", "__lookupGetter__",
      "__lookupSetter__"].contains key then
    some ("function " ++ key ++ "() \x7b [native code] \x7d")
  else none

/-- `o[key]`, where the key is none every object inherits. -/
def Obj.get (o : Obj) (key : String) : Value := (o.lookup key).getD .undefined

namespace Value

/-- `x?.[key]` on a value of unknown type: only an object has members here. -/
def member (key : String) : Value → Value
  | .obj fields => Obj.get fields key
  | _ => .undefined

/-- `x === undefined || x === null`. -/
def isNullish : Value → Bool
  | .undefined | .null => true
  | _ => false

def isUndefined : Value → Bool
  | .undefined => true
  | _ => false

/-- `x ?? fallback`. -/
def orElse (x fallback : Value) : Value := if x.isNullish then fallback else x

def ofText : Option String → Value
  | some s => .str s
  | none => .undefined

def ofInt (n : Int) : Value := .num (.ofInt n)

mutual
/-- `String(x)`. A parsed object prints as `[object Object]`, unless it carries a member
named `toString`: that member is not callable, and the conversion throws (`none`). -/
def text : Value → Option String
  | .undefined => some "undefined"
  | .null => some "null"
  | .bool b => some (if b then "true" else "false")
  | .num n => some n.text
  | .str s => some s
  | .arr xs => joinText xs
  | .obj fields => if (fields.lookup "toString").isSome then none else some "[object Object]"
/-- `Array.prototype.join`: a nullish element prints as nothing. -/
def joinText : List Value → Option String
  | [] => some ""
  | [x] => if x.isNullish then some "" else text x
  | x :: xs => do
      let head ← if x.isNullish then some "" else text x
      let tail ← joinText xs
      pure (head ++ "," ++ tail)
end

/-- `BigInt(String(x))`; `none` is a throw, of either conversion. -/
def asBigInt (x : Value) : Option Int := x.text.bind bigInt

/-- `x === y`: two parsed objects are never the same one. -/
def strictEq : Value → Value → Bool
  | .undefined, .undefined | .null, .null => true
  | .bool a, .bool b => a == b
  | .num a, .num b => a.text != "NaN" && a.value == b.value && (a.isFinite || a.text == b.text)
  | .str a, .str b => a == b
  | _, _ => false

/-- `Number(x)`. A text is read as the integer literal `BigInt` would read, rounded to a
double; one with a fraction or an exponent reads `NaN` here, and both uses are on values
`BigInt` reads or that are numbers already. -/
def toNumber (x : Value) : JsNumber :=
  match x with
  | .null => .ofInt 0
  | .bool b => .ofInt (if b then 1 else 0)
  | .num n => n
  | x =>
    match x.asBigInt with
    | none => .nan
    | some n =>
      match roundToDouble n.natAbs with
      | none => if n < 0 then .negInfinity else .infinity
      | some rounded => .ofInt (if n < 0 then -(rounded : Int) else rounded)

/-- `!!x`. -/
def truthy : Value → Bool
  | .undefined | .null => false
  | .bool b => b
  | .num n => n.value != some 0 && n.text != "NaN"
  | .str s => s != ""
  | .arr _ | .obj _ => true

end Value

/-- One character of a JSON string literal. -/
def jsonChar (c : Char) : List Char :=
  if c == '"' then ['\\', '"']
  else if c == '\\' then ['\\', '\\']
  else if c == '\n' then ['\\', 'n']
  else if c == '\r' then ['\\', 'r']
  else if c == '\t' then ['\\', 't']
  else if c.toNat == 8 then ['\\', 'b']
  else if c.toNat == 12 then ['\\', 'f']
  else if c.toNat < 32 then
    ['\\', 'u', '0', '0', Nat.digitChar (c.toNat / 16), Nat.digitChar (c.toNat % 16)]
  else [c]

def jsonString (s : String) : String :=
  String.ofList ('"' :: s.toList.flatMap jsonChar ++ ['"'])

mutual
/-- `JSON.stringify(x)`; `none` is its `undefined`. -/
def jsonText : Value → Option String
  | .undefined => none
  | .null => some "null"
  | .bool b => some (if b then "true" else "false")
  | .num n => some (if n.isFinite then n.text else "null")
  | .str s => some (jsonString s)
  | .arr xs => some ("[" ++ jsonElements xs ++ "]")
  | .obj fields => some ("\x7b" ++ jsonMembers fields ++ "\x7d")
/-- The elements of an array; an `undefined` one prints as `null`. -/
def jsonElements : List Value → String
  | [] => ""
  | [x] => (jsonText x).getD "null"
  | x :: xs => (jsonText x).getD "null" ++ "," ++ jsonElements xs
/-- The members of an object; an `undefined` one is left out. -/
def jsonMembers : List (String × Value) → String
  | [] => ""
  | (key, x) :: rest =>
      match jsonText x with
      | none => jsonMembers rest
      | some printed =>
          let tail := jsonMembers rest
          jsonString key ++ ":" ++ printed ++ (if tail == "" then "" else "," ++ tail)
end

/-- `JSON.stringify(x)` inside a template literal. -/
def jsonShown (x : Value) : String := (jsonText x).getD "undefined"

end XochiSdk.Js
