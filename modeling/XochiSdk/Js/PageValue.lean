import XochiSdk.Js.Host
import XochiSdk.Js.Value
import XochiSdk.Wire.Format

/-!
# Values of a page's script

A value that a script hands on, as the two algorithms of the platform that carry it read it:
`JSON.stringify`, and the structured clone of `postMessage`. A member stands for what reading it
comes to, since either algorithm reads each of them once.
-/

namespace XochiSdk.Js

/-- A text as its UTF-16 code units. -/
abbrev Units := List Nat

/-- The code units of an ASCII literal. -/
def units (s : String) : Units := s.toList.map Char.toNat

/-- A parsed JSON text. An object has its members in order, each key once. -/
inductive JsonValue where
  | null
  | bool (b : Bool)
  | num (n : {n : JsNumber // n.isFinite = true})
  | str (text : Units)
  | arr (elements : List JsonValue)
  | obj (members : List (Units × JsonValue))

inductive PageValue where
  | undefined
  | null
  | bool (b : Bool)
  | num (n : JsNumber)
  | str (text : Units)
  | bigint
  | symbol
  | callable
  /-- A reference back to an object that stands around it. -/
  | cycle
  /-- What an accessor throws, or a revoked proxy. -/
  | throws
  | arr (elements : List PageValue)
  /-- Any object whose own enumerable members are all that either algorithm reads of it. -/
  | obj (members : List (Units × PageValue))
  /-- Any other object (a date, a map, a proxy, one with a `toJSON`): its clone where it has one,
  what `JSON.stringify` reads in its place, and its `length` where `Array.isArray` holds of it. -/
  | other (cloned : Option PageValue) (printed : PageValue) (arrayLength : Option Nat)

namespace PageValue

mutual

/-- What `JSON.stringify` makes of a value: `none` for its `undefined`. -/
def toJson : PageValue → Except Unit (Option JsonValue)
  | .undefined => .ok none
  | .symbol => .ok none
  | .callable => .ok none
  | .null => .ok (some .null)
  | .bool b => .ok (some (.bool b))
  | .num n => .ok (some (if finite : n.isFinite = true then .num ⟨n, finite⟩ else .null))
  | .str text => .ok (some (.str text))
  | .bigint => .error ()
  | .cycle => .error ()
  | .throws => .error ()
  | .arr xs => (elementsJson xs).map fun es => some (.arr es)
  | .obj ms => (membersJson ms).map fun es => some (.obj es)
  | .other _ printed _ => toJson printed

def elementsJson : List PageValue → Except Unit (List JsonValue)
  | [] => .ok []
  | x :: xs => do
    let e ← toJson x
    let es ← elementsJson xs
    .ok (e.getD .null :: es)

def membersJson : List (Units × PageValue) → Except Unit (List (Units × JsonValue))
  | [] => .ok []
  | (k, x) :: ms => do
    let e ← toJson x
    let es ← membersJson ms
    .ok (match e with
      | none => es
      | some j => (k, j) :: es)

end

mutual

/-- `structuredClone`. -/
def clone : PageValue → Except Unit PageValue
  | .symbol => .error ()
  | .callable => .error ()
  | .throws => .error ()
  | .arr xs => (cloneElements xs).map .arr
  | .obj ms => (cloneMembers ms).map .obj
  | .other (some cloned) _ _ => .ok cloned
  | .other none _ _ => .error ()
  | .undefined => .ok .undefined
  | .null => .ok .null
  | .bool b => .ok (.bool b)
  | .num n => .ok (.num n)
  | .str text => .ok (.str text)
  | .bigint => .ok .bigint
  | .cycle => .ok .cycle

def cloneElements : List PageValue → Except Unit (List PageValue)
  | [] => .ok []
  | x :: xs => do
    let y ← clone x
    let ys ← cloneElements xs
    .ok (y :: ys)

def cloneMembers : List (Units × PageValue) → Except Unit (List (Units × PageValue))
  | [] => .ok []
  | (k, x) :: ms => do
    let y ← clone x
    let ys ← cloneMembers ms
    .ok ((k, y) :: ys)

end

/-- `value[key]`. -/
def get (x : PageValue) (key : String) : PageValue :=
  match x with
  | .obj ms => (ms.lookup (units key)).getD .undefined
  | _ => .undefined

/-- A number that passes `Number.isSafeInteger`. -/
def safeInteger : PageValue → Option Int
  | .num n => n.toInteger.filter fun i => i.natAbs < 2 ^ 53
  | _ => none

/-- `Array.isArray(value) && value.length > 0`. -/
def isFilledArray : PageValue → Bool
  | .arr xs => !xs.isEmpty
  | .other _ _ (some length) => 0 < length
  | _ => false

end PageValue

namespace JsonValue

mutual

/-- `JSON.stringify` of a parsed text. -/
def text : JsonValue → List Char
  | .null => "null".toList
  | .bool b => if b then "true".toList else "false".toList
  | .num n => n.val.text.toList
  | .str us => Wire.quote us
  | .arr xs => '[' :: (elementsText xs ++ [']'])
  | .obj ms => '\x7b' :: (membersText ms ++ ['\x7d'])

def elementsText : List JsonValue → List Char
  | [] => []
  | [x] => text x
  | x :: y :: xs => text x ++ ',' :: elementsText (y :: xs)

def membersText : List (Units × JsonValue) → List Char
  | [] => []
  | [(k, x)] => Wire.quote k ++ ':' :: text x
  | (k, x) :: m :: ms => Wire.quote k ++ ':' :: text x ++ ',' :: membersText (m :: ms)

end

/-- The `length` of its text. -/
def length (x : JsonValue) : Nat := utf16Length (String.ofList x.text)

mutual

/-- A parsed text as a value of the script that parsed it. -/
def held : JsonValue → PageValue
  | .null => .null
  | .bool b => .bool b
  | .num n => .num n.val
  | .str us => .str us
  | .arr xs => .arr (heldElements xs)
  | .obj ms => .obj (heldMembers ms)

def heldElements : List JsonValue → List PageValue
  | [] => []
  | x :: xs => held x :: heldElements xs

def heldMembers : List (Units × JsonValue) → List (Units × PageValue)
  | [] => []
  | (k, x) :: ms => (k, held x) :: heldMembers ms

end

/-- `value[key]`; `none` where the object has no such member. -/
def get (x : JsonValue) (key : String) : Option JsonValue :=
  match x with
  | .obj ms => ms.lookup (units key)
  | _ => none

mutual

theorem clone_held : ∀ x : JsonValue, x.held.clone = .ok x.held
  | .null => by simp [held, PageValue.clone]
  | .bool b => by simp [held, PageValue.clone]
  | .num n => by simp [held, PageValue.clone]
  | .str us => by simp [held, PageValue.clone]
  | .arr xs => by
    simp only [held, PageValue.clone, cloneElements_held xs]
    rfl
  | .obj ms => by
    simp only [held, PageValue.clone, cloneMembers_held ms]
    rfl

theorem cloneElements_held : ∀ xs : List JsonValue,
    PageValue.cloneElements (heldElements xs) = .ok (heldElements xs)
  | [] => by simp [heldElements, PageValue.cloneElements]
  | x :: xs => by
    simp only [heldElements, PageValue.cloneElements, clone_held x, cloneElements_held xs]
    rfl

theorem cloneMembers_held : ∀ ms : List (Units × JsonValue),
    PageValue.cloneMembers (heldMembers ms) = .ok (heldMembers ms)
  | [] => by simp [heldMembers, PageValue.cloneMembers]
  | (k, x) :: ms => by
    simp only [heldMembers, PageValue.cloneMembers, clone_held x, cloneMembers_held ms]
    rfl

end

mutual

theorem toJson_held : ∀ x : JsonValue, x.held.toJson = .ok (some x)
  | .null => by simp [held, PageValue.toJson]
  | .bool b => by simp [held, PageValue.toJson]
  | .num ⟨n, finite⟩ => by simp [held, PageValue.toJson, finite]
  | .str us => by simp [held, PageValue.toJson]
  | .arr xs => by
    simp only [held, PageValue.toJson, elementsJson_held xs]
    rfl
  | .obj ms => by
    simp only [held, PageValue.toJson, membersJson_held ms]
    rfl

theorem elementsJson_held : ∀ xs : List JsonValue,
    PageValue.elementsJson (heldElements xs) = .ok xs
  | [] => by simp [heldElements, PageValue.elementsJson]
  | x :: xs => by
    simp only [heldElements, PageValue.elementsJson, toJson_held x, elementsJson_held xs]
    rfl

theorem membersJson_held : ∀ ms : List (Units × JsonValue),
    PageValue.membersJson (heldMembers ms) = .ok ms
  | [] => by simp [heldMembers, PageValue.membersJson]
  | (k, x) :: ms => by
    simp only [heldMembers, PageValue.membersJson, toJson_held x, membersJson_held ms]
    rfl

end

end JsonValue

end XochiSdk.Js
