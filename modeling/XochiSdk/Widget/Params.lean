import XochiSdk.Js.UrlSearchParams
import XochiSdk.Signer.Uint
import Mathlib.Data.List.Dedup

/-!
# The frame's URL parameters

`packages/widget-lib/src/params.ts`: what a host asks of the frame, as the frame reads it from its
query string and as the library writes it.
-/

namespace XochiSdk.Widget

open XochiSdk.Js XochiSdk.Signer

/-- `String.prototype.toUpperCase`: past ASCII, the host's tables. -/
class UpperCase where
  toUpperCase : String → String
  toUpperCase_fixed : ∀ s, (∀ c ∈ s.toList, c.toNat < 97) → toUpperCase s = s

/-! ## The fields -/

/-- The keys of `EMBED_PARAM`. -/
inductive EmbedField where
  | fromChainId | toChainId | sellSymbol | buySymbol | amount | settlement | theme | layout
  | howItWorks | height | locks | fromChains | toChains | sellTokens | buyTokens | ref | promo
  deriving DecidableEq

namespace EmbedField

/-- `FIELDS`. -/
def all : List EmbedField :=
  [fromChainId, toChainId, sellSymbol, buySymbol, amount, settlement, theme, layout, howItWorks,
    height, locks, fromChains, toChains, sellTokens, buyTokens, ref, promo]

def name : EmbedField → String
  | fromChainId => "fromChainId"
  | toChainId => "toChainId"
  | sellSymbol => "sellSymbol"
  | buySymbol => "buySymbol"
  | amount => "amount"
  | settlement => "settlement"
  | theme => "theme"
  | layout => "layout"
  | howItWorks => "howItWorks"
  | height => "height"
  | locks => "locks"
  | fromChains => "fromChains"
  | toChains => "toChains"
  | sellTokens => "sellTokens"
  | buyTokens => "buyTokens"
  | ref => "ref"
  | promo => "promo"

/-- `EMBED_PARAM[field]`. -/
def param : EmbedField → String
  | fromChainId => "fromChain"
  | toChainId => "toChain"
  | sellSymbol => "sell"
  | buySymbol => "buy"
  | locks => "lock"
  | field => field.name

end EmbedField

inductive EmbedSettlement where
  | public_ | stealth
  deriving DecidableEq

def EmbedSettlement.text : EmbedSettlement → String
  | public_ => "public"
  | stealth => "stealth"

inductive EmbedTheme where
  | auto | light | dim | contrast
  deriving DecidableEq

def EmbedTheme.text : EmbedTheme → String
  | auto => "auto"
  | light => "light"
  | dim => "dim"
  | contrast => "contrast"

def embedThemes : List EmbedTheme := [.auto, .light, .dim, .contrast]

inductive EmbedLayout where
  | full | swap
  deriving DecidableEq

def EmbedLayout.text : EmbedLayout → String
  | full => "full"
  | swap => "swap"

def embedLayouts : List EmbedLayout := [.full, .swap]

inductive EmbedLock where
  | fromChain | sell | amount | toChain | buy
  deriving DecidableEq

def EmbedLock.text : EmbedLock → String
  | fromChain => "fromChain"
  | sell => "sell"
  | amount => "amount"
  | toChain => "toChain"
  | buy => "buy"

def embedLocks : List EmbedLock := [.fromChain, .sell, .amount, .toChain, .buy]

def embedHeightMin : Nat := 480
def embedHeightMax : Nat := 1600
def maxEmbedList : Nat := 32

structure EmbedParams where
  fromChainId : Option Nat
  toChainId : Option Nat
  sellSymbol : Option String
  buySymbol : Option String
  amount : Option String
  settlement : Option EmbedSettlement
  theme : Option EmbedTheme
  layout : Option EmbedLayout
  howItWorks : Option Bool
  height : Option Nat
  locks : Option (List EmbedLock)
  fromChains : Option (List Nat)
  toChains : Option (List Nat)
  sellTokens : Option (List String)
  buyTokens : Option (List String)
  ref : Option String
  promo : Option String

/-! ## The patterns -/

def isUpper (c : Char) : Bool := 'A' ≤ c && c ≤ 'Z'

def isLetter (c : Char) : Bool := isUpper c || ('a' ≤ c && c ≤ 'z')

/-- `/^[1-9]\d{0,max}$/`. -/
def isCounting (max : Nat) (s : String) : Bool :=
  match s.toList with
  | c :: rest => '1' ≤ c && c ≤ '9' && rest.length ≤ max && rest.all isDigit
  | [] => false

/-- `CHAIN_ID`. -/
def chainIdPattern (s : String) : Bool := isCounting 11 s

/-- `PIXELS`. -/
def pixelsPattern (s : String) : Bool := isCounting 3 s

/-- `SYMBOL`. -/
def symbolPattern (s : String) : Bool :=
  1 ≤ s.toList.length && s.toList.length ≤ 16 && s.toList.all fun c => isLetter c || isDigit c

/-- `\d{1,30}`. -/
def isDigitRun (cs : List Char) : Bool := 1 ≤ cs.length && cs.length ≤ 30 && cs.all isDigit

/-- `AMOUNT`. -/
def amountPattern (s : String) : Bool :=
  isDigitRun (s.toList.takeWhile isDigit) &&
    match s.toList.dropWhile isDigit with
    | [] => true
    | c :: fraction => c == '.' && isDigitRun fraction

/-- `LOCK_ENTRY`. -/
def lockEntryPattern (s : String) : Bool := !s.toList.isEmpty && s.toList.all isLetter

/-- `EMBED_CODE_PATTERN`. -/
def embedCodePattern (s : String) : Bool :=
  match s.toList with
  | c :: rest =>
    (isUpper c || isDigit c) && 2 ≤ rest.length && rest.length ≤ 31 &&
      rest.all fun c => isUpper c || isDigit c || c == '_' || c == '-'
  | [] => false

/-- `Number(text)`, of digits. -/
def numberOf (text : String) : Nat := readDigits 10 text.toList

/-! ## Reading -/

section

variable [UpperCase]

open UpperCase (toUpperCase)

def normalizeEmbedCode (presented : String) : Option String :=
  let code := toUpperCase (trim presented)
  if embedCodePattern code then some code else none

def parseEmbedHeight (text : String) : Option Nat :=
  if pixelsPattern text then
    let px := numberOf text
    if embedHeightMin ≤ px ∧ px ≤ embedHeightMax then some px else none
  else none

/-- `raw.split(",")`. -/
def splitCommas (raw : String) : List String := (raw.toList.splitOn ',').map String.ofList

def parseList (raw : Option String) (entry : String → Bool) : Option (List String) :=
  match raw with
  | none => none
  | some raw =>
    if raw = "" then none
    else
      let items := (splitCommas raw).take (maxEmbedList + 1)
      let keys := items.map toUpperCase
      if maxEmbedList < items.length || !items.all entry || keys.dedup.length != keys.length then
        none
      else some items

def parseChainId (text : String) : Option Nat :=
  if chainIdPattern text then some (numberOf text) else none

def parseSymbol (text : String) : Option String := if symbolPattern text then some text else none

def parseAmount (text : String) : Option String := if amountPattern text then some text else none

def parseSettlement (settlement : Option String) : Option EmbedSettlement :=
  if settlement = some "public" then some .public_
  else if settlement = some "stealth" then some .stealth
  else none

/-- `known.find((known) => known === text)`. -/
def findKnown {α : Type} (all : List α) (shown : α → String) (text : Option String) : Option α :=
  all.find? fun known => text == some (shown known)

def parseHowItWorks (howItWorks : Option String) : Option Bool :=
  if howItWorks = some "0" ∨ howItWorks = some "1" then some (howItWorks == some "1") else none

def parseLocks (raw : Option String) : Option (List EmbedLock) :=
  match parseList raw lockEntryPattern with
  | none => none
  | some locks =>
    if locks.all fun lock => embedLocks.any fun known => known.text == lock then
      some (embedLocks.filter fun known => locks.contains known.text)
    else none

def parseChains (raw : Option String) : Option (List Nat) :=
  (parseList raw chainIdPattern).map fun chains => chains.map numberOf

def parseTokens (raw : Option String) : Option (List String) := parseList raw symbolPattern

def parseEmbedParams (search : String) : EmbedParams :=
  let query := UrlSearchParams.ofText search
  let text (field : EmbedField) := (query.get field.param).getD ""
  { fromChainId := parseChainId (text .fromChainId)
    toChainId := parseChainId (text .toChainId)
    sellSymbol := parseSymbol (text .sellSymbol)
    buySymbol := parseSymbol (text .buySymbol)
    amount := parseAmount (text .amount)
    settlement := parseSettlement (query.get EmbedField.settlement.param)
    theme := findKnown embedThemes EmbedTheme.text (query.get EmbedField.theme.param)
    layout := findKnown embedLayouts EmbedLayout.text (query.get EmbedField.layout.param)
    howItWorks := parseHowItWorks (query.get EmbedField.howItWorks.param)
    height := parseEmbedHeight (text .height)
    locks := parseLocks (query.get EmbedField.locks.param)
    fromChains := parseChains (query.get EmbedField.fromChains.param)
    toChains := parseChains (query.get EmbedField.toChains.param)
    sellTokens := parseTokens (query.get EmbedField.sellTokens.param)
    buyTokens := parseTokens (query.get EmbedField.buyTokens.param)
    ref := normalizeEmbedCode (text .ref)
    promo := normalizeEmbedCode (text .promo) }

/-! ## What a host gives

A host writes arrays as it likes: `[ , 8453]` has two indices and leaves the first out. Reading a
hole gives `undefined`, but `every` and `map` pass over it and `Object.keys` does not list it.
-/

/-- A value of a host's: what reading it gives, and the indices it leaves out. The items of an
array are values no field's check looks inside. -/
structure Given where
  value : Value
  holes : List Nat
  absent : ∀ i ∈ holes, ∃ items, value = .arr items ∧ items[i]? = some .undefined

namespace Given

/-- A value that leaves nothing out. -/
def whole (value : Value) : Given := ⟨value, [], nofun⟩

/-- The items of an array, a hole being none. -/
def items (given : Given) : Option (List (Option Value)) :=
  match given.value with
  | .arr items => some (items.mapIdx fun i item => if i ∈ given.holes then none else some item)
  | _ => none

end Given

/-- A host's object: its own members, each key once. -/
abbrev HostObject : Type := List (String × Given)

/-- `params[key]`, where the key is none every object inherits. -/
def HostObject.get (params : HostObject) (key : String) : Given :=
  (params.lookup key).getD (.whole .undefined)

/-- What `encodeEmbedParams` is called with: an object, or anything else. -/
inductive HostParams where
  | object (members : HostObject)
  | other (given : Given)

/-- `Object.keys` of an object or an array, with what stands under each. -/
def HostParams.ownMembers : HostParams → Option HostObject
  | .object members => some members
  | .other given =>
    match given.value with
    | .obj members => some (members.map fun member => (member.1, .whole member.2))
    | _ => given.items.map fun items =>
      (items.mapIdx fun i item => item.map fun held => (toString i, Given.whole held)).reduceOption

/-! ## Writing -/

def isChainId : Value → Bool
  | .num n => (safeInteger n).isSome && chainIdPattern n.text
  | _ => false

def isSymbol : Value → Bool
  | .str s => symbolPattern s
  | _ => false

/-- `known.some((known) => known === value)`. -/
def isKnown {α : Type} (all : List α) (shown : α → String) (value : Value) : Bool :=
  all.any fun known => value.strictEq (.str (shown known))

/-- `String(value)`, of a value that prints. -/
def shownValue (value : Value) : String := value.text.getD ""

def isList (given : Given) (entry : Value → Bool) : Bool :=
  match given.items with
  | some items =>
    if items.length = 0 ∨ maxEmbedList < items.length then false
    -- `every` is true of a hole, and `map` keeps it: the set takes it for one `undefined`.
    else if !items.all fun item => item.all entry then false
    else
      let keys := items.map fun item => item.map fun held => toUpperCase (shownValue held)
      keys.dedup.length == keys.length
  | none => false

/-- What `fieldProblem` has against a value that is not `ok`. -/
def problemUnless (ok : Bool) (problem : String) : Option String :=
  if ok then none else some problem

def fieldProblem (field : EmbedField) (given : Given) : Option String :=
  let value := given.value
  match field with
  | .fromChainId | .toChainId =>
    problemUnless (isChainId value) "must be a positive integer chain id (at most 12 digits)"
  | .sellSymbol | .buySymbol =>
    problemUnless (isSymbol value) "must be a token symbol of 1-16 letters or digits"
  | .amount =>
    problemUnless (match value with | .str s => amountPattern s | _ => false)
      "must be a plain decimal string such as \"250\" or \"0.5\""
  | .settlement =>
    problemUnless (value.strictEq (.str "public") || value.strictEq (.str "stealth"))
      "must be \"public\" or \"stealth\""
  | .theme =>
    problemUnless (isKnown embedThemes EmbedTheme.text value)
      ("must be one of " ++ ", ".intercalate (embedThemes.map EmbedTheme.text))
  | .layout =>
    problemUnless (isKnown embedLayouts EmbedLayout.text value)
      ("must be one of " ++ ", ".intercalate (embedLayouts.map EmbedLayout.text))
  | .howItWorks =>
    problemUnless (match value with | .bool _ => true | _ => false) "must be a boolean"
  | .height =>
    problemUnless (match value with | .num n => (parseEmbedHeight n.text).isSome | _ => false)
      ("must be a whole number of pixels from " ++ toString embedHeightMin ++ " to " ++
        toString embedHeightMax)
  | .locks =>
    problemUnless (isList given (isKnown embedLocks EmbedLock.text))
      ("must be a non-empty list of " ++ ", ".intercalate (embedLocks.map EmbedLock.text) ++
        ", each once")
  | .fromChains | .toChains =>
    problemUnless (isList given isChainId)
      ("must be a list of 1 to " ++ toString maxEmbedList ++
        " distinct positive integer chain ids (at most 12 digits)")
  | .sellTokens | .buyTokens =>
    problemUnless (isList given isSymbol)
      ("must be a list of 1 to " ++ toString maxEmbedList ++
        " token symbols of 1-16 letters or digits, distinct in any case")
  | .ref | .promo =>
    problemUnless (match value with | .str s => normalizeEmbedCode s == some s | _ => false)
      "must be 3 to 32 capital letters, digits, _ or -, starting with a letter or digit"

/-- The locks a list names, in the order of `EMBED_LOCKS`. -/
def locksOf (locks : List Value) : List EmbedLock :=
  embedLocks.filter fun lock => locks.any fun item => item.strictEq (.str lock.text)

/-- Only `join` and `includes` read an array here, and they take a hole for `undefined`. -/
def fieldText (field : EmbedField) (value : Value) : String :=
  match field with
  | .howItWorks => match value with | .bool true => "1" | _ => "0"
  | .locks =>
    match value with
    | .arr locks => ",".intercalate ((locksOf locks).map EmbedLock.text)
    | _ => ""
  | .fromChains | .toChains | .sellTokens | .buyTokens =>
    match value with
    | .arr items => (Value.joinText items).getD ""
    | _ => ""
  | _ => shownValue value

/-- One turn of the loop over `FIELDS`. -/
def writeField (params : HostObject) (query : UrlSearchParams) (field : EmbedField) :
    Except String UrlSearchParams :=
  let given := params.get field.name
  if given.value.isUndefined then .ok query
  else
    match fieldProblem field given with
    | some problem => .error ("embed parameter " ++ field.name ++ " " ++ problem)
    | none => .ok (query.set field.param (fieldText field given.value))

def encodeEmbedParams (params : HostParams) : Except String String :=
  match params.ownMembers with
  | none => .error "embed params must be an object"
  | some members =>
    match members.find? fun member => !(EmbedField.all.map EmbedField.name).contains member.1 with
    | some member =>
      .error ("unknown embed parameter \"" ++ member.1 ++ "\" (expected one of " ++
        ", ".intercalate (EmbedField.all.map EmbedField.name) ++ ")")
    | none => do
      let query ← EmbedField.all.foldlM (writeField members) .empty
      let search := replaceCommas query.toText
      return if search = [] then "" else String.ofList ('?' :: search)

end

end XochiSdk.Widget
