import XochiSdk.Wire.ResolveRef
import XochiSdk.Js.Hex

/-!
# The `$ref` scan

`unresolvedRefs` of `packages/spec/wire/compare.mjs` and what `compareContract` makes of it: every
served `$ref` that does not resolve is breaking, but for one the vendored copy has at the same
location. The stack of the source is the recursion here, in the same order, and the keys of a
document's objects are in the order of `Object.keys`.
-/

namespace XochiSdk.Wire

open XochiSdk.Js XochiSdk.Library

def maxFragmentChars : Nat := 90

def payloadKeys : List String :=
  ["example", "examples", "value", "default", "const", "enum", "externalDocs"]

def nameMaps : List String :=
  ["paths", "webhooks", "components", "schemas", "responses", "parameters", "requestBodies",
    "headers", "securitySchemes", "links", "callbacks", "pathItems", "content", "encoding",
    "variables", "scopes", "mapping", "properties", "patternProperties", "dependentSchemas",
    "$defs",
    "definitions"]

/-- `PAYLOAD_KEYS.has(k) || k.startsWith("x-")`. -/
def isPayloadKey (k : Key) : Bool :=
  (payloadKeys.map word).contains k || (word "x-").isPrefixOf k

/-- `NAME_MAPS.has(k)`. -/
def isNameMap (k : Key) : Bool := (nameMaps.map word).contains k

/-- The location of a place, as the findings spell it. -/
def locOf (place : Place) : Key :=
  let joined := place.flatMap fun
    | .index i => 91 :: word (toString i) ++ [93]
    | .key k => 46 :: k
  let shown := if joined.head? = some 46 then joined.drop 1 else joined
  if shown = [] then word "(document root)" else shown

structure Hit where
  ref : Key
  reason : String
  place : Place

def tooDeep (place : String) : String :=
  s!"nesting deeper than {maxDepth} in {place}. The real contract nests 12 deep, so this " ++
    "is not that document; nothing was concluded about it."

/-- The reference a node is, if it does not resolve. -/
def ownHit (doc : JsonData) (place : Place) (nameMap : Bool) (node : JsonData) : List Hit :=
  if nameMap then []
  else match refOf node with
    | none => []
    | some ref =>
      match resolveRef doc node with
      | some (.error reason) => [⟨ref, reason, place⟩]
      | _ => []

mutual

/-- One node off the stack, and all below it. -/
def scanNode (doc : JsonData) (side : String) (place : Place) (nameMap : Bool) (depth : Nat) :
    JsonData → Except String (List Hit)
  | .arr xs =>
    if depth > maxDepth then .error (tooDeep s!"the {side} document's $ref scan")
    else scanElements doc side place depth 0 xs
  | .obj ms =>
    if depth > maxDepth then .error (tooDeep s!"the {side} document's $ref scan")
    else do
      let below ← scanMembers doc side place nameMap depth ms
      return ownHit doc place nameMap (.obj ms) ++ below
  | _ =>
    if depth > maxDepth then .error (tooDeep s!"the {side} document's $ref scan") else .ok []

def scanElements (doc : JsonData) (side : String) (place : Place) (depth : Nat) :
    Nat → List JsonData → Except String (List Hit)
  | _, [] => .ok []
  | i, x :: xs => do
    let here ← scanNode doc side (place ++ [.index i]) false (depth + 1) x
    let rest ← scanElements doc side place depth (i + 1) xs
    return here ++ rest

def scanMembers (doc : JsonData) (side : String) (place : Place) (nameMap : Bool) (depth : Nat) :
    List (Key × JsonData) → Except String (List Hit)
  | [] => .ok []
  | (k, x) :: ms => do
    let here ← (if !nameMap && isPayloadKey k then Except.ok []
      else scanNode doc side (place ++ [.key k]) (!nameMap && isNameMap k) (depth + 1) x)
    let rest ← scanMembers doc side place nameMap depth ms
    return here ++ rest

end

def unresolvedRefs (doc : JsonData) (side : String) : Except String (List Hit) :=
  scanNode doc side [] false 0 doc

/-- A finding of the scan: a reference and the places that are reported for it. -/
structure Finding where
  ref : Key
  reason : String
  first : Place
  others : List Place

def Finding.places (f : Finding) : List Place := f.first :: f.others

/-- The hits of one reference but those reported or known before. -/
def freshHits (vendored served : List Hit) (reported : List Place) (ref : Key) : List Hit :=
  let known := (vendored.filter (·.ref = ref)).map fun h => locOf h.place
  (served.filter (·.ref = ref)).filter fun h =>
    !reported.contains h.place && !known.contains (locOf h.place)

/-- The finding about one reference. -/
def findingOf (vendored served : List Hit) (reported : List Place) (ref : Key) : Option Finding :=
  match freshHits vendored served reported ref with
  | [] => none
  | h :: hs => some ⟨ref, h.reason, h.place, hs.map (·.place)⟩

/-- The comparison's part about references; `reported` are the nodes it has reported before. -/
def compareRefs (served vendored : JsonData) (reported : List Place) :
    Except String (List Finding) := do
  let vendoredUnresolved ← unresolvedRefs vendored "vendored"
  let servedUnresolved ← unresolvedRefs served "served"
  return (servedUnresolved.map (·.ref)).eraseDups.filterMap
    (findingOf vendoredUnresolved servedUnresolved reported)

def hexDigits (u : Nat) : Key := (byteChars (UInt8.ofNat u)).map Char.toNat

/-- Control characters as their escapes, and no longer than a cap. -/
def sanitize (raw : Key) (max : Nat) : Key :=
  let clean := raw.flatMap fun u =>
    if u ≤ 0x1f ∨ 0x7f ≤ u ∧ u ≤ 0x9f then word "\\u00" ++ hexDigits u else [u]
  if clean.length > max then clean.take (max - 3) ++ word "..." else clean

/-- The line a finding prints. -/
def Finding.line (f : Finding) : Key :=
  word "$ref " ++ sanitize f.ref maxFragmentChars ++
    word s!" cannot be resolved in the served document ({f.reason}), at " ++
    sanitize (locOf f.first) (2 * maxFragmentChars) ++
    if f.others = [] then [] else word s!" and {f.others.length} other place(s)"

/-! ## Places -/

/-- What stands at a place of a document: an object of keywords, a map from names, or the sections
of the components, each a map from names. -/
inductive Role where
  | keywords
  | names
  | sections
  deriving DecidableEq

/-- The role of a child; `none` is a payload. -/
def Role.child : Role → Step → Option Role
  | _, .index _ => some .keywords
  | .keywords, .key k =>
    if isPayloadKey k then none
    else if k = word "components" then some .sections
    else if isNameMap k then some .names
    else some .keywords
  | .names, .key _ => some .keywords
  | .sections, .key _ => some .names

def roleAt : Role → Place → Option Role
  | role, [] => some role
  | role, step :: place => (role.child step).bind (roleAt · place)

/-- A place where a `$ref` is a reference: no payload and no map from names. -/
def IsReferencePlace (place : Place) : Prop := roleAt .keywords place = some .keywords

/-- The scan's flag of a child; `none` where the scan does not enter it. -/
def flagChild : Bool → Step → Option Bool
  | _, .index _ => some false
  | nameMap, .key k => if !nameMap && isPayloadKey k then none else some (!nameMap && isNameMap k)

def flagAt : Bool → Place → Option Bool
  | nameMap, [] => some nameMap
  | nameMap, step :: place => (flagChild nameMap step).bind (flagAt · place)

/-- The scan enters a place, and takes a `$ref` there as a reference. -/
def Entered (place : Place) : Prop := flagAt false place = some false

/-- A node of a document and its place. -/
inductive At : JsonData → Place → JsonData → Prop where
  | here {x : JsonData} : At x [] x
  | element {xs : List JsonData} {i : Nat} {y z : JsonData} {place : Place}
      (found : xs[i]? = some y) (below : At y place z) : At (.arr xs) (.index i :: place) z
  | member {ms : List (Key × JsonData)} {k : Key} {y z : JsonData} {place : Place}
      (found : (k, y) ∈ ms) (below : At y place z) : At (.obj ms) (.key k :: place) z

/-- A node that is a reference its document does not resolve. -/
def Dangles (doc : JsonData) (ref : Key) (node : JsonData) : Prop :=
  refOf node = some ref ∧ ¬∃ n z, Reaches doc n node z

def Unresolvable (doc : JsonData) (place : Place) (ref : Key) : Prop :=
  ∃ node, At doc place node ∧ Dangles doc ref node

/-! ## What the scan hits -/

theorem ownHit_iff {doc node : JsonData} {place q : Place} {nameMap : Bool} {ref : Key} :
    (∃ h ∈ ownHit doc place nameMap node, h.ref = ref ∧ h.place = q) ↔
      nameMap = false ∧ q = place ∧ Dangles doc ref node := by
  unfold ownHit Dangles
  cases nameMap with
  | true => simp
  | false =>
    simp only [Bool.false_eq_true, if_false, true_and]
    cases reference : refOf node with
    | none => simp
    | some r =>
      obtain ⟨result, ended, exact⟩ := resolveRef_spec doc node
      simp only [ended]
      cases result with
      | ok z =>
        have reached := (exact z).mp rfl
        simp only [List.not_mem_nil, false_and, exists_false, false_iff, not_and, not_not]
        intro _ _
        obtain ⟨n, chain⟩ := reached
        exact ⟨n, z, chain⟩
      | error reason =>
        have none : ¬∃ n z, Reaches doc n node z := by
          rintro ⟨n, z, chain⟩
          exact absurd ((exact z).mpr ⟨n, chain⟩) (by simp)
        simp only [List.mem_singleton, exists_eq_left, none, not_false_eq_true, and_true,
          Option.some.injEq]
        constructor
        · rintro ⟨rfl, rfl⟩
          exact ⟨rfl, rfl⟩
        · rintro ⟨rfl, rfl⟩
          exact ⟨rfl, rfl⟩

/-- The hits a scan of a node has: what is entered below it and dangles. -/
def HitsOf (doc x : JsonData) (place : Place) (nameMap : Bool) (hits : List Hit) : Prop :=
  ∀ ref q, (∃ h ∈ hits, h.ref = ref ∧ h.place = q) ↔
    ∃ p node, q = place ++ p ∧ flagAt nameMap p = some false ∧ At x p node ∧ Dangles doc ref node

/-- The hits below an array's elements, the first of them at an index. -/
def ElementHits (doc : JsonData) (xs : List JsonData) (place : Place) (j : Nat)
    (hits : List Hit) : Prop :=
  ∀ ref q, (∃ h ∈ hits, h.ref = ref ∧ h.place = q) ↔
    ∃ i y p node, xs[i]? = some y ∧ q = place ++ .index (j + i) :: p ∧
      flagAt false p = some false ∧ At y p node ∧ Dangles doc ref node

def MemberHits (doc : JsonData) (ms : List (Key × JsonData)) (place : Place) (nameMap : Bool)
    (hits : List Hit) : Prop :=
  ∀ ref q, (∃ h ∈ hits, h.ref = ref ∧ h.place = q) ↔
    ∃ k y p node, (k, y) ∈ ms ∧ q = place ++ .key k :: p ∧
      flagAt nameMap (.key k :: p) = some false ∧ At y p node ∧ Dangles doc ref node

theorem hits_append {here rest : List Hit} {ref : Key} {q : Place} :
    (∃ h ∈ here ++ rest, h.ref = ref ∧ h.place = q) ↔
      (∃ h ∈ here, h.ref = ref ∧ h.place = q) ∨ ∃ h ∈ rest, h.ref = ref ∧ h.place = q := by
  simp only [List.mem_append, or_and_right, exists_or]

theorem ElementHits.cons {doc x : JsonData} {xs : List JsonData} {place : Place} {j : Nat}
    {here rest : List Hit} (first : HitsOf doc x (place ++ [.index j]) false here)
    (others : ElementHits doc xs place (j + 1) rest) :
    ElementHits doc (x :: xs) place j (here ++ rest) := by
  intro ref q
  rw [hits_append, first, others]
  constructor
  · rintro (⟨p, node, rfl, entered, at_, dangles⟩ | ⟨i, y, p, node, found, rfl, entered, below⟩)
    · exact ⟨0, x, p, node, rfl, by simp, entered, at_, dangles⟩
    · exact ⟨i + 1, y, p, node, found, by rw [show j + 1 + i = j + (i + 1) by omega], entered,
        below⟩
  · rintro ⟨i, y, p, node, found, rfl, entered, below⟩
    cases i with
    | zero =>
      obtain rfl := Option.some.inj found
      exact Or.inl ⟨p, node, by simp, entered, below⟩
    | succ i =>
      exact Or.inr ⟨i, y, p, node, found, by rw [show j + 1 + i = j + (i + 1) by omega], entered,
        below⟩

theorem MemberHits.cons {doc x : JsonData} {k : Key} {ms : List (Key × JsonData)} {place : Place}
    {nameMap : Bool} {here rest : List Hit}
    (first : ∀ ref q, (∃ h ∈ here, h.ref = ref ∧ h.place = q) ↔
      ∃ p node, q = place ++ .key k :: p ∧ flagAt nameMap (.key k :: p) = some false ∧
        At x p node ∧ Dangles doc ref node)
    (others : MemberHits doc ms place nameMap rest) :
    MemberHits doc ((k, x) :: ms) place nameMap (here ++ rest) := by
  intro ref q
  rw [hits_append, first, others]
  constructor
  · rintro (⟨p, node, at_⟩ | ⟨k', y, p, node, member, at_⟩)
    · exact ⟨k, x, p, node, List.mem_cons_self, at_⟩
    · exact ⟨k', y, p, node, List.mem_cons_of_mem _ member, at_⟩
  · rintro ⟨k', y, p, node, member, at_⟩
    rcases List.mem_cons.mp member with same | later
    · obtain ⟨rfl, rfl⟩ := Prod.mk.inj same
      exact Or.inl ⟨p, node, at_⟩
    · exact Or.inr ⟨k', y, p, node, later, at_⟩

theorem HitsOf.array {doc : JsonData} {xs : List JsonData} {place : Place} {nameMap : Bool}
    {hits : List Hit} (elements : ElementHits doc xs place 0 hits) :
    HitsOf doc (.arr xs) place nameMap hits := by
  intro ref q
  rw [elements]
  constructor
  · rintro ⟨i, y, p, node, found, rfl, entered, below, dangles⟩
    exact ⟨.index i :: p, node, by rw [Nat.zero_add], entered, .element found below, dangles⟩
  · rintro ⟨p, node, rfl, entered, at_, dangles⟩
    cases at_ with
    | here => simp [Dangles, refOf, JsonData.member] at dangles
    | @element _ i y _ p found below =>
      exact ⟨i, y, p, node, found, by rw [Nat.zero_add], entered, below, dangles⟩

theorem HitsOf.object {doc : JsonData} {ms : List (Key × JsonData)} {place : Place}
    {nameMap : Bool} {below : List Hit} (members : MemberHits doc ms place nameMap below) :
    HitsOf doc (.obj ms) place nameMap (ownHit doc place nameMap (.obj ms) ++ below) := by
  intro ref q
  rw [hits_append, ownHit_iff, members]
  constructor
  · rintro (⟨rfl, rfl, dangles⟩ | ⟨k, y, p, node, member, rfl, entered, at_, dangles⟩)
    · exact ⟨[], _, by simp, rfl, .here, dangles⟩
    · exact ⟨.key k :: p, node, rfl, entered, .member member at_, dangles⟩
  · rintro ⟨p, node, rfl, entered, at_, dangles⟩
    cases at_ with
    | here => exact Or.inl ⟨Option.some.inj entered, by simp, dangles⟩
    | @member _ k y _ p found at_ => exact Or.inr ⟨k, y, p, node, found, rfl, entered, at_, dangles⟩

theorem HitsOf.scalar {doc x : JsonData} {place : Place} {nameMap : Bool}
    (leaf : ∀ p node, At x p node → node = x) (plain : refOf x = none) :
    HitsOf doc x place nameMap [] := by
  intro ref q
  simp only [List.not_mem_nil, false_and, exists_false, false_iff]
  rintro ⟨p, node, -, -, at_, reference, -⟩
  rw [leaf p node at_, plain] at reference
  cases reference

mutual

theorem scanNode_hits {doc : JsonData} {side : String} : (x : JsonData) → ∀ ⦃place : Place⦄
    ⦃nameMap : Bool⦄ ⦃depth : Nat⦄ ⦃hits : List Hit⦄,
    scanNode doc side place nameMap depth x = .ok hits → HitsOf doc x place nameMap hits
  | .arr xs => by
    intro place nameMap depth hits h
    rw [scanNode] at h
    split_ifs at h
    exact .array (scanElements_hits xs h)
  | .obj ms => by
    intro place nameMap depth hits h
    rw [scanNode] at h
    split_ifs at h
    obtain ⟨below, scanned, returned⟩ := Signer.bind_ok.mp h
    obtain rfl := Except.ok.inj returned
    exact .object (scanMembers_hits ms scanned)
  | .null => by
    intro place nameMap depth hits h
    simp only [scanNode] at h
    split_ifs at h
    obtain rfl := Except.ok.inj h
    exact .scalar (fun p node at_ => by cases at_; rfl) rfl
  | .bool b => by
    intro place nameMap depth hits h
    simp only [scanNode] at h
    split_ifs at h
    obtain rfl := Except.ok.inj h
    exact .scalar (fun p node at_ => by cases at_; rfl) rfl
  | .num text => by
    intro place nameMap depth hits h
    simp only [scanNode] at h
    split_ifs at h
    obtain rfl := Except.ok.inj h
    exact .scalar (fun p node at_ => by cases at_; rfl) rfl
  | .str units => by
    intro place nameMap depth hits h
    simp only [scanNode] at h
    split_ifs at h
    obtain rfl := Except.ok.inj h
    exact .scalar (fun p node at_ => by cases at_; rfl) rfl

theorem scanElements_hits {doc : JsonData} {side : String} : (xs : List JsonData) →
    ∀ ⦃place : Place⦄ ⦃depth j : Nat⦄ ⦃hits : List Hit⦄,
    scanElements doc side place depth j xs = .ok hits → ElementHits doc xs place j hits
  | [] => by
    intro place depth j hits h
    rw [scanElements] at h
    obtain rfl := Except.ok.inj h
    simp [ElementHits]
  | x :: xs => by
    intro place depth j hits h
    rw [scanElements] at h
    obtain ⟨here, first, h⟩ := Signer.bind_ok.mp h
    obtain ⟨rest, others, returned⟩ := Signer.bind_ok.mp h
    obtain rfl := Except.ok.inj returned
    exact .cons (scanNode_hits x first) (scanElements_hits xs others)

theorem scanMembers_hits {doc : JsonData} {side : String} : (ms : List (Key × JsonData)) →
    ∀ ⦃place : Place⦄ ⦃nameMap : Bool⦄ ⦃depth : Nat⦄ ⦃hits : List Hit⦄,
    scanMembers doc side place nameMap depth ms = .ok hits → MemberHits doc ms place nameMap hits
  | [] => by
    intro place nameMap depth hits h
    rw [scanMembers] at h
    obtain rfl := Except.ok.inj h
    simp [MemberHits]
  | (k, x) :: ms => by
    intro place nameMap depth hits h
    rw [scanMembers] at h
    obtain ⟨here, first, h⟩ := Signer.bind_ok.mp h
    obtain ⟨rest, others, returned⟩ := Signer.bind_ok.mp h
    obtain rfl := Except.ok.inj returned
    refine .cons ?_ (scanMembers_hits ms others)
    intro ref q
    -- a payload is skipped with all that is below it
    by_cases payload : (!nameMap && isPayloadKey k) = true
    · rw [if_pos payload] at first
      obtain rfl := Except.ok.inj first
      simp [flagAt, flagChild, payload]
    · rw [if_neg payload] at first
      have scanned := scanNode_hits x first ref q
      simpa [flagAt, flagChild, payload, List.append_assoc] using scanned

end

/-- The scan's hits are the references it enters that do not resolve. -/
theorem unresolvedRefs_hits {doc : JsonData} {side : String} {hits : List Hit}
    (h : unresolvedRefs doc side = .ok hits) (ref : Key) (p : Place) :
    (∃ hit ∈ hits, hit.ref = ref ∧ hit.place = p) ↔ Entered p ∧ Unresolvable doc p ref := by
  rw [scanNode_hits doc h]
  constructor
  · rintro ⟨q, node, rfl, entered, at_, dangles⟩
    exact ⟨entered, node, at_, dangles⟩
  · rintro ⟨entered, node, at_, dangles⟩
    exact ⟨p, node, rfl, entered, at_, dangles⟩

/-! ## What is reported -/

theorem mem_freshHits {vendored served : List Hit} {reported : List Place} {ref : Key} {h : Hit} :
    h ∈ freshHits vendored served reported ref ↔ h ∈ served ∧ h.ref = ref ∧ h.place ∉ reported ∧
      ∀ v ∈ vendored, v.ref = ref → locOf v.place ≠ locOf h.place := by
  simp only [freshHits, List.mem_filter, decide_eq_true_eq, Bool.and_eq_true, Bool.not_eq_true',
    List.contains_eq_mem, decide_eq_false_iff_not, List.mem_map, not_exists, not_and, and_assoc,
    ne_eq]

/-- What the finding of a reference holds: its hits but those reported or known before. -/
theorem findingOf_places {vendored served : List Hit} {reported : List Place} {ref : Key}
    {p : Place} :
    (∃ f ∈ findingOf vendored served reported ref, p ∈ f.places) ↔
      (∃ h ∈ served, h.ref = ref ∧ h.place = p) ∧ p ∉ reported ∧
        ∀ v ∈ vendored, v.ref = ref → locOf v.place ≠ locOf p := by
  have held : (∃ f ∈ findingOf vendored served reported ref, p ∈ f.places) ↔
      ∃ h ∈ freshHits vendored served reported ref, h.place = p := by
    unfold findingOf
    cases freshHits vendored served reported ref with
    | nil => simp
    | cons h hs => simp [Finding.places, eq_comm]
  simp only [held, mem_freshHits]
  constructor
  · rintro ⟨h, ⟨among, named, unreported, unknown⟩, rfl⟩
    exact ⟨⟨h, among, named, rfl⟩, unreported, unknown⟩
  · rintro ⟨⟨h, among, named, rfl⟩, unreported, unknown⟩
    exact ⟨h, ⟨among, named, unreported, unknown⟩, rfl⟩

theorem findingOf_ref {vendored served : List Hit} {reported : List Place} {ref : Key}
    {f : Finding} (found : findingOf vendored served reported ref = some f) : f.ref = ref := by
  unfold findingOf at found
  split at found
  · simp at found
  · obtain rfl := Option.some.inj found
    rfl

/-- A place is reported for a reference: before, or by the scan. -/
def Reported (reported : List Place) (findings : List Finding) (ref : Key) (p : Place) : Prop :=
  p ∈ reported ∨ ∃ f ∈ findings, f.ref = ref ∧ p ∈ f.places

/-- What the scan reports of a pair of documents within its depth. -/
theorem compareRefs_reports {served vendored : JsonData} {reported : List Place}
    {findings : List Finding} (h : compareRefs served vendored reported = .ok findings)
    (ref : Key) (p : Place) : Reported reported findings ref p ↔
      p ∈ reported ∨ Entered p ∧ Unresolvable served p ref ∧
        ∀ q, Entered q → Unresolvable vendored q ref → locOf q ≠ locOf p := by
  obtain ⟨vendoredHits, scannedVendored, h⟩ := Signer.bind_ok.mp h
  obtain ⟨servedHits, scannedServed, returned⟩ := Signer.bind_ok.mp h
  obtain rfl := Except.ok.inj returned
  have known : (∀ h ∈ vendoredHits, h.ref = ref → locOf h.place ≠ locOf p) ↔
      ∀ q, Entered q → Unresolvable vendored q ref → locOf q ≠ locOf p := by
    constructor
    · intro apart q entered dangles
      obtain ⟨hit, among, named, rfl⟩ :=
        (unresolvedRefs_hits scannedVendored ref q).mpr ⟨entered, dangles⟩
      exact apart hit among named
    · intro apart hit among named
      obtain ⟨entered, dangles⟩ :=
        (unresolvedRefs_hits scannedVendored ref hit.place).mp ⟨hit, among, named, rfl⟩
      exact apart hit.place entered dangles
  have found : (∃ f ∈ (servedHits.map (·.ref)).eraseDups.filterMap
        (findingOf vendoredHits servedHits reported), f.ref = ref ∧ p ∈ f.places) ↔
      ∃ f ∈ findingOf vendoredHits servedHits reported ref, p ∈ f.places := by
    simp only [List.mem_filterMap, List.mem_eraseDups, List.mem_map, Option.mem_def]
    constructor
    · rintro ⟨f, ⟨r, -, made⟩, rfl, among⟩
      obtain rfl := findingOf_ref made
      exact ⟨f, made, among⟩
    · rintro ⟨f, made, among⟩
      obtain ⟨⟨hit, present, named, -⟩, -⟩ := findingOf_places.mp ⟨f, made, among⟩
      exact ⟨f, ⟨ref, ⟨hit, present, named⟩, made⟩, findingOf_ref made, among⟩
  unfold Reported
  rw [found, findingOf_places, known, unresolvedRefs_hits scannedServed]
  by_cases before : p ∈ reported
  · simp [before]
  · simp [before, and_assoc]

/-- Every served reference that does not resolve is reported, but for one the vendored document has
at the same place. -/
def ReportsAll (served vendored : JsonData) (reported : List Place)
    (findings : List Finding) : Prop :=
  ∀ ref p, IsReferencePlace p → Unresolvable served p ref → ¬Unresolvable vendored p ref →
    Reported reported findings ref p

/-- The scan enters the place, and spells its location as that of no other place where the vendored
document has the same reference unresolved. -/
def Told (vendored : JsonData) (ref : Key) (p : Place) : Prop :=
  Entered p ∧ ∀ q, Entered q → Unresolvable vendored q ref → locOf q = locOf p → q = p

/-- `resolveRef` ends and finds what the chain of references reaches; and the comparison reports
every reference exactly where the places of those it has to report are told apart. -/
theorem ref_scan_exact (served vendored : JsonData) (reported : List Place) :
    (∀ doc node, ∃ r, resolveRef doc node = some r ∧
      ∀ z, r = .ok z ↔ ∃ n, Reaches doc n node z) ∧
    (∀ doc n node z, Reaches doc n node z → isObj node = true → isObj z = true ∧ refOf z = none) ∧
    ∀ findings, compareRefs served vendored reported = .ok findings →
      (ReportsAll served vendored reported findings ↔
        ∀ ref p, IsReferencePlace p → Unresolvable served p ref → ¬Unresolvable vendored p ref →
          p ∉ reported → Told vendored ref p) := by
  refine ⟨resolveRef_spec, fun _ _ _ _ chain object => chain.ends object, ?_⟩
  intro findings h
  refine forall₂_congr fun ref p => forall₃_congr fun _ dangles fresh => ?_
  rw [compareRefs_reports h]
  constructor
  · rintro (before | ⟨entered, -, apart⟩) unreported
    · exact absurd before unreported
    · exact ⟨entered, fun q there stays same => absurd same (apart q there stays)⟩
  · intro told
    by_cases before : p ∈ reported
    · exact Or.inl before
    · obtain ⟨entered, single⟩ := told before
      refine Or.inr ⟨entered, dangles, fun q there stays same => ?_⟩
      rw [single q there stays same] at stays
      exact fresh stays

/-- A document whose one reference, to another document, stands under the key `a.b`. -/
def dottedDocument : JsonData :=
  .obj [(word "a.b", .obj [(word "$ref", .str (word "x"))])]

/-- The same reference under `b` in `a`. -/
def nestedDocument : JsonData :=
  .obj [(word "a", .obj [(word "b", .obj [(word "$ref", .str (word "x"))])])]

theorem not_reaches_external {doc : JsonData} :
    ¬∃ n z, Reaches doc n (.obj [(word "$ref", .str (word "x"))]) z := by
  rintro ⟨n, z, chain⟩
  cases chain with
  | here plain => exact absurd plain (by decide)
  | follow reference names =>
    obtain rfl := Option.some.inj reference
    obtain ⟨fragment, _, _, external, -⟩ := names
    exact absurd (List.cons.inj external).1 (by decide)

/-- The two places are spelled alike, so the served reference is not reported. -/
theorem dotted_reference_hidden :
    compareRefs dottedDocument nestedDocument [] = .ok [] ∧
    ¬ReportsAll dottedDocument nestedDocument [] [] := by
  refine ⟨rfl, fun all => ?_⟩
  have served : Unresolvable dottedDocument [.key (word "a.b")] (word "x") :=
    ⟨_, .member List.mem_cons_self .here, rfl, not_reaches_external⟩
  have vendored : ¬Unresolvable nestedDocument [.key (word "a.b")] (word "x") := by
    rintro ⟨node, at_, -⟩
    cases at_ with
    | member found _ =>
      have key := congrArg Prod.fst (List.mem_singleton.mp found)
      exact absurd (show word "a.b" = word "a" from key) (by decide)
  rcases all _ _ (by unfold IsReferencePlace; decide) served vendored with before | ⟨f, among, -⟩
  · exact absurd before (by simp)
  · exact absurd among (by simp)

end XochiSdk.Wire
