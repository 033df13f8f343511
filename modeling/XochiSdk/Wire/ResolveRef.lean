import XochiSdk.Js.UriText
import XochiSdk.Signer.IntentVerify
import Mathlib.Data.List.Perm.Subperm

/-!
# Local references

`resolveRef` of `packages/spec/wire/compare.mjs`: the chain of `$ref`s from a node of a parsed
document to the first node that is none. A document is a tree, so a node's identity is its place.
-/

namespace XochiSdk.Wire

open XochiSdk.Js XochiSdk.Library PointerText

abbrev Key := List Nat

/-- The depth past which no walk goes. -/
def maxDepth : Nat := 100

/-- The code units of a word. -/
def word (s : String) : Key := s.toList.map Char.toNat

/-- What leads from a node to one below it. -/
inductive Step where
  | key (k : Key)
  | index (i : Nat)
  deriving DecidableEq

abbrev Place := List Step

def isObj : JsonData → Bool
  | .obj _ => true
  | _ => false

/-- The node at a place. -/
def nodeAt : JsonData → Place → Option JsonData
  | x, [] => some x
  | .obj ms, .key k :: p => ((JsonData.obj ms).member k).bind (nodeAt · p)
  | .arr xs, .index i :: p => xs[i]?.bind (nodeAt · p)
  | _, _ :: _ => none

/-- `node.$ref`, where it is a string. -/
def refOf (node : JsonData) : Option Key :=
  match node.member (word "$ref") with
  | some (.str ref) => some ref
  | _ => none

/-- The index a token names: digits without a leading zero. -/
def arrayIndex (token : Key) : Option Nat :=
  if token = [48] then some 0
  else if token ≠ [] ∧ token.head? ≠ some 48 ∧ token.all (fun u => 48 ≤ u && u ≤ 57) then
    some (token.foldl (fun n u => n * 10 + (u - 48)) 0)
  else none

/-- `Object.hasOwn(target, key) ? target[key] : undefined` of an object or an array. -/
def own : JsonData → Key → Option (Step × JsonData)
  | .obj ms, key => ((JsonData.obj ms).member key).map fun y => (.key key, y)
  | .arr xs, key =>
    if key = word "length" then some (.key key, .num (toString xs.length).toList)
    else (arrayIndex key).bind fun i => xs[i]?.map fun y => (.index i, y)
  | _, _ => none

/-- One token of the pointer; `none` is `undefined`. -/
def followToken (target : Option (Place × JsonData)) (token : Key) :
    Except String (Option (Place × JsonData)) :=
  if hasBadEscape token then .error "malformed ~ escape"
  else .ok (target.bind fun (place, x) =>
    (own x (unescapeToken token)).map fun (step, y) => (place ++ [step], y))

/-- `pointer === "" ? [] : pointer.slice(1).split("/")`. -/
def tokensOf : Key → List Key
  | [] => []
  | _ :: cs => splitSlash cs

/-- The target of a reference, if an object. -/
def landing : Option (Place × JsonData) → Except String (Place × JsonData)
  | some (place, x) => if isObj x then .ok (place, x) else .error "dangling"
  | none => .error "dangling"

/-- What one reference names, with its place. -/
def targetOf (doc : JsonData) (ref : Key) : Except String (Place × JsonData) :=
  match ref with
  | 35 :: fragment =>
    match decodeURIComponent fragment with
    | none => .error "malformed percent-encoding"
    | some pointer =>
      if pointer ≠ [] ∧ pointer.head? ≠ some 47 then
        .error "malformed: the fragment is not a JSON pointer"
      else (tokensOf pointer).foldlM followToken (some ([], doc)) >>= landing
  | _ => .error "not a local ref"

/-- `while (isObj(cur) && typeof cur.$ref === "string")`; `none` where it has not ended. -/
def resolveLoop (doc : JsonData) : Nat → List Place → JsonData → Option (Except String JsonData)
  | fuel, seen, cur =>
    match refOf cur with
    | none => some (.ok cur)
    | some ref =>
      match fuel with
      | 0 => none
      | fuel + 1 =>
        match targetOf doc ref with
        | .error reason => some (.error reason)
        | .ok (place, x) =>
          if place ∈ seen then some (.error "cyclic") else resolveLoop doc fuel (place :: seen) x

mutual

/-- The places of a document. -/
def places : JsonData → List Place
  | .arr xs => [] :: placesElements 0 xs
  | .obj ms => [] :: placesMembers ms
  | _ => [[]]

def placesElements : Nat → List JsonData → List Place
  | _, [] => []
  | i, x :: xs => (places x).map (.index i :: ·) ++ placesElements (i + 1) xs

def placesMembers : List (Key × JsonData) → List Place
  | [] => []
  | (k, x) :: ms => (places x).map (.key k :: ·) ++ placesMembers ms

end

/-- `resolveRef`; the loop's rounds are bounded by the document's places. -/
def resolveRef (doc node : JsonData) : Option (Except String JsonData) :=
  resolveLoop doc ((places doc).length + 1) [] node

/-! ## What a chain of references reaches -/

/-- A node and one that a key of it names. -/
inductive Child : JsonData → Key → JsonData → Prop where
  | member {ms : List (Key × JsonData)} {key : Key} {y : JsonData}
      (found : (JsonData.obj ms).member key = some y) : Child (.obj ms) key y
  | element {xs : List JsonData} {key : Key} {i : Nat} {y : JsonData}
      (index : arrayIndex key = some i) (found : xs[i]? = some y) : Child (.arr xs) key y

inductive Walk : JsonData → List Key → JsonData → Prop where
  | nil {x : JsonData} : Walk x [] x
  | cons {x y z : JsonData} {key : Key} {keys : List Key} (first : Child x key y)
      (rest : Walk y keys z) : Walk x (key :: keys) z

/-- The node that a local reference names, read as a URI fragment that holds a pointer. -/
def Designates (doc : JsonData) (ref : Key) (target : JsonData) : Prop :=
  ∃ fragment pointer keys, ref = 35 :: fragment ∧ PercentDecoded fragment pointer ∧
    Pointer pointer keys ∧ Walk doc keys target

/-- The chain of local references from a node, and how many there are to one that is none. -/
inductive Reaches (doc : JsonData) : Nat → JsonData → JsonData → Prop where
  | here {x : JsonData} (plain : refOf x = none) : Reaches doc 0 x x
  | follow {n : Nat} {x y z : JsonData} {ref : Key} (reference : refOf x = some ref)
      (names : Designates doc ref y) (object : isObj y = true) (rest : Reaches doc n y z) :
      Reaches doc (n + 1) x z

/-! ## One reference -/

/-- The walk of the keys a pointer's tokens name. -/
def walkKeys : Place → JsonData → List Key → Option (Place × JsonData)
  | place, x, [] => some (place, x)
  | place, x, key :: keys => (own x key).bind fun (step, y) => walkKeys (place ++ [step]) y keys

theorem foldlM_followToken {tokens : List Key} {target : Option (Place × JsonData)}
    {r : Option (Place × JsonData)} :
    tokens.foldlM followToken target = .ok r ↔ tokens.any hasBadEscape = false ∧
      (target.bind fun (place, x) => walkKeys place x (tokens.map unescapeToken)) = r := by
  induction tokens generalizing target with
  | nil =>
    cases target <;> simp [walkKeys, pure, Except.pure]
  | cons token tokens ih =>
    rw [List.foldlM_cons, List.any_cons]
    by_cases bad : hasBadEscape token = true
    · simp [followToken, bad, bind, Except.bind]
    · rw [Bool.not_eq_true] at bad
      simp only [followToken, bad, Bool.false_eq_true, if_false, bind, Except.bind, Bool.false_or]
      rw [ih]
      refine and_congr_right fun _ => ?_
      cases target with
      | none => simp
      | some at_ =>
        obtain ⟨place, x⟩ := at_
        simp only [Option.bind_some, List.map_cons, walkKeys]
        cases own x (unescapeToken token) <;> simp

theorem walkKeys_num {place : Place} {digits : List Char} {keys : List Key} {q : Place}
    {y : JsonData} (h : walkKeys place (.num digits) keys = some (q, y)) : isObj y = false := by
  cases keys with
  | nil =>
    simp only [walkKeys, Option.some.injEq, Prod.mk.injEq] at h
    rw [← h.2]
    rfl
  | cons key keys => simp [walkKeys, own] at h

/-- To an object the keys lead as the pointer's grammar has it, and to one place. -/
theorem walkKeys_object {keys : List Key} {place : Place} {x y : JsonData}
    (object : isObj y = true) :
    (∃ q, walkKeys place x keys = some (q, y)) ↔ Walk x keys y := by
  induction keys generalizing place x with
  | nil =>
    simp only [walkKeys, Option.some.injEq, Prod.mk.injEq, exists_and_right]
    constructor
    · rintro ⟨-, rfl⟩
      exact .nil
    · intro h
      cases h
      simp
  | cons key keys ih =>
    simp only [walkKeys, Option.bind_eq_some_iff, Prod.exists]
    constructor
    · rintro ⟨q, step, z, first, rest⟩
      cases x with
      | obj ms =>
        simp only [own, Option.map_eq_some_iff, Prod.mk.injEq] at first
        obtain ⟨w, found, -, rfl⟩ := first
        exact .cons (.member found) (ih.mp ⟨q, rest⟩)
      | arr xs =>
        simp only [own] at first
        split_ifs at first with length
        · simp only [Option.some.injEq, Prod.mk.injEq] at first
          rw [← first.2] at rest
          exact absurd (walkKeys_num rest) (by simp [object])
        · simp only [Option.bind_eq_some_iff, Option.map_eq_some_iff, Prod.mk.injEq] at first
          obtain ⟨i, index, w, found, -, rfl⟩ := first
          exact .cons (.element index found) (ih.mp ⟨q, rest⟩)
      | null => simp [own] at first
      | bool => simp [own] at first
      | num => simp [own] at first
      | str => simp [own] at first
    · intro h
      cases h with
      | @cons _ z _ _ _ first rest =>
        cases first with
        | @member ms _ _ found =>
          obtain ⟨q, walked⟩ := (@ih (place ++ [.key key]) _).mpr rest
          exact ⟨q, .key key, z, by simp [own, found], walked⟩
        | @element xs _ i _ index found =>
          obtain ⟨q, walked⟩ := (@ih (place ++ [.index i]) _).mpr rest
          have unnumbered : arrayIndex (word "length") = none := by decide
          have other : key ≠ word "length" := by
            rintro rfl
            rw [unnumbered] at index
            cases index
          exact ⟨q, .index i, z, by simp [own, other, index, found], walked⟩

theorem landing_ok {found : Option (Place × JsonData)} {place : Place} {x : JsonData} :
    landing found = .ok (place, x) ↔ found = some (place, x) ∧ isObj x = true := by
  cases found with
  | none => simp [landing]
  | some at_ =>
    obtain ⟨q, y⟩ := at_
    simp only [landing]
    split_ifs with object
    · simp only [Except.ok.injEq, Prod.mk.injEq, Option.some.injEq, iff_self_and]
      rintro ⟨-, rfl⟩
      exact object
    · simp only [Option.some.injEq, Prod.mk.injEq, false_iff, not_and]
      rintro ⟨-, rfl⟩
      exact object

/-- What a reference passes before it has a target. -/
theorem targetOf_ok {doc x : JsonData} {ref : Key} {place : Place} :
    targetOf doc ref = .ok (place, x) ↔ ∃ fragment pointer keys, ref = 35 :: fragment ∧
      decodeURIComponent fragment = some pointer ∧ pointerKeys pointer = some keys ∧
      walkKeys [] doc keys = some (place, x) ∧ isObj x = true := by
  have keys_of {pointer : Key} : (∃ keys, pointerKeys pointer = some keys ∧
      walkKeys [] doc keys = some (place, x) ∧ isObj x = true) ↔
      ¬(pointer ≠ [] ∧ pointer.head? ≠ some 47) ∧
        (tokensOf pointer).foldlM followToken (some ([], doc)) >>= landing = .ok (place, x) := by
    simp only [Signer.bind_ok, landing_ok, foldlM_followToken]
    cases pointer with
    | nil => simp [pointerKeys, tokensOf]
    | cons u cs =>
      by_cases slash : u = 47
      · cases bad : (splitSlash cs).any hasBadEscape <;>
          simp [pointerKeys, tokensOf, slash, bad]
      · simp [pointerKeys, slash]
  constructor
  · intro h
    unfold targetOf at h
    split at h
    · rename_i fragment
      split at h
      · simp at h
      · rename_i pointer decoded
        split_ifs at h with malformed
        obtain ⟨keys, spelled, walked, object⟩ := keys_of.mpr ⟨malformed, h⟩
        exact ⟨fragment, pointer, keys, rfl, decoded, spelled, walked, object⟩
    · simp at h
  · rintro ⟨fragment, pointer, keys, rfl, decoded, spelled, walked, object⟩
    obtain ⟨formed, followed⟩ := keys_of.mp ⟨keys, spelled, walked, object⟩
    simp only [targetOf, decoded, if_neg formed, followed]

/-- A reference has a target exactly where it designates an object. -/
theorem targetOf_iff {doc x : JsonData} {ref : Key} :
    (∃ place, targetOf doc ref = .ok (place, x)) ↔ Designates doc ref x ∧ isObj x = true := by
  simp only [targetOf_ok, decodeURIComponent_iff, pointerKeys_iff]
  constructor
  · rintro ⟨place, fragment, pointer, keys, local_, decoded, spelled, walked, object⟩
    exact ⟨⟨fragment, pointer, keys, local_, decoded, spelled,
      (walkKeys_object object).mp ⟨place, walked⟩⟩, object⟩
  · rintro ⟨⟨fragment, pointer, keys, local_, decoded, spelled, walked⟩, object⟩
    obtain ⟨place, walked⟩ := (walkKeys_object object).mpr walked
    exact ⟨place, fragment, pointer, keys, local_, decoded, spelled, walked, object⟩

/-! ## The chain -/

theorem nodeAt_append {doc x : JsonData} {place : Place} {step : Step}
    (here : nodeAt doc place = some x) :
    nodeAt doc (place ++ [step]) = nodeAt x [step] := by
  induction place generalizing doc with
  | nil =>
    obtain rfl := Option.some.inj here
    rfl
  | cons first place ih =>
    cases doc <;> cases first <;> simp only [nodeAt, List.cons_append, reduceCtorEq] at here ⊢
    · obtain ⟨y, found, later⟩ := Option.bind_eq_some_iff.mp here
      rw [found, Option.bind_some, ih later]
    · obtain ⟨y, found, later⟩ := Option.bind_eq_some_iff.mp here
      rw [found, Option.bind_some, ih later]

/-- What the keys lead to stands at the place they pass. -/
theorem walkKeys_nodeAt {doc x y : JsonData} {keys : List Key} {place q : Place}
    (here : nodeAt doc place = some x) (walked : walkKeys place x keys = some (q, y))
    (object : isObj y = true) : nodeAt doc q = some y := by
  induction keys generalizing place x with
  | nil =>
    simp only [walkKeys, Option.some.injEq, Prod.mk.injEq] at walked
    rwa [← walked.1, ← walked.2]
  | cons key keys ih =>
    obtain ⟨⟨step, z⟩, first, rest⟩ := Option.bind_eq_some_iff.mp walked
    cases x with
    | obj ms =>
      obtain ⟨w, found, same⟩ := Option.map_eq_some_iff.mp first
      obtain ⟨rfl, rfl⟩ := Prod.mk.inj same
      refine ih ?_ rest
      rw [nodeAt_append here]
      simp [nodeAt, found]
    | arr xs =>
      simp only [own] at first
      split_ifs at first with length
      · obtain ⟨rfl, rfl⟩ := Prod.mk.inj (Option.some.inj first)
        exact absurd (walkKeys_num rest) (by simp [object])
      · obtain ⟨i, index, element⟩ := Option.bind_eq_some_iff.mp first
        obtain ⟨w, found, same⟩ := Option.map_eq_some_iff.mp element
        obtain ⟨rfl, rfl⟩ := Prod.mk.inj same
        refine ih ?_ rest
        rw [nodeAt_append here]
        simp only [nodeAt]
        rw [found]
        rfl
    | null => simp [own] at first
    | bool => simp [own] at first
    | num => simp [own] at first
    | str => simp [own] at first

theorem targetOf_nodeAt {doc x : JsonData} {ref : Key} {place : Place}
    (h : targetOf doc ref = .ok (place, x)) : nodeAt doc place = some x ∧ isObj x = true := by
  obtain ⟨_, _, _, -, -, -, walked, object⟩ := targetOf_ok.mp h
  have root : nodeAt doc [] = some doc := by cases doc <;> rfl
  exact ⟨walkKeys_nodeAt root walked object, object⟩

theorem mem_placesMembers {ms : List (Key × JsonData)} {k : Key} {y : JsonData} {place : Place}
    (member : (k, y) ∈ ms) (below : place ∈ places y) :
    .key k :: place ∈ placesMembers ms := by
  induction ms with
  | nil => simp at member
  | cons m ms ih =>
    rw [placesMembers, List.mem_append]
    rcases List.mem_cons.mp member with rfl | later
    · exact Or.inl (List.mem_map.mpr ⟨place, below, rfl⟩)
    · exact Or.inr (ih later)

theorem mem_placesElements {xs : List JsonData} {i j : Nat} {y : JsonData} {place : Place}
    (element : xs[i]? = some y) (below : place ∈ places y) :
    .index (j + i) :: place ∈ placesElements j xs := by
  induction xs generalizing i j with
  | nil => simp at element
  | cons x xs ih =>
    rw [placesElements, List.mem_append]
    cases i with
    | zero =>
      obtain rfl := Option.some.inj element
      exact Or.inl (List.mem_map.mpr ⟨place, below, rfl⟩)
    | succ i =>
      refine Or.inr ?_
      have := ih (i := i) (j := j + 1) element
      rwa [show j + 1 + i = j + (i + 1) by omega] at this

theorem member_mem {ms : List (Key × JsonData)} {k : Key} {y : JsonData}
    (found : (JsonData.obj ms).member k = some y) : (k, y) ∈ ms := by
  obtain ⟨m, first, rfl⟩ := Option.map_eq_some_iff.mp found
  have key : m.1 = k := by simpa using List.find?_some first
  have mem := List.mem_reverse.mp (List.mem_of_find?_eq_some first)
  rw [← key]
  exact mem

/-- Every node's place is among the places. -/
theorem mem_places {doc x : JsonData} {place : Place} (here : nodeAt doc place = some x) :
    place ∈ places doc := by
  induction place generalizing doc with
  | nil => cases doc <;> simp [places]
  | cons first place ih =>
    cases doc <;> cases first <;> simp only [nodeAt, reduceCtorEq] at here
    · obtain ⟨y, found, later⟩ := Option.bind_eq_some_iff.mp here
      rw [places, List.mem_cons]
      have := mem_placesElements (j := 0) found (ih later)
      rw [Nat.zero_add] at this
      exact Or.inr this
    · obtain ⟨y, found, later⟩ := Option.bind_eq_some_iff.mp here
      rw [places, List.mem_cons]
      exact Or.inr (mem_placesMembers (member_mem found) (ih later))

/-- The loop ends: it never sees a place twice. -/
theorem resolveLoop_ends {doc : JsonData} {fuel : Nat} {seen : List Place} {cur : JsonData}
    (once : seen.Nodup) (known : ∀ p ∈ seen, p ∈ places doc)
    (enough : (places doc).length < fuel + seen.length) :
    resolveLoop doc fuel seen cur ≠ none := by
  induction fuel generalizing seen cur with
  | zero =>
    have few : seen.length ≤ (places doc).length := (once.subperm known).length_le
    omega
  | succ fuel ih =>
    unfold resolveLoop
    cases refOf cur with
    | none => simp
    | some ref =>
      simp only
      cases target : targetOf doc ref with
      | error reason => simp
      | ok found =>
        obtain ⟨place, x⟩ := found
        simp only
        split_ifs with again
        · simp
        · refine ih (List.nodup_cons.mpr ⟨again, once⟩) ?_ ?_
          · intro p among
            rcases List.mem_cons.mp among with rfl | before
            · exact mem_places (targetOf_nodeAt target).1
            · exact known p before
          · rw [List.length_cons]
            omega

theorem Walk.unique {x y z : JsonData} {keys : List Key} (first : Walk x keys y)
    (second : Walk x keys z) : y = z := by
  induction first with
  | nil =>
    cases second
    rfl
  | cons child rest ih =>
    cases second with
    | cons child' rest' =>
      refine ih ?_
      cases child with
      | member found =>
        cases child' with
        | member found' =>
          rw [found, Option.some.injEq] at found'
          rwa [found']
      | element index found =>
        cases child' with
        | element index' found' =>
          rw [index, Option.some.injEq] at index'
          rw [← index', found, Option.some.injEq] at found'
          rwa [found']

theorem Designates.unique {doc y z : JsonData} {ref : Key} (first : Designates doc ref y)
    (second : Designates doc ref z) : y = z := by
  obtain ⟨f, p, k, rfl, decoded, spelled, walked⟩ := first
  obtain ⟨f', p', k', same, decoded', spelled', walked'⟩ := second
  obtain rfl := (List.cons.inj same).2
  rw [← decodeURIComponent_iff] at decoded decoded'
  rw [decoded, Option.some.injEq] at decoded'
  subst decoded'
  rw [← pointerKeys_iff] at spelled spelled'
  rw [spelled, Option.some.injEq] at spelled'
  subst spelled'
  exact walked.unique walked'

/-- A chain has one length and one end. -/
theorem Reaches.unique {doc : JsonData} {n m : Nat} {x y z : JsonData} (first : Reaches doc n x y)
    (second : Reaches doc m x z) : n = m ∧ y = z := by
  induction first generalizing m with
  | here plain =>
    cases second with
    | here => exact ⟨rfl, rfl⟩
    | follow reference => simp [plain] at reference
  | follow reference names object rest ih =>
    cases second with
    | here plain => simp [plain] at reference
    | follow reference' names' object' rest' =>
      rw [reference, Option.some.injEq] at reference'
      subst reference'
      obtain rfl := names.unique names'
      obtain ⟨rfl, rfl⟩ := ih rest'
      exact ⟨rfl, rfl⟩

/-- A chain that ends is followed to its end: each node seen before is further from it. -/
theorem resolveLoop_reaches {doc z : JsonData} {n : Nat} {cur : JsonData}
    (chain : Reaches doc n cur z) {fuel : Nat} {seen : List Place} {r : Except String JsonData}
    (before : ∀ p ∈ seen, ∃ w m, nodeAt doc p = some w ∧ Reaches doc m w z ∧ n ≤ m)
    (ended : resolveLoop doc fuel seen cur = some r) : r = .ok z := by
  induction chain generalizing fuel seen with
  | here plain =>
    rw [resolveLoop, plain, Option.some.injEq] at ended
    exact ended.symm
  | @follow n x y z ref reference names object rest ih =>
    obtain ⟨place, target⟩ := targetOf_iff.mpr ⟨names, object⟩
    have stands := (targetOf_nodeAt target).1
    have fresh : place ∉ seen := by
      intro again
      obtain ⟨w, m, there, longer, more⟩ := before place again
      rw [stands, Option.some.injEq] at there
      subst there
      have := (rest.unique longer).1
      omega
    cases fuel with
    | zero => simp [resolveLoop, reference] at ended
    | succ fuel =>
      rw [resolveLoop, reference] at ended
      simp only [target, if_neg fresh] at ended
      refine ih ?_ ended
      intro p among
      rcases List.mem_cons.mp among with rfl | earlier
      · exact ⟨y, n, stands, rest, le_rfl⟩
      · obtain ⟨w, m, there, longer, more⟩ := before p earlier
        exact ⟨w, m, there, longer, by omega⟩

/-- What the loop returns, the chain reaches. -/
theorem reaches_of_resolveLoop {doc z : JsonData} {fuel : Nat} {seen : List Place}
    {cur : JsonData} (ended : resolveLoop doc fuel seen cur = some (.ok z)) :
    ∃ n, Reaches doc n cur z := by
  induction fuel generalizing seen cur with
  | zero =>
    unfold resolveLoop at ended
    split at ended
    · rename_i plain
      obtain rfl := Except.ok.inj (Option.some.inj ended)
      exact ⟨0, .here plain⟩
    · simp at ended
  | succ fuel ih =>
    unfold resolveLoop at ended
    split at ended
    · rename_i plain
      obtain rfl := Except.ok.inj (Option.some.inj ended)
      exact ⟨0, .here plain⟩
    · rename_i ref reference
      simp only at ended
      split at ended
      · simp at ended
      · rename_i place x target
        split_ifs at ended
        · simp at ended
        · obtain ⟨n, rest⟩ := ih ended
          obtain ⟨names, object⟩ := targetOf_iff.mp ⟨place, target⟩
          exact ⟨n + 1, .follow reference names object rest⟩

/-- `resolveRef` ends on every document, and returns exactly the node its chain reaches. -/
theorem resolveRef_spec (doc node : JsonData) :
    ∃ r, resolveRef doc node = some r ∧ ∀ z, r = .ok z ↔ ∃ n, Reaches doc n node z := by
  have ends : resolveRef doc node ≠ none :=
    resolveLoop_ends List.nodup_nil (by simp) (by simp)
  obtain ⟨r, ended⟩ := Option.ne_none_iff_exists'.mp ends
  refine ⟨r, ended, fun z => ⟨?_, ?_⟩⟩
  · rintro rfl
    exact reaches_of_resolveLoop ended
  · rintro ⟨n, chain⟩
    exact resolveLoop_reaches chain (by simp) ended

/-- From an object a chain ends at an object that is no reference. -/
theorem Reaches.ends {doc : JsonData} {n : Nat} {x z : JsonData} (chain : Reaches doc n x z)
    (object : isObj x = true) : isObj z = true ∧ refOf z = none := by
  induction chain with
  | here plain => exact ⟨object, plain⟩
  | follow _ _ object' _ ih => exact ih object'

end XochiSdk.Wire
