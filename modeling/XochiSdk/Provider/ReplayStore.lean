import XochiSdk.Provider.ReplayDb
import XochiSdk.Sdk.OracleCodec

/-!
# The contract of a replay store

What a store retains under a key, and what its calls do to it: a call may first drop records. The
store in memory keeps the contract.
-/

namespace XochiSdk.Provider

open XochiSdk.Js

/-- The second state retains what the first does, but for records that were dropped. -/
def Drops {σ : Type} (retained : σ → DbKey → Option SignSignalsResult) (s s' : σ) : Prop :=
  ∀ key, retained s' key = retained s key ∨ retained s' key = none

/-- `ReplayDb`, with its contract. -/
structure ReplayDb (σ : Type) where
  retained : σ → DbKey → Option SignSignalsResult
  fresh : σ
  /-- A call of `size`, or the store's own eviction. -/
  Sweep : σ → σ → Prop
  Lookup : σ → DbKey → Option SignSignalsResult → σ → Prop
  /-- A call of `recordCanonical`, with the state in which it finds the existing record. -/
  Record : σ → DbKey → Int → SignSignalsResult → ReplayRecordResult → σ → σ → Prop
  fresh_retains : ∀ key, retained fresh key = none
  sweep_drops : ∀ {s s'}, Sweep s s' → Drops retained s s'
  lookup_drops : ∀ {s key found s'}, Lookup s key found s' → Drops retained s s'
  lookup_found : ∀ {s key found s'}, Lookup s key found s' → found = retained s' key
  record_drops : ∀ {s key timestamp candidate answer swept s'},
    Record s key timestamp candidate answer swept s' → Drops retained s swept
  /-- A bundle of the same identity wins. -/
  record_existing : ∀ {s key timestamp candidate answer swept s' existing},
    Record s key timestamp candidate answer swept s' → retained swept key = some existing →
    resultMatchesIdentity existing candidate.pubkeyX candidate.pubkeyY = true →
    answer = ⟨existing, false⟩ ∧ retained s' key = some existing
  record_new : ∀ {s key timestamp candidate answer swept s'},
    Record s key timestamp candidate answer swept s' →
    (∀ existing, retained swept key = some existing →
      resultMatchesIdentity existing candidate.pubkeyX candidate.pubkeyY = false) →
    answer = ⟨candidate, true⟩ ∧ retained s' key = some candidate
  record_other : ∀ {s key timestamp candidate answer swept s' other},
    Record s key timestamp candidate answer swept s' → other ≠ key →
    retained s' other = retained swept other ∨ retained s' other = none

/-! ## The keys of the store in memory -/

theorem hexText_injective {a b : Nat} (same : Sdk.hexText a = Sdk.hexText b) : a = b := by
  rw [← Sdk.readDigits_hexText a, same, Sdk.readDigits_hexText]

theorem signedHex_chars (value : Int) : ':' ∉ signedHex value := by
  have digits : ∀ n, ':' ∉ Sdk.hexText n := by
    intro n among
    exact absurd (Sdk.hexText_digits n ':' among) (by decide)
  cases value with
  | ofNat n => exact digits n
  | negSucc n =>
    intro among
    rcases List.mem_cons.mp among with minus | among
    · exact absurd minus (by decide)
    · exact digits _ among

theorem signedHex_injective {a b : Int} (same : signedHex a = signedHex b) : a = b := by
  have unsigned : ∀ n cs, Sdk.hexText n ≠ '-' :: cs := by
    intro n cs minus
    have digit := Sdk.hexText_digits n '-' (by rw [minus]; exact List.mem_cons_self)
    exact absurd digit (by decide)
  cases a with
  | ofNat m =>
    cases b with
    | ofNat n => exact congrArg Int.ofNat (hexText_injective same)
    | negSucc n => exact absurd same (unsigned m _)
  | negSucc m =>
    cases b with
    | ofNat n => exact absurd same.symm (unsigned n _)
    | negSucc n =>
      have next := hexText_injective (List.cons.inj same).2
      exact congrArg Int.negSucc (Nat.succ.inj next)

theorem split_colon {as bs xs ys : List Char} (ha : ':' ∉ as) (hb : ':' ∉ bs)
    (same : as ++ ':' :: xs = bs ++ ':' :: ys) : as = bs ∧ xs = ys := by
  have front : ∀ cs zs : List Char, ':' ∉ cs → (cs ++ ':' :: zs).takeWhile (· ≠ ':') = cs := by
    intro cs zs none
    rw [List.takeWhile_append_of_pos]
    · simp
    · intro c among
      rw [decide_eq_true_eq]
      rintro rfl
      exact none among
  have first : as = bs := by
    rw [← front as xs ha, same, front bs ys hb]
  subst first
  exact ⟨rfl, (List.cons.inj (List.append_cancel_left same)).2⟩

theorem keyFor_injective {a b : DbKey} (same : keyFor a = keyFor b) : a = b := by
  obtain ⟨submitter, payload⟩ := split_colon (signedHex_chars _) (signedHex_chars _) same
  obtain ⟨submitterA, payloadA⟩ := a
  obtain ⟨submitterB, payloadB⟩ := b
  obtain rfl := signedHex_injective submitter
  have bytes : payloadA = payloadB := by
    rw [← (pairBytes_printed payloadA).2.2, payload, (pairBytes_printed payloadB).2.2]
  rw [bytes]

/-! ## The calls of the store in memory -/

/-- Some of a map's entries read what the map reads, or nothing. -/
theorem get_sublist {κ α : Type} [DecidableEq κ] {m m' : JsMap κ α} (once : m.KeysOnce)
    (fewer : m'.entries.Sublist m.entries) (key : κ) :
    m'.get key = m.get key ∨ m'.get key = none := by
  cases found : m'.get key with
  | none => exact Or.inr rfl
  | some value => exact Or.inl (JsMap.get_of_mem once (fewer.subset (JsMap.mem_of_get found))).symm

namespace MemoryReplayDb

theorem retained_sublist {db db' : MemoryReplayDb}
    (fewer : db'.entries.entries.Sublist db.entries.entries) : Drops retained db db' := by
  intro key
  unfold retained
  rcases get_sublist db.once fewer (keyFor key) with same | none
  · exact Or.inl (by rw [same])
  · exact Or.inr (by rw [none]; rfl)

theorem evictExpired_drops (now : Int) (db : MemoryReplayDb) :
    Drops retained db (db.evictExpired now) :=
  retained_sublist List.filter_sublist

theorem mem_dropOldest {maxEntries : Nat} (positive : 0 < maxEntries)
    (es : List (List Char × LedgerEntry)) (e : List Char × LedgerEntry) :
    e ∈ dropOldest maxEntries (es ++ [e]) := by
  induction es with
  | nil =>
    rw [List.nil_append, dropOldest, if_neg (by simp only [List.length_singleton]; omega)]
    exact List.mem_singleton_self e
  | cons f es ih =>
    rw [List.cons_append, dropOldest]
    split_ifs
    · exact ih
    · simp

theorem retained_retain (db : MemoryReplayDb) (key : DbKey) (entry : LedgerEntry) :
    (db.retain key entry).retained key = some entry.result := by
  have appended : ((db.entries.delete (keyFor key)).set (keyFor key) entry).entries =
      (db.entries.delete (keyFor key)).entries ++ [(keyFor key, entry)] := by
    have absent : (db.entries.delete (keyFor key)).has (keyFor key) = false := by
      rw [JsMap.has, JsMap.get_delete_self]
      rfl
    rw [JsMap.set, absent]
    rfl
  have mem : (keyFor key, entry) ∈ (db.retain key entry).entries.entries := by
    rw [retain]
    simp only [appended]
    exact mem_dropOldest db.positive _ _
  rw [retained, JsMap.get_of_mem (db.retain key entry).once mem]
  rfl

theorem retained_retain_other (db : MemoryReplayDb) {key other : DbKey} (entry : LedgerEntry)
    (differs : other ≠ key) :
    (db.retain key entry).retained other = db.retained other ∨
      (db.retain key entry).retained other = none := by
  have apart : keyFor other ≠ keyFor key := fun same => differs (keyFor_injective same)
  have before : ((db.entries.delete (keyFor key)).set (keyFor key) entry).get (keyFor other) =
      db.entries.get (keyFor other) := by
    rw [JsMap.get_set_of_ne _ _ apart, JsMap.get_delete_of_ne _ apart]
  have once := JsMap.keysOnce_set (db.once.sublist
    ((@List.filter_sublist _ (fun e => e.1 ≠ keyFor key) _).map Prod.fst)) (keyFor key) entry
  rcases get_sublist once (dropOldest_suffix db.maxEntries _).sublist (keyFor other) with
    same | none
  · refine Or.inl ?_
    rw [retained, retained, ← before]
    exact congrArg (Option.map (·.result)) same
  · refine Or.inr ?_
    rw [retained]
    exact congrArg (Option.map (·.result)) none

theorem recordSwept_existing {db : MemoryReplayDb} {key : DbKey} {timestamp : Int}
    {candidate existing : SignSignalsResult} (found : db.retained key = some existing)
    (same : resultMatchesIdentity existing candidate.pubkeyX candidate.pubkeyY = true) :
    db.recordSwept key timestamp candidate = (⟨existing, false⟩, db) := by
  rw [recordSwept, found]
  exact if_pos same

theorem recordSwept_new {db : MemoryReplayDb} {key : DbKey} {timestamp : Int}
    {candidate : SignSignalsResult}
    (none_ : ∀ existing, db.retained key = some existing →
      resultMatchesIdentity existing candidate.pubkeyX candidate.pubkeyY = false) :
    db.recordSwept key timestamp candidate =
      (⟨candidate, true⟩, db.retain key ⟨timestamp, candidate⟩) := by
  rw [recordSwept]
  cases found : db.retained key with
  | none => rfl
  | some existing => simp [none_ existing found]

end MemoryReplayDb

/-- The store in memory, with its calls at any times. -/
def memoryReplayDb (retentionSeconds maxEntries : Nat) (positive : 0 < maxEntries) :
    ReplayDb MemoryReplayDb where
  retained := MemoryReplayDb.retained
  fresh := ⟨.empty, retentionSeconds, maxEntries, List.nodup_nil, positive⟩
  Sweep s s' := ∃ now, s' = s.evictExpired now
  Lookup s key found s' := ∃ now, s.lookup now key = (found, s')
  Record s key timestamp candidate answer swept s' := ∃ now, swept = s.evictExpired now ∧
    s.recordCanonical now key timestamp candidate = (answer, s')
  fresh_retains _ := rfl
  sweep_drops := by
    rintro s _ ⟨now, rfl⟩
    exact MemoryReplayDb.evictExpired_drops now s
  lookup_drops := by
    rintro s key found s' ⟨now, call⟩
    obtain ⟨-, rfl⟩ := Prod.mk.inj call
    exact MemoryReplayDb.evictExpired_drops now s
  lookup_found := by
    rintro s key found s' ⟨now, call⟩
    obtain ⟨rfl, rfl⟩ := Prod.mk.inj call
    rfl
  record_drops := by
    rintro s key timestamp candidate answer swept s' ⟨now, rfl, -⟩
    exact MemoryReplayDb.evictExpired_drops now s
  record_existing := by
    rintro s key timestamp candidate answer swept s' existing ⟨now, rfl, call⟩ found same
    rw [MemoryReplayDb.recordCanonical, MemoryReplayDb.recordSwept_existing found same] at call
    obtain ⟨rfl, rfl⟩ := Prod.mk.inj call
    exact ⟨rfl, found⟩
  record_new := by
    rintro s key timestamp candidate answer swept s' ⟨now, rfl, call⟩ none_
    rw [MemoryReplayDb.recordCanonical, MemoryReplayDb.recordSwept_new none_] at call
    obtain ⟨rfl, rfl⟩ := Prod.mk.inj call
    exact ⟨rfl, MemoryReplayDb.retained_retain _ _ _⟩
  record_other := by
    rintro s key timestamp candidate answer swept s' other ⟨now, rfl, call⟩ differs
    rw [MemoryReplayDb.recordCanonical] at call
    by_cases known : ∃ existing, (s.evictExpired now).retained key = some existing ∧
        resultMatchesIdentity existing candidate.pubkeyX candidate.pubkeyY = true
    · obtain ⟨existing, found, same⟩ := known
      rw [MemoryReplayDb.recordSwept_existing found same] at call
      obtain ⟨-, rfl⟩ := Prod.mk.inj call
      exact Or.inl rfl
    · have none_ : ∀ existing, (s.evictExpired now).retained key = some existing →
          resultMatchesIdentity existing candidate.pubkeyX candidate.pubkeyY = false := by
        intro existing found
        rw [← Bool.not_eq_true]
        exact fun same => known ⟨existing, found, same⟩
      rw [MemoryReplayDb.recordSwept_new none_] at call
      obtain ⟨-, rfl⟩ := Prod.mk.inj call
      exact MemoryReplayDb.retained_retain_other _ _ differs

end XochiSdk.Provider
