import XochiSdk.Library.History
import XochiSdk.Client.Transport.QuoteKey
import Mathlib.Logic.Function.Basic

/-!
# The quote cache

`packages/client/src/transport/client.ts`, `getQuote`, `invalidateQuote` and `clearQuoteCache`:
replies are cached under their request's key, and calls for one key while a fetch is out join
it. A call runs to its first `await` in one step; a fetch's end wakes the call that started it,
and whatever runs between the two reads nothing the end has changed, so the two are one step.
-/

namespace XochiSdk.Client.Transport

open XochiSdk.Js XochiSdk.Shared XochiSdk.Library

/-- `CachedQuote`, with the fetch it answers: the promise it was awaited from. -/
structure CachedQuote where
  quote : QuoteResponse
  timestamp : Int
  promise : Nat

/-- A call of `fetchQuote`; its promise is its place among them. -/
structure Fetch where
  request : QuoteRequest
  forceRefresh : Bool
  settled : Bool

/-- What a client closes over: the two maps, and the fetches sent so far, oldest first. -/
structure QuoteStore where
  quoteCache : String → Option CachedQuote
  pendingQuotes : String → Option Nat
  fetches : List Fetch

/-- Where a `getQuote` call takes its quote from. -/
inductive Source where
  | cached (entry : CachedQuote)
  | pending (promise : Nat)
  | fetched (promise : Nat)

def Source.promise : Source → Nat
  | .cached entry => entry.promise
  | .pending promise | .fetched promise => promise

/-- A call of the client, or the end of a fetch, with the reading of `Date.now()` it makes. -/
inductive Event where
  | getQuote (request : QuoteRequest) (forceRefresh : Bool) (now : Int)
  | resolved (promise : Nat) (quote : QuoteResponse) (now : Int)
  | rejected (promise : Nat)
  | invalidateQuote (request : QuoteRequest)
  | clearQuoteCache

/-- `createXochiClient`: both maps empty, nothing sent. -/
def QuoteStore.empty : QuoteStore := ⟨fun _ => none, fun _ => none, []⟩

/-- Whether a reply is kept for the next caller: a pull authorization is good once. -/
def cacheable (quote : QuoteResponse) : Bool := quote.success && quote.pullAuthorization.isNone

namespace QuoteStore

/-- A cached quote within its time to live. -/
def live (ttl : ℚ) (s : QuoteStore) (key : String) (now : Int) : Option CachedQuote :=
  (s.quoteCache key).filter fun entry => ((now - entry.timestamp : Int) : ℚ) < ttl

section

variable [Host]

/-- `getQuote` up to its first `await`. -/
def getQuote (ttl : ℚ) (s : QuoteStore) (request : QuoteRequest) (forceRefresh : Bool) (now : Int) :
    Source × QuoteStore :=
  let requestHash := hashQuoteRequest request
  -- A scheduled refresh must always fetch fresh: drop any cached or pending entry.
  let s := if forceRefresh then
      { s with
        quoteCache := Function.update s.quoteCache requestHash none
        pendingQuotes := Function.update s.pendingQuotes requestHash none }
    else s
  match if forceRefresh then none else s.live ttl requestHash now with
  | some entry => (.cached entry, s)
  | none =>
    match s.pendingQuotes requestHash with
    | some promise => (.pending promise, s)
    | none =>
      let promise := s.fetches.length
      (.fetched promise,
        { s with
          pendingQuotes := Function.update s.pendingQuotes requestHash (some promise)
          fetches := s.fetches ++ [⟨request, forceRefresh, false⟩] })

/-- The `finally` of the call that started a fetch. -/
def finish (s : QuoteStore) (promise : Nat) (fetch : Fetch) : QuoteStore :=
  let requestHash := hashQuoteRequest fetch.request
  { s with
    pendingQuotes :=
      if s.pendingQuotes requestHash = some promise then
        Function.update s.pendingQuotes requestHash none
      else s.pendingQuotes
    fetches := s.fetches.set promise { fetch with settled := true } }

/-- The rest of the call that started a fetch, once its reply is there. -/
def resolve (s : QuoteStore) (promise : Nat) (fetch : Fetch) (quote : QuoteResponse) (now : Int) :
    QuoteStore :=
  let requestHash := hashQuoteRequest fetch.request
  let s := if cacheable quote then
      { s with
        quoteCache := Function.update s.quoteCache requestHash (some ⟨quote, now, promise⟩) }
    else s
  s.finish promise fetch

def invalidateQuote (s : QuoteStore) (request : QuoteRequest) : QuoteStore :=
  { s with quoteCache := Function.update s.quoteCache (hashQuoteRequest request) none }

end

def clearQuoteCache (s : QuoteStore) : QuoteStore := { s with quoteCache := fun _ => none }

/-- A fetch that is still out. -/
def Out (s : QuoteStore) (promise : Nat) (fetch : Fetch) : Prop :=
  s.fetches[promise]? = some fetch ∧ fetch.settled = false

end QuoteStore

section

variable [Host]

/-- One step of the client. -/
inductive Next (ttl : ℚ) : QuoteStore → Event → List Source → QuoteStore → Prop where
  | getQuote (s : QuoteStore) (request : QuoteRequest) (forceRefresh : Bool) (now : Int) :
      Next ttl s (.getQuote request forceRefresh now) [(s.getQuote ttl request forceRefresh now).1]
        (s.getQuote ttl request forceRefresh now).2
  | resolved {s : QuoteStore} {promise : Nat} {fetch : Fetch} (quote : QuoteResponse) (now : Int)
      (out : s.Out promise fetch) :
      Next ttl s (.resolved promise quote now) [] (s.resolve promise fetch quote now)
  | rejected {s : QuoteStore} {promise : Nat} {fetch : Fetch} (out : s.Out promise fetch) :
      Next ttl s (.rejected promise) [] (s.finish promise fetch)
  | invalidateQuote (s : QuoteStore) (request : QuoteRequest) :
      Next ttl s (.invalidateQuote request) [] (s.invalidateQuote request)
  | clearQuoteCache (s : QuoteStore) : Next ttl s .clearQuoteCache [] s.clearQuoteCache

/-- The state a client is created in. -/
def Created (s : QuoteStore) : Prop := s = .empty

abbrev QuoteLog := List (Happening QuoteStore Event Source)

/-- A key's quotes a client can hand out: the cached one and the pending one. -/
def QuoteStore.Holds (s : QuoteStore) (key : String) (promise : Nat) : Prop :=
  (∃ entry, s.quoteCache key = some entry ∧ entry.promise = promise) ∨
    s.pendingQuotes key = some promise

/-- A fetch was sent for the key. -/
def QuoteStore.SentFor (s : QuoteStore) (key : String) (promise : Nat) : Prop :=
  ∃ fetch, s.fetches[promise]? = some fetch ∧ hashQuoteRequest fetch.request = key

/-- What the maps keep of the fetches: each entry is its own key's, a pending fetch is its key's
last, and no cached quote carries a pull authorization. -/
structure Filed (s : QuoteStore) : Prop where
  held : ∀ key promise, s.Holds key promise → s.SentFor key promise
  last : ∀ key promise later, s.pendingQuotes key = some promise → s.SentFor key later →
    later ≤ promise
  plain : ∀ key entry, s.quoteCache key = some entry → entry.quote.pullAuthorization = none

/-- The store once a call has sent a fetch of its own. -/
def QuoteStore.sending (s : QuoteStore) (request : QuoteRequest) (forceRefresh : Bool) : QuoteStore :=
  let requestHash := hashQuoteRequest request
  { quoteCache :=
      if forceRefresh then Function.update s.quoteCache requestHash none else s.quoteCache
    pendingQuotes := Function.update s.pendingQuotes requestHash (some s.fetches.length)
    fetches := s.fetches ++ [⟨request, forceRefresh, false⟩] }

/-- A call serves the cached quote, joins the pending fetch, or sends its own. -/
theorem getQuote_cases (ttl : ℚ) (s : QuoteStore) (request : QuoteRequest) (forceRefresh : Bool)
    (now : Int) :
    (∃ entry, forceRefresh = false ∧ s.live ttl (hashQuoteRequest request) now = some entry ∧
      s.getQuote ttl request forceRefresh now = (.cached entry, s)) ∨
    (∃ promise, forceRefresh = false ∧ s.live ttl (hashQuoteRequest request) now = none ∧
      s.pendingQuotes (hashQuoteRequest request) = some promise ∧
      s.getQuote ttl request forceRefresh now = (.pending promise, s)) ∨
    s.getQuote ttl request forceRefresh now =
      (.fetched s.fetches.length, s.sending request forceRefresh) := by
  cases forceRefresh with
  | true =>
    refine .inr (.inr ?_)
    simp only [QuoteStore.getQuote, QuoteStore.sending, if_true, Function.update_self,
      Function.update_idem]
  | false =>
    cases cached : s.live ttl (hashQuoteRequest request) now with
    | some entry =>
      refine .inl ⟨entry, rfl, rfl, ?_⟩
      simp [QuoteStore.getQuote, cached]
    | none =>
      cases pending : s.pendingQuotes (hashQuoteRequest request) with
      | some promise =>
        refine .inr (.inl ⟨promise, rfl, rfl, rfl, ?_⟩)
        simp [QuoteStore.getQuote, cached, pending]
      | none =>
        refine .inr (.inr ?_)
        simp [QuoteStore.getQuote, QuoteStore.sending, cached, pending]

omit [Host] in
theorem live_cached {ttl : ℚ} {s : QuoteStore} {key : String} {now : Int} {entry : CachedQuote}
    (h : s.live ttl key now = some entry) : s.quoteCache key = some entry :=
  (Option.filter_eq_some_iff.mp h).1

theorem QuoteStore.SentFor.lt {s : QuoteStore} {key : String} {promise : Nat} (h : s.SentFor key promise) :
    promise < s.fetches.length := by
  obtain ⟨fetch, found, -⟩ := h
  exact (List.getElem?_eq_some_iff.mp found).1

theorem sentFor_sending {s : QuoteStore} {request : QuoteRequest} {forceRefresh : Bool}
    {key : String} {promise : Nat} :
    (s.sending request forceRefresh).SentFor key promise ↔
      s.SentFor key promise ∨ promise = s.fetches.length ∧ hashQuoteRequest request = key := by
  unfold QuoteStore.SentFor QuoteStore.sending
  constructor
  · rintro ⟨fetch, found, filed⟩
    rcases Nat.lt_trichotomy promise s.fetches.length with lt | rfl | gt
    · rw [List.getElem?_append_left lt] at found
      exact .inl ⟨fetch, found, filed⟩
    · simp only [List.getElem?_concat_length, Option.some.injEq] at found
      subst found
      exact .inr ⟨rfl, filed⟩
    · rw [List.getElem?_eq_none (by simp; omega)] at found
      cases found
  · rintro (⟨fetch, found, filed⟩ | ⟨rfl, filed⟩)
    · have lt := (List.getElem?_eq_some_iff.mp found).1
      exact ⟨fetch, by rw [List.getElem?_append_left lt]; exact found, filed⟩
    · exact ⟨⟨request, forceRefresh, false⟩, by simp, filed⟩

theorem sentFor_finish {s : QuoteStore} {promise : Nat} {fetch : Fetch}
    (found : s.fetches[promise]? = some fetch) {key : String} {other : Nat} :
    (s.finish promise fetch).SentFor key other ↔ s.SentFor key other := by
  unfold QuoteStore.SentFor QuoteStore.finish
  dsimp only
  have lt := (List.getElem?_eq_some_iff.mp found).1
  by_cases same : promise = other
  · subst same
    rw [List.getElem?_set_self lt, found]
    simp
  · rw [List.getElem?_set_ne same]

theorem finish_pending {s : QuoteStore} {promise other : Nat} {fetch : Fetch} {key : String}
    (h : (s.finish promise fetch).pendingQuotes key = some other) :
    s.pendingQuotes key = some other := by
  unfold QuoteStore.finish at h
  dsimp only at h
  split at h
  · by_cases same : key = hashQuoteRequest fetch.request
    · subst same
      simp at h
    · rwa [Function.update_of_ne same] at h
  · exact h

theorem resolve_pending {s : QuoteStore} {promise other : Nat} {fetch : Fetch}
    {quote : QuoteResponse} {now : Int} {key : String}
    (h : (s.resolve promise fetch quote now).pendingQuotes key = some other) :
    s.pendingQuotes key = some other := by
  unfold QuoteStore.resolve at h
  have := finish_pending h
  split at this <;> exact this

/-- A reply leaves the cache as it was, but for its own key where it is kept. -/
theorem resolve_cache (s : QuoteStore) (promise : Nat) (fetch : Fetch) (quote : QuoteResponse)
    (now : Int) :
    (s.resolve promise fetch quote now).quoteCache =
      if cacheable quote then
        Function.update s.quoteCache (hashQuoteRequest fetch.request) (some ⟨quote, now, promise⟩)
      else s.quoteCache := by
  unfold QuoteStore.resolve QuoteStore.finish
  split <;> rfl

theorem sentFor_resolve {s : QuoteStore} {promise : Nat} {fetch : Fetch} {quote : QuoteResponse}
    {now : Int} (found : s.fetches[promise]? = some fetch) {key : String} {other : Nat} :
    (s.resolve promise fetch quote now).SentFor key other ↔ s.SentFor key other := by
  unfold QuoteStore.resolve
  split <;> exact sentFor_finish found

/-- The entries after a step are the ones before it, the fetch it sent, or the reply it kept. -/
theorem Next.cached {ttl : ℚ} {s s' : QuoteStore} {i : Event} {fx : List Source}
    (next : Next ttl s i fx s') {key : String} {entry : CachedQuote}
    (h : s'.quoteCache key = some entry) :
    s.quoteCache key = some entry ∨
      ∃ fetch quote now, i = .resolved entry.promise quote now ∧ s.Out entry.promise fetch ∧
        hashQuoteRequest fetch.request = key ∧ cacheable quote = true ∧ entry.quote = quote := by
  cases next with
  | getQuote request forceRefresh now =>
    rcases getQuote_cases ttl s request forceRefresh now with ⟨_, -, -, out⟩ | ⟨_, -, -, -, out⟩ | out
    · rw [out] at h
      exact .inl h
    · rw [out] at h
      exact .inl h
    · rw [out] at h
      simp only [QuoteStore.sending] at h
      split at h
      · by_cases same : key = hashQuoteRequest request
        · subst same
          simp at h
        · exact .inl (by rwa [Function.update_of_ne same] at h)
      · exact .inl h
  | @resolved promise fetch quote now out =>
    rw [resolve_cache] at h
    split at h
    · rename_i kept
      by_cases same : key = hashQuoteRequest fetch.request
      · subst same
        simp only [Function.update_self, Option.some.injEq] at h
        subst h
        exact .inr ⟨fetch, quote, now, rfl, out, rfl, kept, rfl⟩
      · exact .inl (by rwa [Function.update_of_ne same] at h)
    · exact .inl h
  | rejected out => exact .inl h
  | invalidateQuote request =>
    simp only [QuoteStore.invalidateQuote] at h
    by_cases same : key = hashQuoteRequest request
    · subst same
      simp at h
    · exact .inl (by rwa [Function.update_of_ne same] at h)
  | clearQuoteCache => cases h

theorem Next.pending {ttl : ℚ} {s s' : QuoteStore} {i : Event} {fx : List Source}
    (next : Next ttl s i fx s') {key : String} {promise : Nat}
    (h : s'.pendingQuotes key = some promise) :
    s.pendingQuotes key = some promise ∨
      promise = s.fetches.length ∧ ∃ request forceRefresh,
        s' = s.sending request forceRefresh ∧ hashQuoteRequest request = key := by
  cases next with
  | getQuote request forceRefresh now =>
    rcases getQuote_cases ttl s request forceRefresh now with ⟨_, -, -, out⟩ | ⟨_, -, -, -, out⟩ | out
    · rw [out] at h
      exact .inl h
    · rw [out] at h
      exact .inl h
    · rw [out] at h ⊢
      simp only [QuoteStore.sending] at h
      by_cases same : key = hashQuoteRequest request
      · subst same
        simp only [Function.update_self, Option.some.injEq] at h
        exact .inr ⟨h.symm, request, forceRefresh, rfl, rfl⟩
      · exact .inl (by rwa [Function.update_of_ne same] at h)
  | resolved quote now out => exact .inl (resolve_pending h)
  | rejected out => exact .inl (finish_pending h)
  | invalidateQuote | clearQuoteCache => exact .inl h

/-- What a key was asked for is never unsaid, and grows by the fetch a step sends. -/
theorem Next.sentFor {ttl : ℚ} {s s' : QuoteStore} {i : Event} {fx : List Source}
    (next : Next ttl s i fx s') {key : String} {promise : Nat} :
    s'.SentFor key promise ↔ s.SentFor key promise ∨
      promise = s.fetches.length ∧ ∃ request forceRefresh,
        s' = s.sending request forceRefresh ∧ hashQuoteRequest request = key := by
  have unsent (h : s'.fetches.length = s.fetches.length) :
      (s.SentFor key promise ∨ promise = s.fetches.length ∧ ∃ request forceRefresh,
        s' = s.sending request forceRefresh ∧ hashQuoteRequest request = key) ↔
      s.SentFor key promise := by
    refine ⟨?_, .inl⟩
    rintro (sent | ⟨-, request, forceRefresh, rfl, -⟩)
    · exact sent
    · simp [QuoteStore.sending] at h
  cases next with
  | getQuote request forceRefresh now =>
    rcases getQuote_cases ttl s request forceRefresh now with ⟨_, -, -, out⟩ | ⟨_, -, -, -, out⟩ | out
    · rw [out] at unsent ⊢
      exact (unsent rfl).symm
    · rw [out] at unsent ⊢
      exact (unsent rfl).symm
    · rw [out]
      rw [sentFor_sending]
      constructor
      · rintro (sent | ⟨rfl, same⟩)
        · exact .inl sent
        · exact .inr ⟨rfl, request, forceRefresh, rfl, same⟩
      · rintro (sent | ⟨rfl, other, force', same, rfl⟩)
        · exact .inl sent
        · have fetches := congrArg QuoteStore.fetches same
          simp only [QuoteStore.sending, List.append_cancel_left_eq, List.cons.injEq, Fetch.mk.injEq,
            and_true] at fetches
          exact .inr ⟨rfl, by rw [fetches.1]⟩
  | resolved quote now out =>
    rw [unsent (by unfold QuoteStore.resolve QuoteStore.finish; split <;> simp)]
    exact sentFor_resolve out.1
  | rejected out =>
    rw [unsent (by simp [QuoteStore.finish])]
    exact sentFor_finish out.1
  | invalidateQuote | clearQuoteCache =>
    rw [unsent rfl]
    rfl

theorem Filed.empty : Filed .empty where
  held key promise h := by
    rcases h with ⟨entry, h, -⟩ | h <;> cases h
  last key promise later h := by cases h
  plain key entry h := by cases h

theorem Filed.next {ttl : ℚ} {s s' : QuoteStore} {i : Event} {fx : List Source} (filed : Filed s)
    (next : Next ttl s i fx s') : Filed s' where
  held key promise h := by
    rw [next.sentFor]
    rcases h with ⟨entry, h, rfl⟩ | h
    · rcases next.cached h with before | ⟨fetch, quote, now, rfl, out, same, -, -⟩
      · exact .inl (filed.held _ _ (.inl ⟨entry, before, rfl⟩))
      · exact .inl ⟨fetch, out.1, same⟩
    · rcases next.pending h with before | sent
      · exact .inl (filed.held _ _ (.inr before))
      · exact .inr sent
  last key promise later h sent := by
    rcases next.pending h with before | ⟨rfl, -⟩
    · rcases next.sentFor.mp sent with earlier | ⟨rfl, request, forceRefresh, rfl, same⟩
      · exact filed.last _ _ _ before earlier
      · -- the fetch just sent is the pending one
        subst same
        simp only [QuoteStore.sending, Function.update_self, Option.some.injEq] at h
        exact h.le
    · rcases next.sentFor.mp sent with earlier | ⟨rfl, -⟩
      · exact earlier.lt.le
      · exact le_rfl
  plain key entry h := by
    rcases next.cached h with before | ⟨fetch, quote, now, -, -, -, kept, rfl⟩
    · exact filed.plain _ _ before
    · simp only [cacheable, Bool.and_eq_true, Option.isNone_iff_eq_none] at kept
      exact kept.2

/-- A run of the client, with its log. -/
abbrev QuoteRun (ttl : ℚ) : QuoteLog → QuoteStore → Prop := Run Created (Next ttl)

theorem QuoteRun.filed {ttl : ℚ} {log : QuoteLog} {s : QuoteStore} (run : QuoteRun ttl log s) :
    Filed s :=
  run.invariant (P := fun _ s => Filed s)
    (by
      rintro _ rfl
      exact .empty)
    fun _ _ _ _ _ _ filed next => filed.next next

end

end XochiSdk.Client.Transport
