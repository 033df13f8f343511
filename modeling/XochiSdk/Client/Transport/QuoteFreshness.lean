import Mathlib.Algebra.Order.Archimedean.Basic
import Mathlib.Tactic.Linarith
import XochiSdk.Client.Machine.Progress
import XochiSdk.Client.Transport.QuoteCache

/-!
# How fresh a served quote is

A forced refresh that resolved, and an invalidation that returned, put every quote of the key
asked for before them out of date. The client keeps to that along a run exactly where each
reply and each invalidation comes in time.
-/

namespace XochiSdk.Client.Transport

open XochiSdk.Js XochiSdk.Shared XochiSdk.Library

section

variable [Host]

/-- A step puts the key's fetches before a point out of date: a forced refresh resolves, or an
invalidation returns. -/
def Outdates (s : QuoteStore) (i : Event) (key : String) (promise : Nat) : Prop :=
  match i with
  | .resolved refresh _ _ => ∃ fetch, s.fetches[refresh]? = some fetch ∧
      fetch.forceRefresh = true ∧ hashQuoteRequest fetch.request = key ∧ promise < refresh
  | .invalidateQuote request => hashQuoteRequest request = key ∧ promise < s.fetches.length
  | .clearQuoteCache => promise < s.fetches.length
  | .getQuote .. | .rejected _ => False

/-- Some step of the log put it out of date. -/
def Outdated (log : QuoteLog) (key : String) (promise : Nat) : Prop :=
  ∃ s i, .handled s i ∈ log ∧ Outdates s i key promise

/-- Whatever is asked next: a call that forces nothing is not served a quote out of date, and no
call is served a pull authorization from the cache. -/
structure Fresh (ttl : ℚ) (log : QuoteLog) (s : QuoteStore) : Prop where
  fresh : ∀ request now, ¬ Outdated log (hashQuoteRequest request)
    (s.getQuote ttl request false now).1.promise
  unpulled : ∀ request forceRefresh now entry,
    (s.getQuote ttl request forceRefresh now).1 = .cached entry →
      entry.quote.pullAuthorization = none

/-- A step in time: a reply to be cached is not out of date, a refresh whose reply is not cached
finds no older quote in the cache, and an invalidation finds nothing pending. -/
def Timely (log : QuoteLog) (s : QuoteStore) (i : Event) : Prop :=
  match i with
  | .resolved promise quote _ => ∀ fetch, s.fetches[promise]? = some fetch →
      if cacheable quote then ¬ Outdated log (hashQuoteRequest fetch.request) promise
      else fetch.forceRefresh = true →
        ∀ entry, s.quoteCache (hashQuoteRequest fetch.request) = some entry →
          promise ≤ entry.promise
  | .invalidateQuote request => s.pendingQuotes (hashQuoteRequest request) = none
  | .clearQuoteCache => ∀ key, s.pendingQuotes key = none
  | .getQuote .. | .rejected _ => True

theorem outdated_append {log : QuoteLog} {s : QuoteStore} {i : Event} {fx : List Source}
    {key : String} {promise : Nat} :
    Outdated (log ++ .handled s i :: fx.map .emitted) key promise ↔
      Outdated log key promise ∨ Outdates s i key promise := by
  unfold Outdated
  constructor
  · rintro ⟨source, input, mem, outdates⟩
    rcases List.mem_append.mp mem with mem | mem
    · exact .inl ⟨source, input, mem, outdates⟩
    · simp only [List.mem_cons, Happening.handled.injEq, List.mem_map, reduceCtorEq, and_false,
        exists_false, or_false] at mem
      obtain ⟨rfl, rfl⟩ := mem
      exact .inr outdates
  · rintro (⟨source, input, mem, outdates⟩ | outdates)
    · exact ⟨source, input, List.mem_append_left _ mem, outdates⟩
    · exact ⟨s, i, by simp, outdates⟩

/-- Only what was sent is out of date. -/
theorem Outdates.sent {s : QuoteStore} {i : Event} {key : String} {promise : Nat}
    (h : Outdates s i key promise) : promise < s.fetches.length := by
  cases i with
  | getQuote | rejected => exact h.elim
  | resolved refresh quote now =>
    obtain ⟨fetch, found, -, -, before⟩ := h
    exact before.trans (List.getElem?_eq_some_iff.mp found).1
  | invalidateQuote request => exact h.2
  | clearQuoteCache => exact h

theorem Next.fetches_length {ttl : ℚ} {s s' : QuoteStore} {i : Event} {fx : List Source}
    (next : Next ttl s i fx s') : s.fetches.length ≤ s'.fetches.length := by
  cases next with
  | getQuote request forceRefresh now =>
    rcases getQuote_cases ttl s request forceRefresh now with ⟨_, -, -, out⟩ | ⟨_, -, -, -, out⟩ | out
    · rw [out]
    · rw [out]
    · rw [out]
      simp [QuoteStore.sending]
  | resolved quote now out =>
    unfold QuoteStore.resolve QuoteStore.finish
    split <;> simp
  | rejected out => simp [QuoteStore.finish]
  | invalidateQuote | clearQuoteCache => exact le_rfl

theorem QuoteRun.outdated_sent {ttl : ℚ} {log : QuoteLog} {s : QuoteStore} (run : QuoteRun ttl log s) :
    ∀ key promise, Outdated log key promise → promise < s.fetches.length :=
  run.invariant (P := fun log s => ∀ key promise, Outdated log key promise → promise < s.fetches.length)
    (by
      rintro s - key promise ⟨source, input, mem, -⟩
      cases mem)
    fun log s i fx s' _ before next key promise outdated => by
      rcases outdated_append.mp outdated with earlier | now
      · exact (before _ _ earlier).trans_le next.fetches_length
      · exact now.sent.trans_le next.fetches_length

omit [Host] in
theorem live_soon (ttl : ℚ) {s : QuoteStore} {key : String} {entry : CachedQuote}
    (cached : s.quoteCache key = some entry) : ∃ now, s.live ttl key now = some entry := by
  obtain ⟨now, early⟩ := exists_int_lt (ttl + entry.timestamp)
  refine ⟨now, Option.filter_eq_some_iff.mpr ⟨cached, ?_⟩⟩
  rw [decide_eq_true_eq]
  push_cast
  linarith

omit [Host] in
theorem live_never (ttl : ℚ) (s : QuoteStore) (key : String) :
    ∃ now, s.live ttl key now = none := by
  cases cached : s.quoteCache key with
  | none => exact ⟨0, by simp [QuoteStore.live, cached]⟩
  | some entry =>
    obtain ⟨now, late⟩ := exists_int_gt (ttl + entry.timestamp)
    refine ⟨now, Option.filter_eq_none_iff.mpr ?_⟩
    intro other same
    rw [cached, Option.some.injEq] at same
    subst same
    rw [decide_eq_true_eq]
    push_cast
    linarith

theorem getQuote_live {ttl : ℚ} {s : QuoteStore} {request : QuoteRequest} {now : Int}
    {entry : CachedQuote} (live : s.live ttl (hashQuoteRequest request) now = some entry) :
    (s.getQuote ttl request false now).1 = .cached entry := by
  simp [QuoteStore.getQuote, live]

/-- What a call is served is what the maps hold, for every clock it may be made at. -/
theorem fresh_iff_held {ttl : ℚ} {log : QuoteLog} {s : QuoteStore} (run : QuoteRun ttl log s) :
    Fresh ttl log s ↔ ∀ key promise, s.Holds key promise → ¬ Outdated log key promise := by
  constructor
  · intro fresh key promise holds
    obtain ⟨fetch, -, rfl⟩ := run.filed.held _ _ holds
    rcases holds with ⟨entry, cached, rfl⟩ | pending
    · obtain ⟨now, live⟩ := live_soon ttl cached
      have := fresh.fresh fetch.request now
      rwa [getQuote_live live] at this
    · obtain ⟨now, none⟩ := live_never ttl s (hashQuoteRequest fetch.request)
      have := fresh.fresh fetch.request now
      simpa [QuoteStore.getQuote, none, pending, Source.promise] using this
  · intro held
    constructor
    · intro request now
      rcases getQuote_cases ttl s request false now with
        ⟨entry, -, live, out⟩ | ⟨promise, -, -, pending, out⟩ | out
      · rw [out]
        exact held _ _ (.inl ⟨entry, live_cached live, rfl⟩)
      · rw [out]
        exact held _ _ (.inr pending)
      · rw [out]
        intro outdated
        exact absurd (run.outdated_sent _ _ outdated) (lt_irrefl _)
    · intro request forceRefresh now entry served
      rcases getQuote_cases ttl s request forceRefresh now with
        ⟨entry', -, live, out⟩ | ⟨promise, -, -, -, out⟩ | out
      · rw [out] at served
        cases served
        exact run.filed.plain _ _ (live_cached live)
      · rw [out] at served
        cases served
      · rw [out] at served
        cases served

/-- A step in time keeps what the maps hold up to date. -/
theorem held_kept {ttl : ℚ} {log : QuoteLog} {s s' : QuoteStore} {i : Event} {fx : List Source}
    (run : QuoteRun ttl log s) (next : Next ttl s i fx s') (timely : Timely log s i)
    (held : ∀ key promise, s.Holds key promise → ¬ Outdated log key promise) {key : String}
    {promise : Nat} (holds : s'.Holds key promise) :
    ¬ Outdated (log ++ .handled s i :: fx.map .emitted) key promise := by
  rw [outdated_append]
  rintro (outdated | outdates)
  · -- nothing out of date comes in
    rcases holds with ⟨entry, cached, rfl⟩ | pending
    · rcases next.cached cached with before | ⟨fetch, quote, now, rfl, out, rfl, kept, -⟩
      · exact held _ _ (.inl ⟨entry, before, rfl⟩) outdated
      · have := timely fetch out.1
        rw [if_pos kept] at this
        exact this outdated
    · rcases next.pending pending with before | ⟨rfl, -⟩
      · exact held _ _ (.inr before) outdated
      · exact absurd (run.outdated_sent _ _ outdated) (lt_irrefl _)
  · -- nothing that stays goes out of date
    cases next with
    | getQuote request forceRefresh now => exact outdates
    | rejected out => exact outdates
    | @resolved refresh fetch quote now out =>
      obtain ⟨fetch', found, forced, rfl, before⟩ := outdates
      obtain rfl : fetch = fetch' := Option.some.inj (out.1.symm.trans found)
      rcases holds with ⟨entry, cached, rfl⟩ | pending
      · have checked := timely fetch found
        rw [resolve_cache] at cached
        by_cases kept : cacheable quote
        · rw [if_pos kept, Function.update_self, Option.some.injEq] at cached
          subst cached
          exact lt_irrefl _ before
        · rw [if_neg kept] at cached checked
          exact absurd before (checked forced entry cached).not_gt
      · have latest := run.filed.last _ _ refresh (resolve_pending pending) ⟨fetch, found, rfl⟩
        exact absurd before latest.not_gt
    | invalidateQuote request =>
      obtain ⟨rfl, -⟩ := outdates
      rcases holds with ⟨entry, cached, -⟩ | pending
      · simp [QuoteStore.invalidateQuote] at cached
      · have pending : s.pendingQuotes (hashQuoteRequest request) = some promise := pending
        have none : s.pendingQuotes (hashQuoteRequest request) = none := timely
        rw [none] at pending
        cases pending
    | clearQuoteCache =>
      rcases holds with ⟨entry, cached, -⟩ | pending
      · cases cached
      · have pending : s.pendingQuotes key = some promise := pending
        rw [timely key] at pending
        cases pending

/-- A step after which the maps hold nothing out of date came in time. -/
theorem held_timely {ttl : ℚ} {log : QuoteLog} {s s' : QuoteStore} {i : Event} {fx : List Source}
    (run : QuoteRun ttl log s) (next : Next ttl s i fx s')
    (held : ∀ key promise, s'.Holds key promise →
      ¬ Outdated (log ++ .handled s i :: fx.map .emitted) key promise) : Timely log s i := by
  have each (key : String) (promise : Nat) (holds : s'.Holds key promise) :
      ¬ Outdated log key promise ∧ ¬ Outdates s i key promise :=
    not_or.mp (mt outdated_append.mpr (held key promise holds))
  cases next with
  | getQuote request forceRefresh now => trivial
  | rejected out => trivial
  | @resolved refresh fetch quote now out =>
    intro fetch' found
    obtain rfl : fetch = fetch' := Option.some.inj (out.1.symm.trans found)
    by_cases kept : cacheable quote
    · rw [if_pos kept]
      refine (each _ refresh (.inl ⟨⟨quote, now, refresh⟩, ?_, rfl⟩)).1
      rw [resolve_cache, if_pos kept, Function.update_self]
    · rw [if_neg kept]
      intro forced entry cached
      have stays : (s.resolve refresh fetch quote now).quoteCache (hashQuoteRequest fetch.request) =
          some entry := by
        rw [resolve_cache, if_neg kept, cached]
      by_contra older
      exact (each _ _ (.inl ⟨entry, stays, rfl⟩)).2
        ⟨fetch, found, forced, rfl, not_le.mp older⟩
  | invalidateQuote request =>
    show s.pendingQuotes (hashQuoteRequest request) = none
    by_contra some
    obtain ⟨promise, pending⟩ := Option.ne_none_iff_exists'.mp some
    exact (each (hashQuoteRequest request) promise (.inr pending)).2
      ⟨rfl, (run.filed.held _ _ (.inr pending)).lt⟩
  | clearQuoteCache =>
    intro key
    by_contra some
    obtain ⟨promise, pending⟩ := Option.ne_none_iff_exists'.mp some
    exact (each key promise (.inr pending)).2 (run.filed.held _ _ (.inr pending)).lt

omit [Host] in
theorem held_created {s : QuoteStore} (created : Created s) (key : String) (promise : Nat) :
    ¬ s.Holds key promise := by
  rintro (⟨entry, cached, -⟩ | pending)
  · rw [created] at cached
    cases cached
  · rw [created] at pending
    cases pending

/-- Every quote served along a run is fresh exactly where every step of it is in time. -/
theorem quotes_fresh_iff (ttl : ℚ) (log : QuoteLog) (s : QuoteStore) :
    Throughout Created (Next ttl) (Fresh ttl) log s ↔
      Guarded Created (Next ttl) Timely log s := by
  apply Throughout.iff_guarded
  · intro s created
    exact (fresh_iff_held (.init created)).mpr
      fun key promise holds => absurd holds (held_created created key promise)
  · intro log s i fx s' run fresh next timely
    exact (fresh_iff_held (run.step next)).mpr
      fun key promise holds => held_kept run next timely ((fresh_iff_held run).mp fresh) holds
  · intro log s i fx s' run _ next fresh
    exact held_timely run next ((fresh_iff_held (run.step next)).mp fresh)

end

/-! ## A quote that outlives its invalidation -/

def sampleRequest : QuoteRequest where
  wallet := some sampleAddress
  preview := some false
  allocationKey := none
  fromChainId := 1
  toChainId := 8453
  fromToken := sampleContext.fromToken
  toToken := sampleContext.toToken
  fromAmount := "1000"
  deadline := 1735689900
  slippageBps := 50
  trustScore := some 0
  settlementPreference := .public
  recipientAddress := none
  refundAddress := none
  stealthMetaAddress := none
  ref := none
  promo := none

/-- A quote without a pull authorization. -/
def plainQuote : QuoteResponse := { sampleQuote with pullAuthorization := none }

/-- A fetch is out when its quote is invalidated; its reply is cached and served after. -/
theorem late_reply_served :
    letI := plainHost
    ∃ log s, QuoteRun 15000 log s ∧ Outdated log (hashQuoteRequest sampleRequest) 0 ∧
      (s.getQuote 15000 sampleRequest false 2).1 = .cached ⟨plainQuote, 1, 0⟩ ∧
      ¬ Fresh 15000 log s := by
  let _ := plainHost
  have first : QuoteStore.empty.getQuote 15000 sampleRequest false 0 =
      (.fetched 0, QuoteStore.empty.sending sampleRequest false) := by
    simp [QuoteStore.getQuote, QuoteStore.live, QuoteStore.empty, QuoteStore.sending]
  have asked := (Run.init rfl : QuoteRun 15000 [] .empty).step (.getQuote _ sampleRequest false 0)
  rw [first] at asked
  have invalidated := asked.step (.invalidateQuote _ sampleRequest)
  have out : ((QuoteStore.empty.sending sampleRequest false).invalidateQuote sampleRequest).Out 0
      ⟨sampleRequest, false, false⟩ := ⟨rfl, rfl⟩
  have arrived := invalidated.step (.resolved plainQuote 1 out)
  have served : ((((QuoteStore.empty.sending sampleRequest false).invalidateQuote
      sampleRequest).resolve 0 ⟨sampleRequest, false, false⟩ plainQuote 1).getQuote 15000
      sampleRequest false 2).1 = .cached ⟨plainQuote, 1, 0⟩ := by
    refine getQuote_live (Option.filter_eq_some_iff.mpr ⟨?_, by decide⟩)
    rw [resolve_cache, if_pos (show cacheable plainQuote = true from rfl)]
    exact Function.update_self ..
  have stale {log : QuoteLog} {s : QuoteStore} {entry : CachedQuote}
      (outdated : Outdated log (hashQuoteRequest sampleRequest) entry.promise)
      (served : (s.getQuote 15000 sampleRequest false 2).1 = .cached entry) :
      ¬ Fresh 15000 log s := by
    intro fresh
    have late := fresh.fresh sampleRequest 2
    rw [served] at late
    exact late outdated
  refine ⟨_, _, arrived, ?_, served, stale ?_ served⟩
  · exact outdated_append.mpr (.inl (outdated_append.mpr (.inr ⟨rfl, Nat.one_pos⟩)))
  · exact outdated_append.mpr (.inl (outdated_append.mpr (.inr ⟨rfl, Nat.one_pos⟩)))

end XochiSdk.Client.Transport
