import XochiSdk.Client.Transport.QuoteFreshness

/-!
# Whose terms a served quote is priced on

A call may be answered with what another call asked for under the same key. It is answered on
its own terms exactly where the two requests agree on what the key is blind to.
-/

namespace XochiSdk.Client.Transport

open XochiSdk.Js XochiSdk.Shared XochiSdk.Library

section

variable [Host]

/-- The request an earlier call sent for the quote a call is answered with. -/
def QuoteStore.AskedBy (s : QuoteStore) (ttl : ℚ) (i : Event) (request asked : QuoteRequest) : Prop :=
  ∃ forceRefresh now fetch, i = .getQuote request forceRefresh now ∧
    s.fetches[(s.getQuote ttl request forceRefresh now).1.promise]? = some fetch ∧
    fetch.request = asked

/-- Every call of the log was answered on its own terms. -/
def OwnTerms (ttl : ℚ) (log : QuoteLog) : Prop :=
  ∀ s i, .handled s i ∈ log → ∀ request asked, s.AskedBy ttl i request asked →
    SameDeal asked request

/-- A call whose request agrees, on what the key is blind to, with the one it shares a quote
with. -/
def SharesAlike (ttl : ℚ) (s : QuoteStore) (i : Event) (_ : List Source) (_ : QuoteStore) : Prop :=
  ∀ request asked, s.AskedBy ttl i request asked → SpelledAlike asked request

/-- A call shares the quote of its own key only. -/
theorem QuoteStore.AskedBy.same_key {s : QuoteStore} {ttl : ℚ} {i : Event}
    {request asked : QuoteRequest} (filed : Filed s) (h : s.AskedBy ttl i request asked) :
    hashQuoteRequest asked = hashQuoteRequest request := by
  obtain ⟨forceRefresh, now, fetch, rfl, found, rfl⟩ := h
  have sent {promise : Nat} (holds : s.Holds (hashQuoteRequest request) promise)
      (found : s.fetches[promise]? = some fetch) :
      hashQuoteRequest fetch.request = hashQuoteRequest request := by
    obtain ⟨fetch', found', same⟩ := filed.held _ _ holds
    obtain rfl : fetch = fetch' := Option.some.inj (found.symm.trans found')
    exact same
  rcases getQuote_cases ttl s request forceRefresh now with
    ⟨entry, -, live, out⟩ | ⟨promise, -, -, pending, out⟩ | out
  · rw [out] at found
    exact sent (.inl ⟨entry, live_cached live, rfl⟩) found
  · rw [out] at found
    exact sent (.inr pending) found
  · rw [out] at found
    -- its own fetch is not sent yet
    have := (List.getElem?_eq_some_iff.mp found).1
    exact absurd this (lt_irrefl _)

/-- One key, one body: exactly where the requests agree on what the key is blind to; and every
call of a run is answered on its own terms exactly where it shares a quote with such a request. -/
theorem quote_terms_iff :
    (∀ r r', hashQuoteRequest r = hashQuoteRequest r' → (SameDeal r r' ↔ SpelledAlike r r')) ∧
      ∀ ttl log s, Throughout Created (Next ttl) (fun log _ => OwnTerms ttl log) log s ↔
        Run Created (Only (Next ttl) (SharesAlike ttl)) log s := by
  refine ⟨fun _ _ => sameDeal_iff_spelledAlike, fun ttl log s => ?_⟩
  apply Throughout.iff_only
  · intro s _ source i mem
    cases mem
  · intro log s i fx s' run own next alike source input mem request asked shared
    rcases List.mem_append.mp mem with earlier | now
    · exact own _ _ earlier _ _ shared
    · simp only [List.mem_cons, Happening.handled.injEq, List.mem_map, reduceCtorEq, and_false,
        exists_false, or_false] at now
      obtain ⟨rfl, rfl⟩ := now
      exact (sameDeal_iff_spelledAlike (shared.same_key (QuoteRun.filed run))).mpr (alike _ _ shared)
  · intro log s i fx s' run _ next own request asked shared
    have deal := own s i (by simp) request asked shared
    exact (sameDeal_iff_spelledAlike (shared.same_key (QuoteRun.filed run))).mp deal

end

/-! ## One quote for two stealth addresses -/

/-- The sample request, paid to a stealth address. -/
def stealthRequest (spendingPubKey : String) : QuoteRequest :=
  { sampleRequest with
    settlementPreference := .stealth
    stealthMetaAddress := some ⟨spendingPubKey, "0x02", 8453⟩ }

/-- Two requests for different stealth addresses have one key, and the second call joins the
first one's fetch. -/
theorem stealth_quote_shared :
    letI := plainHost
    hashQuoteRequest (stealthRequest "0x03") = hashQuoteRequest (stealthRequest "0x04") ∧
      ¬ SameDeal (stealthRequest "0x03") (stealthRequest "0x04") ∧
      ∃ log s, QuoteRun 15000 log s ∧
        (s.getQuote 15000 (stealthRequest "0x04") false 0).1 = .pending 0 ∧
        s.AskedBy 15000 (.getQuote (stealthRequest "0x04") false 0) (stealthRequest "0x04")
          (stealthRequest "0x03") := by
  let _ := plainHost
  have same : hashQuoteRequest (stealthRequest "0x03") =
      hashQuoteRequest (stealthRequest "0x04") := rfl
  have differ : ¬ SpelledAlike (stealthRequest "0x03") (stealthRequest "0x04") := fun alike =>
    absurd alike.stealthMetaAddress (by decide)
  have first : QuoteStore.empty.getQuote 15000 (stealthRequest "0x03") false 0 =
      (.fetched 0, QuoteStore.empty.sending (stealthRequest "0x03") false) := by
    simp [QuoteStore.getQuote, QuoteStore.live, QuoteStore.empty, QuoteStore.sending]
  have asked := (Run.init rfl : QuoteRun 15000 [] .empty).step
    (.getQuote _ (stealthRequest "0x03") false 0)
  rw [first] at asked
  have joined : ((QuoteStore.empty.sending (stealthRequest "0x03") false).getQuote 15000
      (stealthRequest "0x04") false 0).1 = .pending 0 := by
    simp [QuoteStore.getQuote, QuoteStore.live, QuoteStore.empty, QuoteStore.sending, same]
  refine ⟨same, fun deal => differ ((sameDeal_iff_spelledAlike same).mp deal), _, _, asked, joined,
    false, 0, ⟨stealthRequest "0x03", false, false⟩, rfl, ?_, rfl⟩
  rw [joined]
  rfl

end XochiSdk.Client.Transport
