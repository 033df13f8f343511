import XochiSdk.Js.Json
import XochiSdk.Client.Machine.Quote

/-!
# What a trade key holds

Two contexts with one trade key agree on every field a quote request is built from, through
the request's own normalisation.
-/

namespace XochiSdk.Client

open XochiSdk.Js XochiSdk.Shared XochiSdk.Signer XochiSdk.Library Emits

theorem jsonChar_inside (c : Char) : Scan.past .inside (jsonChar c) = some .inside := by
  unfold jsonChar
  split
  · rfl
  split
  · rfl
  split
  · rfl
  split
  · rfl
  split
  · rfl
  split
  · rfl
  split
  · rfl
  split
  · rename_i small
    have digit (n : Nat) (h : n < 16) : Scan.past .inside [Nat.digitChar n] = some .inside := by
      revert n
      decide
    have high := digit (c.toNat / 16) (by omega)
    have low := digit (c.toNat % 16) (by omega)
    have opened : Scan.past .inside ['\\', 'u', '0', '0'] = some .inside := rfl
    rw [show ['\\', 'u', '0', '0', Nat.digitChar (c.toNat / 16), Nat.digitChar (c.toNat % 16)] =
      ['\\', 'u', '0', '0'] ++ ([Nat.digitChar (c.toNat / 16)] ++ [Nat.digitChar (c.toNat % 16)])
      from rfl, Scan.past_append, opened, Option.bind_some, Scan.past_append, high]
    exact low
  · rename_i quote backslash _ _ _ _ _ _
    have quote : c ≠ '"' := by simpa using quote
    have backslash : c ≠ '\\' := by simpa using backslash
    simp [Scan.past, Scan.next, quote, backslash]

theorem jsonString_delimited (s : String) : Delimited (jsonString s).toList := by
  rw [jsonString_toList]
  refine .of_literal ?_
  induction s.toList with
  | nil => rfl
  | cons c cs ih => rw [List.flatMap_cons, Scan.past_append, jsonChar_inside, Option.bind_some, ih]

theorem null_delimited : Delimited "null".toList := .of_plain (by simp)

theorem jsonString_ne_null (s : String) : jsonString s ≠ "null" := by
  intro same
  have := congrArg String.toList same
  rw [jsonString_toList] at this
  cases this

theorem jsonTextOrNull_delimited (s : Option String) : Delimited (jsonTextOrNull s).toList := by
  cases s with
  | none => exact null_delimited
  | some s => exact jsonString_delimited s

theorem jsonTextOrNull_injective {s t : Option String}
    (same : jsonTextOrNull s = jsonTextOrNull t) : s = t := by
  cases s with
  | none =>
    cases t with
    | none => rfl
    | some t => exact absurd same.symm (jsonString_ne_null t)
  | some s =>
    cases t with
    | none => exact absurd same (jsonString_ne_null s)
    | some t => exact congrArg some (jsonString_injective same)

/-- Two arrays of one length that print alike hold the same elements. -/
theorem jsonArray_injective {xs ys : List String} (hx : ∀ x ∈ xs, Delimited x.toList)
    (hy : ∀ y ∈ ys, Delimited y.toList) (length : xs.length = ys.length)
    (same : jsonArray xs = jsonArray ys) : xs = ys := by
  have printed := congrArg String.toList same
  simp only [jsonArray, String.toList_append, String.toList_intercalate] at printed
  have inner : [','].intercalate (xs.map String.toList) = [','].intercalate (ys.map String.toList) :=
    List.append_cancel_left (List.append_cancel_right printed)
  have lists := intercalate_injective (by simpa using hx) (by simpa using hy)
    (by simpa using length) inner
  exact List.map_injective_iff.mpr (fun _ _ h => String.toList_injective h) lists

theorem settlementText_injective {a b : SettlementType} (same : a.text = b.text) : a = b := by
  cases a <;> cases b <;> first | rfl | exact absurd same (by decide)

/-- A stealth address printed member by member. -/
theorem stealthMembers_injective {a b : Option StealthMetaAddress}
    (spending : a.map (·.spendingPubKey) = b.map (·.spendingPubKey))
    (viewing : a.map (·.viewingPubKey) = b.map (·.viewingPubKey))
    (chain : a.map (·.chainId) = b.map (·.chainId)) : a = b := by
  cases a with
  | none =>
    cases b with
    | none => rfl
    | some b => cases spending
  | some a =>
    cases b with
    | none => cases spending
    | some b =>
      cases a
      cases b
      simp only [Option.map_some, Option.some.injEq] at spending viewing chain
      rw [spending, viewing, chain]

section

variable [Host]

theorem numberText_delimited (q : ℚ) : Delimited (Host.numberText q).toList :=
  .of_plain fun c hc => ⟨(Host.numberText_plain q c hc).1, (Host.numberText_plain q c hc).2.1⟩

theorem numberText_ne_null (q : ℚ) : Host.numberText q ≠ "null" := by
  intro same
  have first : 'n' ∈ (Host.numberText q).toList := by
    rw [same]
    decide
  exact (Host.numberText_plain q 'n' first).2.2 rfl

theorem numberText_int {a b : Int} (same : Host.numberText a = Host.numberText b) : a = b := by
  exact_mod_cast Host.numberText_injective same

theorem jsonNumberOrNull_delimited (n : Option Int) : Delimited (jsonNumberOrNull n).toList := by
  cases n with
  | none => exact null_delimited
  | some n => exact numberText_delimited _

theorem jsonNumberOrNull_injective {a b : Option Int}
    (same : jsonNumberOrNull a = jsonNumberOrNull b) : a = b := by
  cases a with
  | none =>
    cases b with
    | none => rfl
    | some b => exact absurd same.symm (numberText_ne_null _)
  | some a =>
    cases b with
    | none => exact absurd same (numberText_ne_null _)
    | some b => exact congrArg some (numberText_int same)

/-- Two contexts ask for the same trade: they agree wherever a quote request reads them. -/
structure SameTerms (c c' : Context) : Prop where
  fromChainId : c.fromChainId = c'.fromChainId
  toChainId : c.toChainId = c'.toChainId
  fromToken : c.fromToken = c'.fromToken
  toToken : c.toToken = c'.toToken
  settlement : c.settlementPreference = c'.settlementPreference
  trustScore : c.trustScore = c'.trustScore
  slippageBps : c.slippageBps = c'.slippageBps
  fields : normalizeTradeFields c.settlementPreference c.recipientAddress c.refundAddress
      c.stealthMetaAddress =
    normalizeTradeFields c'.settlementPreference c'.recipientAddress c'.refundAddress
      c'.stealthMetaAddress
  address : c.wallet.address = c'.wallet.address
  walletChainId : c.wallet.chainId = c'.wallet.chainId
  ref : normalizeQuoteCode c.ref = normalizeQuoteCode c'.ref
  promo : normalizeQuoteCode c.promo = normalizeQuoteCode c'.promo

/-- The elements of a trade key, in order. -/
def tradeElements (c : Context) : List String :=
  let fields := normalizeTradeFields c.settlementPreference c.recipientAddress c.refundAddress
    c.stealthMetaAddress
  [Host.numberText c.fromChainId, Host.numberText c.toChainId, jsonString c.fromToken,
    jsonString c.toToken, jsonString c.settlementPreference.text, Host.numberText c.trustScore,
    Host.numberText c.slippageBps, jsonTextOrNull fields.recipientAddress,
    jsonTextOrNull fields.refundAddress,
    jsonTextOrNull (fields.stealthMetaAddress.map (·.spendingPubKey)),
    jsonTextOrNull (fields.stealthMetaAddress.map (·.viewingPubKey)),
    jsonNumberOrNull (fields.stealthMetaAddress.map (·.chainId)),
    jsonTextOrNull c.wallet.address, jsonNumberOrNull c.wallet.chainId,
    jsonTextOrNull (normalizeQuoteCode c.ref), jsonTextOrNull (normalizeQuoteCode c.promo)]

theorem tradeElements_delimited (c : Context) : ∀ e ∈ tradeElements c, Delimited e.toList := by
  simp only [tradeElements, List.forall_mem_cons]
  exact ⟨numberText_delimited _, numberText_delimited _, jsonString_delimited _,
    jsonString_delimited _, jsonString_delimited _, numberText_delimited _, numberText_delimited _,
    jsonTextOrNull_delimited _, jsonTextOrNull_delimited _, jsonTextOrNull_delimited _,
    jsonTextOrNull_delimited _, jsonNumberOrNull_delimited _, jsonTextOrNull_delimited _,
    jsonNumberOrNull_delimited _, jsonTextOrNull_delimited _, jsonTextOrNull_delimited _,
    List.forall_mem_nil _⟩

theorem tradeKey_terms {c c' : Context} (same : tradeKey c = tradeKey c') : SameTerms c c' := by
  have elements : tradeElements c = tradeElements c' :=
    jsonArray_injective (tradeElements_delimited c) (tradeElements_delimited c') rfl same
  unfold tradeElements at elements
  simp only [List.cons.injEq, and_true] at elements
  obtain ⟨source, target, spends, gets, settlement, trust, slippage, recipient, refund, spending,
    viewing, stealthChain, address, chain, code, promo⟩ := elements
  have stealth := stealthMembers_injective (jsonTextOrNull_injective spending)
    (jsonTextOrNull_injective viewing) (jsonNumberOrNull_injective stealthChain)
  exact {
    fromChainId := numberText_int source
    toChainId := numberText_int target
    fromToken := jsonString_injective spends
    toToken := jsonString_injective gets
    settlement := settlementText_injective (jsonString_injective settlement)
    trustScore := Host.numberText_injective trust
    slippageBps := Host.numberText_injective slippage
    fields := by
      rw [normalizeTradeFields, normalizeTradeFields, TradeFields.mk.injEq]
      exact ⟨jsonTextOrNull_injective recipient, jsonTextOrNull_injective refund, stealth⟩
    address := jsonTextOrNull_injective address
    walletChainId := jsonNumberOrNull_injective chain
    ref := jsonTextOrNull_injective code
    promo := jsonTextOrNull_injective promo }

end

end XochiSdk.Client
