import XochiSdk.Client.Machine.TradeKey

/-!
# The quote cache key

`packages/client/src/transport/client.ts`: the body `fetchQuote` posts for a request, and the
key `hashQuoteRequest` files its quote under. The key folds the case of four texts, reads an
absent text as an empty one and never reads the stealth address, so two requests with one key
ask for one quote exactly where they agree on what the key is blind to.
-/

namespace XochiSdk.Client.Transport

open XochiSdk.Js XochiSdk.Shared XochiSdk.Library

/-- `QuoteRequest` as a caller of the transport may build it. -/
structure QuoteRequest where
  wallet : Option String
  preview : Option Bool
  allocationKey : Option String
  fromChainId : Int
  toChainId : Int
  fromToken : String
  toToken : String
  fromAmount : String
  deadline : ℚ
  slippageBps : ℚ
  trustScore : Option ℚ
  settlementPreference : SettlementType
  recipientAddress : Option String
  refundAddress : Option String
  stealthMetaAddress : Option StealthMetaAddress
  ref : Option String
  promo : Option String
  deriving DecidableEq

/-- `JSON.stringify` of a boolean. -/
def jsonBool (b : Bool) : String := if b then "true" else "false"

theorem jsonBool_injective {a b : Bool} (same : jsonBool a = jsonBool b) : a = b := by
  revert a b
  decide

/-- A member of an object, its value printed. -/
def jsonMember (name text : String) : String := jsonString name ++ ":" ++ text

/-- `JSON.stringify` of an object, its members printed. -/
def jsonObject (members : List String) : String :=
  "\x7b" ++ ",".intercalate members ++ "\x7d"

theorem jsonMember_delimited (name : String) {text : String} (h : Delimited text.toList) :
    Delimited (jsonMember name text).toList := by
  have colon : Delimited ":".toList := .of_plain (by simp)
  rw [jsonMember, String.toList_append, String.toList_append]
  exact ((jsonString_delimited name).append colon).append h

theorem jsonMember_injective {name text text' : String}
    (same : jsonMember name text = jsonMember name text') : text = text' := by
  have printed := congrArg String.toList same
  simp only [jsonMember, String.toList_append] at printed
  exact String.toList_injective (List.append_cancel_left printed)

/-- Two objects with as many members that print alike have the same ones. -/
theorem jsonObject_injective {xs ys : List String} (hx : ∀ x ∈ xs, Delimited x.toList)
    (hy : ∀ y ∈ ys, Delimited y.toList) (length : xs.length = ys.length)
    (same : jsonObject xs = jsonObject ys) : xs = ys := by
  have printed := congrArg String.toList same
  simp only [jsonObject, String.toList_append, String.toList_intercalate] at printed
  have inner : [','].intercalate (xs.map String.toList) = [','].intercalate (ys.map String.toList) :=
    List.append_cancel_left (List.append_cancel_right printed)
  have lists := intercalate_injective (by simpa using hx) (by simpa using hy)
    (by simpa using length) inner
  exact List.map_injective_iff.mpr (fun _ _ h => String.toList_injective h) lists

theorem isSome_getD_inj {a b : Option String} (present : a.isSome = b.isSome)
    (same : a.getD "" = b.getD "") : a = b := by
  cases a <;> cases b <;> simp_all

section

variable [Host]

/-- The stealth address as the body carries it. -/
def stealthMembers (stealth : StealthMetaAddress) : List String :=
  [jsonMember "spending_pub_key" (jsonString stealth.spendingPubKey),
    jsonMember "viewing_pub_key" (jsonString stealth.viewingPubKey),
    jsonMember "chain_id" (Host.numberText stealth.chainId)]

def stealthText (stealth : StealthMetaAddress) : String := jsonObject (stealthMembers stealth)

/-- The object `fetchQuote` prints, each member with its text; one that is `none` is left out. -/
def quoteBody (request : QuoteRequest) : List (String × Option String) :=
  [("wallet", request.wallet.map jsonString),
    ("preview", request.preview.map jsonBool),
    ("allocation_key", request.allocationKey.map jsonString),
    ("from_chain_id", some (Host.numberText request.fromChainId)),
    ("to_chain_id", some (Host.numberText request.toChainId)),
    ("from_token", some (jsonString request.fromToken)),
    ("to_token", some (jsonString request.toToken)),
    ("from_amount", some (jsonString request.fromAmount)),
    ("deadline", some (Host.numberText request.deadline)),
    ("slippage_bps", some (Host.numberText request.slippageBps)),
    ("trust_score", request.trustScore.map Host.numberText),
    ("settlement_preference", some (jsonString request.settlementPreference.text)),
    ("recipient_address", request.recipientAddress.map jsonString),
    ("refund_address", request.refundAddress.map jsonString),
    ("ref", request.ref.map jsonString),
    ("promo", request.promo.map jsonString),
    ("stealth_meta_address", request.stealthMetaAddress.map stealthText)]

/-- What `fetchQuote` posts. -/
def quoteBodyText (request : QuoteRequest) : String :=
  jsonObject ((quoteBody request).filterMap fun field => field.2.map (jsonMember field.1))

/-- A member of the posted body. -/
def bodyField (request : QuoteRequest) (name : String) : Option String :=
  ((quoteBody request).lookup name).join

/-- The elements of the key's array, in order. -/
def keyElements (request : QuoteRequest) : List String :=
  [jsonString ((request.wallet.map Host.toLowerCase).getD "preview"),
    jsonString (if request.preview = some true then "preview" else "execute"),
    jsonString (request.allocationKey.getD ""),
    Host.numberText request.fromChainId,
    Host.numberText request.toChainId,
    jsonString (Host.toLowerCase request.fromToken),
    jsonString (Host.toLowerCase request.toToken),
    jsonString request.fromAmount,
    Host.numberText request.slippageBps,
    (request.trustScore.map Host.numberText).getD "null",
    jsonString request.settlementPreference.text,
    jsonString (Host.toLowerCase (request.recipientAddress.getD "")),
    jsonString (request.refundAddress.getD ""),
    jsonString (request.ref.getD ""),
    jsonString (request.promo.getD "")]

/-- Deterministic quote cache key. -/
def hashQuoteRequest (request : QuoteRequest) : String := jsonArray (keyElements request)

/-- Two requests post one body but for the deadline. -/
def SameDeal (r r' : QuoteRequest) : Prop :=
  ∀ name, name ≠ "deadline" → bodyField r name = bodyField r' name

/-- Two requests agree on what the key does not hold: the stealth address, the spelling of the
texts whose case it folds, and whether a member it defaults is there at all. -/
structure SpelledAlike (r r' : QuoteRequest) : Prop where
  stealthMetaAddress : r.stealthMetaAddress = r'.stealthMetaAddress
  wallet : r.wallet = r'.wallet
  fromToken : r.fromToken = r'.fromToken
  toToken : r.toToken = r'.toToken
  recipientAddress : r.recipientAddress = r'.recipientAddress
  preview : r.preview.isSome = r'.preview.isSome
  allocationKey : r.allocationKey.isSome = r'.allocationKey.isSome
  refundAddress : r.refundAddress.isSome = r'.refundAddress.isSome
  ref : r.ref.isSome = r'.ref.isSome
  promo : r.promo.isSome = r'.promo.isSome

theorem trustText_delimited (q : Option ℚ) :
    Delimited ((q.map Host.numberText).getD "null").toList := by
  cases q with
  | none => exact null_delimited
  | some q => exact numberText_delimited q

theorem trustText_injective {a b : Option ℚ}
    (same : (a.map Host.numberText).getD "null" = (b.map Host.numberText).getD "null") : a = b := by
  cases a with
  | none =>
    cases b with
    | none => rfl
    | some b => exact absurd same.symm (numberText_ne_null b)
  | some a =>
    cases b with
    | none => exact absurd same (numberText_ne_null a)
    | some b => exact congrArg some (Host.numberText_injective same)

theorem keyElements_delimited (r : QuoteRequest) : ∀ e ∈ keyElements r, Delimited e.toList := by
  simp only [keyElements, List.forall_mem_cons]
  exact ⟨jsonString_delimited _, jsonString_delimited _, jsonString_delimited _,
    numberText_delimited _, numberText_delimited _, jsonString_delimited _,
    jsonString_delimited _, jsonString_delimited _, numberText_delimited _,
    trustText_delimited _, jsonString_delimited _, jsonString_delimited _,
    jsonString_delimited _, jsonString_delimited _, jsonString_delimited _, List.forall_mem_nil _⟩

/-- What one key says of two requests. -/
structure SameKey (r r' : QuoteRequest) : Prop where
  preview : r.preview = some true ↔ r'.preview = some true
  allocationKey : r.allocationKey.getD "" = r'.allocationKey.getD ""
  fromChainId : r.fromChainId = r'.fromChainId
  toChainId : r.toChainId = r'.toChainId
  fromAmount : r.fromAmount = r'.fromAmount
  slippageBps : r.slippageBps = r'.slippageBps
  trustScore : r.trustScore = r'.trustScore
  settlementPreference : r.settlementPreference = r'.settlementPreference
  refundAddress : r.refundAddress.getD "" = r'.refundAddress.getD ""
  ref : r.ref.getD "" = r'.ref.getD ""
  promo : r.promo.getD "" = r'.promo.getD ""

theorem hashQuoteRequest_same {r r' : QuoteRequest}
    (same : hashQuoteRequest r = hashQuoteRequest r') : SameKey r r' := by
  have elements : keyElements r = keyElements r' :=
    jsonArray_injective (keyElements_delimited r) (keyElements_delimited r') rfl same
  unfold keyElements at elements
  simp only [List.cons.injEq, and_true] at elements
  obtain ⟨-, preview, allocation, source, target, -, -, amount, slippage, trust, settlement, -,
    refund, code, promo⟩ := elements
  have preview := jsonString_injective preview
  have flag : r.preview = some true ↔ r'.preview = some true := by
    by_cases h : r.preview = some true
    · by_cases h' : r'.preview = some true
      · exact iff_of_true h h'
      · rw [if_pos h, if_neg h'] at preview
        exact absurd preview (by decide)
    · by_cases h' : r'.preview = some true
      · rw [if_neg h, if_pos h'] at preview
        exact absurd preview (by decide)
      · exact iff_of_false h h'
  exact {
    preview := flag
    allocationKey := jsonString_injective allocation
    fromChainId := numberText_int source
    toChainId := numberText_int target
    fromAmount := jsonString_injective amount
    slippageBps := Host.numberText_injective slippage
    trustScore := trustText_injective trust
    settlementPreference := settlementText_injective (jsonString_injective settlement)
    refundAddress := jsonString_injective refund
    ref := jsonString_injective code
    promo := jsonString_injective promo }

theorem stealthMembers_delimited (stealth : StealthMetaAddress) :
    ∀ m ∈ stealthMembers stealth, Delimited m.toList := by
  simp only [stealthMembers, List.forall_mem_cons]
  exact ⟨jsonMember_delimited _ (jsonString_delimited _),
    jsonMember_delimited _ (jsonString_delimited _),
    jsonMember_delimited _ (numberText_delimited _), List.forall_mem_nil _⟩

theorem stealthText_injective {a b : StealthMetaAddress} (same : stealthText a = stealthText b) :
    a = b := by
  have members : stealthMembers a = stealthMembers b :=
    jsonObject_injective (stealthMembers_delimited a) (stealthMembers_delimited b) rfl same
  simp only [stealthMembers, List.cons.injEq, and_true] at members
  obtain ⟨spending, viewing, chain⟩ := members
  cases a
  cases b
  simp only [StealthMetaAddress.mk.injEq]
  exact ⟨jsonString_injective (jsonMember_injective spending),
    jsonString_injective (jsonMember_injective viewing),
    numberText_int (jsonMember_injective chain)⟩

/-- A request's body with the deadline of another. -/
theorem bodyField_deadline (r : QuoteRequest) (deadline : ℚ) {name : String}
    (h : name ≠ "deadline") : bodyField { r with deadline := deadline } name = bodyField r name := by
  have skip (before after : List (String × Option String)) (text : Option String) :
      (before ++ ("deadline", text) :: after).lookup name = (before ++ after).lookup name := by
    have other : (name == "deadline") = false := by simpa using h
    rw [List.lookup_append, List.lookup_append, List.lookup_cons, other]
  have here := skip ((quoteBody r).take 8) ((quoteBody r).drop 9) (some (Host.numberText r.deadline))
  have there := skip ((quoteBody r).take 8) ((quoteBody r).drop 9) (some (Host.numberText deadline))
  exact congrArg Option.join (there.trans here.symm)

/-- Under one key, two requests post one body exactly where they agree on what it leaves out. -/
theorem sameDeal_iff_spelledAlike {r r' : QuoteRequest}
    (same : hashQuoteRequest r = hashQuoteRequest r') : SameDeal r r' ↔ SpelledAlike r r' := by
  have key := hashQuoteRequest_same same
  constructor
  · intro deal
    have text (s t : Option String) (h : s.map jsonString = t.map jsonString) : s = t :=
      Option.map_injective (fun _ _ => jsonString_injective) h
    have wallet := text _ _ (deal "wallet" (by decide))
    have allocation := text _ _ (deal "allocation_key" (by decide))
    have recipient := text _ _ (deal "recipient_address" (by decide))
    have refund := text _ _ (deal "refund_address" (by decide))
    have code := text _ _ (deal "ref" (by decide))
    have promo := text _ _ (deal "promo" (by decide))
    have spends := jsonString_injective (Option.some.inj (deal "from_token" (by decide)))
    have gets := jsonString_injective (Option.some.inj (deal "to_token" (by decide)))
    have preview : r.preview = r'.preview :=
      Option.map_injective (fun _ _ => jsonBool_injective) (deal "preview" (by decide))
    have stealth : r.stealthMetaAddress = r'.stealthMetaAddress :=
      Option.map_injective (fun _ _ => stealthText_injective)
        (deal "stealth_meta_address" (by decide))
    exact ⟨stealth, wallet, spends, gets, recipient, congrArg _ preview, congrArg _ allocation,
      congrArg _ refund, congrArg _ code, congrArg _ promo⟩
  · intro alike name named
    have preview : r.preview = r'.preview := by
      have present := alike.preview
      have truth := key.preview
      revert present truth
      cases r.preview <;> cases r'.preview <;> simp
    have whole : r = { r' with deadline := r.deadline } := by
      cases r
      cases r'
      simp only [QuoteRequest.mk.injEq]
      exact ⟨alike.wallet, preview, isSome_getD_inj alike.allocationKey key.allocationKey,
        key.fromChainId, key.toChainId, alike.fromToken, alike.toToken, key.fromAmount, trivial,
        key.slippageBps, key.trustScore, key.settlementPreference, alike.recipientAddress,
        isSome_getD_inj alike.refundAddress key.refundAddress, alike.stealthMetaAddress,
        isSome_getD_inj alike.ref key.ref, isSome_getD_inj alike.promo key.promo⟩
    rw [whole, bodyField_deadline _ _ named]

end

end XochiSdk.Client.Transport
