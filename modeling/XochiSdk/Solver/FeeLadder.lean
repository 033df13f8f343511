import XochiSdk.Library.Plays
import XochiSdk.Solver.TxSender
import Mathlib.Data.List.Chain
import Mathlib.Tactic.Ring

/-!
# The replacement fees

`replaceAtSameNonce` and `releaseSlot` of `packages/solver-sdk/src/tx-sender.ts`: what each
re-signing of a slot offers over the one before it, whatever the market is read to be.
-/

namespace XochiSdk.Solver

open XochiSdk.Js XochiSdk.Library

/-! ## Fees -/

def TransactionLike.tip (r : TransactionLike) : Int := r.maxPriorityFeePerGas.getD 0

/-- Raised by at least one eighth, and at least 1 wei. -/
structure Over (paid next : Int) : Prop where
  eighth : 9 * paid ≤ 8 * next
  wei : paid + 1 ≤ next

theorem over_bumpFee (paid floor : Int) : Over paid (bumpFee paid floor) := by
  unfold bumpFee
  dsimp only
  constructor
  · split <;> split <;> omega
  · split <;> split <;> omega

theorem Over.min {paid fee tip bumped : Int} (fair : tip ≤ paid) (fee_over : Over paid fee)
    (tip_over : Over tip bumped) : Over tip (if bumped < fee then bumped else fee) := by
  obtain ⟨feeEighth, feeWei⟩ := fee_over
  obtain ⟨tipEighth, tipWei⟩ := tip_over
  constructor
  · split <;> omega
  · split <;> omega

/-- The tip is no larger than the fee. -/
def TransactionLike.Fair (r : TransactionLike) : Prop :=
  r.maxFeePerGas.isSome = true → r.tip ≤ r.offered

/-- A transaction of the same kind whose fee and tip are both raised, the tip within the fee. -/
structure Outbids (r next : TransactionLike) : Prop where
  kind : next.maxFeePerGas.isSome = r.maxFeePerGas.isSome
  fee : Over r.offered next.offered
  tip : r.maxFeePerGas.isSome = true → Over r.tip next.tip
  fair : next.Fair

/-- The same call at the same nonce, its fees raised. -/
structure Resigns (r next : TransactionLike) : Prop extends Outbids r next where
  call : next.call = r.call
  nonce : next.nonce = r.nonce
  gasLimit : next.gasLimit = r.gasLimit

/-- The empty transfer of a slot's sender to itself, at the slot's nonce, its fees raised. -/
structure Frees (slot : Slot) (r cancel : TransactionLike) : Prop extends Outbids r cancel where
  call : cancel.call = .transfer slot.sender
  nonce : cancel.nonce = slot.nonce

theorem FeeData.market_kind (fees : FeeData) {r next : TransactionLike}
    (kind : next.maxFeePerGas.isSome = r.maxFeePerGas.isSome) :
    fees.market next = fees.market r := by
  unfold FeeData.market
  rw [kind]

theorem bumpedRequest_resigns {r : TransactionLike} (fair : r.Fair) (fees : FeeData) :
    Resigns r (bumpedRequest r (bumpFee r.offered (fees.market r)) fees) := by
  have fee_over := over_bumpFee r.offered (fees.market r)
  generalize bumpFee r.offered (fees.market r) = fee at fee_over
  have tip_over := over_bumpFee r.tip (fees.maxPriorityFeePerGas.getD 0)
  unfold bumpedRequest
  by_cases eip1559 : r.maxFeePerGas.isSome = true
  · rw [if_pos eip1559]
    have within := Over.min (fair eip1559) fee_over tip_over
    refine ⟨⟨by simp [eip1559], fee_over, fun _ => within, fun _ => ?_⟩, rfl, rfl, rfl⟩
    simp only [TransactionLike.tip, TransactionLike.offered, Option.getD_some, Option.isSome_some,
      if_true]
    split <;> omega
  · rw [if_neg eip1559]
    refine ⟨⟨rfl, ?_, fun h => absurd h eip1559, fun h => absurd h eip1559⟩, rfl, rfl, rfl⟩
    have same : TransactionLike.offered { r with gasPrice := some fee } = fee := by
      simp [TransactionLike.offered, eip1559]
    rw [same]
    exact fee_over

theorem bumpedRequest_offered (r : TransactionLike) (fee : Int) (fees : FeeData) :
    (bumpedRequest r fee fees).offered = fee := by
  unfold bumpedRequest TransactionLike.offered
  split
  · rfl
  · simp

theorem cancelRequest_frees {slot : Slot} {r : TransactionLike} (fair : r.Fair) (fees : FeeData)
    (estimate : Int) : Frees slot r (cancelRequest slot r fees estimate) := by
  have tip_over := over_bumpFee r.tip (fees.maxPriorityFeePerGas.getD 0)
  unfold cancelRequest
  cases eip1559 : r.maxFeePerGas with
  | some maxFee =>
    have offered : r.offered = maxFee := by simp [TransactionLike.offered, eip1559]
    have fee_over := over_bumpFee maxFee (fees.maxFeePerGas.getD 0)
    have within := fair (by rw [eip1559]; rfl)
    rw [offered] at within
    refine ⟨⟨by rw [eip1559]; rfl, by rw [offered]; exact fee_over,
      fun _ => Over.min within fee_over tip_over, fun _ => ?_⟩, rfl, rfl⟩
    simp only [TransactionLike.tip, TransactionLike.offered, Option.getD_some, Option.isSome_some,
      if_true]
    split <;> omega
  | none =>
    have offered : r.offered = r.gasPrice.getD 0 := by simp [TransactionLike.offered, eip1559]
    refine ⟨⟨by rw [eip1559], ?_, ?_, fun h => by cases h⟩, rfl, rfl⟩
    · rw [offered]
      exact over_bumpFee _ _
    · intro h
      rw [eip1559] at h
      cases h

/-! ## Runs of a re-signing -/

/-- The latest signing of a slot's action. -/
def latest (slot : Slot) (s : Gateway) : Option TransactionLike :=
  (s.slotState slot).map (·.request)

/-- While a re-signing waits, anything may happen that leaves the slot's latest signing. -/
def resigning (W : Type) (slot : Slot) : Discipline W Gateway Deed Ask Ask.Answer Thrown where
  rely i sc sc' :=
    Grows (fun e => e.call ≠ i) sc sc' ∧ latest slot sc'.shared = latest slot sc.shared
  guar _ _ _ := True
  ready _ _ _ _ := True
  admits _ := True

variable {W : Type} {slot : Slot} {i : Nat}
  {sc sc' : Scene W Gateway Deed Ask Ask.Answer Thrown}

/-- A call was given an answer between two scenes. -/
def Asked (i : Nat) (q : Ask) (a : Except Thrown q.Answer)
    (sc sc' : Scene W Gateway Deed Ask Ask.Answer Thrown) : Prop :=
  ∃ later, sc'.trace = sc.trace ++ later ∧ Entry.got i q a ∈ later

/-- The market a re-signing goes by: given to it, or read by it. -/
def MarketRead (i : Nat) (slot : Slot) (given : Option FeeData) (fees : FeeData)
    (sc sc' : Scene W Gateway Deed Ask Ask.Answer Thrown) : Prop :=
  given = some fees ∨ given = none ∧ Asked i (.feeData slot.signer) (.ok fees) sc sc'

/-- The trace of a later scene starts with that of an earlier one. -/
abbrev Leads (sc sc' : Scene W Gateway Deed Ask Ask.Answer Thrown) : Prop :=
  Grows (fun _ => True) sc sc'

theorem leads_rely (relied : (resigning W slot).rely i sc sc') : Leads sc sc' := by
  obtain ⟨⟨later, same, -⟩, -⟩ := relied
  exact ⟨later, same, fun _ _ => trivial⟩

theorem leads_got (i : Nat) (q : Ask) (a : Except Thrown q.Answer)
    (sc : Scene W Gateway Deed Ask Ask.Answer Thrown) : Leads sc (sc.got i q a) :=
  ⟨_, rfl, fun _ _ => trivial⟩

theorem leads_did (i : Nat) (changed : Gateway × List Deed)
    (sc : Scene W Gateway Deed Ask Ask.Answer Thrown) : Leads sc (sc.did i changed) :=
  ⟨_, rfl, fun _ _ => trivial⟩

theorem Asked.later {q : Ask} {a : Except Thrown q.Answer}
    {mid : Scene W Gateway Deed Ask Ask.Answer Thrown} (asked : Asked i q a sc mid)
    (leads : Leads mid sc') : Asked i q a sc sc' := by
  obtain ⟨first, same, mem⟩ := asked
  obtain ⟨rest, same', -⟩ := leads
  exact ⟨first ++ rest, by rw [same', same, List.append_assoc], List.mem_append_left _ mem⟩

theorem asked_got {q : Ask} {a : Except Thrown q.Answer} (leads : Leads sc sc') :
    Asked i q a sc (sc'.got i q a) := by
  obtain ⟨later, same, -⟩ := leads
  refine ⟨later ++ [.got i q a], ?_, by simp⟩
  rw [Scene.got_trace, same, List.append_assoc]

theorem latest_setSlot {change : SlotState → SlotState} {s : Gateway} :
    latest slot (s.setSlot slot change) =
      (s.slotState slot).map fun state => (change state).request := by
  simp only [latest, Gateway.slotState, Gateway.setSlot, List.getElem?_modify_eq]
  cases s.slots[slot.id]? <;> rfl

theorem latest_adopt {next : TransactionLike} {raw hash : String} {s : Gateway}
    {r : TransactionLike} (held : latest slot s = some r) :
    latest slot (s.setSlot slot (·.adopt next raw hash)) = some next := by
  rw [latest_setSlot]
  unfold latest at held
  cases here : s.slotState slot with
  | none =>
    rw [here] at held
    cases held
  | some state => rfl

theorem latest_recordBroadcast {receiptTimeoutMs : Int} {hash raw : String} {landBy : Option Int}
    {other : Slot} {s : Gateway} :
    latest slot (s.recordBroadcast receiptTimeoutMs other hash raw landBy) = latest slot s := by
  unfold latest Gateway.recordBroadcast
  dsimp only
  split <;> rfl

theorem slotState_plays {d : Discipline W Gateway Deed Ask Ask.Answer Thrown}
    {r : Except Thrown SlotState} (run : Plays d i (slotState slot) sc r sc') :
    ∃ state, sc.shared.slotState slot = some state ∧ r = .ok state ∧ sc' = sc := by
  unfold slotState at run
  rcases Plays.of_bind run with ⟨s, mid, first, rest⟩ | ⟨x, first, -⟩
  · obtain ⟨same, rfl⟩ := Plays.of_get first
    cases same
    cases here : mid.shared.slotState slot with
    | none =>
      rw [here] at rest
      cases rest
    | some state =>
      rw [here] at rest
      obtain ⟨rfl, rfl⟩ := Plays.of_pure rest
      exact ⟨state, rfl, rfl, rfl⟩
  · cases (Plays.of_get first).1

section

variable [Ethers]

theorem signed_plays {d : Discipline W Gateway Deed Ask Ask.Answer Thrown}
    {request : TransactionLike} {raw : String} {r : Except Thrown String}
    (run : Plays d i (signed request raw) sc r sc') :
    r = .ok (Ethers.keccak256 raw) ∧
      sc' = sc.did i (sc.shared, [.signed request.call request.nonce (Ethers.keccak256 raw)]) := by
  unfold signed at run
  rcases Plays.of_bind run with ⟨⟨⟩, mid, first, rest⟩ | ⟨x, first, -⟩
  · obtain ⟨-, rfl⟩ := Plays.of_doing first
    exact Plays.of_pure rest
  · cases (Plays.of_doing first).1

omit [Ethers] in
theorem marketRead_plays {given : Option FeeData} {r : Except Thrown FeeData}
    (run : Plays (resigning W slot) i (match given with
      | some fees => pure fees
      | none => ask (.feeData slot.signer)) sc r sc') :
    Leads sc sc' ∧ latest slot sc'.shared = latest slot sc.shared ∧
      ∀ fees, r = .ok fees → MarketRead i slot given fees sc sc' := by
  cases given with
  | some fees =>
    obtain ⟨rfl, rfl⟩ := Plays.of_pure run
    refine ⟨.refl _, rfl, ?_⟩
    rintro _ ⟨⟩
    exact .inl rfl
  | none =>
    obtain ⟨mid, relied, -, rfl⟩ := Plays.of_await run
    have leads := leads_rely relied
    refine ⟨leads.trans (leads_got ..), relied.2, ?_⟩
    rintro fees rfl
    exact .inr ⟨rfl, asked_got leads⟩

theorem replaceAtSameNonce_eq (opts : Options) (prior : Slot) (given : Option FeeData) :
    replaceAtSameNonce opts prior given =
      (match given with
        | some fees => pure fees
        | none => ask (.feeData prior.signer) : Code FeeData).bind fun fees =>
        (slotState prior).bind fun state => resignAt opts prior fees state.request := by
  cases given <;> rfl

theorem resignAt_plays {opts : Options} {fees : FeeData} {state : SlotState}
    {res : Except Thrown (Bool × String)} (here : sc.shared.slotState slot = some state)
    (run : Plays (resigning W slot) i (resignAt opts slot fees state.request) sc res sc') :
    Leads sc sc' ∧
      ((latest slot sc'.shared = latest slot sc.shared ∧ ∀ note, res ≠ .ok (true, note)) ∨
        (∃ note, res = .ok (true, note)) ∧
          bumpFee state.request.offered (fees.market state.request) ≤
            4 * max slot.originalFee (fees.market state.request) ∧
          latest slot sc'.shared = some (bumpedRequest state.request
            (bumpFee state.request.offered (fees.market state.request)) fees)) := by
  have cap : (if slot.originalFee > fees.market state.request then slot.originalFee
      else fees.market state.request) = max slot.originalFee (fees.market state.request) := by
    split <;> omega
  unfold resignAt at run
  dsimp only at run
  rw [cap] at run
  generalize bumpFee state.request.offered (fees.market state.request) = fee at run ⊢
  split at run
  · obtain ⟨rfl, rfl⟩ := Plays.of_pure run
    exact ⟨.refl _, .inl ⟨rfl, by nofun⟩⟩
  next within =>
  rcases Plays.of_bind run with ⟨raw, mid, sign, rest⟩ | ⟨x, sign, rfl⟩
  swap
  · obtain ⟨before, relied, -, rfl⟩ := Plays.of_await sign
    exact ⟨(leads_rely relied).trans (leads_got ..), .inl ⟨relied.2, by nofun⟩⟩
  obtain ⟨before, relied, -, rfl⟩ := Plays.of_await sign
  have leads := (leads_rely relied).trans (leads_got i _ (.ok raw) before)
  have kept : latest slot (before.got i _ (.ok raw)).shared = latest slot sc.shared := relied.2
  generalize before.got i _ (.ok raw) = sc₁ at leads kept rest
  rcases Plays.of_bind rest with ⟨hash, mid, note, rest⟩ | ⟨x, note, -⟩
  swap
  · cases (signed_plays note).1
  obtain ⟨-, rfl⟩ := signed_plays note
  generalize signing : sc₁.did i (sc₁.shared, _) = sc₂ at rest
  have leads₂ : Leads sc sc₂ := by
    rw [← signing]
    exact leads.trans (leads_did ..)
  have kept₂ : latest slot sc₂.shared = latest slot sc.shared := by
    rw [← signing]
    exact kept
  rcases Plays.of_bind rest with ⟨sent, mid, broadcast, rest⟩ | ⟨x, broadcast, -⟩
  swap
  · obtain ⟨_, h, -⟩ := Plays.of_attempt broadcast
    cases h
  obtain ⟨_, h, broadcast⟩ := Plays.of_attempt broadcast
  cases h
  obtain ⟨before, relied, -, rfl⟩ := Plays.of_await broadcast
  have leads₃ := leads₂.trans ((leads_rely relied).trans (leads_got i _ sent before))
  have kept₃ : latest slot (before.got i _ sent).shared = latest slot sc.shared :=
    relied.2.trans kept₂
  generalize before.got i _ sent = sc₃ at leads₃ kept₃ rest
  have signing : latest slot sc₃.shared = some state.request := by
    rw [kept₃, latest, here]
    rfl
  have capped := not_lt.mp within
  cases sent with
  | error err =>
    dsimp only at rest
    split at rest
    · obtain ⟨rfl, rfl⟩ := Plays.of_pure rest
      exact ⟨leads₃, .inl ⟨kept₃, by nofun⟩⟩
    · rcases Plays.of_bind rest with ⟨⟨⟩, mid, adopt, rest⟩ | ⟨x, adopt, -⟩
      · obtain ⟨-, rfl⟩ := Plays.of_doing adopt
        obtain ⟨rfl, rfl⟩ := Plays.of_pure rest
        exact ⟨leads₃.trans (leads_did ..), .inr ⟨⟨_, rfl⟩, capped, latest_adopt signing⟩⟩
      · cases (Plays.of_doing adopt).1
  | ok _ =>
    rcases Plays.of_bind rest with ⟨⟨⟩, mid, adopt, rest⟩ | ⟨x, adopt, -⟩
    swap
    · cases (Plays.of_doing adopt).1
    obtain ⟨-, rfl⟩ := Plays.of_doing adopt
    rcases Plays.of_bind rest with ⟨⟨⟩, mid, record, rest⟩ | ⟨x, record, -⟩
    swap
    · cases (Plays.of_doing record).1
    obtain ⟨-, rfl⟩ := Plays.of_doing record
    obtain ⟨rfl, rfl⟩ := Plays.of_pure rest
    refine ⟨leads₃.trans ((leads_did ..).trans (leads_did ..)), .inr ⟨⟨_, rfl⟩, capped, ?_⟩⟩
    exact latest_recordBroadcast.trans (latest_adopt signing)

/-- A re-signing that is adopted is the latest signing with its fees bumped, within the cap; any
other leaves the latest signing. -/
theorem replaceAtSameNonce_plays {opts : Options} {given : Option FeeData}
    {res : Except Thrown (Bool × String)}
    (run : Plays (resigning W slot) i (replaceAtSameNonce opts slot given) sc res sc') :
    Leads sc sc' ∧
      ((latest slot sc'.shared = latest slot sc.shared ∧ ∀ note, res ≠ .ok (true, note)) ∨
        ∃ note r fees, res = .ok (true, note) ∧ latest slot sc.shared = some r ∧
          MarketRead i slot given fees sc sc' ∧
          bumpFee r.offered (fees.market r) ≤ 4 * max slot.originalFee (fees.market r) ∧
          latest slot sc'.shared =
            some (bumpedRequest r (bumpFee r.offered (fees.market r)) fees)) := by
  rw [replaceAtSameNonce_eq] at run
  rcases Plays.of_bind run with ⟨fees, sc₁, read, rest⟩ | ⟨x, read, same⟩
  swap
  · obtain ⟨leads, kept, -⟩ := marketRead_plays read
    exact ⟨leads, .inl ⟨kept, by rw [same]; nofun⟩⟩
  obtain ⟨leads₁, kept₁, market⟩ := marketRead_plays read
  have market := market fees rfl
  rcases Plays.of_bind rest with ⟨state, sc₂, first, resigned⟩ | ⟨x, first, -⟩
  swap
  · obtain ⟨_, -, h, -⟩ := slotState_plays first
    cases h
  obtain ⟨_, here, h, rfl⟩ := slotState_plays first
  cases h
  clear run
  have now : latest slot sc.shared = some state.request := by
    rw [← kept₁, latest, here]
    rfl
  obtain ⟨leads₂, kept₂ | ⟨⟨note, rfl⟩, cap, adopted⟩⟩ := resignAt_plays here resigned
  · exact ⟨leads₁.trans leads₂, .inl ⟨kept₂.1.trans kept₁, kept₂.2⟩⟩
  · refine ⟨leads₁.trans leads₂, .inr ⟨note, state.request, fees, rfl, now, ?_, cap, adopted⟩⟩
    exact market.imp_right fun read => ⟨read.1, read.2.later leads₂⟩

omit [Ethers] in
theorem ask_asks {p : Ask → Prop} {q : Ask} (h : p q) : (ask q).Asks p := .await h

omit [Ethers] in
theorem slotState_asks {p : Ask → Prop} (slot : Slot) : (slotState slot).Asks p := by
  unfold slotState
  intro s
  dsimp only [Async.bind]
  split <;> trivial

theorem resignAt_asks (opts : Options) (fees : FeeData) (r : TransactionLike) :
    (resignAt opts slot fees r).Asks fun q => ∀ node, q ≠ .feeData node := by
  unfold resignAt
  dsimp only
  generalize (if slot.originalFee > fees.market r then _ else _ : Int) = top
  split
  · trivial
  refine .bind (ask_asks nofun) fun raw => .bind (fun _ => trivial) fun hash => ?_
  refine .bind (.attempt (ask_asks nofun)) fun sent => ?_
  cases sent with
  | error err =>
    dsimp only
    split
    · trivial
    · exact fun _ => trivial
  | ok _ => exact fun _ _ => trivial

omit [Ethers] in
theorem resigning_others {sc sc' : Scene W Gateway Deed Ask Ask.Answer Thrown}
    (relied : (resigning W slot).rely i sc sc') : Grows (fun e => e.call ≠ i) sc sc' := relied.1

/-- A re-signing reads the market once. -/
theorem marketRead_unique {opts : Options} {given : Option FeeData} {fees fees' : FeeData}
    {res : Except Thrown (Bool × String)}
    (run : Plays (resigning W slot) i (replaceAtSameNonce opts slot given) sc res sc')
    (read : MarketRead i slot given fees sc sc') (read' : MarketRead i slot given fees' sc sc') :
    fees' = fees := by
  rcases read with rfl | ⟨rfl, ⟨later, same, mem⟩⟩
  · rcases read' with same | ⟨none, -⟩
    · exact Option.some.inj same.symm
    · cases none
  obtain ⟨later', same', mem'⟩ := read'.resolve_left nofun |>.2
  have whole : later' = later := List.append_cancel_left (same'.symm.trans same)
  rw [whole] at mem'
  rw [replaceAtSameNonce_eq] at run
  -- Every answer of this call past the market's is to another question.
  suffices only : ∃ first fees₀ rest,
      later = first ++ [.got i (.feeData slot.signer) fees₀] ++ rest ∧ (∀ e ∈ first, e.call ≠ i) ∧
      ∀ e ∈ rest, e.Asking i fun q => ∀ node, q ≠ .feeData node by
    obtain ⟨first, fees₀, rest, rfl, others, later⟩ := only
    have found {f : FeeData} (mem : Entry.got i (.feeData slot.signer) (.ok f) ∈
        first ++ [.got i (.feeData slot.signer) fees₀] ++ rest) : fees₀ = .ok f := by
      rcases List.mem_append.mp mem with mem | mem
      · rcases List.mem_append.mp mem with mem | mem
        · exact absurd rfl (others _ mem)
        · cases List.mem_singleton.mp mem
          rfl
      · exact absurd rfl (later _ mem _ _ rfl slot.signer)
    exact Except.ok.inj ((found mem').symm.trans (found mem))
  rcases Plays.of_bind run with ⟨fees₀, mid, first, rest⟩ | ⟨x, first, -⟩
  · obtain ⟨before, relied, -, rfl⟩ := Plays.of_await first
    have others : Async.Asks (fun q => ∀ node, q ≠ .feeData node)
        ((slotState slot).bind fun state => resignAt opts slot fees₀ state.request) :=
      .bind (slotState_asks slot) fun state => resignAt_asks opts fees₀ state.request
    have asks := rest.asks others fun _ _ => resigning_others
    obtain ⟨one, grown, mine⟩ := relied.1
    obtain ⟨two, grown', asked⟩ := asks
    refine ⟨one, .ok fees₀, two, ?_, mine, asked⟩
    rw [grown', Scene.got_trace, grown, List.append_assoc, List.append_assoc] at same
    rw [List.append_assoc]
    exact (List.append_cancel_left same).symm
  · obtain ⟨before, relied, -, rfl⟩ := Plays.of_await first
    obtain ⟨one, grown, others⟩ := relied.1
    refine ⟨one, .error x, [], ?_, others, by simp⟩
    rw [Scene.got_trace, grown, List.append_assoc] at same
    rw [List.append_nil]
    exact (List.append_cancel_left same).symm

/-! ## The ladder -/

/-- Re-signings of a slot, one after another, with whatever leaves its latest signing between
them: those adopted, each with the market it went by. -/
inductive Ladder (opts : Options) (slot : Slot)
    (sc₀ : Scene W Gateway Deed Ask Ask.Answer Thrown) :
    List (TransactionLike × FeeData) → Scene W Gateway Deed Ask Ask.Answer Thrown → Prop where
  | start : Ladder opts slot sc₀ [] sc₀
  | meanwhile {signings : List (TransactionLike × FeeData)}
      {sc sc' : Scene W Gateway Deed Ask Ask.Answer Thrown}
      (before : Ladder opts slot sc₀ signings sc)
      (kept : latest slot sc'.shared = latest slot sc.shared) : Ladder opts slot sc₀ signings sc'
  | refused {signings : List (TransactionLike × FeeData)}
      {sc sc' : Scene W Gateway Deed Ask Ask.Answer Thrown} {i : Nat} {given : Option FeeData}
      {res : Except Thrown (Bool × String)} (before : Ladder opts slot sc₀ signings sc)
      (run : Plays (resigning W slot) i (replaceAtSameNonce opts slot given) sc res sc')
      (refused : ∀ note, res ≠ .ok (true, note)) : Ladder opts slot sc₀ signings sc'
  | adopted {signings : List (TransactionLike × FeeData)}
      {sc sc' : Scene W Gateway Deed Ask Ask.Answer Thrown} {i : Nat} {given : Option FeeData}
      {note : String} {next : TransactionLike} {fees : FeeData}
      (before : Ladder opts slot sc₀ signings sc)
      (run : Plays (resigning W slot) i (replaceAtSameNonce opts slot given) sc
        (.ok (true, note)) sc')
      (read : MarketRead i slot given fees sc sc')
      (signing : latest slot sc'.shared = some next) :
      Ladder opts slot sc₀ (signings ++ [(next, fees)]) sc'

/-- The signings of a slot's action, its first one included. -/
def signings (r₀ : TransactionLike) (later : List (TransactionLike × FeeData)) :
    List TransactionLike :=
  r₀ :: later.map (·.1)

/-- What holds at every point of a ladder: the latest signing is the last of them, each
re-signing raises the one before it within the cap, and so the fee grows with their number. -/
structure Ladder.Holds (slot : Slot) (r₀ : TransactionLike)
    (later : List (TransactionLike × FeeData)) (last : TransactionLike) : Prop where
  ends : (signings r₀ later).getLast? = some last
  fair : last.Fair
  kind : last.maxFeePerGas.isSome = r₀.maxFeePerGas.isSome
  raised : (signings r₀ later).IsChain Resigns
  capped : ∀ s ∈ later, s.1.offered ≤ 4 * max slot.originalFee (s.2.market r₀)
  count : r₀.offered + later.length ≤ last.offered
  growth : 9 ^ later.length * r₀.offered ≤ 8 ^ later.length * last.offered

omit [Ethers] in
theorem Ladder.Holds.next {r₀ last next : TransactionLike}
    {later : List (TransactionLike × FeeData)} {fees : FeeData}
    (held : Ladder.Holds slot r₀ later last) (resigns : Resigns last next)
    (cap : next.offered ≤ 4 * max slot.originalFee (fees.market last)) :
    Ladder.Holds slot r₀ (later ++ [(next, fees)]) next := by
  have whole : signings r₀ (later ++ [(next, fees)]) = signings r₀ later ++ [next] := by
    simp [signings]
  refine ⟨?_, resigns.fair, resigns.kind.trans held.kind, ?_, ?_, ?_, ?_⟩
  · rw [whole, List.getLast?_concat]
  · rw [whole, List.isChain_append]
    refine ⟨held.raised, .singleton _, ?_⟩
    intro x here y there
    rw [held.ends] at here
    cases here
    cases there
    exact resigns
  · intro s mem
    rcases List.mem_append.mp mem with mem | mem
    · exact held.capped s mem
    · rw [List.mem_singleton.mp mem, ← fees.market_kind held.kind]
      exact cap
  · have := held.count
    have := resigns.fee.wei
    rw [List.length_append, List.length_singleton]
    omega
  · have growth := held.growth
    have eighth := resigns.fee.eighth
    rw [List.length_append, List.length_singleton, pow_succ, pow_succ]
    calc 9 ^ later.length * 9 * r₀.offered = 9 * (9 ^ later.length * r₀.offered) := by ring
      _ ≤ 9 * (8 ^ later.length * last.offered) := Int.mul_le_mul_of_nonneg_left growth (by decide)
      _ = 8 ^ later.length * (9 * last.offered) := by ring
      _ ≤ 8 ^ later.length * (8 * next.offered) :=
        Int.mul_le_mul_of_nonneg_left eighth (pow_nonneg (by decide) _)
      _ = 8 ^ later.length * 8 * next.offered := by ring

theorem ladder_holds {opts : Options} {sc₀ : Scene W Gateway Deed Ask Ask.Answer Thrown}
    {later : List (TransactionLike × FeeData)} {r₀ : TransactionLike}
    (first : latest slot sc₀.shared = some r₀) (fair : r₀.Fair)
    (run : Ladder opts slot sc₀ later sc) :
    ∃ last, latest slot sc.shared = some last ∧ Ladder.Holds slot r₀ later last := by
  induction run with
  | start =>
    exact ⟨r₀, first, rfl, fair, rfl, .singleton _, by simp, by simp, by simp⟩
  | meanwhile before kept ih =>
    obtain ⟨last, here, held⟩ := ih
    exact ⟨last, kept.trans here, held⟩
  | refused before run refused ih =>
    obtain ⟨last, here, held⟩ := ih
    rcases (replaceAtSameNonce_plays run).2 with ⟨kept, -⟩ | ⟨note, _, _, same, -⟩
    · exact ⟨last, kept.trans here, held⟩
    · exact absurd same (refused note)
  | @adopted later sc sc' i given note next fees before run read signing ih =>
    obtain ⟨last, here, held⟩ := ih
    rcases (replaceAtSameNonce_plays run).2 with
      ⟨-, never⟩ | ⟨_, r, fees', -, at_r, read', cap, there⟩
    · exact absurd rfl (never note)
    · rw [here] at at_r
      cases at_r
      cases marketRead_unique run read read'
      rw [signing] at there
      cases there
      have resigns := bumpedRequest_resigns held.fair fees
      refine ⟨_, signing, held.next resigns ?_⟩
      rw [bumpedRequest_offered]
      exact cap

/-! ## Freeing the nonce -/

/-- A question that is a signing frees the slot's nonce, over its latest signing. -/
def Freeing (slot : Slot) (r : TransactionLike) (q : Ask) : Prop :=
  ∀ signer cancel, q = .signTransaction signer cancel → Frees slot r cancel

omit [Ethers] in
theorem ask_freeing {r : TransactionLike} {q : Ask} {res : Except Thrown q.Answer}
    (here : latest slot sc.shared = some r)
    (run : Plays (resigning W slot) i (ask q) sc res sc') (free : Freeing slot r q) :
    Grows (Entry.Asking i (Freeing slot r)) sc sc' ∧ latest slot sc'.shared = some r := by
  obtain ⟨before, relied, -, rfl⟩ := Plays.of_await run
  have meanwhile : Grows (Entry.Asking i (Freeing slot r)) sc before :=
    relied.1.mono fun _ => Entry.asking_other
  exact ⟨meanwhile.trans (Scene.got_asking before i res free), relied.2.trans here⟩

theorem signCancel_plays {r : TransactionLike} {res : Except Thrown Unit}
    (here : latest slot sc.shared = some r) (fair : r.Fair)
    (run : Plays (resigning W slot) i (signCancel slot) sc res sc') :
    Grows (Entry.Asking i (Freeing slot r)) sc sc' := by
  unfold signCancel at run
  rcases Plays.of_bind run with ⟨state, mid, first, rest⟩ | ⟨x, first, -⟩
  swap
  · obtain ⟨_, -, h, -⟩ := slotState_plays first
    cases h
  obtain ⟨_, -, -, rfl⟩ := slotState_plays first
  split at rest
  · obtain ⟨-, rfl⟩ := Plays.of_pure rest
    exact .refl _
  rcases Plays.of_bind rest with ⟨fees, sc₁, read, rest₁⟩ | ⟨x, read, -⟩
  swap
  · exact (ask_freeing here read nofun).1
  obtain ⟨grows₁, here₁⟩ := ask_freeing here read nofun
  rcases Plays.of_bind rest₁ with ⟨estimate, sc₂, estimated, rest₂⟩ | ⟨x, estimated, -⟩
  swap
  · exact grows₁.trans (ask_freeing here₁ estimated nofun).1
  obtain ⟨grows₂, here₂⟩ := ask_freeing here₁ estimated nofun
  rcases Plays.of_bind rest₂ with ⟨state', sc₃, again, rest₃⟩ | ⟨x, again, -⟩
  swap
  · obtain ⟨_, -, h, -⟩ := slotState_plays again
    cases h
  obtain ⟨_, found, h, rfl⟩ := slotState_plays again
  cases h
  -- The self-transfer outbids the request as it is now, which is still the latest signing.
  have request : state'.request = r := by
    rw [latest, found] at here₂
    exact Option.some.inj here₂
  have free : Freeing slot r (.signTransaction slot.signer
      (cancelRequest slot state'.request fees estimate)) := by
    rintro signer cancel same
    cases same
    rw [request]
    exact cancelRequest_frees fair fees estimate
  rcases Plays.of_bind rest₃ with ⟨raw, sc₄, sign, rest₄⟩ | ⟨x, sign, -⟩
  swap
  · exact grows₁.trans (grows₂.trans (ask_freeing here₂ sign free).1)
  obtain ⟨grows₃, -⟩ := ask_freeing here₂ sign free
  have kept : Async.Asks (Freeing slot r) (do
      let hash ← signed (cancelRequest slot state'.request fees estimate) raw
      Async.modify (·.setSlot slot fun state =>
        { state with cancel := some (state.cancel.getD (hash, raw)) }) : Code Unit) :=
    fun _ _ => trivial
  exact grows₁.trans (grows₂.trans (grows₃.trans (rest₄.asks kept fun _ _ => resigning_others)))

omit [Ethers] in
theorem broadcastCancel_asks (opts : Options) (past : String) :
    (broadcastCancel opts slot past).Asks fun q => ∀ signer c, q ≠ .signTransaction signer c := by
  unfold broadcastCancel
  refine .bind (slotState_asks slot) fun state => ?_
  split
  · trivial
  refine .bind (.attempt (ask_asks nofun)) fun sent => ?_
  cases sent with
  | ok _ => exact fun _ => trivial
  | error err =>
    dsimp only
    split
    · exact fun _ => trivial
    split
    · exact fun _ => trivial
    refine .bind (.attempt (ask_asks nofun)) fun held => ?_
    rcases held with readErr | none | state
    · trivial
    · trivial
    · exact fun _ => trivial

/-- Every transaction that freeing a slot signs is an empty self-transfer at its nonce that
outbids the slot's latest signing. -/
theorem releaseSlot_plays {opts : Options} {landBy : Int} {r : TransactionLike}
    {res : Except Thrown (Option String × String)} (here : latest slot sc.shared = some r)
    (fair : r.Fair) (run : Plays (resigning W slot) i (releaseSlot opts slot landBy) sc res sc') :
    Grows (Entry.Asking i (Freeing slot r)) sc sc' := by
  unfold releaseSlot at run
  rcases Plays.of_bind run with ⟨signed, mid, sign, rest⟩ | ⟨x, sign, -⟩
  swap
  · obtain ⟨_, h, -⟩ := Plays.of_attempt sign
    cases h
  obtain ⟨outcome, h, sign⟩ := Plays.of_attempt sign
  cases h
  have first := signCancel_plays here fair sign
  cases signed with
  | error err =>
    obtain ⟨-, rfl⟩ := Plays.of_pure rest
    exact first
  | ok _ =>
    have asks := Plays.asks rest (broadcastCancel_asks opts _) fun _ _ => resigning_others
    refine first.trans (asks.mono fun e asking q a same signer c signing => ?_)
    exact absurd signing (asking q a same signer c)

/-- From any first signing whose tip is within its fee, whatever the market is read to be: each
adopted re-signing is the one before it with fee and tip raised, the tip within the fee and the
fee within the cap; under a bounded market they are boundedly many; and what frees the nonce
outbids the last of them. -/
theorem replacement_ladder (opts : Options) (slot : Slot) :
    (∀ (i : Nat) (sc sc' : Scene W Gateway Deed Ask Ask.Answer Thrown) (given : Option FeeData)
      (note : String),
      Plays (resigning W slot) i (replaceAtSameNonce opts slot given) sc (.ok (true, note)) sc' →
      ∃ next fees, MarketRead i slot given fees sc sc' ∧ latest slot sc'.shared = some next) ∧
    ∀ (sc₀ sc : Scene W Gateway Deed Ask Ask.Answer Thrown)
      (later : List (TransactionLike × FeeData)) (r₀ : TransactionLike),
      latest slot sc₀.shared = some r₀ → slot.originalFee = r₀.offered → r₀.Fair →
      Ladder opts slot sc₀ later sc →
      (signings r₀ later).IsChain Resigns ∧
      (∀ s ∈ later, s.1.offered ≤ 4 * max r₀.offered (s.2.market r₀)) ∧
      (∀ bound, (∀ s ∈ later, s.2.market r₀ ≤ bound) →
        later.length ≤ (4 * max r₀.offered bound - r₀.offered).toNat ∧
        (later ≠ [] →
          9 ^ later.length * r₀.offered ≤ 8 ^ later.length * (4 * max r₀.offered bound))) ∧
      ∃ last, (signings r₀ later).getLast? = some last ∧ latest slot sc.shared = some last ∧
        ∀ (i : Nat) (landBy : Int) (res : Except Thrown (Option String × String))
          (sc' : Scene W Gateway Deed Ask Ask.Answer Thrown),
          Plays (resigning W slot) i (releaseSlot opts slot landBy) sc res sc' →
          ∀ signer cancel a, Asked i (.signTransaction signer cancel) a sc sc' →
            Frees slot last cancel := by
  constructor
  · intro i sc sc' given note run
    rcases (replaceAtSameNonce_plays run).2 with ⟨-, never⟩ | ⟨_, r, fees, -, -, read, -, signing⟩
    · exact absurd rfl (never note)
    · exact ⟨_, fees, read, signing⟩
  · intro sc₀ sc later r₀ first original fair run
    obtain ⟨last, here, held⟩ := ladder_holds first fair run
    have capped := held.capped
    rw [original] at capped
    refine ⟨held.raised, capped, ?_, last, held.ends, here, ?_⟩
    · intro bound bounded
      cases later using List.reverseRecOn with
      | nil => exact ⟨Nat.zero_le _, absurd rfl⟩
      | append_singleton before s =>
        have ends : some s.1 = some last := by
          rw [← held.ends, signings, List.map_append, List.map_singleton, ← List.cons_append,
            List.getLast?_concat]
        have same := Option.some.inj ends
        have mem : s ∈ before ++ [s] := by simp
        have cap := capped s mem
        have market := bounded s mem
        have top : last.offered ≤ 4 * max r₀.offered bound := by
          rw [same] at cap
          omega
        refine ⟨?_, fun _ => ?_⟩
        · have := held.count
          omega
        · exact held.growth.trans
            (Int.mul_le_mul_of_nonneg_left top (pow_nonneg (by decide) _))
    · intro i landBy res sc' freed signer cancel a asked
      obtain ⟨grown, same, mem⟩ := asked
      obtain ⟨grown', same', asking⟩ := releaseSlot_plays here held.fair freed
      have whole : grown = grown' := List.append_cancel_left (same.symm.trans same')
      rw [whole] at mem
      exact asking _ mem _ _ rfl signer cancel rfl

end

/-! ## A fill re-signed once -/

/-- The hash of the empty bytes, which the sample's wallet signs. -/
@[reducible] def emptyHash : Ethers where
  keccak256 _ := "0xc5d2460186f7233c927e7db2dcc703c0e500b653ca82273b7bfad8045d85a470"
  keccak256_lower _ := by decide +kernel
  abiEncode _ := "0x"
  hashDomain _ _ _ _ := "0x"
  concat _ := "0x"

def sampleOptions : Options where
  origins _ := none
  destinations _ := none
  hasAttestations := false
  hasAcceptances := false
  fillInclusionSec := none
  claimInclusionSec := none
  receiptTimeoutMs := none
  receiptPollMs := none
  replaceInDoubtAfterBlocks := none
  replaceInDoubtAfterPasses := none
  replaceInDoubtWithinSec := none
  acceptBudgetSec := none
  claimGasBudget := none

/-- A fill that offers 100 with a tip of 10. -/
def sampleRequest : TransactionLike where
  call := .fill "0x01" "0x02" "0x03" "0x04" 5 1900000000 "0x06"
  nonce := 7
  gasLimit := 90000
  maxFeePerGas := some 100
  maxPriorityFeePerGas := some 10
  gasPrice := none

def sampleSlot : Slot where
  id := 0
  key := (1, "0x07")
  signer := ⟨0⟩
  sender := "0x07"
  nonce := 7
  originalFee := 100
  landBy := some 1900000000
  orderId := none

/-- The market while the fill is stuck. -/
def sampleFees : FeeData where
  gasPrice := none
  maxFeePerGas := some 90
  maxPriorityFeePerGas := some 20

def sampleScene : Scene Unit Gateway Deed Ask Ask.Answer Thrown where
  trace := []
  world := ()
  shared := { Gateway.created 0 with
    slots := [{ request := sampleRequest, raw := "0x", hashes := [], passes := 0, cancel := none
                released := false }] }

theorem sampleScene_resigned : ∃ note sc', @Plays _ _ _ _ _ _ _ (resigning Unit sampleSlot) 0
      (@replaceAtSameNonce sampleOptions emptyHash sampleSlot (some sampleFees)) sampleScene
      (.ok (true, note)) sc' ∧
    latest sampleSlot sc'.shared = some (bumpedRequest sampleRequest 113 sampleFees) := by
  let _ := emptyHash
  refine ⟨_, _, .act (.ask ⟨.refl _, rfl⟩ (.ok "0x") trivial
    (.act (.ask ⟨.refl _, rfl⟩ (.ok ()) trivial (.act (.act (.pure _ _)))))), ?_⟩
  rfl

theorem replacement_ladder_sample :
    (signings sampleRequest [(bumpedRequest sampleRequest 113 sampleFees, sampleFees)]).IsChain
      Resigns ∧ (113 : Int) ≤ 4 * max 100 90 := by
  let _ := emptyHash
  obtain ⟨note, sc', run, signing⟩ := sampleScene_resigned
  have ladder := (replacement_ladder sampleOptions sampleSlot).2 sampleScene sc' _ sampleRequest rfl
    rfl (fun _ => by decide) (.adopted .start run (.inl rfl) signing)
  exact ⟨ladder.1, ladder.2.1 _ (List.mem_singleton.mpr rfl)⟩

end XochiSdk.Solver
