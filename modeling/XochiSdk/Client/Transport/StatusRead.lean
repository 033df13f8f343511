import XochiSdk.Client.Wire

/-!
# One status read

`packages/client/src/transport/client.ts`, `getStatus` on an answer that is ok: the served body
as the row the machine is handed. The status is decoded here, at the boundary.
-/

namespace XochiSdk.Client

open XochiSdk.Js XochiSdk.Shared

/-- The members of a status body the client reads; only its status is of no known type. -/
structure StatusBody where
  intentId : Option String
  status : Value
  txHash : Option String
  receivingTxHash : Option String
  settlementTxHash : Option String
  settlementChainId : Option JsNumber
  error : Option String
  refundReason : Option String
  substatus : Option String
  terminal : Option Bool
  legsWithheld : Option Bool
  settlementConfirmed : Option Bool

/-- The row of a body whose status decodes to one of the union's. The row of an inherited
member, which names no status, is not one of the machine's rows. -/
def readStatusBody (d : StatusBody) : Option IntentStatusData :=
  let decoded := decodeWireStatus d.status
  match decoded.status with
  | .inherited _ => none
  | .known status =>
    let withheld := d.legsWithheld == some true
    some {
      intentId := d.intentId
      status := status
      unmapped := decoded.isUnmapped
      txHash := d.txHash
      receivingTxHash := d.receivingTxHash
      settlementTxHash := d.settlementTxHash
      settlementChainId := d.settlementChainId
      error := d.error
      refundReason := d.refundReason
      substatus := d.substatus
      terminal := d.terminal.getD (isTerminalIntentStatus status)
      legsWithheld := withheld
      settlementConfirmed :=
        withheld && withheldSettlementConfirmed d.status withheld
          (d.settlementConfirmed.getD false) }

/-- A string outside both vocabularies. -/
structure Foreign (s : String) : Prop where
  canonical : readIntentStatus s = none
  granular : granularWireStatus.lookup s = none

/-- The decoder reads a foreign string as unmapped where no object inherits its name. -/
theorem Foreign.unmapped_iff {s : String} (foreign : Foreign s) :
    decodeWireStatus (.str s) = .unmapped s ↔ inheritedMember s = none := by
  unfold decodeWireStatus
  simp only [foreign.canonical, foreign.granular]
  cases inheritedMember s with
  | none => simp
  | some printed => simp

/-- An unmapped status is handed on as in progress, and marked. -/
theorem readStatusBody_unmapped {d : StatusBody} {row : IntentStatusData} {s : String}
    (decoded : decodeWireStatus d.status = .unmapped s) (read : readStatusBody d = some row) :
    row.status = .executing ∧ row.unmapped = true := by
  unfold readStatusBody at read
  rw [decoded] at read
  cases read
  exact ⟨rfl, rfl⟩

/-- The wire words that mean a delivered fill. -/
def completedWords : List String := ["completed", "filled"]

theorem decodeWireStatus_completed {raw : Value}
    (decoded : (decodeWireStatus raw).status = .known .completed) :
    ∃ s ∈ completedWords, raw = .str s := by
  unfold decodeWireStatus at decoded
  split at decoded
  · rename_i s
    split at decoded
    · rename_i status canonical
      cases decoded
      refine ⟨s, ?_, rfl⟩
      have text := List.find?_some canonical
      rw [← beq_iff_eq.mp text]
      decide
    · split at decoded
      · rename_i bucket granular
        cases decoded
        refine ⟨s, ?_, rfl⟩
        obtain ⟨before, after, split, -⟩ := List.lookup_eq_some_iff.mp granular
        have member : (s, IntentStatus.completed) ∈ granularWireStatus := by
          rw [split]
          simp
        have filled : s = "filled" := by simpa [granularWireStatus] using member
        rw [filled]
        decide
      · split at decoded
        · cases decoded
        · cases decoded
  · cases decoded

theorem readStatusBody_completed {d : StatusBody} {row : IntentStatusData}
    (read : readStatusBody d = some row) (completed : row.status = .completed) :
    ∃ s ∈ completedWords, d.status = .str s := by
  unfold readStatusBody at read
  dsimp only at read
  split at read
  · cases read
  · rename_i status decoded
    cases read
    dsimp only at completed
    rw [completed] at decoded
    exact decodeWireStatus_completed decoded

end XochiSdk.Client
