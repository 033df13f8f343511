import XochiSdk.Solver.ClaimReads

/-!
# The claim loop

`runClaimLoop` of `packages/solver-sdk/src/escrow-gateway.ts`, turn by turn: what ends it, how long
it sleeps, what it keeps, and when it does not spin.
-/

namespace XochiSdk.Solver

open XochiSdk.Js XochiSdk.Library

variable {W : Type} {ready : W → Gateway → (q : Ask) → Except Thrown q.Answer → Prop} {i : Nat}
  {sc sc' : Scene W Gateway Deed Ask Ask.Answer Thrown}

section Runs

variable {opts : Options} {prepared : PreparedFill} [Ethers]

/-! ### One turn -/

/-- A verified attestation is there after as before, the same or one fetched since. -/
def Keeps (prepared : PreparedFill) (i : Nat) (loop next : ClaimLoop)
    (sc : Scene W Gateway Deed Ask Ask.Answer Thrown) : Prop :=
  ∀ v, loop.verified = some v → ∃ v', next.verified = some v' ∧
    (v' = v ∨ Got i (.attestation prepared) (some v') sc)

omit [Ethers] in
theorem Ended.later {o : ClaimLoopOptions} {before mid : Scene W Gateway Deed Ask Ask.Answer Thrown}
    {result : ClaimLoopResult} (ended : Ended opts prepared o i before mid result)
    (onward : Onward mid sc') : Ended opts prepared o i before sc' result := by
  have got {q : Ask} {a : q.Answer} (h : Got i q a mid) : Got i q a sc' := onward.leads.mem h
  have lock {status : LockStatus} (h : ReadLock opts prepared i status mid) :
      ReadLock opts prepared i status sc' := by
    obtain ⟨origin, known, read⟩ := h
    exact ⟨origin, known, got read⟩
  cases ended with
  | aborted signal given aborted => exact .aborted signal given aborted
  | paid read paid =>
    obtain ⟨origin, fromBlock, toBlock, logs, known, seen, named⟩ := paid
    exact .paid (lock read) ⟨origin, fromBlock, toBlock, logs, known, got seen, named⟩
  | refunded read => exact .refunded (lock read)
  | confirmed own =>
    obtain ⟨origin, proof, payee, block, known, simulated, same, signed, receipt⟩ := own
    obtain ⟨nonce, first, mine, j, signing⟩ := signed
    exact .confirmed ⟨origin, proof, payee, block, known, got simulated, same,
      ⟨nonce, first, onward.leads.mem mine, j, onward.leads.mem signing⟩, got receipt⟩
  | closed up => exact .closed (up.later onward)
  | unverified up read => exact .unverified (up.later onward) (lock read)

/-- A turn of a run that left the loop to sleep: from its start to its end, and to its waking, with
the origin's lead as read by its end. -/
structure SleptTurn (W : Type) where
  loop : ClaimLoop
  rest : Rest
  leadMs : Int
  before : Scene W Gateway Deed Ask Ask.Answer Thrown
  after : Scene W Gateway Deed Ask Ask.Answer Thrown
  woken : Scene W Gateway Deed Ask Ask.Answer Thrown

namespace SleptTurn

variable (opts prepared) in
/-- What is left of the window when the turn ends, by the local clock and the lead that was read. -/
def leftMs (t : SleptTurn W) : Int :=
  opts.lastSendSec prepared * 1000 - (t.after.shared.clock + t.leadMs)

/-- The turn did not read the lock Open, and after that Claimed or a successful receipt. -/
def Unclaimed (prepared : PreparedFill) (i : Nat) (t : SleptTurn W) : Prop :=
  ¬Denied prepared i t.before t.after

/-- The turn was not refused because the order is claimed already. -/
def Unrefused (t : SleptTurn W) : Prop := t.rest.threw.any Thrown.alreadyClaimed = false

end SleptTurn

/-- What holds of a turn in any run. -/
structure SleptTurn.Sound (opts : Options) (prepared : PreparedFill) (i : Nat)
    (t : SleptTurn W) : Prop where
  keeps : Keeps prepared i t.loop t.rest.loop t.after
  inside : t.rest.delayMs = 0 ∨
    t.after.shared.clock + t.leadMs + t.rest.delayMs ≤ opts.lastSendSec prepared * 1000
  wakes : 0 < t.rest.delayMs ↔ 0 < t.leftMs opts prepared ∧ t.Unrefused
  refused : t.Unclaimed prepared i → t.Unrefused

/-- A `claimed` result names a payment to the loop's own payee. -/
def PaidOwn (opts : Options) (prepared : PreparedFill) (i : Nat) (txHash : String)
    (sc : Scene W Gateway Deed Ask Ask.Answer Thrown) : Prop :=
  OwnConfirmed opts prepared i txHash sc ∨
    ∃ origin fromBlock toBlock logs log payee,
      opts.origins prepared.originChainId = some origin ∧
      Got i (.claimedLogs origin.signer origin.escrow prepared.orderId.text fromBlock toBlock)
        logs sc ∧
      log ∈ logs ∧ log.removed = false ∧ log.payee = some payee ∧
      asciiLower payee = asciiLower prepared.payee ∧ log.transactionHash = txHash

omit [Ethers] in
theorem paidIn_claimed {logs : List ClaimedLog} {txHash : String}
    (paid : paidIn prepared logs = some (.claimed txHash)) :
    ∃ log ∈ logs, ∃ payee, log.removed = false ∧ log.payee = some payee ∧
      asciiLower payee = asciiLower prepared.payee ∧ log.transactionHash = txHash := by
  induction logs with
  | nil => cases paid
  | cons log rest ih =>
    have later (h : paidIn prepared rest = some (.claimed txHash)) :
        ∃ log' ∈ log :: rest, ∃ payee, log'.removed = false ∧ log'.payee = some payee ∧
          asciiLower payee = asciiLower prepared.payee ∧ log'.transactionHash = txHash := by
      obtain ⟨log', mem, known⟩ := ih h
      exact ⟨log', List.mem_cons_of_mem _ mem, known⟩
    unfold paidIn at paid
    split at paid
    · exact later paid
    · next kept =>
      split at paid
      · exact later paid
      · next payee named =>
        rw [Option.some.injEq] at paid
        split at paid
        · next own =>
          cases paid
          exact ⟨log, List.mem_cons_self .., payee, by simpa using kept, named, own, rfl⟩
        · cases paid

omit [Ethers] in
theorem Ended.own {o : ClaimLoopOptions} {before : Scene W Gateway Deed Ask Ask.Answer Thrown}
    {txHash : String} (ended : Ended opts prepared o i before sc (.claimed txHash)) :
    PaidOwn opts prepared i txHash sc := by
  cases ended with
  | confirmed own => exact .inl own
  | paid read paid =>
    obtain ⟨origin, fromBlock, toBlock, logs, known, got, named⟩ := paid
    obtain ⟨log, mem, payee, kept, shown, same, hash⟩ := paidIn_claimed named
    exact .inr ⟨origin, fromBlock, toBlock, logs, log, payee, known, got, mem, kept, shown, same,
      hash⟩

end Runs

section Finished

variable {opts : Options} {prepared : PreparedFill} [Ethers] {o : ClaimLoopOptions}
  {sc₀ : Scene W Gateway Deed Ask Ask.Answer Thrown} {turns : List (SleptTurn W)} {lead : Int}
  {loop : ClaimLoop}

end Finished

end XochiSdk.Solver
