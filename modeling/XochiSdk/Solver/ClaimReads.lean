import XochiSdk.Solver.Steady

/-!
# What a claim loop reads

What the parts of `runClaimLoop` in `packages/solver-sdk/src/escrow-gateway.ts` have read by the
time they return: the lock, the payment, the time, the origin's lead, the receipt of a claim of its
own, and what an order is refused on that is claimed already.
-/

namespace XochiSdk.Solver

open XochiSdk.Js XochiSdk.Library

variable {W : Type} {ready : W → Gateway → (q : Ask) → Except Thrown q.Answer → Prop} {i : Nat}
  {sc sc' : Scene W Gateway Deed Ask Ask.Answer Thrown}

/-- The call was given this answer. -/
def Got (i : Nat) (q : Ask) (a : q.Answer) (sc : Scene W Gateway Deed Ask Ask.Answer Thrown) :
    Prop := Entry.got i q (.ok a) ∈ sc.trace

theorem Asked.here {q : Ask} {a : q.Answer} (asked : Asked i q (.ok a) sc sc') : Got i q a sc' := by
  obtain ⟨later, same, mem⟩ := asked
  unfold Got
  rw [same]
  exact List.mem_append_right _ mem

theorem Asked.earlier {q : Ask} {a : Except Thrown q.Answer}
    {mid : Scene W Gateway Deed Ask Ask.Answer Thrown} (asked : Asked i q a mid sc')
    (leads : Leads sc mid) : Asked i q a sc sc' := by
  obtain ⟨later, same, mem⟩ := asked
  obtain ⟨first, same', -⟩ := leads
  exact ⟨first ++ later, by rw [same, same', List.append_assoc], List.mem_append_right _ mem⟩

theorem around_leads {α : Type} {c : Code α} {r : Except Thrown α}
    (run : Plays (around W ready) i c sc r sc') : Leads sc sc' :=
  run.grows fun _ _ relied => relied.1.mono fun _ _ => trivial

theorem Got.later {α : Type} {c : Code α} {r : Except Thrown α} {q : Ask} {a : q.Answer}
    (got : Got i q a sc) (run : Plays (around W ready) i c sc r sc') : Got i q a sc' :=
  (around_leads run).mem got

section Reads

variable (opts : Options) (prepared : PreparedFill)

/-- The lock was read in this state, on the configured origin. -/
def ReadLock (i : Nat) (status : LockStatus) (sc : Scene W Gateway Deed Ask Ask.Answer Thrown) :
    Prop :=
  ∃ origin, opts.origins prepared.originChainId = some origin ∧
    Got i (.locks origin.signer origin.escrow prepared.orderId.text none) status sc

/-- The first `Claimed` log of a range that was read names who was paid. -/
def ReadPaid (i : Nat) (result : ClaimLoopResult)
    (sc : Scene W Gateway Deed Ask Ask.Answer Thrown) : Prop :=
  ∃ origin fromBlock toBlock logs, opts.origins prepared.originChainId = some origin ∧
    Got i (.claimedLogs origin.signer origin.escrow prepared.orderId.text fromBlock toBlock)
      logs sc ∧
    paidIn prepared logs = some result

/-- The loop has signed a call itself, and the hash was signed for that call at the same nonce: it
is that signing, or one that replaces it. -/
def SignedBy (i : Nat) (call : ContractCall) (txHash : String)
    (sc : Scene W Gateway Deed Ask Ask.Answer Thrown) : Prop :=
  ∃ nonce first, Entry.did i (.signed call nonce first) ∈ sc.trace ∧
    ∃ j, Entry.did j (.signed call nonce txHash) ∈ sc.trace

/-- The loop's own claim, signed by it after it was simulated to pay its own payee, has a successful
receipt. -/
def OwnConfirmed (i : Nat) (txHash : String) (sc : Scene W Gateway Deed Ask Ask.Answer Thrown) :
    Prop :=
  ∃ origin proof payee block, opts.origins prepared.originChainId = some origin ∧
    Got i (.staticCall origin.signer (.claim origin.escrow prepared.orderId.text proof)) payee sc ∧
    asciiLower payee = asciiLower prepared.payee ∧
    SignedBy i (.claim origin.escrow prepared.orderId.text proof) txHash sc ∧
    Got i (.transactionReceipt origin.signer txHash) (some ⟨true, block⟩) sc

/-- The local time, or the origin's, has reached the last moment a claim can be sent. -/
def TimeUp (i : Nat) (sc : Scene W Gateway Deed Ask Ask.Answer Thrown) : Prop :=
  opts.lastSendSec prepared ≤ sc.shared.clock / 1000 ∨
    ∃ origin head, opts.origins prepared.originChainId = some origin ∧
      Got i (.latestBlock origin.signer) (some head) sc ∧
      opts.lastSendSec prepared ≤ head.timestamp

/-- What a result of the loop rests on. -/
inductive Ended (o : ClaimLoopOptions) (i : Nat)
    (sc sc' : Scene W Gateway Deed Ask Ask.Answer Thrown) : ClaimLoopResult → Prop where
  | aborted (signal : Nat) (given : o.signal = some signal)
      (aborted : signal ∈ sc.shared.aborted) : Ended o i sc sc' .aborted
  | paid {result : ClaimLoopResult} (read : ReadLock opts prepared i .claimed sc')
      (paid : ReadPaid opts prepared i result sc') : Ended o i sc sc' result
  | refunded (read : ReadLock opts prepared i .refunded sc') :
      Ended o i sc sc' (.lock_not_open .refunded)
  | confirmed {txHash : String} (own : OwnConfirmed opts prepared i txHash sc') :
      Ended o i sc sc' (.claimed txHash)
  | closed {reason : String} (up : TimeUp opts prepared i sc') :
      Ended o i sc sc' (.window_closed reason)
  | unverified {reason : String} (up : TimeUp opts prepared i sc')
      (read : ReadLock opts prepared i .claimed sc') :
      Ended o i sc sc' (.claimed_unverified reason)

end Reads

section Runs

variable {opts : Options} {prepared : PreparedFill}

theorem ReadLock.later {α : Type} {c : Code α} {r : Except Thrown α} {status : LockStatus}
    (read : ReadLock opts prepared i status sc) (run : Plays (around W ready) i c sc r sc') :
    ReadLock opts prepared i status sc' := by
  obtain ⟨origin, known, got⟩ := read
  exact ⟨origin, known, got.later run⟩

theorem TimeUp.later (up : TimeUp opts prepared i sc) (onward : Onward sc sc') :
    TimeUp opts prepared i sc' := by
  rcases up with here | ⟨origin, head, known, got, reached⟩
  · exact .inl (here.trans (Int.ediv_le_ediv (by decide) onward.clock))
  · exact .inr ⟨origin, head, known, onward.leads.mem got, reached⟩

/-- A slot confirms only with a successful receipt of a hash signed for its call, at its nonce. -/
def Confirms (i : Nat) (node : Signer) (call : ContractCall) (nonce : Nat) (outcome : TxOutcome)
    (sc : Scene W Gateway Deed Ask Ask.Answer Thrown) : Prop :=
  ∀ txHash block, outcome = .confirmed txHash block →
    Got i (.transactionReceipt node txHash) (some ⟨true, block⟩) sc ∧
      ∃ j, Entry.did j (.signed call nonce txHash) ∈ sc.trace

variable [Ethers]

/-- A slot is returned with its call signed, and follows its own signings. -/
def Opened (i : Nat) (plan : SendPlan) (slot : Slot)
    (sc : Scene W Gateway Deed Ask Ask.Answer Thrown) : Prop :=
  slot.signer = plan.signer ∧ ∃ nonce first,
    Entry.did i (.signed plan.call nonce first) ∈ sc.trace ∧ Follows slot plan.call nonce sc

omit [Ethers] in
theorem Opened.later {plan : SendPlan} {slot : Slot} (opened : Opened i plan slot sc)
    (onward : Onward sc sc') : Opened i plan slot sc' := by
  obtain ⟨signer, nonce, first, mem, follows⟩ := opened
  exact ⟨signer, nonce, first, onward.leads.mem mem, follows.later onward⟩

/-- Between two scenes the lock was read Claimed, or a hash has a successful receipt. -/
def Taken (prepared : PreparedFill) (i : Nat)
    (sc sc' : Scene W Gateway Deed Ask Ask.Answer Thrown) : Prop :=
  (∃ node escrow,
    Asked i (.locks node escrow prepared.orderId.text none) (.ok .claimed) sc sc') ∨
    ∃ node hash block, Asked i (.transactionReceipt node hash) (.ok (some ⟨true, block⟩)) sc sc'

/-- Between two scenes the lock was read Open, and after that Claimed, or a hash has a successful
receipt. -/
def Denied (prepared : PreparedFill) (i : Nat)
    (sc sc' : Scene W Gateway Deed Ask Ask.Answer Thrown) : Prop :=
  ∃ mid : Scene W Gateway Deed Ask Ask.Answer Thrown,
    (∃ node escrow,
      Asked i (.locks node escrow prepared.orderId.text none) (.ok .opened) sc mid) ∧
      Taken prepared i mid sc'

omit [Ethers] in
theorem Taken.widen {mid mid' : Scene W Gateway Deed Ask Ask.Answer Thrown}
    (taken : Taken prepared i mid mid') (first : Leads sc mid) (last : Leads mid' sc') :
    Taken prepared i sc sc' := by
  rcases taken with ⟨node, escrow, read⟩ | ⟨node, hash, block, read⟩
  · exact .inl ⟨node, escrow, (read.earlier first).later last⟩
  · exact .inr ⟨node, hash, block, (read.earlier first).later last⟩

omit [Ethers] in
theorem unrefused {α : Type} {c : Code α} {x : Thrown} (steady : Steady False c)
    (refused : x.alreadyClaimed = true) : ¬Plays (around W ready) i c sc (.error x) sc' := by
  intro failed
  have other : x.alreadyClaimed = false := steady.spared failed
  rw [refused] at other
  cases other

end Runs

end XochiSdk.Solver
