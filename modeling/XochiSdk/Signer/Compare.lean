import XochiSdk.Js.Value

/-!
# Comparisons shared by the signer's checks

`packages/signer/src/compare.ts`, and the errors the checks throw. A check is an `Except`:
the repository's own mismatch class, or the `TypeError` of a conversion that no `try`
around it catches.
-/

namespace XochiSdk.Signer

open XochiSdk.Js

inductive SignerError where
  /-- `XochiIntentMismatchError` on the pull path, `DepositAttestationError` on the deposit
  path. -/
  | mismatch (message : String)
  /-- `DepositQuoteMismatchError`, where a caller tells it from its parent class. -/
  | quoteMismatch (message : String)
  | unexpected (message : String)

/-- What converting an object with a member named `toString` throws. -/
def notPrimitive : SignerError := .unexpected "Cannot convert object to primitive value"

/-- `String(x)`, where a throw leaves the check. -/
def stringOf (x : Value) : Except SignerError String :=
  match x.text with
  | some s => .ok s
  | none => .error notPrimitive

/-- Read a value under its snake_case key, else its camelCase one. -/
def pick (obj : Obj) (snakeKey camelKey : String) : Value :=
  if (obj.get snakeKey).isUndefined then obj.get camelKey else obj.get snakeKey

/-- Case is folded for `0x` and hex, and for nothing else. -/
def normAddressish (v : String) : String := if isHexText v then asciiLower v else v

def sameAddressish (a b : String) : Bool := normAddressish a == normAddressish b

/-- Base-unit amounts and chain ids compared as integers; a value `BigInt` cannot read
equals nothing. -/
def sameNumeric (a b : Value) : Bool :=
  match a.asBigInt, b.asBigInt with
  | some x, some y => x == y
  | _, _ => false

theorem sameNumeric_iff {a b : Value} :
    sameNumeric a b = true ↔ ∃ n, a.asBigInt = some n ∧ b.asBigInt = some n := by
  unfold sameNumeric
  constructor
  · intro h
    split at h
    · next x y hx hy => exact ⟨x, hx, by rw [hy, eq_of_beq h]⟩
    · cases h
  · rintro ⟨n, ha, hb⟩
    simp [ha, hb]

theorem sameAddressish_iff {a b : String} :
    sameAddressish a b = true ↔ normAddressish a = normAddressish b := by
  simp [sameAddressish]

end XochiSdk.Signer
