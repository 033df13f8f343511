import XochiSdk.Js.Text
import Mathlib.Data.Rat.Defs

/-!
# What the program takes from outside the repository

The Unicode case tables, the date parser (implementation-defined past the ISO form) and the
two third-party primitives the checks call. Every definition that reads one takes `Host`;
every result is for all of them.
-/

namespace XochiSdk.Js

/-- A time value: milliseconds since the epoch, inside the range a `Date` can hold. -/
structure TimeValue where
  ms : Int
  inRange : ms.natAbs ≤ 8640000000000000

class Host where
  /-- `String.prototype.toLowerCase`. -/
  toLowerCase : String → String
  /-- `String.prototype.toUpperCase`. -/
  toUpperCase : String → String
  /-- `new Date(text).getTime()`; `none` is `NaN`. -/
  dateParse : String → Option TimeValue
  /-- `JSON.stringify` of a finite number: one text for one number, of digits, a sign, a point
  and an exponent. -/
  numberText : ℚ → String
  numberText_injective : ∀ {a b : ℚ}, numberText a = numberText b → a = b
  numberText_plain : ∀ (q : ℚ), ∀ c ∈ (numberText q).toList, c ≠ ',' ∧ c ≠ '"' ∧ c ≠ 'n'
  /-- What `BigInt` throws for a value that prints so. -/
  bigIntError : String → String
  /-- viem's `sha256` over bytes. -/
  sha256 : List UInt8 → List UInt8
  /-- ethers' `verifyMessage(message, signature)`: the recovered address, or the message of
  what it threw. -/
  verifyMessage : String → String → Except String String

/-- The readings of `Date.now()` inside one update, in milliseconds: the machine's own clock
is the message's stamp, and only the signer's checks read the wall clock. -/
structure WallClock where
  /-- `assertIntentMatchesRequest`'s deadline bound. -/
  intentCheck : TimeValue
  /-- `assertPullMatchesIntent`'s deadline bound. -/
  pullCheck : TimeValue
  /-- `assertDepositQuoteMatchesRequest`'s deposit window. -/
  depositCheck : TimeValue

/-- `Math.floor(ms / 1000)`. -/
def TimeValue.secs (t : TimeValue) : Int := t.ms / 1000

end XochiSdk.Js
