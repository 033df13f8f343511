import XochiSdk.Library.Primality
import XochiSdk.Signer.Primitives
import Mathlib.Algebra.Group.Nat.Hom
import Mathlib.Data.ZMod.Basic
import Mathlib.GroupTheory.OrderOfElement
import Mathlib.Tactic.NormNum.Prime

/-!
# The stealth curve

`packages/signer/src/stealth-ecdh.ts` and `private-key.ts`, over the group the signer takes
from `@noble/curves`: an abelian group whose order is `N`, with its point encodings.
-/

namespace XochiSdk.Signer

open XochiSdk.Js XochiSdk.Library

/-- secp256k1 group order. -/
def N : Nat := 0xFFFFFFFFFFFFFFFFFFFFFFFFFFFFFFFEBAAEDCE6AF48A03BBFD25E8CD0364141

/-- The group order is prime. -/
theorem N_prime : N.Prime := by
  have prime_297159362677 : Nat.Prime 297159362677 :=
    prime_of_order 2 [2, 2, 3, 3, 11, 461, 1627771] (by norm_num)
      (by simp only [List.forall_mem_cons]; norm_num) (by decide +kernel) (by decide +kernel)
      (by decide +kernel)
  have prime_545358713 : Nat.Prime 545358713 :=
    prime_of_order 5 [2, 2, 2, 41, 59, 28181] (by norm_num)
      (by simp only [List.forall_mem_cons]; norm_num) (by decide +kernel) (by decide +kernel)
      (by decide +kernel)
  have prime_29047611873442575647497758179 : Nat.Prime 29047611873442575647497758179 :=
    prime_of_order 2 [2, 293, 305873, 545358713, 297159362677] (by norm_num)
      (by
        simp only [List.forall_mem_cons]
        refine ⟨?_, ?_, ?_, prime_545358713, prime_297159362677, ?_⟩ <;> norm_num)
      (by decide +kernel) (by decide +kernel) (by decide +kernel)
  have prime_341948486974166000522343609283189 :
      Nat.Prime 341948486974166000522343609283189 :=
    prime_of_order 2 [2, 2, 3, 3, 3, 109, 29047611873442575647497758179] (by norm_num)
      (by
        simp only [List.forall_mem_cons]
        refine ⟨?_, ?_, ?_, ?_, ?_, ?_, prime_29047611873442575647497758179, ?_⟩ <;> norm_num)
      (by decide +kernel) (by decide +kernel) (by decide +kernel)
  have prime_44706919 : Nat.Prime 44706919 :=
    prime_of_order 6 [2, 3, 797, 9349] (by norm_num)
      (by simp only [List.forall_mem_cons]; norm_num) (by decide +kernel) (by decide +kernel)
      (by decide +kernel)
  have prime_174723607534414371449 : Nat.Prime 174723607534414371449 :=
    prime_of_order 3 [2, 2, 2, 17, 59, 4051, 120233, 44706919] (by norm_num)
      (by
        simp only [List.forall_mem_cons]
        refine ⟨?_, ?_, ?_, ?_, ?_, ?_, ?_, prime_44706919, ?_⟩ <;> norm_num)
      (by decide +kernel) (by decide +kernel) (by decide +kernel)
  have prime_107361793816595537 : Nat.Prime 107361793816595537 :=
    prime_of_order 3 [2, 2, 2, 2, 16699, 85831, 4681609] (by norm_num)
      (by simp only [List.forall_mem_cons]; norm_num) (by decide +kernel) (by decide +kernel)
      (by decide +kernel)
  exact prime_of_order 7 [2, 2, 2, 2, 2, 2, 3, 149, 631, 107361793816595537, 174723607534414371449,
      341948486974166000522343609283189] (by decide +kernel)
    (by
      simp only [List.forall_mem_cons]
      refine ⟨?_, ?_, ?_, ?_, ?_, ?_, ?_, ?_, ?_, prime_107361793816595537,
        prime_174723607534414371449, prime_341948486974166000522343609283189, ?_⟩ <;> norm_num)
    (by decide +kernel) (by decide +kernel) (by decide +kernel)

/-- The points of secp256k1: the group law, and the encodings the signer reads and writes.
Compressing a point and reading it back gives the point. -/
class Secp256k1 (Point : Type) extends AddCommGroup Point where
  base : Point
  base_ne_zero : base ≠ 0
  order : ∀ P : Point, N • P = 0
  fromHex : List UInt8 → Option Point
  toRawBytes : Bool → Point → List UInt8
  fromHex_compressed : ∀ P : Point, P ≠ 0 → fromHex (toRawBytes true P) = some P

/-- Why the stealth functions throw: their own key check, or the byte and curve libraries. -/
inductive StealthError where
  | invalidPrivateKey (label : String)
  | library
  deriving DecidableEq

/-- `hex.startsWith("0x") ? hex.slice(2) : hex`. -/
def strip0x (hex : String) : List Char :=
  match hex.toList with
  | '0' :: 'x' :: rest => rest
  | cs => cs

/-- `ethers.getBytes("0x" + strip0x(text))`. -/
def keyBytes (text : String) : Except StealthError (List UInt8) :=
  match getBytes (String.ofList ('0' :: 'x' :: strip0x text)) with
  | some bytes => .ok bytes
  | none => .error .library

/-- Reduce a byte-encoded scalar into `[0, N)`. -/
def modOrder (bytes : List UInt8) : Nat := ofBytes bytes % N

/-- `PRIVATE_KEY_PATTERN` and the range `[1, N - 1]`; the text with its prefix. -/
def assertValidPrivateKey (value label : String) : Except StealthError String :=
  let normalized := if startsWithHex value then value else "0x" ++ value
  if isHexOfLength 64 normalized then
    match bigInt normalized with
    | some scalar =>
      if scalar == 0 || scalar ≥ (N : Int) then .error (.invalidPrivateKey label)
      else .ok normalized
    | none => .error (.invalidPrivateKey label)
  else .error (.invalidPrivateKey label)

section Curve

variable {Point : Type} [Secp256k1 Point] [DecidableEq Point]

/-- `point.multiply(scalar)`: the scalar must lie in `[1, N - 1]`. -/
def multiply (P : Point) (scalar : Nat) : Except StealthError Point :=
  if scalar = 0 ∨ N ≤ scalar then .error .library else .ok (scalar • P)

/-- `point.toRawBytes(compressed)`: the point at infinity has none. -/
def rawBytes (compressed : Bool) (P : Point) : Except StealthError (List UInt8) :=
  if P = 0 then .error .library else .ok (Secp256k1.toRawBytes compressed P)

variable (Point) in
/-- `ProjectivePoint.fromHex(getBytes("0x" + strip0x(text)))`. -/
def readPoint (text : String) : Except StealthError Point := do
  let bytes ← keyBytes text
  match Secp256k1.fromHex bytes with
  | some P => pure P
  | none => .error .library

variable (Point) in
/-- `keccak256(compressed(priv * pub))`: the ECDH secret both sides hash. -/
def sharedSecretHash [Ethers] (publicKey : String) (privateKey : List UInt8) :
    Except StealthError Word := do
  let point ← readPoint Point publicKey
  let secret ← multiply point (modOrder privateKey)
  let compressed ← rawBytes true secret
  pure (keccak256 compressed)

omit [DecidableEq Point] in
/-- Only the multiples of the order vanish on a finite point. -/
theorem nsmul_ne_zero {P : Point} (finite : P ≠ 0) {k : Nat} (h : ¬ N ∣ k) : k • P ≠ 0 := by
  have divides : addOrderOf P ∣ N := addOrderOf_dvd_of_nsmul_eq_zero (Secp256k1.order P)
  have exact : addOrderOf P = N := by
    rcases (Nat.dvd_prime N_prime).mp divides with one | whole
    · exact absurd (AddMonoid.addOrderOf_eq_one_iff.mp one) finite
    · exact whole
  intro zero
  rw [← exact] at h
  exact h (addOrderOf_dvd_iff_nsmul_eq_zero.mpr zero)

omit [DecidableEq Point] in
theorem mod_nsmul (k : Nat) (P : Point) : (k % N) • P = k • P := by
  have whole : k • P = (k % N) • P + (k / N) • N • P := by
    rw [← mul_nsmul', ← add_nsmul]
    congr 1
    have := Nat.mod_add_div k N
    rw [Nat.mul_comm] at this
    exact this.symm
  rw [whole, Secp256k1.order, smul_zero, add_zero]

theorem not_dvd_of_range {k : Nat} (positive : 0 < k) (below : k < N) : ¬ N ∣ k :=
  fun divides => absurd (Nat.le_of_dvd positive divides) (by omega)

omit [DecidableEq Point] in
theorem multiply_ok {P : Point} {k : Nat} (positive : 0 < k) (below : k < N) :
    multiply P k = .ok (k • P) := by
  unfold multiply
  rw [if_neg (by omega)]

omit [DecidableEq Point] in
theorem multiply_zero (P : Point) : multiply P 0 = .error .library := by
  unfold multiply
  rw [if_pos (.inl rfl)]

theorem rawBytes_ok {P : Point} (compressed : Bool) (finite : P ≠ 0) :
    rawBytes compressed P = .ok (Secp256k1.toRawBytes compressed P) := by
  unfold rawBytes
  rw [if_neg finite]

/-- The hash of the secret point `k` is the discrete logarithm of. -/
def secretHash (Point : Type) [Secp256k1 Point] [Ethers] (k : Nat) : Word :=
  keccak256 (Secp256k1.toRawBytes true (k • (Secp256k1.base : Point)))

/-- Either side's hash is the one of the product of the two scalars. -/
theorem sharedSecretHash_ok [Ethers] {publicKey : String} {privateKey : List UInt8} {a b : Nat}
    (ha : 0 < a ∧ a < N) (hb : 0 < b ∧ b < N)
    (reads : readPoint Point publicKey = .ok (a • Secp256k1.base))
    (scalar : modOrder privateKey = b) :
    sharedSecretHash Point publicKey privateKey = .ok (secretHash Point (b * a)) := by
  have finite : (b * a) • (Secp256k1.base : Point) ≠ 0 := by
    apply nsmul_ne_zero Secp256k1.base_ne_zero
    intro divides
    rcases (Nat.Prime.dvd_mul N_prime).mp divides with left | right
    · exact not_dvd_of_range hb.1 hb.2 left
    · exact not_dvd_of_range ha.1 ha.2 right
  have product : b • a • (Secp256k1.base : Point) = (b * a) • Secp256k1.base := by
    rw [Nat.mul_comm]
    exact (mul_nsmul _ _ _).symm
  unfold sharedSecretHash
  rw [reads, scalar]
  simp only [bind, Except.bind, multiply_ok hb.1 hb.2, product, rawBytes_ok true finite]
  rfl

end Curve

end XochiSdk.Signer
