import Mathlib.NumberTheory.LucasPrimality
import Mathlib.Data.List.Prime

/-!
# Certified primes

Lucas's test with the powers computed by squaring, so that the kernel evaluates it on numbers
of hundreds of bits.
-/

namespace XochiSdk.Library

/-- `acc * a ^ e` modulo `m`, squaring `a` once for each binary digit of `e`. -/
def powMod (m : Nat) : Nat → Nat → Nat → Nat → Nat
  | 0, acc, _, _ => acc
  | digits + 1, acc, a, e =>
    powMod m digits (if e % 2 = 1 then acc * a % m else acc) (a * a % m) (e / 2)

theorem powMod_cast (m digits acc a e : Nat) (fits : e < 2 ^ digits) :
    (powMod m digits acc a e : ZMod m) = acc * (a : ZMod m) ^ e := by
  induction digits generalizing acc a e with
  | zero =>
    have : e = 0 := by simpa using fits
    simp [powMod, this]
  | succ digits ih =>
    have half : e / 2 < 2 ^ digits := by
      rw [Nat.pow_succ] at fits
      omega
    have squared : ((a * a % m : Nat) : ZMod m) ^ (e / 2) = (a : ZMod m) ^ (2 * (e / 2)) := by
      rw [ZMod.natCast_mod, Nat.cast_mul, pow_mul, sq]
    rw [powMod, ih _ _ _ half, squared]
    split
    · next odd =>
      rw [ZMod.natCast_mod, Nat.cast_mul, mul_assoc, ← pow_succ']
      congr 2
      omega
    · next even =>
      congr 2
      omega

/-- `a ^ e` modulo `p` for exponents below `p`. -/
def power (p a e : Nat) : Nat := powMod p (p.log2 + 1) 1 a e % p

theorem power_eq_one {p a e : Nat} (large : 2 ≤ p) (below : e < p) :
    power p a e = 1 ↔ (a : ZMod p) ^ e = 1 := by
  have fits : e < 2 ^ (p.log2 + 1) := lt_trans below Nat.lt_log2_self
  have cast := powMod_cast p (p.log2 + 1) 1 a e fits
  rw [Nat.cast_one, one_mul] at cast
  have one : 1 % p = 1 := Nat.mod_eq_of_lt large
  have residue := ZMod.natCast_eq_natCast_iff' (powMod p (p.log2 + 1) 1 a e) 1 p
  rw [Nat.cast_one, one] at residue
  rw [← cast]
  exact residue.symm

/-- Lucas's test: `factors` are the prime factors of `p - 1`, each as often as it divides, and
`a` has order `p - 1`. -/
theorem prime_of_order {p : Nat} (a : Nat) (factors : List Nat) (large : 2 ≤ p)
    (primes : ∀ q ∈ factors, q.Prime) (product : factors.prod = p - 1)
    (full : power p a (p - 1) = 1) (proper : ∀ q ∈ factors, power p a ((p - 1) / q) ≠ 1) :
    p.Prime := by
  have below : p - 1 < p := by omega
  refine lucas_primality p (a : ZMod p) ((power_eq_one large below).mp full) ?_
  intro q prime divides reached
  rw [← product] at divides
  obtain ⟨r, listed, qr⟩ := (Prime.dvd_prod_iff prime.prime).mp divides
  obtain rfl := (Nat.prime_dvd_prime_iff_eq prime (primes r listed)).mp qr
  have smaller : (p - 1) / q < p := lt_of_le_of_lt (Nat.div_le_self _ _) below
  exact proper q listed ((power_eq_one large smaller).mpr reached)

end XochiSdk.Library
