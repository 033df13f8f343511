import Mathlib.Data.List.Induction
import Mathlib.Data.List.Nodup
import Mathlib.Data.Set.Function
import Mathlib.Tactic.Ring

/-!
# Big-endian bytes and fixed-width words

Numbers as bytes, most significant first, and runs of words of one width. A run of words is
read back from its concatenation, which is what makes a hash over fixed-width members bind
each of them.
-/

namespace XochiSdk.Library

/-- The number a run of bytes spells. -/
def ofBytes (bs : List UInt8) : Nat := bs.foldl (fun n b => n * 256 + b.toNat) 0

/-- The last `k` bytes of a number. -/
def toBytes : Nat → Nat → List UInt8
  | 0, _ => []
  | k + 1, n => toBytes k (n / 256) ++ [UInt8.ofNat n]

@[simp] theorem ofBytes_nil : ofBytes [] = 0 := rfl

theorem ofBytes_concat (bs : List UInt8) (b : UInt8) :
    ofBytes (bs ++ [b]) = ofBytes bs * 256 + b.toNat := by
  simp [ofBytes]

@[simp] theorem length_toBytes (k n : Nat) : (toBytes k n).length = k := by
  induction k generalizing n with
  | zero => rfl
  | succ k ih => simp [toBytes, ih]

theorem ofBytes_lt (bs : List UInt8) : ofBytes bs < 256 ^ bs.length := by
  induction bs using List.reverseRecOn with
  | nil => simp
  | append_singleton bs b ih =>
    have byte := b.toNat_lt
    rw [ofBytes_concat, List.length_append, List.length_singleton, Nat.pow_succ]
    omega

@[simp] theorem ofBytes_toBytes (k n : Nat) : ofBytes (toBytes k n) = n % 256 ^ k := by
  induction k generalizing n with
  | zero => simp [toBytes, Nat.mod_one]
  | succ k ih =>
    have byte : (UInt8.ofNat n).toNat = n % 256 := rfl
    rw [toBytes, ofBytes_concat, ih, byte, Nat.pow_succ, Nat.mul_comm (256 ^ k), Nat.mod_mul]
    ring

@[simp] theorem toBytes_ofBytes (bs : List UInt8) : toBytes bs.length (ofBytes bs) = bs := by
  induction bs using List.reverseRecOn with
  | nil => rfl
  | append_singleton bs b ih =>
    have byte := b.toNat_lt
    rw [List.length_append, List.length_singleton, toBytes, ofBytes_concat]
    have quotient : (ofBytes bs * 256 + b.toNat) / 256 = ofBytes bs := by omega
    have last : UInt8.ofNat (ofBytes bs * 256 + b.toNat) = b := by
      apply UInt8.toNat_inj.mp
      change (ofBytes bs * 256 + b.toNat) % 256 = b.toNat
      omega
    rw [quotient, last, ih]

theorem toBytes_inj {k a b : Nat} (ha : a < 256 ^ k) (hb : b < 256 ^ k)
    (h : toBytes k a = toBytes k b) : a = b := by
  have read := congrArg ofBytes h
  rwa [ofBytes_toBytes, ofBytes_toBytes, Nat.mod_eq_of_lt ha, Nat.mod_eq_of_lt hb] at read

/-- A run of exactly `n` bytes. -/
structure Bytes (n : Nat) where
  bytes : List UInt8
  length_bytes : bytes.length = n
  deriving DecidableEq

namespace Bytes

variable {n : Nat}

theorem ext {a b : Bytes n} (h : a.bytes = b.bytes) : a = b := by
  cases a
  cases b
  cases h
  rfl

def toNat (w : Bytes n) : Nat := ofBytes w.bytes

/-- The last `n` bytes of a number. -/
def ofNat (n k : Nat) : Bytes n := ⟨toBytes n k, length_toBytes n k⟩

theorem toNat_lt (w : Bytes n) : w.toNat < 256 ^ n := by
  have := ofBytes_lt w.bytes
  rwa [w.length_bytes] at this

@[simp] theorem toNat_ofNat (k : Nat) : (ofNat n k).toNat = k % 256 ^ n := ofBytes_toBytes n k

@[simp] theorem ofNat_toNat (w : Bytes n) : ofNat n w.toNat = w := by
  apply ext
  have := toBytes_ofBytes w.bytes
  rwa [w.length_bytes] at this

theorem toNat_injective {a b : Bytes n} (h : a.toNat = b.toNat) : a = b := by
  rw [← ofNat_toNat a, h, ofNat_toNat]

theorem ofNat_inj {a b : Nat} (ha : a < 256 ^ n) (hb : b < 256 ^ n)
    (h : ofNat n a = ofNat n b) : a = b :=
  toBytes_inj ha hb (congrArg bytes h)

/-- The same number in `m` bytes. -/
def widen (m : Nat) (w : Bytes n) : Bytes m := ofNat m w.toNat

theorem widen_inj {m : Nat} (wider : n ≤ m) {a b : Bytes n} (h : widen m a = widen m b) :
    a = b := by
  have room : 256 ^ n ≤ 256 ^ m := Nat.pow_le_pow_right (by decide) wider
  exact toNat_injective
    (ofNat_inj (lt_of_lt_of_le a.toNat_lt room) (lt_of_lt_of_le b.toNat_lt room) h)

/-- A run of words, one after the other. -/
def join (ws : List (Bytes n)) : List UInt8 := ws.flatMap bytes

@[simp] theorem join_nil : join ([] : List (Bytes n)) = [] := rfl

@[simp] theorem join_cons (w : Bytes n) (ws : List (Bytes n)) :
    join (w :: ws) = w.bytes ++ join ws := rfl

@[simp] theorem length_join (ws : List (Bytes n)) : (join ws).length = n * ws.length := by
  induction ws with
  | nil => simp
  | cons w ws ih =>
    rw [join_cons, List.length_append, ih, w.length_bytes, List.length_cons]
    ring

/-- The first word of two equal runs is the same one, and so is what follows it. -/
theorem join_cons_inj {v w : Bytes n} {vs ws : List UInt8}
    (h : v.bytes ++ vs = w.bytes ++ ws) : v = w ∧ vs = ws := by
  have split := List.append_inj h (v.length_bytes.trans w.length_bytes.symm)
  exact ⟨ext split.1, split.2⟩

theorem join_injective (positive : 0 < n) {vs ws : List (Bytes n)} (h : join vs = join ws) :
    vs = ws := by
  induction vs generalizing ws with
  | nil =>
    have empty := congrArg List.length h
    rw [length_join, length_join, List.length_nil, Nat.mul_zero] at empty
    have none_left : ws.length = 0 := by
      rcases Nat.mul_eq_zero.mp empty.symm with zero | zero
      · omega
      · exact zero
    exact (List.length_eq_zero_iff.mp none_left).symm
  | cons v vs ih =>
    cases ws with
    | nil =>
      have empty := congrArg List.length h
      rw [length_join, length_join, List.length_nil, Nat.mul_zero, List.length_cons] at empty
      rcases Nat.mul_eq_zero.mp empty with zero | zero <;> omega
    | cons w ws =>
      obtain ⟨rfl, rest⟩ := join_cons_inj h
      rw [ih rest]

end Bytes

/-- A 32-byte word. -/
abbrev Word := Bytes 32

theorem pow_word : (256 : Nat) ^ 32 = 2 ^ 256 := by norm_num

namespace Word

theorem ofNat_inj {a b : Nat} (ha : a < 2 ^ 256) (hb : b < 2 ^ 256)
    (h : Bytes.ofNat 32 a = Bytes.ofNat 32 b) : a = b := by
  rw [← pow_word] at ha hb
  exact Bytes.ofNat_inj ha hb h

end Word

/-- No two of the listed inputs share an image. -/
def Distinguishes {α β : Type} (hash : α → β) (used : List α) : Prop :=
  Set.InjOn hash {a | a ∈ used}

theorem Distinguishes.eq {α β : Type} {hash : α → β} {used : List α}
    (h : Distinguishes hash used) {a b : α} (ha : a ∈ used) (hb : b ∈ used)
    (same : hash a = hash b) : a = b :=
  h ha hb same

theorem Distinguishes.of_nodup {α β : Type} {hash : α → β} {used : List α}
    (h : (used.map hash).Nodup) : Distinguishes hash used :=
  fun _ ha _ hb same => List.inj_on_of_nodup_map h ha hb same

theorem Distinguishes.mono {α β : Type} {hash : α → β} {used fewer : List α}
    (h : Distinguishes hash used) (sub : fewer ⊆ used) : Distinguishes hash fewer :=
  Set.InjOn.mono (fun _ member => sub member) h

end XochiSdk.Library
