import XochiSdk.Library.Bytes
import Mathlib.Tactic.Ring

/-!
# Reading ABI data

The contract ABI's reading of a tuple from its head: fixed-size members stand in their own word,
and the word of a `bytes` member says where its length stands, followed by the content, padded
with zeros to whole words. A read refuses what is out of range, short or not padded with zeros.
-/

namespace XochiSdk.Library.Abi

def wordAt (data : List UInt8) (offset : Nat) : Option (List UInt8) :=
  let word := (data.drop offset).take 32
  if word.length = 32 then some word else none

def numberAt (data : List UInt8) (offset : Nat) : Option Nat := (wordAt data offset).map ofBytes

/-- A `uintN`: a wider word is refused. -/
def uintAt (bits : Nat) (data : List UInt8) (offset : Nat) : Option Nat :=
  (numberAt data offset).filter (· < 2 ^ bits)

/-- How many zeros fill a run of bytes up to whole words. -/
def gap (length : Nat) : Nat := (32 - length % 32) % 32

/-- A `bytes`, whose head word is at an offset. -/
def bytesAt (data : List UInt8) (offset : Nat) : Option (List UInt8) := do
  let start ← numberAt data offset
  let length ← numberAt data start
  let content := (data.drop (start + 32)).take length
  let padding := (data.drop (start + 32 + length)).take (gap length)
  if content.length = length ∧ padding = List.replicate (gap length) 0 then some content else none

theorem take_middle {α : Type} (before middle after : List α) {offset length : Nat}
    (start : before.length = offset) (size : middle.length = length) :
    ((before ++ middle ++ after).drop offset).take length = middle := by
  subst start size
  simp [List.append_assoc]

/-- A word is read where it stands. -/
theorem wordAt_middle (before word after : List UInt8) {offset : Nat}
    (start : before.length = offset) (size : word.length = 32) :
    wordAt (before ++ word ++ after) offset = some word := by
  unfold wordAt
  rw [take_middle _ _ _ start size, if_pos size]

theorem numberAt_middle (before after : List UInt8) {offset n : Nat}
    (start : before.length = offset) (small : n < 2 ^ 256) :
    numberAt (before ++ toBytes 32 n ++ after) offset = some n := by
  unfold numberAt
  rw [wordAt_middle _ _ _ start (length_toBytes 32 n), Option.map_some, ofBytes_toBytes,
    Nat.mod_eq_of_lt]
  exact lt_of_lt_of_eq small (by norm_num)

theorem uintAt_middle {bits : Nat} (before after : List UInt8) {offset n : Nat}
    (start : before.length = offset) (narrow : bits ≤ 256) (small : n < 2 ^ bits) :
    uintAt bits (before ++ toBytes 32 n ++ after) offset = some n := by
  unfold uintAt
  rw [numberAt_middle _ _ start (small.trans_le (Nat.pow_le_pow_right (by omega) narrow))]
  simp [small]

/-- What follows the data changes no word of it. -/
theorem numberAt_append {data : List UInt8} {offset n : Nat} (after : List UInt8)
    (h : numberAt data offset = some n) : numberAt (data ++ after) offset = some n := by
  unfold numberAt wordAt at h ⊢
  dsimp only at h ⊢
  split at h
  · next whole =>
    have room : offset + 32 ≤ data.length := by
      simp only [List.length_take, List.length_drop] at whole
      omega
    have same : ((data ++ after).drop offset).take 32 = (data.drop offset).take 32 := by
      rw [List.drop_append_of_le_length (by omega),
        List.take_append_of_le_length (by rw [List.length_drop]; omega)]
    rw [same, if_pos whole]
    exact h
  · cases h

/-- A `bytes` is read from where its head word points. -/
theorem bytesAt_middle (before content after : List UInt8) {data : List UInt8}
    {offset start : Nat} (head : numberAt data offset = some start) (place : before.length = start)
    (small : content.length < 2 ^ 256)
    (laid : data = before ++ toBytes 32 content.length ++
      (content ++ (List.replicate (gap content.length) 0 ++ after))) :
    bytesAt data offset = some content := by
  have length : numberAt data start = some content.length := by
    rw [laid]
    exact numberAt_middle _ _ place small
  have body : (data.drop (start + 32)).take content.length = content := by
    have := take_middle (before ++ toBytes 32 content.length) content
      (List.replicate (gap content.length) 0 ++ after)
      (show _ = start + 32 by simp [place]) rfl
    rwa [List.append_assoc (before ++ _), ← laid] at this
  have padding : (data.drop (start + 32 + content.length)).take (gap content.length) =
      List.replicate (gap content.length) 0 := by
    have := take_middle (before ++ toBytes 32 content.length ++ content)
      (List.replicate (gap content.length) 0) after
      (show _ = start + 32 + content.length by
        simp only [List.length_append, length_toBytes, place])
      List.length_replicate
    rwa [List.append_assoc, List.append_assoc (before ++ _), ← laid] at this
  unfold bytesAt
  simp only [head, length, body, padding, Option.bind_eq_bind, Option.bind_some, and_self,
    if_true]

end XochiSdk.Library.Abi
