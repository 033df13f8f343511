import XochiSdk.Library.Bytes

/-!
# Keccak-256

The hash itself, as a function the kernel evaluates. The state is one number of 1600 bits: five
rows of five lanes of 64 bits, lane `x` of row `y` at bit `64 * (x + 5 * y)`.
-/

namespace XochiSdk.Library

namespace Keccak

/-- A lane, or a row, at the start of every row. -/
def rows : Nat := 1 + 2 ^ 320 + 2 ^ 640 + 2 ^ 960 + 2 ^ 1280

/-- The lowest bit of each lane of a row. -/
def lanes : Nat := 1 + 2 ^ 64 + 2 ^ 128 + 2 ^ 192 + 2 ^ 256

def rotate (lane offset : Nat) : Nat := (lane <<< offset ||| lane >>> (64 - offset)) % 2 ^ 64

/-- The parity of each column is mixed into its two neighbours. -/
def theta (state : Nat) : Nat :=
  let column := (state ^^^ state >>> 320 ^^^ state >>> 640 ^^^ state >>> 960 ^^^ state >>> 1280) %
    2 ^ 320
  let before := column <<< 64 % 2 ^ 320 ||| column >>> 256
  let after := column >>> 64 ||| (column % 2 ^ 64) <<< 256
  let turned := (after <<< 1 &&& (2 ^ 320 - 1 - lanes)) ||| (after >>> 63 &&& lanes)
  state ^^^ (before ^^^ turned) * rows

/-- Where each lane goes, and how far it is turned on the way. -/
def moves : List (Nat × Nat) :=
  [(0, 0), (10, 1), (20, 62), (5, 28), (15, 27), (16, 36), (1, 44), (11, 6), (21, 55), (6, 20),
   (7, 3), (17, 10), (2, 43), (12, 25), (22, 39), (23, 41), (8, 45), (18, 15), (3, 21), (13, 8),
   (14, 18), (24, 2), (9, 61), (19, 56), (4, 14)]

def rhoPi (state : Nat) : Nat :=
  (moves.foldl (fun (rest, moved) (place, offset) =>
    (rest >>> 64, moved ||| rotate (rest % 2 ^ 64) offset <<< (64 * place))) (state, 0)).2

/-- Every lane replaced by the next one of its row. -/
def next (state : Nat) : Nat :=
  (state >>> 64 &&& (2 ^ 256 - 1) * rows) ||| (state &&& (2 ^ 64 - 1) * rows) <<< 256

def chi (state : Nat) : Nat :=
  let first := next state
  state ^^^ ((2 ^ 1600 - 1 ^^^ first) &&& next first)

def roundConstants : List Nat :=
  [0x0000000000000001, 0x0000000000008082, 0x800000000000808A, 0x8000000080008000,
   0x000000000000808B, 0x0000000080000001, 0x8000000080008081, 0x8000000000008009,
   0x000000000000008A, 0x0000000000000088, 0x0000000080008009, 0x000000008000000A,
   0x000000008000808B, 0x800000000000008B, 0x8000000000008089, 0x8000000000008003,
   0x8000000000008002, 0x8000000000000080, 0x000000000000800A, 0x800000008000000A,
   0x8000000080008081, 0x8000000000008080, 0x0000000080000001, 0x8000000080008008]

def permute (state : Nat) : Nat :=
  roundConstants.foldl (fun state constant => chi (rhoPi (theta state)) ^^^ constant) state

/-- Bytes as a number, least significant first. -/
def little (bytes : List UInt8) : Nat := bytes.foldr (fun b n => n * 256 + b.toNat) 0

/-- A last block is filled up to 136 bytes by a first bit and a last one. -/
def pad (block : List UInt8) : Nat := little block + 2 ^ (8 * block.length) + 2 ^ 1087

/-- Whole blocks of 136 bytes, then the last one. -/
def absorb : Nat → Nat → List UInt8 → Nat
  | 0, state, bytes => permute (state ^^^ pad bytes)
  | blocks + 1, state, bytes =>
    absorb blocks (permute (state ^^^ little (bytes.take 136))) (bytes.drop 136)

end Keccak

open Keccak in
def keccak256 (bytes : List UInt8) : Word :=
  let state := absorb (bytes.length / 136) 0 bytes
  ⟨(toBytes 32 state).reverse, by rw [List.length_reverse, length_toBytes]⟩

end XochiSdk.Library
