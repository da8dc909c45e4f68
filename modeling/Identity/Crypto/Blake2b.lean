/-
Identity/Crypto/Blake2b.lean

The unkeyed BLAKE2b hash with digests of 1 to 64 bytes.
-/
import Identity.Bytes

namespace Identity.Crypto.Blake2b

/-- Bytes in a block. -/
def blockLength : Nat := 128

/-- The initial words. -/
def initial : Array UInt64 := #[
  0x6a09e667f3bcc908, 0xbb67ae8584caa73b, 0x3c6ef372fe94f82b, 0xa54ff53a5f1d36f1,
  0x510e527fade682d1, 0x9b05688c2b3e6c1f, 0x1f83d9abfb41bd6b, 0x5be0cd19137e2179]

/-- The order in which each of ten rounds takes the message words. -/
def schedule : List (List Nat) := [
  [0, 1, 2, 3, 4, 5, 6, 7, 8, 9, 10, 11, 12, 13, 14, 15],
  [14, 10, 4, 8, 9, 15, 13, 6, 1, 12, 0, 2, 11, 7, 5, 3],
  [11, 8, 12, 0, 5, 2, 15, 13, 10, 14, 3, 6, 7, 1, 9, 4],
  [7, 9, 3, 1, 13, 12, 11, 14, 2, 6, 5, 10, 4, 0, 15, 8],
  [9, 0, 5, 7, 2, 4, 10, 15, 14, 1, 11, 12, 6, 8, 3, 13],
  [2, 12, 6, 10, 0, 11, 8, 3, 4, 13, 7, 5, 15, 14, 1, 9],
  [12, 5, 1, 15, 14, 13, 4, 10, 0, 7, 6, 3, 9, 2, 8, 11],
  [13, 11, 7, 14, 12, 1, 3, 9, 5, 0, 15, 4, 8, 6, 2, 10],
  [6, 15, 14, 9, 11, 3, 0, 8, 12, 2, 13, 7, 1, 4, 10, 5],
  [10, 2, 8, 4, 7, 6, 1, 5, 15, 11, 9, 14, 3, 12, 13, 0]]

/-- The positions that the eight mixing steps of a round work on. -/
def positions : List (Nat × Nat × Nat × Nat) := [
  (0, 4, 8, 12), (1, 5, 9, 13), (2, 6, 10, 14), (3, 7, 11, 15),
  (0, 5, 10, 15), (1, 6, 11, 12), (2, 7, 8, 13), (3, 4, 9, 14)]

/-! ### Compression -/

/-- Rotation to the right. -/
def rotateRight (x n : UInt64) : UInt64 := x >>> n ||| x <<< (64 - n)

/-- Mixes two message words into four words of the working vector. -/
def mix (v : Array UInt64) (at₄ : Nat × Nat × Nat × Nat) (x y : UInt64) : Array UInt64 :=
  let (i, j, k, l) := at₄
  let a := v.getD i 0 + v.getD j 0 + x
  let d := rotateRight (v.getD l 0 ^^^ a) 32
  let c := v.getD k 0 + d
  let b := rotateRight (v.getD j 0 ^^^ c) 24
  let a := a + b + y
  let d := rotateRight (d ^^^ a) 16
  let c := c + d
  let b := rotateRight (b ^^^ c) 63
  (((v.setIfInBounds i a).setIfInBounds j b).setIfInBounds k c).setIfInBounds l d

/-- The message words in the order of a round, two for each mixing step. -/
def pairs (message : Array UInt64) : List Nat → List (UInt64 × UInt64)
  | i :: j :: rest => (message.getD i 0, message.getD j 0) :: pairs message rest
  | _ => []

/-- One round. -/
def round (message v : Array UInt64) (order : List Nat) : Array UInt64 :=
  (positions.zip (pairs message order)).foldl (fun v step => mix v step.1 step.2.1 step.2.2) v

/-- Folds a block into the state, after `count` bytes in all. -/
def compress (state : Array UInt64) (block : Bytes) (count : Nat) (last : Bool) : Array UInt64 :=
  let message := ((Bytes.chunks 8 block).map fun w => UInt64.ofNat (Bytes.toNatLE w)).toArray
  let v := state ++ initial
  let v := v.setIfInBounds 12 (v.getD 12 0 ^^^ UInt64.ofNat count)
  let v := v.setIfInBounds 13 (v.getD 13 0 ^^^ UInt64.ofNat (count >>> 64))
  let v := if last then v.setIfInBounds 14 (~~~ v.getD 14 0) else v
  let v := (schedule ++ schedule.take 2).foldl (round message) v
  Array.ofFn fun i : Fin 8 => state.getD i 0 ^^^ v.getD i 0 ^^^ v.getD (i + 8) 0

/-! ### Digest -/

/-- Folds the blocks of a message into the state, after `count` bytes. -/
def absorb (state : Array UInt64) (count : Nat) : List Bytes → Array UInt64
  | [] => compress state (List.replicate blockLength 0) count true
  | [block] =>
    compress state (block ++ List.replicate (blockLength - block.length) 0)
      (count + block.length) true
  | block :: rest =>
    absorb (compress state block (count + blockLength) false) (count + blockLength) rest

/-- The state before the first block, for a digest of the given length. -/
def start (digestLength : Nat) : Array UInt64 :=
  initial.setIfInBounds 0 (initial.getD 0 0 ^^^ 0x01010000 ^^^ UInt64.ofNat digestLength)

/-- The digest of a message. -/
def hash (digestLength : Nat) (message : Bytes) : Bytes :=
  let state := absorb (start digestLength) 0 (Bytes.chunks blockLength message)
  (state.toList.flatMap fun w => Bytes.ofNatLE 8 w.toNat).take digestLength

end Identity.Crypto.Blake2b
