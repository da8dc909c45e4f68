/-
Identity/Crypto/Sha2.lean

The SHA-2 hashes.  A message is padded to whole blocks of sixteen words and
folded, block by block, into a state of eight words.

The two hashes in use differ in the width of a word, in the number of rounds
and in four triples of rotations: a `Variant` lists those differences, and
everything else is written once.
-/
import Identity.Bytes

namespace Identity.Crypto.Sha2

/-! ### Variants -/

/-- Three amounts by which a word is rotated (or, the last one in a schedule,
shifted). -/
structure Rotations where
  first : Nat
  second : Nat
  third : Nat

/-- What one hash of the family does differently from another. -/
structure Variant where
  width : Nat
  initial : List (BitVec width)
  constants : List (BitVec width)
  upper : Rotations
  lower : Rotations
  early : Rotations
  late : Rotations

namespace Variant

/-- Bytes in a word. -/
def wordLength (v : Variant) : Nat := v.width / 8

/-- Bytes in a block. -/
def blockLength (v : Variant) : Nat := 16 * v.wordLength

/-- Bytes that hold the length of a message. -/
def lengthLength (v : Variant) : Nat := 2 * v.wordLength

end Variant

/-! ### Functions on words -/

/-- The bits of `y` where `x` has a one, those of `z` elsewhere. -/
def choose {w : Nat} (x y z : BitVec w) : BitVec w := (x &&& y) ^^^ (~~~x &&& z)

/-- The bits that at least two of the three words have. -/
def majority {w : Nat} (x y z : BitVec w) : BitVec w := (x &&& y) ^^^ (x &&& z) ^^^ (y &&& z)

/-- The sum modulo two of three rotations of a word. -/
def rotations {w : Nat} (r : Rotations) (x : BitVec w) : BitVec w :=
  x.rotateRight r.first ^^^ x.rotateRight r.second ^^^ x.rotateRight r.third

/-- The sum modulo two of two rotations and a shift of a word. -/
def rotationsShift {w : Nat} (r : Rotations) (x : BitVec w) : BitVec w :=
  x.rotateRight r.first ^^^ x.rotateRight r.second ^^^ x >>> r.third

/-! ### State -/

/-- The eight words of the state. -/
structure State (w : Nat) where
  a : BitVec w
  b : BitVec w
  c : BitVec w
  d : BitVec w
  e : BitVec w
  f : BitVec w
  g : BitVec w
  h : BitVec w

namespace State

variable {w : Nat}

/-- The state with the given words; missing ones are zero. -/
def ofList (l : List (BitVec w)) : State w :=
  ⟨l.getD 0 0, l.getD 1 0, l.getD 2 0, l.getD 3 0, l.getD 4 0, l.getD 5 0, l.getD 6 0, l.getD 7 0⟩

/-- Word-wise sum. -/
def add (s t : State w) : State w :=
  ⟨s.a + t.a, s.b + t.b, s.c + t.c, s.d + t.d, s.e + t.e, s.f + t.f, s.g + t.g, s.h + t.h⟩

/-- The words in order. -/
def words (s : State w) : List (BitVec w) := [s.a, s.b, s.c, s.d, s.e, s.f, s.g, s.h]

end State

/-! ### Compression -/

variable (v : Variant)

/-- Mixes a round constant and a word of the schedule into the state. -/
def round (s : State v.width) (input : BitVec v.width × BitVec v.width) : State v.width :=
  let t₁ := s.h + rotations v.lower s.e + choose s.e s.f s.g + input.1 + input.2
  let t₂ := rotations v.upper s.a + majority s.a s.b s.c
  ⟨t₁ + t₂, s.a, s.b, s.c, s.d + t₁, s.e, s.f, s.g⟩

/-- The word that follows the words of a schedule so far. -/
def nextWord (schedule : Array (BitVec v.width)) : BitVec v.width :=
  let n := schedule.size
  schedule.getD (n - 16) 0 + rotationsShift v.early (schedule.getD (n - 15) 0) +
    schedule.getD (n - 7) 0 + rotationsShift v.late (schedule.getD (n - 2) 0)

/-- Extends a schedule by `count` words. -/
def extend : (count : Nat) → Array (BitVec v.width) → Array (BitVec v.width)
  | 0, schedule => schedule
  | count + 1, schedule => extend count (schedule.push (nextWord v schedule))

/-- The words of a block. -/
def blockWords (block : Bytes) : Array (BitVec v.width) :=
  ((Bytes.chunks v.wordLength block).map fun w => BitVec.ofNat v.width (Bytes.toNatBE w)).toArray

/-- Folds one block into the state. -/
def compress (s : State v.width) (block : Bytes) : State v.width :=
  let schedule := extend v (v.constants.length - 16) (blockWords v block)
  s.add ((v.constants.zip schedule.toList).foldl (round v) s)

/-! ### Digest -/

/-- A one bit, zeros, and the length of the message in bits, up to the end of
a block. -/
def padding (length : Nat) : Bytes :=
  let filled := (length + 1 + v.lengthLength) % v.blockLength
  0x80 :: List.replicate ((v.blockLength - filled) % v.blockLength) 0 ++
    Bytes.ofNatBE v.lengthLength (length * 8)

/-- The digest of a message. -/
def hash (message : Bytes) : Bytes :=
  let blocks := Bytes.chunks v.blockLength (message ++ padding v message.length)
  (blocks.foldl (compress v) (State.ofList v.initial)).words.flatMap fun w =>
    Bytes.ofNatBE v.wordLength w.toNat

end Identity.Crypto.Sha2
