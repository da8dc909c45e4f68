/-
Identity/Crypto/Argon2/Memory.lean

How Argon2id fills its memory.

The memory is a matrix of blocks with one row per lane.  A pass walks over
it in four slices; within a slice the lanes do not read what the others are
writing, so they are filled one after the other.  Each new block is
compressed out of the block before it in its lane and of a reference block.

Where the reference block lies is decided by two pseudo-random numbers.  In
the first half of the first pass they come from a stream of addresses that
does not depend on the password; later they are the first word of the block
before.
-/
import Identity.Crypto.Argon2.Block

namespace Identity.Crypto.Argon2

/-! ### Geometry -/

/-- The shape of a computation. -/
structure Shape where
  passes : Nat
  lanes : Nat
  segmentLength : Nat

namespace Shape

/-- Slices in a pass. -/
def slices : Nat := 4

/-- Blocks in a lane. -/
def laneLength (s : Shape) : Nat := slices * s.segmentLength

/-- Blocks in the memory. -/
def blocks (s : Shape) : Nat := s.lanes * s.laneLength

end Shape

/-- A position inside a pass: a lane, a slice and a place within the slice. -/
structure Position where
  pass : Nat
  slice : Nat
  lane : Nat
  index : Nat

namespace Position

/-- The column of a position. -/
def column (p : Position) (s : Shape) : Nat := p.slice * s.segmentLength + p.index

/-- The reference block of a position is found without looking at memory. -/
def isDataIndependent (p : Position) : Bool := p.pass = 0 && p.slice < 2

/-- The lane that is referred to, given the upper number. -/
def referenceLane (p : Position) (s : Shape) (upper : Nat) : Nat :=
  if p.pass = 0 && p.slice = 0 then p.lane else upper % s.lanes

/-- How many blocks may be referred to in a lane. -/
def window (p : Position) (s : Shape) (ownLane : Bool) : Nat :=
  let finished :=
    if p.pass = 0 then p.slice * s.segmentLength else s.laneLength - s.segmentLength
  if ownLane then finished + p.index - 1
  else if p.index = 0 then finished - 1 else finished

/-- The column at which the window starts. -/
def windowStart (p : Position) (s : Shape) : Nat :=
  if p.pass = 0 || p.slice + 1 = Shape.slices then 0 else (p.slice + 1) * s.segmentLength

/-- The column that is referred to, given the lower number: recent blocks are
more likely. -/
def referenceColumn (p : Position) (s : Shape) (ownLane : Bool) (lower : Nat) : Nat :=
  let size := p.window s ownLane
  let back := (size * ((lower * lower) >>> 32)) >>> 32
  (p.windowStart s + (size - 1 - back)) % s.laneLength

end Position

/-! ### Addresses -/

/-- Addresses per block. -/
def addressesPerBlock : Nat := 128

/-- The block of addresses with the given number for a segment. -/
def addressBlock (s : Shape) (p : Position) (number : Nat) : Array UInt64 :=
  let input := Block.ofWords <|
    [p.pass, p.lane, p.slice, s.blocks, s.passes, 2, number].map UInt64.ofNat
  (Block.compress .zero (Block.compress .zero input)).words.toArray

/-- The addresses of a segment, for as long as it is. -/
def addresses (s : Shape) (p : Position) : Array UInt64 :=
  let count := (s.segmentLength + addressesPerBlock - 1) / addressesPerBlock
  (List.range count).foldl (fun all i => all ++ addressBlock s p (i + 1)) #[]

/-! ### Filling -/

/-- The memory: the lanes one after the other. -/
abbrev Memory := Array Block

/-- Fills one position, given the addresses of its segment. -/
def fillBlock (s : Shape) (stream : Array UInt64) (memory : Memory) (p : Position) : Memory :=
  let column := p.column s
  let start := p.lane * s.laneLength
  let previous :=
    memory.getD (start + (column + s.laneLength - 1) % s.laneLength) .zero
  let numbers :=
    if p.isDataIndependent then stream.getD p.index 0 else previous.firstWord
  let lane := p.referenceLane s (numbers >>> 32).toNat
  let reference :=
    memory.getD
      (lane * s.laneLength + p.referenceColumn s (lane = p.lane) (numbers &&& 0xffffffff).toNat)
      .zero
  let block := Block.compress previous reference
  let block :=
    if p.pass = 0 then block else block.xor (memory.getD (start + column) .zero)
  memory.setIfInBounds (start + column) block

/-- Fills a segment.  The first two blocks of a lane are there already. -/
def fillSegment (s : Shape) (pass slice : Nat) (memory : Memory) (lane : Nat) : Memory :=
  let first := if pass = 0 && slice = 0 then 2 else 0
  let start : Position := ⟨pass, slice, lane, 0⟩
  let stream := if start.isDataIndependent then addresses s start else #[]
  (List.range' first (s.segmentLength - first)).foldl
    (fun memory index => fillBlock s stream memory { start with index := index }) memory

/-- Fills a slice, lane by lane. -/
def fillSlice (s : Shape) (pass : Nat) (memory : Memory) (slice : Nat) : Memory :=
  (List.range s.lanes).foldl (fillSegment s pass slice) memory

/-- Fills the memory once over. -/
def fillPass (s : Shape) (memory : Memory) (pass : Nat) : Memory :=
  (List.range Shape.slices).foldl (fillSlice s pass) memory

/-- Fills the memory in all passes. -/
def fill (s : Shape) (memory : Memory) : Memory :=
  (List.range s.passes).foldl (fillPass s) memory

/-- The last blocks of all lanes, combined. -/
def lastColumn (s : Shape) (memory : Memory) : Block :=
  (List.range s.lanes).foldl
    (fun b lane => b.xor (memory.getD ((lane + 1) * s.laneLength - 1) .zero)) .zero

end Identity.Crypto.Argon2
