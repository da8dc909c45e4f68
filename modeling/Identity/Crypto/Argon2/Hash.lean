/-
Identity/Crypto/Argon2/Hash.lean

Argon2id, version 1.3: password hashing that costs memory.

`Cost.check` lists the costs that are refused; for every other cost,
`hash` answers the derived bytes.
-/
import Identity.Crypto.Argon2.Memory
import Identity.Crypto.Blake2b

namespace Identity.Crypto.Argon2

/-! ### Costs -/

/-- What a derivation is to cost: memory in units of 1024 bytes, passes over
it, and lanes that could be filled at the same time. -/
structure Cost where
  memory : Nat
  passes : Nat
  lanes : Nat
  deriving DecidableEq, Repr, Inhabited

/-- The ways in which a cost is out of range. -/
inductive Fault where
  | memoryTooSmall
  | noPasses
  | noLanes
  | tooManyLanes
  deriving DecidableEq, Repr

/-- What is said about a cost out of range. -/
def Fault.message : Fault → String
  | memoryTooSmall => "memory cost is too small"
  | noPasses => "time cost is too small"
  | noLanes => "not enough threads"
  | tooManyLanes => "too many threads"

namespace Cost

/-- The most lanes. -/
def maxLanes : Nat := 0xffffff

/-- The least memory for a number of lanes, as a word of 32 bits. -/
def leastMemory (lanes : Nat) : Nat := 8 * lanes % UInt32.size

/-- The first rule that a cost breaks.  Numbers of lanes whose least memory does
not fit its word are refused for their number. -/
def check (cost : Cost) : Except Fault Unit :=
  if cost.memory < 8 || cost.memory < leastMemory cost.lanes then .error .memoryTooSmall
  else if cost.passes = 0 then .error .noPasses
  else if cost.lanes = 0 then .error .noLanes
  else if maxLanes < cost.lanes then .error .tooManyLanes
  else .ok ()

/-- The shape of the memory: as many blocks as fit, in equal segments. -/
def shape (cost : Cost) : Shape :=
  ⟨cost.passes, cost.lanes, cost.memory / (Shape.slices * cost.lanes)⟩

end Cost

/-! ### Hashing of variable length -/

/-- A number as four bytes, low byte first. -/
def word (n : Nat) : Bytes := Bytes.ofNatLE 4 n

/-- The digests that follow `digest`, of which all but the last give half of
their bytes. -/
def continuation : (count : Nat) → (lastLength : Nat) → Bytes → Bytes
  | 0, lastLength, digest => digest.take 32 ++ Blake2b.hash lastLength digest
  | count + 1, lastLength, digest =>
    digest.take 32 ++ continuation count lastLength (Blake2b.hash 64 digest)

/-- A digest of any length. -/
def longHash (length : Nat) (message : Bytes) : Bytes :=
  let input := word length ++ message
  if length ≤ 64 then Blake2b.hash length input
  else
    let halves := (length + 31) / 32 - 2
    continuation (halves - 1) (length - 32 * halves) (Blake2b.hash 64 input)

/-! ### Derivation -/

/-- The digest of all inputs. -/
def seed (cost : Cost) (length : Nat) (password salt : Bytes) : Bytes :=
  Blake2b.hash 64 <|
    word cost.lanes ++ word length ++ word cost.memory ++ word cost.passes ++ word 0x13 ++
      word 2 ++ word password.length ++ password ++ word salt.length ++ salt ++ word 0 ++ word 0

/-- The block in one of the first two columns of a lane. -/
def firstBlock (digest : Bytes) (lane column : Nat) : Block :=
  Block.ofBytes (longHash Block.byteLength (digest ++ word column ++ word lane))

/-- The memory with the first two columns in place. -/
def prepare (s : Shape) (digest : Bytes) : Memory :=
  (List.range s.lanes).foldl
    (fun memory lane =>
      (memory.setIfInBounds (lane * s.laneLength) (firstBlock digest lane 0)).setIfInBounds
        (lane * s.laneLength + 1) (firstBlock digest lane 1))
    (Array.replicate s.blocks Block.zero)

/-- The `length` bytes derived from a password and a salt, for a cost in range. -/
def derive (cost : Cost) (length : Nat) (password salt : Bytes) : Bytes :=
  let s := cost.shape
  let memory := fill s (prepare s (seed cost length password salt))
  longHash length (lastColumn s memory).toBytes

/-- The `length` bytes derived from a password and a salt. -/
def hash (cost : Cost) (length : Nat) (password salt : Bytes) : Except Fault Bytes := do
  cost.check
  return derive cost length password salt

end Identity.Crypto.Argon2
