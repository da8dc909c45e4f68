/-
Identity/Entropy.lean

Randomness as a tape of bytes.

A *draw* consumes bytes from the front of the tape and fails when the tape
runs out; it never looks ahead and never puts bytes back.  Because the tape
is an argument, what a draw answers is a function of the bytes it is given,
and the rejection loop of `index` ends when the tape does.

`index` is unbiased: of the 32-bit words it takes only those below the
greatest multiple of the bound that is at most `2^32 - 1`, so every index
stands for the same number of words.
-/
import Identity.Bytes
import Identity.Crypto.Fault
import Identity.Uuid

namespace Identity

open Crypto (Fault)

/-- The random bytes that are still to be drawn. -/
structure Entropy where
  tape : Bytes
  deriving Inhabited

/-- A computation that draws random bytes. -/
abbrev Draw := StateT Entropy (Except Fault)

namespace Draw

/-- The fault of a tape that has run out. -/
def exhausted : Fault := .random "no more random bytes"

/-! ### Bytes -/

/-- The first `count` bytes of a tape and the rest of it, if it is long enough. -/
def split? : (count : Nat) → Bytes → Option (Bytes × Bytes)
  | 0, tape => some ([], tape)
  | _ + 1, [] => none
  | count + 1, b :: tape => (split? count tape).map fun r => (b :: r.1, r.2)

/-- Draws bytes. -/
def bytes (count : Nat) : Draw Bytes := fun entropy =>
  match split? count entropy.tape with
  | some (drawn, rest) => .ok (drawn, ⟨rest⟩)
  | none => .error exhausted

/-- Draws an identifier. -/
def uuid : Draw Uuid := Uuid.ofRandomBytes <$> bytes 16

/-! ### Indices -/

/-- The greatest 32-bit word. -/
def maxWord : Nat := UInt32.size - 1

/-- The words that are accepted for a bound are those below its zone. -/
def zone (bound : Nat) : Nat := maxWord - maxWord % bound

/-- The word made of four bytes, low byte first. -/
def word (a b c d : UInt8) : Nat := Bytes.toNatLE [a, b, c, d]

/-- The first word of a tape that lies below `limit`, and the tape after it. -/
def firstBelow? (limit : Nat) : Bytes → Option (Nat × Bytes)
  | a :: b :: c :: d :: tape =>
    if word a b c d < limit then some (word a b c d, tape) else firstBelow? limit tape
  | _ => none

/-- Draws a number below `bound`. -/
def index (bound : Nat) : Draw Nat := fun entropy =>
  if maxWord < bound then .error (.random "index bound exceeds u32")
  else if bound = 0 then .error (.random "index bound must be positive")
  else
    match firstBelow? (zone bound) entropy.tape with
    | some (w, rest) => .ok (w % bound, ⟨rest⟩)
    | none => .error exhausted

/-- Draws an element of a list. -/
def element {α : Type} [Inhabited α] (items : List α) : Draw α := do
  let i ← index items.length
  return items.getD i default

/-- Draws one element after the other. -/
def replicate {α : Type} (count : Nat) (draw : Draw α) : Draw (List α) :=
  match count with
  | 0 => return []
  | count + 1 => do
    let x ← draw
    let xs ← replicate count draw
    return x :: xs

end Draw

end Identity
