/-
Identity/Unicode/CharSet.lean

Sets of characters, written as the tables of a standard write them: ranges
of code points, and stretches in which only every second code point belongs
(the scripts that interleave capital and small letters).
-/

namespace Identity.Unicode

/-- A set of code points: the union of closed `ranges` and of `alternating`
stretches, which hold their first code point and every second one after it. -/
structure CharSet where
  ranges : List (Nat × Nat)
  alternating : List (Nat × Nat) := []

namespace CharSet

/-- A closed range holds the code point. -/
def inRange (n : Nat) (r : Nat × Nat) : Bool := r.1 ≤ n && n ≤ r.2

/-- An alternating stretch holds the code point. -/
def inStretch (n : Nat) (r : Nat × Nat) : Bool := inRange n r && (n - r.1) % 2 == 0

/-- The set holds the code point. -/
def holds (s : CharSet) (n : Nat) : Bool :=
  s.ranges.any (inRange n) || s.alternating.any (inStretch n)

/-- The set holds the character. -/
def contains (s : CharSet) (c : Char) : Bool := s.holds c.toNat

end CharSet

end Identity.Unicode
