/-
Identity/Host/Image/Basic.lean

Tables of the characters that a host name holds instead of others.  A row
lists the images of consecutive code points as words with a blank between
them; an alphabet that is there in several shapes is listed once, for as many
rounds as there are shapes.  A question mark stands where no character has an
image.
-/

namespace Identity.Host

/-- The images of the code points from `first` on. -/
structure Images where
  first : Nat
  words : String
  deriving Repr, DecidableEq

namespace Images

/-- The images one by one. -/
def toList (t : Images) : List (List Char) := t.words.toList.splitOn ' '

/-- The image of a code point, if the images go on for some rounds. -/
def inRounds? (t : Images) (rounds n : Nat) : Option (List Char) :=
  if t.first ≤ n && n < t.first + t.toList.length * rounds then
    t.toList[(n - t.first) % t.toList.length]?
  else none

/-- The image of a code point. -/
def get? (t : Images) (n : Nat) : Option (List Char) := t.inRounds? 1 n

end Images

end Identity.Host
