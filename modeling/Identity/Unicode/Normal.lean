/-
Identity/Unicode/Normal.lean

The normal form of a text: every character that can be made of the ones that
stand for it is made of them.

A text is first taken apart and the marks on each letter are put in order of
their classes; then each letter takes up the marks that it can reach.  A mark
is out of reach when a mark that stays stands before it with the same class
or a higher one.
-/
import Identity.Unicode.CombiningClass
import Identity.Unicode.Composition

namespace Identity.Unicode

/-! ### Taking apart -/

/-- How often a character can be taken apart. -/
def deepest : Nat := 4

/-- The characters that a character stands for, taken apart `depth` times. -/
def parts : (depth : Nat) → Char → List Char
  | 0, c => [c]
  | depth + 1, c =>
    match decompose? c with
    | some (a, b) => parts depth a ++ [b]
    | none => [c]

/-- Puts a character before a text whose marks are in order. -/
def insertMark (c : Char) : List Char → List Char
  | [] => [c]
  | d :: rest =>
    if 0 < combiningClass d && combiningClass d < combiningClass c then d :: insertMark c rest
    else c :: d :: rest

/-- The text with the marks on each letter in order of their classes. -/
def orderMarks (cs : List Char) : List Char := cs.foldr insertMark []

/-- The text taken apart. -/
def decomposed (cs : List Char) : List Char := orderMarks (cs.flatMap (parts deepest))

/-! ### Putting together -/

/-- The mark can be reached across the marks that stay, the last of them first. -/
def isReached (kept : List Char) (c : Char) : Bool :=
  match kept with
  | [] => true
  | d :: _ => combiningClass d < combiningClass c

/-- Goes on after a letter and the marks on it that stay, the last of them first. -/
def composeAfter (letter : Char) (kept : List Char) : List Char → List Char
  | [] => letter :: kept.reverse
  | c :: rest =>
    match if isReached kept c then compose? letter c else none with
    | some whole => composeAfter whole kept rest
    | none =>
      if combiningClass c = 0 then letter :: kept.reverse ++ composeAfter c [] rest
      else composeAfter letter (c :: kept) rest

/-- The text put together. -/
def composed : List Char → List Char
  | [] => []
  | c :: rest => composeAfter c [] rest

/-- The normal form of a text. -/
def normal (cs : List Char) : List Char := composed (decomposed cs)

/-- The text is its own normal form. -/
def isNormal (cs : List Char) : Bool := normal cs == cs

end Identity.Unicode
