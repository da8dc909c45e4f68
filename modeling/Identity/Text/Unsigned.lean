/-
Identity/Text/Unsigned.lean

Unsigned numbers below a bound in decimal digits, perhaps after a plus sign.

A text is read from left to right, and the first thing that is wrong with it
is reported: a character that is no digit, or a digit with which the number
is too large.
-/

namespace Identity.Unsigned

/-- The ways in which a text is no such number. -/
inductive Fault where
  | empty
  | notADigit
  | tooLarge
  deriving DecidableEq, Repr

/-- What is said about a text that is no such number. -/
def Fault.message : Fault → String
  | empty => "cannot parse integer from empty string"
  | notADigit => "invalid digit found in string"
  | tooLarge => "number too large to fit in target type"

/-- Reads digits after those of `n`. -/
def digits (bound n : Nat) : List Char → Except Fault Nat
  | [] => .ok n
  | c :: cs =>
    if !c.isDigit then .error .notADigit
    else if bound ≤ n * 10 + (c.toNat - 48) then .error .tooLarge
    else digits bound (n * 10 + (c.toNat - 48)) cs

/-- The number below a bound that some characters stand for. -/
def parseChars (bound : Nat) : List Char → Except Fault Nat
  | [] => .error .empty
  | ['+'] => .error .notADigit
  | '+' :: cs => digits bound 0 cs
  | cs => digits bound 0 cs

/-- The number below a bound that a text stands for. -/
def parseBelow (bound : Nat) (text : String) : Except Fault Nat := parseChars bound text.toList

/-- The number of 64 bits that a text stands for. -/
def parse (text : String) : Except Fault Nat := parseBelow UInt64.size text

end Identity.Unsigned
