/-
Identity/Text/Trim.lean

Taking characters off both ends of a text.
-/
import Identity.Unicode.WhiteSpace

namespace Identity.Text

open Unicode

/-- Drops the characters that satisfy `p` from the end. -/
def dropEndWhile (p : Char → Bool) (cs : List Char) : List Char :=
  (cs.reverse.dropWhile p).reverse

/-- Drops the characters that satisfy `p` from both ends. -/
def trimBy (p : Char → Bool) (cs : List Char) : List Char :=
  dropEndWhile p (cs.dropWhile p)

/-- Drops white space from both ends. -/
def trimChars (cs : List Char) : List Char := trimBy isWhiteSpace cs

/-- Drops white space from both ends of a string. -/
def trim (s : String) : String := String.ofList (trimChars s.toList)

/-- Nothing but white space. -/
def isBlank (s : String) : Bool := s.toList.all isWhiteSpace

end Identity.Text
