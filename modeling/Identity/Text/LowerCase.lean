/-
Identity/Text/LowerCase.lean

Full Unicode lower-casing.

Three rules make up the lower-case form of a text.  A capital I with a dot
above becomes two characters, an i and a combining dot.  A capital sigma
becomes a final sigma at the end of a word and a medial one elsewhere.
Every other character has a single lower-case form that depends on nothing
around it.

A sigma *ends a word* when, looking through case-ignorable characters, a
cased character stands before it and none stands after it.
-/
import Identity.Unicode.CaseIgnorable
import Identity.Unicode.Letters
import Identity.Unicode.SimpleLowercase

namespace Identity.Text

open Unicode

/-! ### Words around a sigma -/

/-- Past its case-ignorable characters, the text goes on with a cased one. -/
def startsCased (cs : List Char) : Bool :=
  match cs.dropWhile isCaseIgnorable with
  | c :: _ => isCased c
  | [] => false

/-- A sigma ends its word, between the text before it (read backwards) and
the text after it. -/
def endsWord (before after : List Char) : Bool :=
  startsCased before && !startsCased after

/-! ### Lower-casing -/

/-- The capital I with a dot above. -/
def dottedCapitalI : Char := '\u0130'

/-- The capital sigma. -/
def capitalSigma : Char := '\u03a3'

/-- The lower-case form of a character on its own. -/
def lowerChar (c : Char) : List Char :=
  if c = dottedCapitalI then ['i', '\u0307'] else [Char.ofNat (simpleLowercase c.toNat)]

/-- The lower-case form of a character, given the text before it (read
backwards) and the text after it. -/
def lowerCharIn (before after : List Char) (c : Char) : List Char :=
  if c = capitalSigma then [if endsWord before after then '\u03c2' else '\u03c3']
  else lowerChar c

/-- Lower-cases a text that continues `before`, which is read backwards. -/
def lowerAfter (before : List Char) : List Char → List Char
  | [] => []
  | c :: after => lowerCharIn before after c ++ lowerAfter (c :: before) after

/-- The lower-case form of a text. -/
def lowerChars (cs : List Char) : List Char := lowerAfter [] cs

/-- The lower-case form of a string. -/
def lower (s : String) : String := String.ofList (lowerChars s.toList)

end Identity.Text
