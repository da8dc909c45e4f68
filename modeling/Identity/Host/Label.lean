/-
Identity/Host/Label.lean

The labels that the dots of a host name part.

A label is *shown* in any characters and goes *over the wire* in the 128 that
every host knows; a label with others is marked there by what it starts with.
A shown label is sound when it starts with no mark and its joiners stand where
the letters around them ask for one.
-/
import Identity.Host.Character
import Identity.Host.Punycode
import Identity.Unicode.Direction
import Identity.Unicode.Joining
import Identity.Unicode.Normal

namespace Identity.Host

open Unicode

/-- A label. -/
abbrev Label := List Char

namespace Label

/-! ### Joiners -/

/-- The joiner that parts the letters around it. -/
def nonJoiner : Char := '\u200c'

/-- The joiner that joins the letters around it. -/
def joiner : Char := '\u200d'

/-- A joiner may stand after `before`, which is read backwards: after a letter
that is joined to the next. -/
def followsVirama (before : Label) : Bool := before.head?.any isVirama

/-- The letters around a place would join if nothing stood between them. -/
def isCursive (before after : Label) : Bool :=
  (before.dropWhile isTransparent).head?.any joinsNext &&
    (after.dropWhile isTransparent).head?.any joinsPrevious

/-- The character may stand between two texts if it is a joiner. -/
def joinerFits (before after : Label) (c : Char) : Bool :=
  if c = joiner then followsVirama before
  else if c = nonJoiner then followsVirama before || isCursive before after
  else true

/-- The joiners may stand where they are, after `before`, which is read backwards. -/
def joinersFit (before : Label) : Label → Bool
  | [] => true
  | c :: after => joinerFits before after c && joinersFit (c :: before) after

/-- The shown label is sound by itself. -/
def isSound (label : Label) : Bool := !label.head?.any isMark && joinersFit [] label

/-! ### Directions -/

/-- The label holds a character that is written from right to left. -/
def turns (label : Label) : Bool :=
  label.any fun c => direction c = .rightToLeft || direction c = .arabicDigit

/-- The last direction that is not a mark's. -/
def closing (directions : List Direction) : Option Direction :=
  (directions.reverse.dropWhile (· = .mark)).head?

/-- The label keeps to one direction, so that it reads the same among others of
either direction. -/
def keepsDirection (label : Label) : Bool :=
  let directions := label.map direction
  match directions.head? with
  | none => true
  | some .rightToLeft =>
    !directions.contains .leftToRight &&
    !(directions.contains .europeanDigit && directions.contains .arabicDigit) &&
    [some .rightToLeft, some .europeanDigit, some .arabicDigit].contains (closing directions)
  | some .leftToRight =>
    !label.turns && [some .leftToRight, some .europeanDigit].contains (closing directions)
  | some _ => false

/-! ### Over the wire -/

/-- What a label starts with that stands for other characters. -/
def signal : Label := ['x', 'n', '-', '-']

/-- The label that goes over the wire. -/
def wire (label : Label) : Label :=
  if label.all isAscii then label else signal ++ Punycode.encode label

/-- The label that is shown for one without capitals.  One that stands for
other characters has to stand for characters that are their own images. -/
def shown? (label : Label) : Option Label :=
  if signal.isPrefixOf label then do
    let shown ← Punycode.decode? (label.drop signal.length)
    if shown.all isAscii || !isNormal shown || !shown.all isOwnImage then none else some shown
  else some label

end Label

end Identity.Host
