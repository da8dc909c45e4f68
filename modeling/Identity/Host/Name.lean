/-
Identity/Host/Name.lean

Names of hosts as they go over the wire.

A written name is first replaced by its image in normal form and then cut at
its dots.  It is a name if every label can be shown and is sound, if no label
changes its direction in case any character is written from right to left,
and if nothing is left in it that ends a name.
-/
import Identity.Host.Label

namespace Identity.Host

namespace Name

/-- The character is a control character or a blank. -/
def isControl (c : Char) : Bool := c.toNat ≤ 0x20 || c.toNat = 0x7f

/-- The character has a meaning of its own around a name, so that no name holds it. -/
def isForbidden (c : Char) : Bool := isControl c || "#%/:<>?@[\\]^|".toList.contains c

/-- The labels as they are shown. -/
def areSound (shown : List Label) : Bool :=
  shown.all Label.isSound && (!shown.any Label.turns || shown.all Label.keepsDirection)

/-- The name that goes over the wire for a written one. -/
def ofText? (text : List Char) : Option (List Char) := do
  let labels := (Unicode.normal (← images? text)).splitOn '.'
  let shown ← labels.mapM Label.shown?
  let name := ['.'].intercalate (labels.map Label.wire)
  if areSound shown && !name.any isForbidden then some name else none

end Name

end Identity.Host
