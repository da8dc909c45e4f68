/-
Identity/Unicode/WhiteSpace.lean

The White_Space property: 25 code points.  Zero-width spaces, the
byte-order mark and the Mongolian vowel separator are not among them.
-/
import Identity.Unicode.CharSet

namespace Identity.Unicode

/-- White_Space. -/
def whiteSpace : CharSet where
  ranges := [
    (0x9, 0xD), (0x20, 0x20), (0x85, 0x85), (0xA0, 0xA0), (0x1680, 0x1680), (0x2000, 0x200A),
    (0x2028, 0x2029), (0x202F, 0x202F), (0x205F, 0x205F), (0x3000, 0x3000)]

/-- The character has the White_Space property. -/
def isWhiteSpace (c : Char) : Bool := whiteSpace.contains c

end Identity.Unicode
