/-
Identity/Host/Character.lean

What becomes of a character in the name of a host.  Names are compared
without regard to case, shape and invisible characters, so every character
has an *image*: nothing at all, the character itself, or the characters that
are held instead of it.  Some characters have no image; a name with one of
them is no name.
-/
import Identity.Host.Image.Arabic
import Identity.Host.Image.Ideographs
import Identity.Host.Image.Letters
import Identity.Unicode.Printable
import Identity.Unicode.SimpleLowercase

namespace Identity.Host

open Unicode

/-! ### Characters without an image -/

/-- The character is one of the 128 that a host name goes over the wire with. -/
def isAscii (c : Char) : Bool := c.toNat < 0x80

/-- The characters that part or join the letters around them. -/
def joiners : CharSet where
  ranges := [(0x200C, 0x200D)]

/-- Signs that stand for a blank, a dot or another character that no name
holds, alone or among others, and signs that describe ideographs. -/
def refused : CharSet where
  ranges := [
    (0xA8, 0xA8), (0xAF, 0xAF), (0xB4, 0xB4), (0xB8, 0xB8), (0x2D8, 0x2DD), (0x37A, 0x37A),
    (0x384, 0x385), (0x1FBD, 0x1FBD), (0x1FBF, 0x1FC1), (0x1FCD, 0x1FCF), (0x1FDD, 0x1FDF),
    (0x1FED, 0x1FEE), (0x1FFD, 0x1FFE), (0x2017, 0x2017), (0x2024, 0x2026), (0x203E, 0x203E),
    (0x2047, 0x2049), (0x2100, 0x2101), (0x2105, 0x2106), (0x2488, 0x249B), (0x2A74, 0x2A74),
    (0x2FF0, 0x2FFF), (0x309B, 0x309C), (0x31EF, 0x31EF), (0x33C2, 0x33C2), (0x33C7, 0x33C7),
    (0x33D8, 0x33D8), (0xFC5E, 0xFC63), (0xFDFA, 0xFDFB), (0xFE12, 0xFE13), (0xFE16, 0xFE16),
    (0xFE19, 0xFE19), (0xFE30, 0xFE30), (0xFE47, 0xFE4C), (0xFE52, 0xFE52), (0xFE55, 0xFE56),
    (0xFE5F, 0xFE5F), (0xFE64, 0xFE65), (0xFE68, 0xFE68), (0xFE6A, 0xFE70), (0xFE72, 0xFE72),
    (0xFE74, 0xFE76), (0xFE78, 0xFE78), (0xFE7A, 0xFE7A), (0xFE7C, 0xFE7C), (0xFE7E, 0xFE7E),
    (0xFF03, 0xFF03), (0xFF05, 0xFF05), (0xFF0F, 0xFF0F), (0xFF1A, 0xFF1A), (0xFF1C, 0xFF1C),
    (0xFF1E, 0xFF20), (0xFF3B, 0xFF3E), (0xFF5C, 0xFF5C), (0xFFE3, 0xFFE3), (0xFFFC, 0xFFFD),
    (0x1F100, 0x1F100)]

/-- Letters and signs that came last into their alphabets.  A name may hold
them, though quoted text still shows them by number. -/
def latest : CharSet where
  ranges := [
    (0x530, 0x530), (0x558, 0x558), (0x58B, 0x58C), (0x5C8, 0x5C8), (0xB53, 0xB54),
    (0x1ADE, 0x1ADF), (0x1AEC, 0x1AF0), (0x208F, 0x208F), (0x209D, 0x209F), (0x20C2, 0x20C3),
    (0x2E5E, 0x2E63), (0xA7E2, 0xA7E2), (0xAB6C, 0xAB6C), (0x10EF0, 0x10EF9), (0x11DF0, 0x11DF0),
    (0x1246F, 0x1246F), (0x12475, 0x1247F), (0x12550, 0x12686), (0x16D80, 0x16D9D),
    (0x16DA0, 0x16DA9), (0x18CD6, 0x18CDA), (0x18E00, 0x19191), (0x191A0, 0x191D2),
    (0x1B123, 0x1B128), (0x1B168, 0x1B168), (0x1CED1, 0x1CED4), (0x1CEDD, 0x1CEDF),
    (0x1CEF1, 0x1CEFD), (0x1D1EB, 0x1D1FF), (0x1D250, 0x1D281), (0x1D6A6, 0x1D6A6),
    (0x1DF1F, 0x1DF24), (0x1DF2B, 0x1DF81), (0x1DF90, 0x1DF97), (0x1F1AE, 0x1F1AE),
    (0x1F6D9, 0x1F6D9), (0x1F7DA, 0x1F7DB), (0x1FA8B, 0x1FA8D), (0x1FACC, 0x1FACC),
    (0x1FADD, 0x1FADD), (0x1FAEB, 0x1FAEB), (0x1FAF9, 0x1FAFA), (0x3D000, 0x3FC3F)]

/-- The character stands for no shape that a name could show. -/
def isShapeless (c : Char) : Bool := unprintable.contains c && !latest.contains c

/-- The character has no image. -/
def isRefused (c : Char) : Bool :=
  refused.contains c || (isShapeless c && !isAscii c && !joiners.contains c)

/-! ### Images -/

/-- Characters that are passed over: they show as nothing, or choose a shape. -/
def ignored : CharSet where
  ranges := [
    (0xAD, 0xAD), (0x34F, 0x34F), (0x115F, 0x1160), (0x17B4, 0x17B5), (0x180B, 0x180F),
    (0x200B, 0x200B), (0x2060, 0x2064), (0x206A, 0x206F), (0x3164, 0x3164), (0xFE00, 0xFE0F),
    (0xFEFF, 0xFEFF), (0xFFA0, 0xFFA0), (0x1BCA0, 0x1BCA3), (0x1D173, 0x1D17A),
    (0xE0100, 0xE01EF)]

/-- The image that a table gives. -/
def tabledImage? (n : Nat) : Option (List Char) :=
  (shapedLetters.findSome? fun (rounds, t) => t.inRounds? rounds n) <|>
  (otherLetters.findSome? (·.get? n)) <|>
  (ideographs.findSome? (·.get? n)) <|>
  (arabicLetters.findSome? (·.get? n))

/-- The image of a character, if it has one. -/
def image? (c : Char) : Option (List Char) :=
  if ignored.contains c then some []
  else if isRefused c then none
  else some ((tabledImage? c.toNat).getD [Char.ofNat (simpleLowercase c.toNat)])

/-- The characters that are held instead of those of a text. -/
def images? (cs : List Char) : Option (List Char) := List.flatten <$> cs.mapM image?

/-- The character is its own image. -/
def isOwnImage (c : Char) : Bool := image? c == some [c]

end Identity.Host
