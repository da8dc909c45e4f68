/-
Identity/Url/Percent.lean

Bytes as a percent sign and two hexadecimal digits.  Writing does so with the
bytes of every character that a place cannot hold; reading leaves alone a
percent sign that no two digits follow.
-/
import Identity.Text.Hex

namespace Identity.Percent

/-! ### Characters -/

/-- A character that shows as something, or as a blank, in every alphabet. -/
def isVisible (c : Char) : Bool := 0x20 ≤ c.toNat && c.toNat < 0x7f

/-! ### Writing and reading -/

/-- A byte behind a percent sign. -/
def encodeByte (b : UInt8) : List Char := '%' :: (Hex.encodeByte b).map Char.toUpper

/-- The text with the bytes of every character that is not held. -/
def encode (holds : Char → Bool) (text : List Char) : List Char :=
  text.flatMap fun c =>
    if holds c then [c] else (Bytes.ofText (String.singleton c)).flatMap encodeByte

/-- The percent sign as a byte. -/
def sign : UInt8 := 0x25

/-- The byte that two digits behind a percent sign stand for. -/
def digits? (high low : UInt8) : Option UInt8 := do
  return (← Hex.digitValue? high) * 16 + (← Hex.digitValue? low)

/-- The bytes that bytes with percent signs stand for. -/
def decodeBytes : Bytes → Bytes
  | b :: high :: low :: rest =>
    match if b = sign then digits? high low else none with
    | some byte => byte :: decodeBytes rest
    | none => b :: decodeBytes (high :: low :: rest)
  | bytes => bytes

/-- The bytes that a text stands for. -/
def decode (text : List Char) : Bytes := decodeBytes (Bytes.ofText (String.ofList text))

end Identity.Percent
