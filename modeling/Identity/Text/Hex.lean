/-
Identity/Text/Hex.lean

Bytes as pairs of hexadecimal digits.  Writing uses small digits; reading
accepts both cases, wants an even number of bytes, and names the first byte
that is no digit.
-/
import Identity.Bytes

namespace Identity.Hex

/-- The digits. -/
def digits : List Char :=
  ['0', '1', '2', '3', '4', '5', '6', '7', '8', '9', 'a', 'b', 'c', 'd', 'e', 'f']

/-- The digit of a number below 16. -/
def digit (n : Nat) : Char := digits.getD n '0'

/-- The two digits of a byte. -/
def encodeByte (b : UInt8) : List Char := [digit (b.toNat / 16), digit (b.toNat % 16)]

/-- The hexadecimal text of some bytes. -/
def encode (bytes : Bytes) : String := String.ofList (bytes.flatMap encodeByte)

/-- The digits of a number in base 16, without leading zeros. -/
def ofNat (n : Nat) : String := String.ofList (Nat.toDigits 16 n)

/-- The ways in which a text is no hexadecimal text. -/
inductive Fault where
  | oddLength
  | notADigit (byte : UInt8) (position : Nat)
  deriving DecidableEq, Repr

/-- The number that a digit stands for. -/
def digitValue? (b : UInt8) : Option UInt8 :=
  if 48 ≤ b && b ≤ 57 then some (b - 48)
  else if 97 ≤ b && b ≤ 102 then some (b - 87)
  else if 65 ≤ b && b ≤ 70 then some (b - 55)
  else none

/-- The number that the digit at `position` stands for. -/
def digitAt (position : Nat) (b : UInt8) : Except Fault UInt8 :=
  match digitValue? b with
  | some v => .ok v
  | none => .error (.notADigit b position)

/-- Reads the pairs of digits that start at `position`. -/
def decodePairs (position : Nat) : Bytes → Except Fault Bytes
  | high :: low :: rest => do
    let h ← digitAt position high
    let l ← digitAt (position + 1) low
    let bytes ← decodePairs (position + 2) rest
    return (h * 16 + l) :: bytes
  | _ => .ok []

/-- The bytes that a hexadecimal text stands for. -/
def decode (text : String) : Except Fault Bytes :=
  let bytes := Bytes.ofText text
  if bytes.length % 2 ≠ 0 then .error .oddLength else decodePairs 0 bytes

end Identity.Hex
