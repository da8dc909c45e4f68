/-
Identity/Host/Ipv4.lean

Addresses of 32 bits.  They are written with four numbers, each for one byte;
but a name is read as an address also when it has fewer numbers, the last of
which is then for all the bytes that are left, and when numbers are octal or
hexadecimal.
-/
import Identity.Text.Hex

namespace Identity.Host

/-- An address of 32 bits. -/
structure Ipv4 where
  value : Nat
  deriving DecidableEq, Repr

namespace Ipv4

/-- The address that some bytes make. -/
def ofBytes (bytes : List Nat) : Ipv4 := ⟨bytes.foldl (fun n b => n * 256 + b) 0⟩

/-- The bytes of an address. -/
def bytes (a : Ipv4) : List Nat := [24, 16, 8, 0].map fun shift => (a.value >>> shift) % 256

/-- The address in four numbers. -/
def text (a : Ipv4) : List Char := ['.'].intercalate (a.bytes.map (Nat.toDigits 10))

/-! ### Numbers in names -/

/-- The base of a number, and its digits. -/
def baseAndDigits : List Char → Nat × List Char
  | '0' :: 'x' :: digits => (16, digits)
  | '0' :: c :: digits => (8, c :: digits)
  | digits => (10, digits)

/-- The value of a digit in a base. -/
def digitIn? (base : Nat) (c : Char) : Option Nat := do
  let v ← Hex.digitValue? (UInt8.ofNat c.toNat)
  if c.toNat < 0x80 && v.toNat < base then some v.toNat else none

/-- The number that a part of a name stands for. -/
def number? (part : List Char) : Option Nat := do
  if part.isEmpty then none
  let (base, digits) := baseAndDigits part
  digits.foldlM (fun n c => (n * base + ·) <$> digitIn? base c) 0

/-- The parts of a name, which may end with a dot. -/
def parts (name : List Char) : List (List Char) :=
  let parts := name.splitOn '.'
  if parts.getLast? = some [] && 1 < parts.length then parts.dropLast else parts

/-- The name is meant as an address: its last part is a number. -/
def isMeant (name : List Char) : Bool :=
  (parts name).getLast?.any fun part =>
    (!part.isEmpty && part.all Char.isDigit) || (number? part).isSome

/-- The address of numbers, the last of which is for all bytes that are left. -/
def ofNumbers? (numbers : List Nat) : Option Ipv4 := do
  let last ← numbers.getLast?
  let front := numbers.dropLast
  let rest := 32 - 8 * front.length
  if 4 < numbers.length || front.any (255 < ·) || 1 <<< rest ≤ last then none
  else some ⟨((ofBytes front).value <<< rest) + last⟩

/-- The address that a name stands for. -/
def ofName? (name : List Char) : Option Ipv4 := do
  ofNumbers? (← (parts name).mapM number?)

/-! ### Four decimal numbers -/

/-- The byte that decimal digits stand for, without zeros before them. -/
def byte? (digits : List Char) : Option Nat :=
  if digits.isEmpty || !digits.all Char.isDigit || (digits.head? = some '0' && 1 < digits.length)
  then none
  else (number? digits).filter (· ≤ 255)

/-- The address that four decimal numbers stand for. -/
def ofDecimal? (text : List Char) : Option Ipv4 := do
  let bytes ← (text.splitOn '.').mapM byte?
  if bytes.length = 4 then some (ofBytes bytes) else none

end Ipv4

end Identity.Host
