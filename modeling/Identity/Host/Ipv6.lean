/-
Identity/Host/Ipv6.lean

Addresses of 128 bits.  They are written as eight hexadecimal numbers with
colons between them.  One stretch of zeros can be left out, which shows as two
colons; the last two numbers can be written as an address of 32 bits.
-/
import Identity.Host.Ipv4

namespace Identity.Host

/-- An address of 128 bits, as eight numbers of 16 bits. -/
structure Ipv6 where
  pieces : List Nat
  deriving DecidableEq, Repr

namespace Ipv6

/-- How many numbers there are. -/
def size : Nat := 8

/-! ### Reading -/

/-- The number that one to four digits stand for. -/
def piece? (digits : List Char) : Option Nat :=
  if digits.isEmpty || 4 < digits.length then none
  else digits.foldlM (fun n c => (n * 16 + ·) <$> Ipv4.digitIn? 16 c) 0

/-- The last number, or the last two as an address of 32 bits. -/
def ending? (digits : List Char) : Option (List Nat) :=
  match Ipv4.ofDecimal? digits with
  | some a => some [a.value >>> 16, a.value % 65536]
  | none => (fun n => [n]) <$> piece? digits

/-- The numbers of a text without a gap. -/
def pieces? (text : List Char) : Option (List Nat) :=
  if text.isEmpty then some []
  else do
    let groups := text.splitOn ':'
    return (← groups.dropLast.mapM piece?) ++ (← ending? (groups.getLastD []))

/-- The texts before and after the first two colons in a row. -/
def atGap? : List Char → Option (List Char × List Char)
  | [] => none
  | c :: rest =>
    match c, rest with
    | ':', ':' :: after => some ([], after)
    | _, _ => (atGap? rest).map fun (before, after) => (c :: before, after)

/-- The address that a text stands for. -/
def ofText? (text : List Char) : Option Ipv6 := do
  match atGap? text with
  | none =>
    let pieces ← pieces? text
    if pieces.length = size then some ⟨pieces⟩ else none
  | some (before, after) =>
    if before.contains '.' then none
    let front ← pieces? before
    let back ← pieces? after
    let zeros := size - (front.length + back.length)
    if zeros = 0 then none else some ⟨front ++ List.replicate zeros 0 ++ back⟩

/-! ### Writing -/

/-- How many zeros there are from a place on. -/
def zerosFrom (a : Ipv6) (place : Nat) : Nat := ((a.pieces.drop place).takeWhile (· = 0)).length

/-- The place of the longest stretch of zeros, the first of them. -/
def longestZeros (a : Ipv6) : Nat :=
  (List.range size).foldl (fun best i => if a.zerosFrom best < a.zerosFrom i then i else best) 0

/-- Numbers with colons between them. -/
def joined (pieces : List Nat) : List Char := [':'].intercalate (pieces.map (Nat.toDigits 16))

/-- The address with its longest stretch of zeros left out, if that is more than one. -/
def text (a : Ipv6) : List Char :=
  let place := a.longestZeros
  let zeros := a.zerosFrom place
  if zeros < 2 then joined a.pieces
  else joined (a.pieces.take place) ++ [':', ':'] ++ joined (a.pieces.drop (place + zeros))

end Ipv6

end Identity.Host
