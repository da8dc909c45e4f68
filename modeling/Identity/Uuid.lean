/-
Identity/Uuid.lean

Universally unique identifiers: 128 bits, written as 32 hexadecimal digits
in groups of 8, 4, 4, 4 and 12.

A *random* identifier has version 4 in its third group and the variant `10`
in its fourth; neither can be zero, so a random identifier is never `nil`.
-/
import Identity.Text.Hex

namespace Identity

/-- A 128-bit identifier. -/
structure Uuid where
  bits : BitVec 128
  deriving DecidableEq, Repr, Inhabited

namespace Uuid

/-- The identifier of nothing: all bits are zero. -/
def nil : Uuid := ⟨0⟩

/-- The identifier is `nil`. -/
def isNil (u : Uuid) : Bool := u.bits == 0

/-- The version: the first digit of the third group. -/
def version (u : Uuid) : Nat := ((u.bits >>> 76) &&& 0xF#128).toNat

/-- The bits that say how an identifier was made. -/
def markMask : BitVec 128 := 0xF000C000000000000000#128

/-- Version 4 and variant `10`. -/
def randomMark : BitVec 128 := 0x40008000000000000000#128

/-- The random identifier made from 128 random bits. -/
def ofRandomBits (bits : BitVec 128) : Uuid := ⟨bits &&& ~~~markMask ||| randomMark⟩

/-- The random identifier made from sixteen random bytes. -/
def ofRandomBytes (bytes : Bytes) : Uuid := ofRandomBits (BitVec.ofNat 128 bytes.toNatBE)

/-- A random identifier is not `nil`. -/
theorem isNil_ofRandomBits (bits : BitVec 128) : (ofRandomBits bits).isNil = false := by
  rw [isNil, beq_eq_false_iff_ne]
  intro h
  have bit := congrArg (BitVec.getLsbD · 78) h
  simp [ofRandomBits, markMask, randomMark] at bit

/-! ### Text form -/

/-- The text form, in small digits. -/
def toText (u : Uuid) : String :=
  let ds := (Bytes.ofNatBE 16 u.bits.toNat).flatMap Hex.encodeByte
  String.ofList <|
    ds.take 8 ++ '-' :: (ds.drop 8).take 4 ++ '-' :: (ds.drop 12).take 4 ++
      '-' :: (ds.drop 16).take 4 ++ '-' :: ds.drop 20

/-- The identifier with the given text form, in either case of digits. -/
def ofText? (text : String) : Option Uuid :=
  let groups := text.toList.splitOn '-'
  if groups.map List.length = [8, 4, 4, 4, 12] then
    match Hex.decode (String.ofList groups.flatten) with
    | .ok bytes => if bytes.length = 16 then some ⟨BitVec.ofNat 128 bytes.toNatBE⟩ else none
    | .error _ => none
  else none

end Uuid

end Identity
