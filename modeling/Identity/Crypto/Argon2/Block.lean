/-
Identity/Crypto/Argon2/Block.lean

The blocks of memory that Argon2 fills, and the function that makes a new
block out of two.

A block is 128 words, held as eight rows of sixteen.  The compression
function combines its two arguments, permutes every row, then permutes
every column of word pairs, and combines the result with what it started
from.  Columns are permuted as the rows of the transposed block.
-/
import Identity.Bytes

namespace Identity.Crypto.Argon2

/-! ### Rows -/

/-- Sixteen words. -/
structure Row where
  w0 : UInt64
  w1 : UInt64
  w2 : UInt64
  w3 : UInt64
  w4 : UInt64
  w5 : UInt64
  w6 : UInt64
  w7 : UInt64
  w8 : UInt64
  w9 : UInt64
  w10 : UInt64
  w11 : UInt64
  w12 : UInt64
  w13 : UInt64
  w14 : UInt64
  w15 : UInt64
  deriving Inhabited

/-- Rotation to the right. -/
@[inline] def rotateRight (x n : UInt64) : UInt64 := x >>> n ||| x <<< (64 - n)

/-- The sum of two words and twice the product of their lower halves. -/
@[inline] def blend (x y : UInt64) : UInt64 :=
  x + y + 2 * ((x &&& 0xffffffff) * (y &&& 0xffffffff))

/-- Mixes four words and hands them to `k`. -/
@[inline] def mix {α : Type} (a b c d : UInt64) (k : UInt64 → UInt64 → UInt64 → UInt64 → α) : α :=
  let a := blend a b
  let d := rotateRight (d ^^^ a) 32
  let c := blend c d
  let b := rotateRight (b ^^^ c) 24
  let a := blend a b
  let d := rotateRight (d ^^^ a) 16
  let c := blend c d
  let b := rotateRight (b ^^^ c) 63
  k a b c d

namespace Row

/-- The row of zeros. -/
def zero : Row := ⟨0, 0, 0, 0, 0, 0, 0, 0, 0, 0, 0, 0, 0, 0, 0, 0⟩

/-- Word-wise exclusive or. -/
def xor (r s : Row) : Row :=
  ⟨r.w0 ^^^ s.w0, r.w1 ^^^ s.w1, r.w2 ^^^ s.w2, r.w3 ^^^ s.w3, r.w4 ^^^ s.w4, r.w5 ^^^ s.w5,
    r.w6 ^^^ s.w6, r.w7 ^^^ s.w7, r.w8 ^^^ s.w8, r.w9 ^^^ s.w9, r.w10 ^^^ s.w10,
    r.w11 ^^^ s.w11, r.w12 ^^^ s.w12, r.w13 ^^^ s.w13, r.w14 ^^^ s.w14, r.w15 ^^^ s.w15⟩

/-- The permutation: the four columns of the row read as a square of sixteen
words, then its four diagonals. -/
def permute (r : Row) : Row :=
  mix r.w0 r.w4 r.w8 r.w12 fun a0 a4 a8 a12 =>
  mix r.w1 r.w5 r.w9 r.w13 fun a1 a5 a9 a13 =>
  mix r.w2 r.w6 r.w10 r.w14 fun a2 a6 a10 a14 =>
  mix r.w3 r.w7 r.w11 r.w15 fun a3 a7 a11 a15 =>
  mix a0 a5 a10 a15 fun b0 b5 b10 b15 =>
  mix a1 a6 a11 a12 fun b1 b6 b11 b12 =>
  mix a2 a7 a8 a13 fun b2 b7 b8 b13 =>
  mix a3 a4 a9 a14 fun b3 b4 b9 b14 =>
  ⟨b0, b1, b2, b3, b4, b5, b6, b7, b8, b9, b10, b11, b12, b13, b14, b15⟩

/-- The words in order. -/
def words (r : Row) : List UInt64 :=
  [r.w0, r.w1, r.w2, r.w3, r.w4, r.w5, r.w6, r.w7, r.w8, r.w9, r.w10, r.w11, r.w12, r.w13,
    r.w14, r.w15]

/-- The row with the given words; missing ones are zero. -/
def ofWords (l : List UInt64) : Row :=
  ⟨l.getD 0 0, l.getD 1 0, l.getD 2 0, l.getD 3 0, l.getD 4 0, l.getD 5 0, l.getD 6 0,
    l.getD 7 0, l.getD 8 0, l.getD 9 0, l.getD 10 0, l.getD 11 0, l.getD 12 0, l.getD 13 0,
    l.getD 14 0, l.getD 15 0⟩

end Row

/-! ### Blocks -/

/-- Eight rows. -/
structure Block where
  r0 : Row
  r1 : Row
  r2 : Row
  r3 : Row
  r4 : Row
  r5 : Row
  r6 : Row
  r7 : Row
  deriving Inhabited

namespace Block

/-- Bytes in a block. -/
def byteLength : Nat := 1024

/-- Applies a function to every row. -/
@[inline] def map (f : Row → Row) (b : Block) : Block :=
  ⟨f b.r0, f b.r1, f b.r2, f b.r3, f b.r4, f b.r5, f b.r6, f b.r7⟩

/-- The block of zeros. -/
def zero : Block := ⟨.zero, .zero, .zero, .zero, .zero, .zero, .zero, .zero⟩

/-- Word-wise exclusive or. -/
def xor (b c : Block) : Block :=
  ⟨b.r0.xor c.r0, b.r1.xor c.r1, b.r2.xor c.r2, b.r3.xor c.r3, b.r4.xor c.r4, b.r5.xor c.r5,
    b.r6.xor c.r6, b.r7.xor c.r7⟩

/-- The row made of the same two words of every row. -/
@[inline] def column (b : Block) (first second : Row → UInt64) : Row :=
  ⟨first b.r0, second b.r0, first b.r1, second b.r1, first b.r2, second b.r2, first b.r3,
    second b.r3, first b.r4, second b.r4, first b.r5, second b.r5, first b.r6, second b.r6,
    first b.r7, second b.r7⟩

/-- The block with rows and columns of word pairs exchanged. -/
def transpose (b : Block) : Block :=
  ⟨b.column Row.w0 Row.w1, b.column Row.w2 Row.w3, b.column Row.w4 Row.w5,
    b.column Row.w6 Row.w7, b.column Row.w8 Row.w9, b.column Row.w10 Row.w11,
    b.column Row.w12 Row.w13, b.column Row.w14 Row.w15⟩

/-- Makes a new block out of two. -/
def compress (b c : Block) : Block :=
  let r := b.xor c
  ((r.map Row.permute).transpose.map Row.permute).transpose.xor r

/-- The rows in order. -/
def rows (b : Block) : List Row := [b.r0, b.r1, b.r2, b.r3, b.r4, b.r5, b.r6, b.r7]

/-- The words in order. -/
def words (b : Block) : List UInt64 := b.rows.flatMap Row.words

/-- The first word. -/
def firstWord (b : Block) : UInt64 := b.r0.w0

/-- The bytes of a block, each word with its low byte first. -/
def toBytes (b : Block) : Bytes := b.words.flatMap fun w => Bytes.ofNatLE 8 w.toNat

/-- The block with the given words; missing ones are zero. -/
def ofWords (l : List UInt64) : Block :=
  let row := fun i => Row.ofWords (l.drop (16 * i))
  ⟨row 0, row 1, row 2, row 3, row 4, row 5, row 6, row 7⟩

/-- The block with the given bytes. -/
def ofBytes (bytes : Bytes) : Block :=
  ofWords ((Bytes.chunks 8 bytes).map fun w => UInt64.ofNat (Bytes.toNatLE w))

end Block

end Identity.Crypto.Argon2
