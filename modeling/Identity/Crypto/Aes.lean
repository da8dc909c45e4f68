/-
Identity/Crypto/Aes.lean

The AES-256 block cipher, in the forward direction only: counter modes never
run it backwards.

A block is sixteen bytes, read as four columns of four.  The substitution
box is computed, not listed: the inverse in the field of 256 elements
followed by an affine map.
-/
import Identity.Bytes

namespace Identity.Crypto.Aes

/-! ### The field of 256 elements -/

/-- Doubling, that is multiplication by `x`. -/
def double (b : UInt8) : UInt8 := (b <<< 1) ^^^ (if b &&& 0x80 = 0 then 0 else 0x1b)

/-- The product of `a` with the `count` low bits of `b`. -/
def mulBits : (count : Nat) → UInt8 → UInt8 → UInt8
  | 0, _, _ => 0
  | count + 1, a, b => (if b &&& 1 = 0 then 0 else a) ^^^ mulBits count (double a) (b >>> 1)

/-- The product in the field. -/
def mul (a b : UInt8) : UInt8 := mulBits 8 a b

/-- The inverse in the field, with zero for zero: the 254th power. -/
def inverse (b : UInt8) : UInt8 :=
  let square := fun x : UInt8 => mul x x
  let b₂ := square b
  let b₃ := mul b₂ b
  let b₁₂ := square (square b₃)
  let b₁₅ := mul b₁₂ b₃
  let b₂₄₀ := square (square (square (square b₁₅)))
  mul (mul b₂₄₀ b₁₂) b₂

/-! ### Substitution -/

/-- Rotation of a byte to the left. -/
def rotateLeft (b n : UInt8) : UInt8 := b <<< n ||| b >>> (8 - n)

/-- The affine map after the inverse. -/
def affine (b : UInt8) : UInt8 :=
  b ^^^ rotateLeft b 1 ^^^ rotateLeft b 2 ^^^ rotateLeft b 3 ^^^ rotateLeft b 4 ^^^ 0x63

/-- The substitution box. -/
def substitution : Array UInt8 := Array.ofFn fun i : Fin 256 => affine (inverse (UInt8.ofNat i))

/-- Substitutes a byte. -/
def substitute (b : UInt8) : UInt8 := substitution.getD b.toNat 0

/-! ### Key schedule -/

/-- The word that follows the eight-word window `window` at position `i`. -/
def nextWord (i : Nat) (roundConstant : UInt8) (window : List Bytes) : Bytes :=
  let last := window.getLastD []
  let mixed :=
    if i % 8 = 0 then
      Bytes.xor ((last.drop 1 ++ last.take 1).map substitute) [roundConstant, 0, 0, 0]
    else if i % 8 = 4 then last.map substitute
    else last
  Bytes.xor (window.headD []) mixed

/-- The next `count` words from position `i` on. -/
def expand : (count i : Nat) → UInt8 → List Bytes → List Bytes
  | 0, _, _, _ => []
  | count + 1, i, roundConstant, window =>
    let word := nextWord i roundConstant window
    let roundConstant := if i % 8 = 0 then double roundConstant else roundConstant
    word :: expand count (i + 1) roundConstant (window.drop 1 ++ [word])

/-- The fifteen round keys of a 32-byte key. -/
def roundKeys (key : Bytes) : List Bytes :=
  let words := Bytes.chunks 4 key
  Bytes.chunks 16 (words ++ expand 52 8 1 words).flatten

/-! ### Rounds -/

/-- Moves row `r` of a block by `r` columns to the left. -/
def shiftRows (block : Bytes) : Bytes :=
  [0, 5, 10, 15, 4, 9, 14, 3, 8, 13, 2, 7, 12, 1, 6, 11].map fun i => block.getD i 0

/-- Multiplies a column by the fixed matrix. -/
def mixColumn (column : Bytes) : Bytes :=
  let at' := fun i => column.getD (i % 4) 0
  (List.range 4).map fun i =>
    double (at' i) ^^^ (double (at' (i + 1)) ^^^ at' (i + 1)) ^^^ at' (i + 2) ^^^ at' (i + 3)

/-- Mixes every column of a block. -/
def mixColumns (block : Bytes) : Bytes := (Bytes.chunks 4 block).flatMap mixColumn

/-- The rounds after the first key has been added. -/
def rounds (block : Bytes) : List Bytes → Bytes
  | [] => block
  | [key] => Bytes.xor (shiftRows (block.map substitute)) key
  | key :: keys => rounds (Bytes.xor (mixColumns (shiftRows (block.map substitute))) key) keys

/-- Encrypts a block under the given round keys. -/
def encryptBlock (keys : List Bytes) (block : Bytes) : Bytes :=
  rounds (Bytes.xor block (keys.headD [])) (keys.drop 1)

end Identity.Crypto.Aes
