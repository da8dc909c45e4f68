/-
Identity/Crypto/Gcm.lean

Authenticated encryption with AES-256 in Galois/counter mode, for nonces of
twelve bytes and without associated data.

The ciphertext is the plaintext combined with a key stream, so it has the
plaintext's length and the same operation takes it off again.  The tag is a
polynomial in the ciphertext blocks over the field of 2^128 elements,
hidden by one more block of the key stream.  What `encrypt` answers ends with
the tag; `decrypt?` cuts it off, recomputes it and answers the plaintext only
when both agree.

Counters are four bytes long, so the mode is made for plaintexts of at most 2^36
bytes, and ciphers refuse longer ones.  Lengths are not limited here: beyond the
limit counters start again, and nothing fails.
-/
import Identity.Crypto.Aes

namespace Identity.Crypto.Gcm

/-- Bytes in a key. -/
def keyLength : Nat := 32

/-- Bytes in a nonce. -/
def nonceLength : Nat := 12

/-- Bytes in a tag. -/
def tagLength : Nat := 16

/-! ### Key stream -/

/-- The counter block with the given number. -/
def counterBlock (nonce : Bytes) (n : Nat) : Bytes := nonce ++ Bytes.ofNatBE 4 n

/-- Combines each chunk with the key-stream block of its number, counting
from `n`. -/
def stream (keys : List Bytes) (nonce : Bytes) : (n : Nat) → List Bytes → Bytes
  | _, [] => []
  | n, chunk :: rest =>
    Bytes.xor chunk (Aes.encryptBlock keys (counterBlock nonce n)) ++
      stream keys nonce (n + 1) rest

/-- Puts the key stream on a text, or takes it off. -/
def mask (keys : List Bytes) (nonce text : Bytes) : Bytes :=
  stream keys nonce 2 (Bytes.chunks 16 text)

/-! ### Authentication -/

/-- The reduction polynomial, in the reflected order of bits of this mode. -/
def reduction : Nat := 0xe1 <<< 120

/-- The sum of the `count` products of `y`, moved along one bit at a time, that
the bits of `x` below position `count` ask for. -/
def mulBits : (count : Nat) → (x y accumulator : Nat) → Nat
  | 0, _, _, accumulator => accumulator
  | count + 1, x, y, accumulator =>
    mulBits count x (if y % 2 = 1 then (y / 2) ^^^ reduction else y / 2)
      (if x.testBit count then accumulator ^^^ y else accumulator)

/-- The product in the field of 2^128 elements. -/
def mul (x y : Nat) : Nat := mulBits 128 x y 0

/-- Fills a block with zeros at its end. -/
def fill (block : Bytes) : Bytes := block ++ List.replicate (16 - block.length) 0

/-- The value of the blocks as a polynomial at `h`. -/
def polynomial (h : Nat) (blocks : List Bytes) : Nat :=
  blocks.foldl (fun y block => mul (y ^^^ Bytes.toNatBE (fill block)) h) 0

/-- The block that closes the authenticated text: its length in bits. -/
def lengthBlock (ciphertext : Bytes) : Bytes := Bytes.ofNatBE 16 (ciphertext.length * 8)

/-- The tag of a ciphertext. -/
def authenticate (keys : List Bytes) (nonce ciphertext : Bytes) : Bytes :=
  let h := Bytes.toNatBE (Aes.encryptBlock keys (List.replicate 16 0))
  let value := polynomial h (Bytes.chunks 16 ciphertext ++ [lengthBlock ciphertext])
  Bytes.xor (Bytes.ofNatBE 16 value) (Aes.encryptBlock keys (counterBlock nonce 1))

/-! ### Encryption and decryption -/

/-- Cuts off the last bytes, as many as a tag has; what is shorter is cut off whole. -/
def splitTag (text : Bytes) : Bytes × Bytes := text.splitAt (text.length - tagLength)

/-- The ciphertext of a plaintext, followed by its tag. -/
def encrypt (key nonce plaintext : Bytes) : Bytes :=
  let keys := Aes.roundKeys key
  let ciphertext := mask keys nonce plaintext
  ciphertext ++ authenticate keys nonce ciphertext

/-- The plaintext of a ciphertext that is followed by its tag, if the tag is right. -/
def decrypt? (key nonce text : Bytes) : Option Bytes :=
  if text.length < tagLength then none
  else
    let keys := Aes.roundKeys key
    let (ciphertext, tag) := splitTag text
    if authenticate keys nonce ciphertext = tag then some (mask keys nonce ciphertext) else none

end Identity.Crypto.Gcm
