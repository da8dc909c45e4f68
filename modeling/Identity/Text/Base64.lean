/-
Identity/Text/Base64.lean

Base 64: three bytes as four characters.

The *padded* form uses the standard alphabet and fills the last group with
`=`; the *compact* form uses the URL-safe alphabet and leaves the last group
short.  Reading is strict in both: only what writing produces is accepted,
so unused bits of a last group have to be zero and padding has to be there
(or not there at all).
-/
import Identity.Bytes

namespace Identity.Base64

/-! ### Alphabets -/

/-- The standard alphabet. -/
def standard : List Char :=
  "ABCDEFGHIJKLMNOPQRSTUVWXYZabcdefghijklmnopqrstuvwxyz0123456789+/".toList

/-- The alphabet that is safe in URLs. -/
def urlSafe : List Char :=
  "ABCDEFGHIJKLMNOPQRSTUVWXYZabcdefghijklmnopqrstuvwxyz0123456789-_".toList

/-- The character for six bits. -/
def symbol (alphabet : List Char) (n : Nat) : Char := alphabet.getD n 'A'

/-- The six bits of a character. -/
def value? (alphabet : List Char) (c : Char) : Option Nat := alphabet.idxOf? c

/-- The character that fills a padded group. -/
def pad : Char := '='

/-! ### Groups -/

/-- The two characters of a single byte. -/
def group₁ (alphabet : List Char) (a : UInt8) : List Char :=
  [symbol alphabet (a.toNat / 4), symbol alphabet (a.toNat % 4 * 16)]

/-- The three characters of two bytes. -/
def group₂ (alphabet : List Char) (a b : UInt8) : List Char :=
  [symbol alphabet (a.toNat / 4), symbol alphabet (a.toNat % 4 * 16 + b.toNat / 16),
    symbol alphabet (b.toNat % 16 * 4)]

/-- The four characters of three bytes. -/
def group₃ (alphabet : List Char) (a b c : UInt8) : List Char :=
  [symbol alphabet (a.toNat / 4), symbol alphabet (a.toNat % 4 * 16 + b.toNat / 16),
    symbol alphabet (b.toNat % 16 * 4 + c.toNat / 64), symbol alphabet (c.toNat % 64)]

/-- The byte of a two-character group, whose last four bits must be zero. -/
def ungroup₁ (alphabet : List Char) (w x : Char) : Option Bytes := do
  let p ← value? alphabet w
  let q ← value? alphabet x
  if q % 16 = 0 then some [UInt8.ofNat (p * 4 + q / 16)] else none

/-- The bytes of a three-character group, whose last two bits must be zero. -/
def ungroup₂ (alphabet : List Char) (w x y : Char) : Option Bytes := do
  let p ← value? alphabet w
  let q ← value? alphabet x
  let r ← value? alphabet y
  if r % 4 = 0 then
    some [UInt8.ofNat (p * 4 + q / 16), UInt8.ofNat (q % 16 * 16 + r / 4)]
  else none

/-- The bytes of a full group. -/
def ungroup₃ (alphabet : List Char) (w x y z : Char) : Option Bytes := do
  let p ← value? alphabet w
  let q ← value? alphabet x
  let r ← value? alphabet y
  let s ← value? alphabet z
  some [UInt8.ofNat (p * 4 + q / 16), UInt8.ofNat (q % 16 * 16 + r / 4),
    UInt8.ofNat (r % 4 * 64 + s)]

/-! ### Padded form -/

/-- The padded form of some bytes. -/
def encodeChars : Bytes → List Char
  | [] => []
  | [a] => group₁ standard a ++ [pad, pad]
  | [a, b] => group₂ standard a b ++ [pad]
  | a :: b :: c :: rest => group₃ standard a b c ++ encodeChars rest

/-- The bytes of a padded form. -/
def decodeChars : List Char → Option Bytes
  | [] => some []
  | [w, x, y, z] =>
    if y = pad ∧ z = pad then ungroup₁ standard w x
    else if z = pad then ungroup₂ standard w x y
    else ungroup₃ standard w x y z
  | w :: x :: y :: z :: rest => do
    let bytes ← ungroup₃ standard w x y z
    let others ← decodeChars rest
    some (bytes ++ others)
  | _ => none

/-- The padded text of some bytes. -/
def encode (bytes : Bytes) : String := String.ofList (encodeChars bytes)

/-- The bytes of a padded text. -/
def decode (text : String) : Option Bytes := decodeChars text.toList

/-! ### Compact form -/

/-- The compact form of some bytes. -/
def encodeCompactChars : Bytes → List Char
  | [] => []
  | [a] => group₁ urlSafe a
  | [a, b] => group₂ urlSafe a b
  | a :: b :: c :: rest => group₃ urlSafe a b c ++ encodeCompactChars rest

/-- The bytes of a compact form. -/
def decodeCompactChars : List Char → Option Bytes
  | [] => some []
  | [_] => none
  | [w, x] => ungroup₁ urlSafe w x
  | [w, x, y] => ungroup₂ urlSafe w x y
  | w :: x :: y :: z :: rest => do
    let bytes ← ungroup₃ urlSafe w x y z
    let others ← decodeCompactChars rest
    some (bytes ++ others)

/-- The compact text of some bytes. -/
def encodeCompact (bytes : Bytes) : String := String.ofList (encodeCompactChars bytes)

/-- The bytes of a compact text. -/
def decodeCompact (text : String) : Option Bytes := decodeCompactChars text.toList

end Identity.Base64
