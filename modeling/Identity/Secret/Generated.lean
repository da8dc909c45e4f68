/-
Identity/Secret/Generated.lean

Secrets that nobody chose: salts, opaque tokens, PINs and passwords.

A generated password starts with one character of each class of the policy,
is filled up from all classes together, and is then shuffled.  The classes
leave out characters that are easily mistaken for one another.
-/
import Identity.Secret.Password
import Identity.Secret.Shuffle
import Identity.Text.Base64

namespace Identity.Generated

/-- Bytes in a salt. -/
def saltLength : Nat := 32

/-- Draws a salt. -/
def salt : Draw Bytes := Draw.bytes saltLength

/-- The fewest bytes behind an opaque token. -/
def minTokenBytes : Nat := 32

/-- Draws an opaque token of at least `length` bytes. -/
def token (length : Nat) : Draw String :=
  Base64.encodeCompact <$> Draw.bytes (max length minTokenBytes)

/-! ### PINs -/

/-- The decimal digits. -/
def decimalDigits : List Char := ['0', '1', '2', '3', '4', '5', '6', '7', '8', '9']

/-- Draws a PIN of `length` digits. -/
def pin (length : Nat) : Draw String :=
  String.ofList <$> Draw.replicate length (Draw.element decimalDigits)

/-! ### Passwords -/

/-- The characters that stand for a class in generated passwords. -/
def classAlphabet : Password.CharClass → List Char
  | .upper => "ABCDEFGHJKLMNPQRSTUVWXYZ".toList
  | .lower => "abcdefghijkmnopqrstuvwxyz".toList
  | .digit => "23456789".toList
  | .symbol => "!#%+-=?@^_".toList

/-- All characters of generated passwords. -/
def alphabet : List Char := Password.CharClass.all.flatMap classAlphabet

/-- The shortest generated password. -/
def minPasswordLength : Nat := 8

/-- Draws one character of each class. -/
def oneOfEach : List Password.CharClass → Draw (List Char)
  | [] => return []
  | k :: ks => do
    let c ← Draw.element (classAlphabet k)
    let cs ← oneOfEach ks
    return c :: cs

/-- Draws a password of at least `length` characters. -/
def password (length : Nat) : Draw String := do
  let required ← oneOfEach Password.CharClass.all
  let others ← Draw.replicate (max length minPasswordLength - required.length)
    (Draw.element alphabet)
  let characters ← Shuffle.shuffle (required ++ others)
  return String.ofList characters

end Identity.Generated
