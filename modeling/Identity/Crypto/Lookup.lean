/-
Identity/Crypto/Lookup.lean

Keyed lookup digests: equal texts have equal digests, and without the key
nobody can tell which text a digest belongs to.
-/
import Identity.Crypto.Hmac
import Identity.Text.Base64

namespace Identity.Crypto.Lookup

/-- Bytes in a key. -/
def keyLength : Nat := 32

/-- The digest of a text. -/
def digest (value : String) (key : Bytes) : Bytes := Hmac.sha256 key (Bytes.ofText value)

/-- The digest of a text, if the key has the right length. -/
def digest? (value : String) (key : Bytes) : Option Bytes :=
  if key.length = keyLength then some (digest value key) else none

/-- The digest of a text in base 64; empty when the key has the wrong length. -/
def text (value : String) (key : Bytes) : String :=
  match digest? value key with
  | some digest => Base64.encode digest
  | none => ""

end Identity.Crypto.Lookup
