/-
Identity/Sealed.lean

What a store keeps of a secret.

A *sealed value* is a text that can be opened again with the encryption key;
its keyed `lookup` digest lets a store find it without opening it.  A
*password hash* can only be compared against.  Neither shows its bytes when
it is printed.
-/
import Identity.Bytes
import Identity.Text.Quoted

namespace Identity

/-- An encrypted text together with the keyed digest to look it up by. -/
structure SealedValue where
  ciphertext : Bytes
  nonce : Bytes
  tag : Bytes
  lookup : Bytes
  deriving DecidableEq, Repr, Inhabited

/-- A salted password digest. -/
structure PasswordHash where
  digest : Bytes
  salt : Bytes
  deriving DecidableEq, Repr, Inhabited

/-- Shows no more of a sealed value than the length of its ciphertext. -/
def SealedValue.describe (v : SealedValue) : String :=
  Text.partialRecord "SealedSecret" [("ciphertext_len", toString v.ciphertext.length)]

/-- Shows nothing of a password hash. -/
def PasswordHash.describe (_ : PasswordHash) : String := "PasswordCredential(..)"

end Identity
