/-
Identity/Crypto/Fault.lean

The ways in which a cryptographic operation can fail.
-/

namespace Identity.Crypto

/-- Why a cryptographic operation failed. -/
inductive Fault where
  | invalidKey (expected actual : Nat)
  | invalidKeyMaterial
  | invalidSalt (expected actual : Nat)
  | encryption (detail : String)
  | decryptionFailed
  | invalidCiphertext
  | invalidNonce
  | invalidTag
  | passwordHash (detail : String)
  | random (detail : String)
  | tokenEncoding (detail : String)
  | tokenExpired
  | invalidToken (detail : String)
  | missingKey
  deriving DecidableEq, Repr, Inhabited

namespace Fault

/-- The name under which a fault is reported. -/
def name : Fault → String
  | invalidKey .. => "InvalidKey"
  | invalidKeyMaterial => "InvalidKeyMaterial"
  | invalidSalt .. => "InvalidSalt"
  | encryption _ => "Encryption"
  | decryptionFailed => "DecryptionFailed"
  | invalidCiphertext => "InvalidCiphertext"
  | invalidNonce => "InvalidIv"
  | invalidTag => "InvalidTag"
  | passwordHash _ => "PasswordHash"
  | random _ => "Random"
  | tokenEncoding _ => "TokenEncoding"
  | tokenExpired => "TokenExpired"
  | invalidToken _ => "InvalidToken"
  | missingKey => "MissingKey"

/-- A length that differs from the expected one. -/
def lengthText (what : String) (expected actual : Nat) : String :=
  "invalid " ++ what ++ " length: expected " ++ toString expected ++ " bytes, got " ++
    toString actual

/-- The text shown for a fault. -/
def message : Fault → String
  | invalidKey expected actual => lengthText "key" expected actual
  | invalidKeyMaterial => "invalid key material"
  | invalidSalt expected actual => lengthText "salt" expected actual
  | encryption detail => "encryption failed: " ++ detail
  | decryptionFailed => "decryption failed"
  | invalidCiphertext => "invalid ciphertext encoding"
  | invalidNonce => "invalid iv"
  | invalidTag => "invalid tag"
  | passwordHash detail => "password hashing failed: " ++ detail
  | random detail => "random source failed: " ++ detail
  | tokenEncoding detail => "token encoding failed: " ++ detail
  | tokenExpired => "token expired"
  | invalidToken detail => "invalid token: " ++ detail
  | missingKey => "missing key"

end Fault

end Identity.Crypto
