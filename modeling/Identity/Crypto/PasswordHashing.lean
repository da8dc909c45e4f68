/-
Identity/Crypto/PasswordHashing.lean

Password digests: 32 bytes derived with Argon2id from the password and a
32-byte salt.  The cost is not stored with the digest; it is configured.
-/
import Identity.Crypto.Argon2.Hash
import Identity.Crypto.Fault

namespace Identity.Crypto.PasswordHashing

/-- Bytes in a salt. -/
def saltLength : Nat := 32

/-- Bytes in a digest. -/
def digestLength : Nat := 32

/-- The cost unless another is configured: 64 MiB, one pass, four lanes. -/
def defaultCost : Argon2.Cost := ⟨64 * 1024, 1, 4⟩

/-- The digest of a password; the salt is checked before the cost. -/
def hash (password : String) (salt : Bytes) (cost : Argon2.Cost) : Except Fault Bytes :=
  if salt.length ≠ saltLength then .error (.invalidSalt saltLength salt.length)
  else
    (Argon2.hash cost digestLength (Bytes.ofText password) salt).mapError fun fault =>
      .passwordHash fault.message

/-- The password has this digest; never so when no digest can be computed. -/
def verify (password : String) (digest salt : Bytes) (cost : Argon2.Cost) : Bool :=
  match hash password salt cost with
  | .ok computed => computed == digest
  | .error _ => false

end Identity.Crypto.PasswordHashing
