/-
Identity/Authentication/Secrets.lean

How the authentication service keeps e-mail addresses, PINs and passwords.

An address or a PIN is stored sealed under the encryption key, together with
its lookup digest under the signing key; `sealValue` makes both from the same
text, so they never drift apart.  A password is stored as a digest under a
salt of its own.
-/
import Identity.Crypto.Sealing
import Identity.Program
import Identity.Secret.Generated
import Identity.Settings

namespace Identity.Authentication

open Crypto

/-- The actor noted for what the service does by itself. -/
def systemActor : String := "system"

/-- The lookup digest of a text in canonical form. -/
def lookup (s : Settings) (value : String) : Bytes := Lookup.digest value s.signingKey.bytes

/-- Seals a text in canonical form and pairs it with its lookup digest. -/
def sealValue (s : Settings) (value : String) : Operation SealedValue := do
  let raw ← .draw (fun fault => .encryptionFailed fault.message)
    (Sealing.encryptRaw (Bytes.ofText value) s.encryptionKey.bytes)
  return ⟨raw.ciphertext, raw.nonce, raw.tag, lookup s value⟩

/-- Opens a sealed text. -/
def reveal (s : Settings) (v : SealedValue) : Outcome String :=
  match Sealing.decryptRaw ⟨v.ciphertext, v.nonce, v.tag⟩ s.encryptionKey.bytes with
  | .error fault => .error (.decryptionFailed fault.message)
  | .ok bytes =>
    match bytes.toText? with
    | some text => .ok text
    | none => .error (.decryptionFailed "plaintext is not valid utf-8")

/-- What is stored of a password under a given salt. -/
def passwordHash (s : Settings) (password : String) (salt : Bytes) : Outcome PasswordHash :=
  match PasswordHashing.hash password salt s.cost with
  | .ok digest => .ok ⟨digest, salt⟩
  | .error fault => .error (.passwordHashFailed fault.message)

/-- What is stored of a password under a fresh salt. -/
def hashPassword (s : Settings) (password : String) : Operation PasswordHash := do
  let salt ← .draw (fun fault => .passwordHashFailed fault.message) Generated.salt
  .ofOutcome (passwordHash s password salt)

/-- The password is the stored one. -/
def passwordMatches (s : Settings) (stored : PasswordHash) (password : String) : Bool :=
  PasswordHashing.verify password stored.digest stored.salt s.cost

/-- Draws a fresh identifier. -/
def freshUuid : Operation Uuid :=
  .draw (fun fault => .internal ("failed to generate id: " ++ fault.message)) Draw.uuid

/-! ### Users that may be missing -/

/-- What a lookup found: nothing when the user is not stored. -/
def found? {α : Type} : Outcome α → Outcome (Option α)
  | .ok a => .ok (some a)
  | .error .userNotFound => .ok none
  | .error e => .error e

/-- Looks for a user who may be missing. -/
def findUser? (lookup : Bytes) : Operation (Option User) := do
  .ofOutcome (found? (← (Operation.call (.findUserByEmail lookup)).attempt))

/-- Fails when a lookup finds something. -/
def ensureAbsent (call : Call) (conflict : Error) : Operation Unit := do
  match ← (Operation.call call).attempt with
  | .ok _ => throw conflict
  | .error .userNotFound => return
  | .error e => throw e

end Identity.Authentication
