/-
Identity/Token/Key.lean

The keys that sign and verify tokens.

A private key is 64 bytes: a seed and the public key that belongs to it.  A
key that is absent, has another length or does not fit together is refused
with a fault of its own, in this order.
-/
import Identity.Crypto.Ed25519.Signature
import Identity.Entropy

namespace Identity.Token

open Crypto

/-- Bytes in a private key. -/
def privateKeyLength : Nat := 64

/-- Bytes in a public key. -/
def publicKeyLength : Nat := 32

/-- Accepts keys of the given length. -/
def checkLength (expected : Nat) (key : Bytes) : Except Fault Unit :=
  if key.isEmpty then .error .missingKey
  else if key.length ≠ expected then .error (.invalidKey expected key.length)
  else .ok ()

/-- Accepts private keys whose halves belong together. -/
def checkPrivateKey (key : Bytes) : Except Fault Unit := do
  checkLength privateKeyLength key
  if !Ed25519.isPrivateKey key then throw .invalidKeyMaterial

/-- The public key of a private key. -/
def publicKey (privateKey : Bytes) : Except Fault Bytes := do
  checkPrivateKey privateKey
  return privateKey.drop Ed25519.halfLength

/-- The private key of a 32-byte seed. -/
def keyOfSeed (seed : Bytes) : Bytes := Ed25519.privateKey seed

/-- Draws a private key. -/
def generateKey : Draw Bytes := keyOfSeed <$> Draw.bytes Ed25519.halfLength

end Identity.Token
