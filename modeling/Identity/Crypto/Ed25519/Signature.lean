/-
Identity/Crypto/Ed25519/Signature.lean

Ed25519 signatures.

A private key is its 32-byte seed followed by the public key that belongs to
it.  Signing is deterministic.  A signature is a point followed by a number
below the group order; it is accepted when the public key is no point of
small order and the signature equation holds up to such a point.
-/
import Identity.Crypto.Ed25519.Curve
import Identity.Crypto.Sha512

namespace Identity.Crypto.Ed25519

/-- The order of the base point. -/
def groupOrder : Nat := (1 <<< 252) + 27742317777372353535851937790883648493

/-- Bytes in a seed, a public key, and each half of a signature. -/
def halfLength : Nat := 32

/-! ### Keys -/

/-- The secret number of a seed: a multiple of eight with its highest bit at
position 254. -/
def secretScalar (seed : Bytes) : Nat :=
  let n := Bytes.toNatLE ((Sha512.hash seed).take 32)
  n % (1 <<< 254) / 8 * 8 + (1 <<< 254)

/-- The public key of a seed. -/
def publicKey (seed : Bytes) : Bytes := (Point.mul (secretScalar seed) .base).toBytes

/-- The private key of a seed. -/
def privateKey (seed : Bytes) : Bytes := seed ++ publicKey seed

/-- The two halves of a private key belong together. -/
def isPrivateKey (key : Bytes) : Bool := publicKey (key.take halfLength) = key.drop halfLength

/-! ### Signatures -/

/-- The digest of some bytes, as a number below the group order. -/
def hashScalar (bytes : Bytes) : Nat := Bytes.toNatLE (Sha512.hash bytes) % groupOrder

/-- The number that ties a signature to a key and a message. -/
def challenge (commitment key message : Bytes) : Nat := hashScalar (commitment ++ key ++ message)

/-- The 64-byte signature of a message under a private key. -/
def sign (key message : Bytes) : Bytes :=
  let seed := key.take halfLength
  let nonce := hashScalar ((Sha512.hash seed).drop 32 ++ message)
  let commitment := (Point.mul nonce .base).toBytes
  let answer := nonce + challenge commitment (key.drop halfLength) message * secretScalar seed
  commitment ++ Bytes.ofNatLE 32 (answer % groupOrder)

/-- The signature belongs to the message under the public key.  Points of small
order are neither keys nor commitments. -/
def verify (key message signature : Bytes) : Bool :=
  let answer := Bytes.toNatLE (signature.drop halfLength)
  match Point.ofBytes? key, Point.ofBytes? (signature.take halfLength) with
  | some a, some r =>
    let k := challenge (signature.take halfLength) key message
    let expected := (Point.mul answer .base).add (Point.mul k a).neg
    answer < groupOrder && !a.hasSmallOrder && !r.hasSmallOrder &&
      (r.add expected.neg).hasSmallOrder
  | _, _ => false

end Identity.Crypto.Ed25519
