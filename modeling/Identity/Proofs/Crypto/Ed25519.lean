/-
Identity/Proofs/Crypto/Ed25519.lean

Signatures of fixed messages, evaluated in proofs.

Nearly all of the time that it takes to evaluate a signature by the definitions
goes into its digests.  Here the scheme is written over any digest; with the one
that keeps the newest word of a schedule in front (`backwardDigest`) it is the
same scheme, and `publicKey_eq`, `sign_eq` and `verify_eq` exchange the two.
-/
import Identity.Crypto.Ed25519.Signature
import Identity.Proofs.Crypto.Sha2

namespace Identity.Crypto.Ed25519

section Digests

variable (digest : Bytes → Bytes)

/-- The secret number of a seed. -/
def secretScalarBy (seed : Bytes) : Nat :=
  let n := Bytes.toNatLE ((digest seed).take 32)
  n % (1 <<< 254) / 8 * 8 + (1 <<< 254)

/-- The public key of a seed. -/
def publicKeyBy (seed : Bytes) : Bytes := (Point.mul (secretScalarBy digest seed) .base).toBytes

/-- The digest of some bytes, as a number below the group order. -/
def hashScalarBy (bytes : Bytes) : Nat := Bytes.toNatLE (digest bytes) % groupOrder

/-- The signature of a message under a private key. -/
def signBy (key message : Bytes) : Bytes :=
  let seed := key.take halfLength
  let nonce := hashScalarBy digest ((digest seed).drop 32 ++ message)
  let commitment := (Point.mul nonce .base).toBytes
  let answer := nonce +
    hashScalarBy digest (commitment ++ key.drop halfLength ++ message) * secretScalarBy digest seed
  commitment ++ Bytes.ofNatLE 32 (answer % groupOrder)

/-- The signature belongs to the message under the public key. -/
def verifyBy (key message signature : Bytes) : Bool :=
  let answer := Bytes.toNatLE (signature.drop halfLength)
  match Point.ofBytes? key, Point.ofBytes? (signature.take halfLength) with
  | some a, some r =>
    let k := hashScalarBy digest (signature.take halfLength ++ key ++ message)
    let expected := (Point.mul answer .base).add (Point.mul k a).neg
    answer < groupOrder && !a.hasSmallOrder && !r.hasSmallOrder &&
      (r.add expected.neg).hasSmallOrder
  | _, _ => false

end Digests

/-! ### The digest of the scheme -/

theorem secretScalarBy_eq : secretScalarBy Sha512.hash = secretScalar := rfl

theorem hashScalarBy_eq : hashScalarBy Sha512.hash = hashScalar := rfl

theorem publicKeyBy_eq : publicKeyBy Sha512.hash = publicKey := rfl

theorem signBy_eq : signBy Sha512.hash = sign := by
  funext key message
  unfold sign signBy challenge
  rw [secretScalarBy_eq, hashScalarBy_eq]

theorem verifyBy_eq : verifyBy Sha512.hash = verify := by
  funext key message signature
  unfold verify verifyBy challenge
  -- kept closed, or the comparison of the two sides computes with the curve
  generalize Bytes.toNatLE (signature.drop halfLength) = answer
  generalize Point.ofBytes? key = a
  generalize Point.ofBytes? (signature.take halfLength) = r
  rcases a with _ | a
  · rfl
  · rcases r with _ | r
    · rfl
    · rfl

/-- The digest of the scheme, with the newest word of a schedule in front. -/
def backwardDigest (message : Bytes) : Bytes := Sha2.hashBackward Sha512.variant message

theorem sha512_eq_backwardDigest : Sha512.hash = backwardDigest := by
  funext message
  rw [Sha512.hash, Sha2.hash_eq_hashBackward, backwardDigest]

theorem publicKey_eq : publicKey = publicKeyBy backwardDigest := by
  rw [← sha512_eq_backwardDigest, publicKeyBy_eq]

theorem sign_eq : sign = signBy backwardDigest := by
  rw [← sha512_eq_backwardDigest, signBy_eq]

theorem verify_eq : verify = verifyBy backwardDigest := by
  rw [← sha512_eq_backwardDigest, verifyBy_eq]

end Identity.Crypto.Ed25519
