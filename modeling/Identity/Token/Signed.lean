/-
Identity/Token/Signed.lean

Signing claims into a token, and verifying a token back into claims.

Verification reads nothing from a token whose signature does not hold, and
looks at the clock last: `authenticate` answers the claims of a genuine token
at any time, and `verify` refuses them from the second of their expiry on.
-/
import Identity.Token.Claims
import Identity.Token.Envelope
import Identity.Token.Key

namespace Identity.Token

open Crypto

/-! ### Signing -/

/-- The token for some claims, signed with a private key. -/
def sign (claims : Claims) (privateKey : Bytes) (issuedAt : Int) : Except Fault String := do
  checkPrivateKey privateKey
  match claims.document issuedAt with
  | .error instant => throw (.tokenEncoding ("timestamp out of range: " ++ toString instant))
  | .ok document =>
    let payload := Bytes.ofText document.encode
    return Envelope.text payload (Ed25519.sign privateKey (signedBytes payload []))

/-! ### Verifying -/

/-- What is said about a text that is no token. -/
def EnvelopeFault.fault : EnvelopeFault → Fault
  | .shape => .invalidToken "malformed token"
  | .encoding => .invalidToken "malformed encoding"

/-- The payload of an envelope whose signature holds. -/
def Envelope.signedPayload (envelope : Envelope) (publicKey : Bytes) : Except Fault Bytes :=
  let message := signedBytes envelope.payload envelope.footer
  if Ed25519.verify publicKey message envelope.signature then .ok envelope.payload
  else .error (.invalidToken "signature mismatch")

/-- The claims that a signed payload holds. -/
def claimsOf (payload : Bytes) : Except Fault Claims :=
  match payload.toText? with
  | none => .error (.invalidToken "malformed token")
  | some text =>
    match Document.decode? text with
    | none => .error (.invalidToken "malformed claims")
    | some document =>
      match document.claims? with
      | none => .error (.invalidToken "malformed expiry")
      | some claims => .ok claims

/-- The claims of a genuine token, whatever the time. -/
def authenticate (token : String) (publicKey : Bytes) : Except Fault Claims := do
  checkLength publicKeyLength publicKey
  let envelope ← (Envelope.parse token).mapError EnvelopeFault.fault
  claimsOf (← envelope.signedPayload publicKey)

/-- The claims of a genuine token that has not expired. -/
def verify (token : String) (publicKey : Bytes) (now : Int) : Except Fault Claims := do
  let claims ← authenticate token publicKey
  if claims.expiresAt ≤ now then throw .tokenExpired
  return claims

end Identity.Token
