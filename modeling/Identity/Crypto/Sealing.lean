/-
Identity/Crypto/Sealing.lean

Sealing confidential bytes with AES-256-GCM.

Ciphertext, nonce and tag are kept apart, as bytes (`RawParts`) or as padded
base-64 texts (`SealedParts`).  The cipher has the tag at the end of the
ciphertext, so sealing cuts it off and opening puts it back.  Lengths are
checked before anything is decrypted, in the order key, nonce, tag.

The only faults of sealing are a key of the wrong length and a want of random
bytes.  `Fault.encryption` is for plaintexts beyond what the cipher takes, a limit
that is left out here as it is in the cipher.
-/
import Identity.Crypto.Gcm
import Identity.Entropy
import Identity.Text.Base64

namespace Identity.Crypto

/-- The parts of a sealed text as bytes. -/
structure RawParts where
  ciphertext : Bytes
  nonce : Bytes
  tag : Bytes
  deriving DecidableEq, Repr

/-- The parts of a sealed text as base-64 texts. -/
structure SealedParts where
  ciphertext : String
  nonce : String
  tag : String
  deriving DecidableEq, Repr

/-- Writes bytes as texts. -/
def SealedParts.ofRaw (raw : RawParts) : SealedParts :=
  ⟨Base64.encode raw.ciphertext, Base64.encode raw.nonce, Base64.encode raw.tag⟩

/-- A part as bytes, or the fault that names it. -/
def decodePart (fault : Fault) (text : String) : Except Fault Bytes :=
  match Base64.decode text with
  | some bytes => .ok bytes
  | none => .error fault

/-- Reads texts as bytes, and names the first that is no base-64 text. -/
def SealedParts.decode (parts : SealedParts) : Except Fault RawParts := do
  let ciphertext ← decodePart .invalidCiphertext parts.ciphertext
  let nonce ← decodePart .invalidNonce parts.nonce
  let tag ← decodePart .invalidTag parts.tag
  return ⟨ciphertext, nonce, tag⟩

namespace Sealing

/-- Accepts exactly the keys of the right length. -/
def checkKey (key : Bytes) : Except Fault Unit :=
  if key.length = Gcm.keyLength then .ok () else .error (.invalidKey Gcm.keyLength key.length)

/-- Seals a plaintext under a key and a given nonce. -/
def sealWith (key nonce plaintext : Bytes) : RawParts :=
  let (ciphertext, tag) := Gcm.splitTag (Gcm.encrypt key nonce plaintext)
  ⟨ciphertext, nonce, tag⟩

/-- Seals a plaintext under a key and a drawn nonce, as bytes. -/
def encryptRaw (plaintext key : Bytes) : Draw RawParts := do
  checkKey key
  let nonce ← Draw.bytes Gcm.nonceLength
  return sealWith key nonce plaintext

/-- Seals a plaintext under a key and a drawn nonce, as base-64 texts. -/
def encrypt (plaintext key : Bytes) : Draw SealedParts :=
  SealedParts.ofRaw <$> encryptRaw plaintext key

/-- Opens a sealed text. -/
def decryptRaw (raw : RawParts) (key : Bytes) : Except Fault Bytes := do
  checkKey key
  if raw.nonce.length ≠ Gcm.nonceLength then throw .invalidNonce
  if raw.tag.length ≠ Gcm.tagLength then throw .invalidTag
  match Gcm.decrypt? key raw.nonce (raw.ciphertext ++ raw.tag) with
  | some plaintext => return plaintext
  | none => throw .decryptionFailed

/-- Opens a sealed text given as base-64 texts. -/
def decrypt (parts : SealedParts) (key : Bytes) : Except Fault Bytes := do
  decryptRaw (← parts.decode) key

end Sealing

end Identity.Crypto
