/-
Identity/Crypto/Hmac.lean

HMAC with SHA-256: a digest of a message that only the holder of a key can
compute.
-/
import Identity.Crypto.Sha256

namespace Identity.Crypto.Hmac

/-- The block length of the hash, to which keys are brought. -/
def blockLength : Nat := 64

/-- A key as one block: hashed when it is longer, then filled with zeros. -/
def blockKey (key : Bytes) : Bytes :=
  let short := if blockLength < key.length then Sha256.hash key else key
  short ++ List.replicate (blockLength - short.length) 0

/-- The keyed digest of a message. -/
def sha256 (key message : Bytes) : Bytes :=
  let block := blockKey key
  Sha256.hash (block.map (· ^^^ 0x5c) ++ Sha256.hash (block.map (· ^^^ 0x36) ++ message))

end Identity.Crypto.Hmac
