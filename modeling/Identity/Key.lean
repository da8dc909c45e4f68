/-
Identity/Key.lean

Keys of a fixed length.
-/
import Identity.Bytes

namespace Identity

/-- A key of `length` bytes. -/
structure Key (length : Nat) where
  bytes : Bytes
  length_bytes : bytes.length = length
  deriving DecidableEq, Repr

/-- The key made of some bytes, if there are as many as it takes. -/
def Key.ofBytes? (length : Nat) (bytes : Bytes) : Option (Key length) :=
  if h : bytes.length = length then some ⟨bytes, h⟩ else none

/-- A key is made of its own bytes. -/
@[simp] theorem Key.ofBytes?_bytes {length : Nat} (key : Key length) :
    Key.ofBytes? length key.bytes = some key := by
  simp [Key.ofBytes?, key.length_bytes]

end Identity
