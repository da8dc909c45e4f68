/-
Identity/Token/Envelope.lean

The outer form of a token: the header `v4.public.`, the payload followed by
its 64-byte signature in compact base 64, and perhaps, after a point, a
footer.

What is signed is not the payload itself but an encoding of header, payload
and footer in which every piece comes after its length, so that no two
different triples are signed as the same bytes.
-/
import Identity.Crypto.Fault
import Identity.Text.Base64

namespace Identity.Token

open Crypto (Fault)

/-- The version and the purpose of a token. -/
def headerParts : List (List Char) := [['v', '4'], ['p', 'u', 'b', 'l', 'i', 'c']]

/-- The text that every token starts with. -/
def header : String := "v4.public."

/-- Bytes in a signature. -/
def signatureLength : Nat := 64

/-! ### What is signed -/

/-- A number as eight bytes, low byte first. -/
def lengthBytes (n : Nat) : Bytes := Bytes.ofNatLE 8 n

/-- Pieces joined so that they can be told apart again. -/
def joinPieces (pieces : List Bytes) : Bytes :=
  lengthBytes pieces.length ++ pieces.flatMap fun piece => lengthBytes piece.length ++ piece

/-- The bytes that a signature covers. -/
def signedBytes (payload footer : Bytes) : Bytes :=
  joinPieces [Bytes.ofText header, payload, footer, []]

/-! ### Envelopes -/

/-- The parts of a token. -/
structure Envelope where
  payload : Bytes
  signature : Bytes
  footer : Bytes
  deriving DecidableEq, Repr

/-- The ways in which a text is no token. -/
inductive EnvelopeFault where
  | shape
  | encoding
  deriving DecidableEq, Repr

namespace Envelope

/-- The text of a token without a footer. -/
def text (payload signature : Bytes) : String :=
  header ++ Base64.encodeCompact (payload ++ signature)

/-- The bytes of a part in compact base 64. -/
def part (text : List Char) : Except EnvelopeFault Bytes :=
  match Base64.decodeCompactChars text with
  | some bytes => .ok bytes
  | none => .error .encoding

/-- The parts of a token whose body and footer are given in base 64.  A body
has to hold more than a signature. -/
def ofParts (body footer : List Char) : Except EnvelopeFault Envelope := do
  if body.isEmpty then throw .shape
  let bytes ← part body
  if bytes.length ≤ signatureLength then throw .shape
  let footer ← part footer
  let payloadLength := bytes.length - signatureLength
  return ⟨bytes.take payloadLength, bytes.drop payloadLength, footer⟩

/-- The parts of a token. -/
def parse (token : String) : Except EnvelopeFault Envelope :=
  match token.toList.splitOn '.' with
  | [version, purpose, body] =>
    if [version, purpose] = headerParts then ofParts body [] else .error .shape
  | [version, purpose, body, footer] =>
    if [version, purpose] = headerParts then ofParts body footer else .error .shape
  | _ => .error .shape

end Envelope

end Identity.Token
