/-
Identity/Text/Utf8.lean

Bytes that are meant to be a text in UTF-8.

A character is a first byte and up to three others; which second bytes may
follow depends on the first.  Bytes that are no character end where the first
byte stands that cannot go on.  A text is read strictly, which names the
place of the first such bytes, or leniently, which puts a mark in their place.
-/
import Identity.Bytes

namespace Identity.Utf8

/-! ### One character -/

/-- How many bytes follow a first byte, and between which bounds the second lies. -/
def following? (first : UInt8) : Option (Nat × UInt8 × UInt8) :=
  if first < 0x80 then some (0, 0x80, 0xbf)
  else if first < 0xc2 then none
  else if first < 0xe0 then some (1, 0x80, 0xbf)
  else if first < 0xf0 then
    some (2, if first = 0xe0 then 0xa0 else 0x80, if first = 0xed then 0x9f else 0xbf)
  else if first < 0xf5 then
    some (3, if first = 0xf0 then 0x90 else 0x80, if first = 0xf4 then 0x8f else 0xbf)
  else none

/-- What some bytes start with. -/
inductive Start where
  | character (length : Nat)
  | invalid (length : Nat)
  | incomplete
  deriving DecidableEq, Repr

/-- Looks for the bytes that are missing after `length` ones; the next one lies
between two bounds. -/
def continued (length : Nat) : (missing : Nat) → (low high : UInt8) → Bytes → Start
  | 0, _, _, _ => .character length
  | _ + 1, _, _, [] => .incomplete
  | missing + 1, low, high, b :: rest =>
    if low ≤ b && b ≤ high then continued (length + 1) missing 0x80 0xbf rest
    else .invalid length

/-- What a first byte and the ones after it start with. -/
def start (first : UInt8) (rest : Bytes) : Start :=
  match following? first with
  | some (missing, low, high) => continued 1 missing low high rest
  | none => .invalid 1

/-! ### Texts -/

/-- Why bytes are no text. -/
inductive Fault where
  | invalid (length index : Nat)
  | incomplete (index : Nat)
  deriving DecidableEq, Repr

/-- What is said about bytes that are no text. -/
def Fault.message : Fault → String
  | invalid length index =>
    "invalid utf-8 sequence of " ++ toString length ++ " bytes from index " ++ toString index
  | incomplete index => "incomplete utf-8 byte sequence from index " ++ toString index

/-- What is wrong with bytes that stand at `index`, if anything. -/
def fault? (index : Nat) : Bytes → Option Fault
  | [] => none
  | first :: rest =>
    match start first rest with
    | .character length => fault? (index + length) (rest.drop (length - 1))
    | .invalid length => some (.invalid length index)
    | .incomplete => some (.incomplete index)
termination_by bytes => bytes.length
decreasing_by
  simp only [List.length_cons, List.length_drop]
  omega

/-- The text that bytes stand for. -/
def decode (bytes : Bytes) : Except Fault String :=
  match fault? 0 bytes with
  | some fault => .error fault
  | none => .ok (bytes.toText?.getD "")

/-- The mark in the place of bytes that are no character. -/
def replacement : String := "\ufffd"

/-- The text that bytes stand for, with marks in it. -/
def decodeLenient : Bytes → String
  | [] => ""
  | first :: rest =>
    match start first rest with
    | .character length =>
      (Bytes.toText? (first :: rest.take (length - 1))).getD "" ++
        decodeLenient (rest.drop (length - 1))
    | .invalid length => replacement ++ decodeLenient (rest.drop (length - 1))
    | .incomplete => replacement
termination_by bytes => bytes.length
decreasing_by
  all_goals
    simp only [List.length_cons, List.length_drop]
    omega

end Identity.Utf8
