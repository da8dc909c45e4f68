/-
Identity/Json/Reader.lean

Reading JSON documents, strictly: no comments, no trailing commas, no bare
control characters, no leading zeros, nothing after the document but white
space.

A document is given as bytes.  All that it is made of is ASCII, but for what
stands in strings, so the readers see each byte as the character of its number
(`units`).  A string may hold any bytes from 0x20 on; only where they are UTF-8
does it stand for a text.  What nobody asks for is therefore not refused for
its encoding.

A reader takes the front of a document and answers what it read together with
the rest.  Readers of nested values carry a bound that is more than twice
the length of the document; each step uses at least half of what it spends.
-/
import Identity.Bytes
import Identity.Json.Value

namespace Identity.Json

/-- Each byte as the character of its number, which for ASCII characters is
themselves. -/
def units (bytes : Bytes) : List Char := bytes.map Char.ofUInt8

/-! ### Blanks and literals -/

/-- White space between tokens. -/
def isBlank (c : Char) : Bool := c = ' ' || c = '\t' || c = '\n' || c = '\r'

/-- Drops white space. -/
def skipBlanks (cs : List Char) : List Char := cs.dropWhile isBlank

/-! ### Numbers -/

/-- The digits at the front, at least one. -/
def digits? (cs : List Char) : Option (List Char × List Char) :=
  match cs.takeWhile Char.isDigit with
  | [] => none
  | ds => some (ds, cs.dropWhile Char.isDigit)

/-- The integer part: a zero, or digits that do not start with one. -/
def integerPart? : List Char → Option (List Char × List Char)
  | '0' :: cs => some (['0'], cs)
  | cs => digits? cs

/-- The fraction, which may be absent. -/
def fraction? : List Char → Option (List Char × List Char)
  | '.' :: cs => (digits? cs).map fun r => ('.' :: r.1, r.2)
  | cs => some ([], cs)

/-- The exponent, which may be absent. -/
def exponent? : List Char → Option (List Char × List Char)
  | c :: cs =>
    if c = 'e' ∨ c = 'E' then
      match cs with
      | s :: ds =>
        if s = '+' ∨ s = '-' then (digits? ds).map fun r => (c :: s :: r.1, r.2)
        else (digits? cs).map fun r => (c :: r.1, r.2)
      | [] => none
    else some ([], c :: cs)
  | [] => some ([], [])

/-- A number without its sign. -/
def magnitude? (cs : List Char) : Option (List Char × List Char) := do
  let (i, cs) ← integerPart? cs
  let (f, cs) ← fraction? cs
  let (e, cs) ← exponent? cs
  return (i ++ f ++ e, cs)

/-- A number. -/
def number? : List Char → Option (List Char × List Char)
  | '-' :: cs => (magnitude? cs).map fun r => ('-' :: r.1, r.2)
  | cs => magnitude? cs

/-! ### Strings -/

/-- The value of a hexadecimal digit. -/
def hexDigit? (c : Char) : Option Nat :=
  if c.isDigit then some (c.toNat - 48)
  else if 'a' ≤ c ∧ c ≤ 'f' then some (c.toNat - 87)
  else if 'A' ≤ c ∧ c ≤ 'F' then some (c.toNat - 55)
  else none

/-- The number of four hexadecimal digits. -/
def hex4? (a b c d : Char) : Option Nat := do
  return ((((← hexDigit? a) * 16 + (← hexDigit? b)) * 16 + (← hexDigit? c)) * 16 + (← hexDigit? d))

/-- A code unit that starts a surrogate pair. -/
def isHighSurrogate (n : Nat) : Bool := 0xD800 ≤ n && n < 0xDC00

/-- A code unit that ends a surrogate pair. -/
def isLowSurrogate (n : Nat) : Bool := 0xDC00 ≤ n && n < 0xE000

/-- The character of a surrogate pair. -/
def pairedChar (high low : Nat) : Char :=
  Char.ofNat (0x10000 + (high - 0xD800) * 0x400 + (low - 0xDC00))

/-- The character that a letter after a backslash stands for. -/
def escaped? (c : Char) : Option Char :=
  if c = '"' ∨ c = '\\' ∨ c = '/' then some c
  else if c = 'b' then some '\x08'
  else if c = 'f' then some '\x0c'
  else if c = 'n' then some '\n'
  else if c = 'r' then some '\r'
  else if c = 't' then some '\t'
  else none

/-- The bytes that a string stands for, after its opening quote.  There are none
when half of a surrogate pair is among what is escaped. -/
def stringBody? : List Char → Option (Option Bytes × List Char)
  | '"' :: cs => some (some [], cs)
  | '\\' :: 'u' :: a :: b :: c :: d :: '\\' :: 'u' :: e :: f :: g :: h :: cs => do
    let high ← hex4? a b c d
    let low ← hex4? e f g h
    if isHighSurrogate high && isLowSurrogate low then
      let (bytes, rest) ← stringBody? cs
      return (bytes.map (String.utf8EncodeChar (pairedChar high low) ++ ·), rest)
    else
      let (bytes, rest) ← stringBody? ('\\' :: 'u' :: e :: f :: g :: h :: cs)
      if isHighSurrogate high || isLowSurrogate high then return (none, rest)
      else return (bytes.map (String.utf8EncodeChar (Char.ofNat high) ++ ·), rest)
  | '\\' :: 'u' :: a :: b :: c :: d :: cs => do
    let unit ← hex4? a b c d
    let (bytes, rest) ← stringBody? cs
    if isHighSurrogate unit || isLowSurrogate unit then return (none, rest)
    else return (bytes.map (String.utf8EncodeChar (Char.ofNat unit) ++ ·), rest)
  | '\\' :: c :: cs => do
    let x ← escaped? c
    let (bytes, rest) ← stringBody? cs
    return (bytes.map (String.utf8EncodeChar x ++ ·), rest)
  | c :: cs =>
    if c.toNat < 0x20 then none
    else do
      let (bytes, rest) ← stringBody? cs
      return (bytes.map (c.toUInt8 :: ·), rest)
  | [] => none

/-- A string after its opening quote, with its text if it has one. -/
def string? (cs : List Char) : Option (Option String × List Char) :=
  (stringBody? cs).map fun r => (r.1.bind Bytes.toText?, r.2)

/-! ### Values -/

mutual

/-- A value. -/
def value? : (bound : Nat) → List Char → Option (Value × List Char)
  | 0, _ => none
  | bound + 1, cs =>
    match skipBlanks cs with
    | 'n' :: 'u' :: 'l' :: 'l' :: cs => some (.null, cs)
    | 't' :: 'r' :: 'u' :: 'e' :: cs => some (.bool true, cs)
    | 'f' :: 'a' :: 'l' :: 's' :: 'e' :: cs => some (.bool false, cs)
    | '"' :: cs => (string? cs).map fun r => (.string r.1, r.2)
    | '[' :: cs =>
      match skipBlanks cs with
      | ']' :: cs => some (.array [], cs)
      | cs => (items? bound cs).map fun r => (.array r.1, r.2)
    | '\x7b' :: cs =>
      match skipBlanks cs with
      | '\x7d' :: cs => some (.object [], cs)
      | cs => (members? bound cs).map fun r => (.object r.1, r.2)
    | cs => (number? cs).map fun r => (.number r.1, r.2)

/-- The items of an array, and its end. -/
def items? : (bound : Nat) → List Char → Option (List Value × List Char)
  | 0, _ => none
  | bound + 1, cs => do
    let (v, cs) ← value? bound cs
    match skipBlanks cs with
    | ',' :: cs => (items? bound cs).map fun r => (v :: r.1, r.2)
    | ']' :: cs => some ([v], cs)
    | _ => none

/-- The members of an object, and its end. -/
def members? : (bound : Nat) → List Char → Option (List (Option String × Value) × List Char)
  | 0, _ => none
  | bound + 1, cs =>
    match skipBlanks cs with
    | '"' :: cs => do
      let (key, cs) ← string? cs
      match skipBlanks cs with
      | ':' :: cs =>
        let (v, cs) ← value? bound cs
        match skipBlanks cs with
        | ',' :: cs => (members? bound cs).map fun r => ((key, v) :: r.1, r.2)
        | '\x7d' :: cs => some ([(key, v)], cs)
        | _ => none
      | _ => none
    | _ => none

end

/-- The document that some bytes hold. -/
def ofBytes? (bytes : Bytes) : Option Value :=
  let cs := units bytes
  match value? (2 * cs.length + 2) cs with
  | some (v, rest) => if (skipBlanks rest).isEmpty then some v else none
  | none => none

/-- The document that a text holds. -/
def parse? (text : String) : Option Value := ofBytes? (Bytes.ofText text)

end Identity.Json
