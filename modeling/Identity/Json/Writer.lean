/-
Identity/Json/Writer.lean

Writing JSON without white space.  In strings, quotes, backslashes and
control characters are escaped; every other character stands for itself.
-/
import Identity.Text.Hex

namespace Identity.Json

/-- How a character stands in a string. -/
def escapeChar (c : Char) : List Char :=
  if c = '"' then ['\\', '"']
  else if c = '\\' then ['\\', '\\']
  else if c = '\x08' then ['\\', 'b']
  else if c = '\x0c' then ['\\', 'f']
  else if c = '\n' then ['\\', 'n']
  else if c = '\r' then ['\\', 'r']
  else if c = '\t' then ['\\', 't']
  else if c.toNat < 0x20 then
    ['\\', 'u', '0', '0', Hex.digit (c.toNat / 16), Hex.digit (c.toNat % 16)]
  else [c]

/-- A string. -/
def stringText (s : String) : List Char := '"' :: s.toList.flatMap escapeChar ++ ['"']

/-- Texts with commas between them. -/
def commaSeparated : List (List Char) → List Char
  | [] => []
  | [t] => t
  | t :: ts => t ++ ',' :: commaSeparated ts

/-- An object with the given keys and values that are written already. -/
def objectText (members : List (String × List Char)) : List Char :=
  '\x7b' :: commaSeparated (members.map fun m => stringText m.1 ++ ':' :: m.2) ++ ['\x7d']

end Identity.Json
