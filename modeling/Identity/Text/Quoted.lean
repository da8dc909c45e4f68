/-
Identity/Text/Quoted.lean

Quoted text: the form in which a value that may hold anything is shown to an
operator on one line.

Inside the quotes the enclosing quote mark and the backslash are preceded by
a backslash; tab, newline, carriage return and NUL have their letter; every
other unprintable character and every concealed one is written as its
code point in braces.  `record` lays out the fields of a value.
-/
import Identity.Text.Hex
import Identity.Unicode.Printable

namespace Identity.Text

open Unicode

/-! ### Characters and strings -/

/-- How a character stands between two `quote` marks. -/
def escapeChar (quote c : Char) : List Char :=
  if c = '\x00' then ['\\', '0']
  else if c = '\t' then ['\\', 't']
  else if c = '\n' then ['\\', 'n']
  else if c = '\r' then ['\\', 'r']
  else if c = '\\' || c = quote then ['\\', c]
  else if isPrintable c then [c]
  else ['\\', 'u', '\x7b'] ++ (Hex.ofNat c.toNat).toList ++ ['\x7d']

/-- A string between double quotes. -/
def quoted (s : String) : String :=
  String.ofList ('"' :: s.toList.flatMap (escapeChar '"') ++ ['"'])

/-- A character between single quotes. -/
def quotedChar (c : Char) : String :=
  String.ofList ('\'' :: escapeChar '\'' c ++ ['\''])

/-! ### Records -/

/-- A field and its value. -/
def fieldText (field : String × String) : String := field.1 ++ ": " ++ field.2

/-- A record with its fields in order. -/
def record (name : String) (fields : List (String × String)) : String :=
  name ++ " \x7b " ++ ", ".intercalate (fields.map fieldText) ++ " \x7d"

/-- A record that shows only some of its fields. -/
def partialRecord (name : String) (fields : List (String × String)) : String :=
  name ++ " \x7b " ++ ", ".intercalate (fields.map fieldText ++ [".."]) ++ " \x7d"

end Identity.Text
