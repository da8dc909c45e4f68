/-
Identity/Url/Form.lean

Queries as lists of names with values, in the form in which browsers send
what is filled in: a sign between two entries, an equals sign after a name,
and a plus sign for a blank.
-/
import Identity.Text.Utf8
import Identity.Url.Reader

namespace Identity.Url.Form

/-- The text that a name or a value stands for. -/
def decode (part : List Char) : String :=
  Utf8.decodeLenient (Percent.decode (part.map fun c => if c = '+' then ' ' else c))

/-- The name and the value of an entry; an entry without an equals sign has no value. -/
def entry (part : List Char) : String × String :=
  let (name, value) := cutAt '=' part
  (decode name, decode (value.getD []))

/-- The entries of a query in order. -/
def entries (query : List Char) : List (String × String) :=
  ((query.splitOn '&').filter (!·.isEmpty)).map entry

end Identity.Url.Form
