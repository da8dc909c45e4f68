/-
Identity/Json/Value.lean

JSON documents.

Two things that a document may hold are kept as they are written, for a
reader to judge who wants them: numbers keep their literal, and objects keep
repeated keys.  A string that escapes half of a surrogate pair, or holds bytes
that are no UTF-8, stands for no text, so a string is an optional text.
-/

namespace Identity.Json

/-- A JSON document. -/
inductive Value where
  | null
  | bool (b : Bool)
  | number (literal : List Char)
  | string (text : Option String)
  | array (items : List Value)
  | object (members : List (Option String × Value))
  deriving Inhabited

namespace Value

/-- The text of a string. -/
def text? : Value → Option String
  | string text => text
  | _ => none

/-- The truth value of a boolean. -/
def bool? : Value → Option Bool
  | bool b => some b
  | _ => none

/-- The members of an object whose keys are all texts. -/
def members? : Value → Option (List (String × Value))
  | object members => members.mapM fun member => member.1.map fun key => (key, member.2)
  | _ => none

/-- The integer that a number without fraction and exponent stands for.  A
negative zero is none. -/
def integer? : Value → Option Int
  | number ('-' :: ds) =>
    if ds.all Char.isDigit then
      let n := Nat.ofDigitChars 10 ds 0
      if n = 0 then none else some (-n)
    else none
  | number ds => if ds.all Char.isDigit then some (Nat.ofDigitChars 10 ds 0) else none
  | _ => none

end Value

/-! ### Members of objects -/

/-- The value under a key that must not be repeated: nothing when the key is
absent, no answer when it is repeated. -/
def single? (key : String) (members : List (String × Value)) : Option (Option Value) :=
  match members.filter (·.1 == key) with
  | [] => some none
  | [member] => some (some member.2)
  | _ => none

end Identity.Json
