/-
Identity/Identifier/RoleName.lean

Role names: lower-case ASCII letters, digits, underscores and hyphens.
-/
import Identity.Error
import Identity.Text.LowerCase
import Identity.Text.Trim

namespace Identity.RoleName

open Text

/-- The shortest role name, in characters. -/
def minLength : Nat := 2

/-- The longest role name, in characters. -/
def maxLength : Nat := 64

/-- Canonical form: trimmed, then lower-cased. -/
def normalize (name : String) : String :=
  String.ofList (lowerChars (trimChars name.toList))

/-- The ways in which a role name can be malformed. -/
inductive Fault where
  | length
  | characters
  deriving DecidableEq, Repr

/-- What is said about a malformed role name. -/
def Fault.message : Fault → String
  | length =>
    "role name must be between " ++ toString minLength ++ " and " ++ toString maxLength ++
      " characters"
  | characters => "role name may only contain letters, digits, '_' and '-'"

/-- An ASCII letter or digit, an underscore or a hyphen. -/
def isAllowed (c : Char) : Bool := c.isAlphanum || c = '_' || c = '-'

/-- The first rule that a canonical role name breaks. -/
def check (name : String) : Except Fault Unit :=
  if name.length < minLength || maxLength < name.length then .error .length
  else if !name.toList.all isAllowed then .error .characters
  else .ok ()

/-- Accepts exactly the well-formed role names. -/
def validate (name : String) : Outcome Unit :=
  (check name).mapError fun fault => .invalidRoleName fault.message

end Identity.RoleName
