/-
Identity/Identifier/DisplayName.lean

Display names: free text with its case kept, trimmed, one to 128 characters.
-/
import Identity.Error
import Identity.Text.Trim

namespace Identity.DisplayName

open Text

/-- The longest display name, in characters. -/
def maxLength : Nat := 128

/-- Canonical form: trimmed. -/
def normalize (name : String) : String := trim name

/-- The ways in which a display name can be malformed. -/
inductive Fault where
  | empty
  | tooLong
  deriving DecidableEq, Repr

/-- What is said about a malformed display name. -/
def Fault.message : Fault → String
  | empty => "display name must not be empty"
  | tooLong => "display name must not exceed " ++ toString maxLength ++ " characters"

/-- The first rule that a trimmed display name breaks. -/
def check (name : String) : Except Fault Unit :=
  if name.length = 0 then .error .empty
  else if maxLength < name.length then .error .tooLong
  else .ok ()

/-- Accepts exactly the well-formed display names. -/
def validate (name : String) : Outcome Unit :=
  (check name).mapError fun fault => .invalidDisplayName fault.message

end Identity.DisplayName
