/-
Identity/Identifier/Username.lean

Usernames, which also name the principals that hold roles.

The canonical form is lower case without white space or separators at
either end, so two spellings that differ only in those name one principal.
-/
import Identity.Error
import Identity.Text.LowerCase
import Identity.Text.Trim

namespace Identity.Username

open Text Unicode

/-- The shortest username, in characters. -/
def minLength : Nat := 3

/-- The longest username, in characters. -/
def maxLength : Nat := 32

/-- The separators, which may stand inside a username but not at its ends. -/
def isSeparator (c : Char) : Bool := c = '.' || c = '_' || c = '-'

/-- Canonical form: lower-cased, then stripped of white space and separators
at both ends. -/
def normalize (username : String) : String :=
  String.ofList
    (trimBy (fun c => isWhiteSpace c || isSeparator c) (lowerChars username.toList))

/-- The ways in which a username can be malformed. -/
inductive Fault where
  | length
  | characters
  deriving DecidableEq, Repr

/-- What is said about a malformed username. -/
def Fault.message : Fault → String
  | length =>
    "username must be between " ++ toString minLength ++ " and " ++ toString maxLength ++
      " characters"
  | characters => "username may only contain letters, digits, '_', '-' and '.'"

/-- A letter, a digit or a separator, all of them ASCII. -/
def isAllowed (c : Char) : Bool := c.isAlphanum || isSeparator c

/-- The first rule that a canonical username breaks. -/
def check (username : String) : Except Fault Unit :=
  if username.length < minLength || maxLength < username.length then .error .length
  else if !username.toList.all isAllowed then .error .characters
  else .ok ()

/-- Accepts exactly the well-formed usernames. -/
def validate (username : String) : Outcome Unit :=
  (check username).mapError fun fault => .invalidUsername fault.message

end Identity.Username
