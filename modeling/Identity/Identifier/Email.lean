/-
Identity/Identifier/Email.lean

Email addresses: their canonical form and their grammar.

An address is well formed when it is `local@d₁.….dₙ` with a non-empty local
part, at least two labels, no empty label and a last label of two characters
or more; it has no white space, exactly one `@`, and at most 254 bytes.
`check` reports the first rule that an address breaks.
-/
import Identity.Error
import Identity.Text.LowerCase
import Identity.Text.Trim

namespace Identity.Email

open Text Unicode

/-- The longest address, in bytes. -/
def maxLength : Nat := 254

/-- Canonical form: trimmed, then lower-cased. -/
def normalize (email : String) : String :=
  String.ofList (lowerChars (trimChars email.toList))

/-! ### Grammar -/

/-- The ways in which an address can be malformed. -/
inductive Fault where
  | empty
  | tooLong
  | whiteSpace
  | notOneAt
  | emptyLocalPart
  | unlabelledDomain
  | shortTopLevel
  deriving DecidableEq, Repr

/-- What is said about a malformed address. -/
def Fault.message : Fault → String
  | empty => "email address must not be empty"
  | tooLong => "email address must not exceed " ++ toString maxLength ++ " characters"
  | whiteSpace => "email address must not contain whitespace"
  | notOneAt => "email address must contain exactly one '@'"
  | emptyLocalPart => "email local part must not be empty"
  | unlabelledDomain => "email domain must contain dot-separated labels"
  | shortTopLevel => "email top-level domain must be at least 2 characters"

/-- The first rule for the domain's labels that is broken. -/
def checkLabels (labels : List (List Char)) : Except Fault Unit :=
  if labels.length < 2 || labels.any (·.isEmpty) then .error .unlabelledDomain
  else if (labels.getLastD []).length < 2 then .error .shortTopLevel
  else .ok ()

/-- The first rule of the grammar that a canonical address breaks. -/
def check (email : String) : Except Fault Unit :=
  if email.isEmpty then .error .empty
  else if email.utf8ByteSize > maxLength then .error .tooLong
  else if email.toList.any isWhiteSpace then .error .whiteSpace
  else
    match email.toList.splitOn '@' with
    | [localPart, domain] =>
      if localPart.isEmpty then .error .emptyLocalPart
      else checkLabels (domain.splitOn '.')
    | _ => .error .notOneAt

/-- Accepts exactly the well-formed addresses. -/
def validate (email : String) : Outcome Unit :=
  (check email).mapError fun fault => .invalidEmail fault.message

end Identity.Email
