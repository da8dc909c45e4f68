/-
Identity/Secret/Password.lean

The password policy: 8 to 72 characters with an upper-case letter, a
lower-case letter, an ASCII digit and a symbol.  Letters are those of
Unicode; a symbol is any character that is neither alphabetic nor a number,
so white space counts as one.
-/
import Identity.Error
import Identity.Unicode.Alphanumeric
import Identity.Unicode.Letters

namespace Identity.Password

open Unicode

/-- The shortest password, in characters. -/
def minLength : Nat := 8

/-- The longest password, in characters. -/
def maxLength : Nat := 72

/-- The character classes that a password has to draw from. -/
inductive CharClass where
  | upper
  | lower
  | digit
  | symbol
  deriving DecidableEq, Repr

namespace CharClass

/-- All classes, in the order in which they are asked for. -/
def all : List CharClass := [upper, lower, digit, symbol]

/-- The character belongs to the class. -/
def contains : CharClass → Char → Bool
  | upper, c => isUppercase c
  | lower, c => isLowercase c
  | digit, c => c.isDigit
  | symbol, c => !isAlphanumeric c

/-- How a missing class is named. -/
def description : CharClass → String
  | upper => "an uppercase letter"
  | lower => "a lowercase letter"
  | digit => "a digit"
  | symbol => "a symbol"

end CharClass

/-- The ways in which a password can fall short of the policy. -/
inductive Fault where
  | tooShort
  | tooLong
  | missing (missingClass : CharClass)
  deriving DecidableEq, Repr

/-- What is said about a password that falls short. -/
def Fault.message : Fault → String
  | tooShort => "password must be at least " ++ toString minLength ++ " characters"
  | tooLong => "password must not exceed " ++ toString maxLength ++ " characters"
  | missing k => "password must contain " ++ k.description

/-- The first rule of the policy that a password breaks. -/
def check (password : String) : Except Fault Unit :=
  if password.length < minLength then .error .tooShort
  else if maxLength < password.length then .error .tooLong
  else
    match CharClass.all.find? (fun k => !password.toList.any k.contains) with
    | some k => .error (.missing k)
    | none => .ok ()

/-- Accepts exactly the passwords that meet the policy. -/
def validate (password : String) : Outcome Unit :=
  (check password).mapError fun fault => .invalidPassword fault.message

end Identity.Password
