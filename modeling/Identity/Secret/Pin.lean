/-
Identity/Secret/Pin.lean

Numeric PINs: four to eight ASCII digits.  The length is counted in bytes,
so a text of wider characters can fail on either rule.
-/
import Identity.Error

namespace Identity.Pin

/-- The fewest digits. -/
def minLength : Nat := 4

/-- The most digits. -/
def maxLength : Nat := 8

/-- The ways in which a PIN can be malformed. -/
inductive Fault where
  | length
  | digits
  deriving DecidableEq, Repr

/-- What is said about a malformed PIN. -/
def Fault.message : Fault → String
  | length =>
    "pin must be between " ++ toString minLength ++ " and " ++ toString maxLength ++ " digits"
  | digits => "pin may only contain digits"

/-- The first rule that a PIN breaks. -/
def check (pin : String) : Except Fault Unit :=
  if pin.utf8ByteSize < minLength || maxLength < pin.utf8ByteSize then .error .length
  else if !pin.toList.all (·.isDigit) then .error .digits
  else .ok ()

/-- Accepts exactly the well-formed PINs. -/
def validate (pin : String) : Outcome Unit :=
  (check pin).mapError fun fault => .invalidPin fault.message

end Identity.Pin
