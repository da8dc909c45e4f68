/-
Identity/Permission.lean

Permissions are texts of `:`-separated segments, such as `users:read`.  In a
granted permission a segment `*` stands for any one segment, and the
permission `*` alone for every permission.

`covers` decides whether a granted permission covers a required one;
`anyCovers` and its companions lift the decision to lists.  `parse` accepts
the texts that may be granted.
-/
import Identity.Error
import Identity.Unicode.WhiteSpace

namespace Identity.Permission

open Unicode

/-- The character between two segments. -/
def separator : Char := ':'

/-- The segment, or whole permission, that covers everything. -/
def wildcard : List Char := ['*']

/-- The segments of a permission. -/
def segments (permission : String) : List (List Char) := permission.toList.splitOn separator

/-! ### Coverage -/

/-- A granted segment covers a required one. -/
def segmentCovers (granted required : List Char) : Bool :=
  granted == wildcard || granted == required

/-- Granted segments cover required ones position by position, with none
left over on either side. -/
def segmentsCover : List (List Char) → List (List Char) → Bool
  | [], [] => true
  | g :: gs, r :: rs => segmentCovers g r && segmentsCover gs rs
  | _, _ => false

/-- A granted permission covers a required one. -/
def covers (granted required : String) : Bool :=
  granted.toList == wildcard || granted == required ||
    segmentsCover (segments granted) (segments required)

/-- Some granted permission covers the required one. -/
def anyCovers (granted : List String) (required : String) : Bool :=
  granted.any (covers · required)

/-- Some required permission is covered; none is when nothing is required. -/
def coversAny (granted required : List String) : Bool :=
  required.any (anyCovers granted)

/-- Every required permission is covered; so it is when nothing is required. -/
def coversAll (granted required : List String) : Bool :=
  required.all (anyCovers granted)

/-! ### Lists without repeats -/

/-- Keeps the first occurrence of each element that `seen` does not hold. -/
def dedupAfter (seen : List String) : List String → List String
  | [] => []
  | p :: ps =>
    if p ∈ seen then dedupAfter seen ps else p :: dedupAfter (p :: seen) ps

/-- Drops later repeats and keeps the order of first occurrences. -/
def dedup (permissions : List String) : List String := dedupAfter [] permissions

/-! ### Well-formed permissions -/

/-- The ways in which a permission can be malformed. -/
inductive Fault where
  | empty
  | whiteSpace
  | emptySegment
  deriving DecidableEq, Repr

/-- What is said about a malformed permission. -/
def Fault.message (permission : String) : Fault → String
  | empty => "permission must not be empty"
  | whiteSpace => "permission '" ++ permission ++ "' must not contain whitespace"
  | emptySegment => "permission '" ++ permission ++ "' contains an empty segment"

/-- The first rule that a permission breaks. -/
def check (permission : String) : Except Fault Unit :=
  if permission.isEmpty then .error .empty
  else if permission.toList.any isWhiteSpace then .error .whiteSpace
  else if (segments permission).any (·.isEmpty) then .error .emptySegment
  else .ok ()

end Identity.Permission

namespace Identity

/-- A permission that may be granted: its text is well formed. -/
structure Permission where
  text : String
  wellFormed : Permission.check text = .ok ()

/-- Reads a permission, or says which rule its text breaks. -/
def Permission.parse (text : String) : Outcome Permission :=
  match h : check text with
  | .ok () => .ok ⟨text, h⟩
  | .error fault => .error (.invalidPermission (fault.message text))

end Identity
