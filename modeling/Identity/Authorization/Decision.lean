/-
Identity/Authorization/Decision.lean

What a principal may do.

A principal has the permissions of its active roles, and may do what one of
them covers.
-/
import Identity.Check.Request
import Identity.Program

namespace Identity.Authorization

/-- The permissions that roles give, each once. -/
def permissionsOf (roles : List Role) : List String :=
  Permission.dedup ((roles.filter Role.isActive).flatMap Role.permissions)

/-- The permissions of a principal. -/
def permissions (name : String) : Operation (List String) := do
  let roles : List Role ← .call (.rolesOfUser (Username.normalize name))
  return permissionsOf roles

/-- The principal has a permission. -/
def checkPermission (name required : String) : Operation Bool := do
  return Permission.anyCovers (← permissions name) required

/-- The principal has one of the permissions. -/
def checkAny (name : String) (required : List String) : Operation Bool := do
  return Permission.coversAny (← permissions name) required

/-- The principal has all of the permissions. -/
def checkAll (name : String) (required : List String) : Operation Bool := do
  return Permission.coversAll (← permissions name) required

/-- The principal holds the named role, active or not. -/
def hasRole (name roleName : String) : Operation Bool :=
  .call (.hasRole (Username.normalize name) (RoleName.normalize roleName))

/-- What is said about a permission that a principal lacks. -/
def missingText (name required : String) : String :=
  "'" ++ Username.normalize name ++ "' is missing permission '" ++ required ++ "'"

/-- Fails unless the principal has a permission. -/
def requirePermission (name required : String) : Operation Unit := do
  if !(← checkPermission name required) then
    throw (.permissionDenied (missingText name required))

/-- Answers a question. -/
def evaluate (request : Check.Request) : Operation Bool :=
  checkPermission request.principal request.required

end Identity.Authorization
