/-
Identity/Authorization/Grants.lean

Granting roles to principals.  A principal is a username in any spelling.
-/
import Identity.Authentication.Secrets

namespace Identity.Authorization

open Authentication (freshUuid)

/-- The canonical name of a principal, if it is well formed. -/
def principal (name : String) : Outcome String := do
  Username.validate (Username.normalize name)
  return Username.normalize name

/-- Grants a stored role to a principal. -/
def assignRole (name : String) (roleId : RoleId) (actor : String) (now : Timestamp) :
    Operation Grant := do
  let username ← .ofOutcome (principal name)
  let role : Role ← .call (.getRole roleId)
  let fresh ← freshUuid
  .call (.createGrant (.assigned ⟨fresh⟩ username role.id actor now))

/-- Takes a role away from a principal. -/
def revokeRole (name : String) (roleId : RoleId) : Operation Unit := do
  let username ← .ofOutcome (principal name)
  .call (.deleteGrant username roleId)

/-- The grants of a principal. -/
def grantsOfUser (name : String) : Operation (List Grant) :=
  .call (.grantsOfUser (Username.normalize name))

/-- The grants of a role. -/
def grantsOfRole (roleId : RoleId) : Operation (List Grant) := .call (.grantsOfRole roleId)

/-- The roles of a principal, active or not. -/
def rolesOfUser (name : String) : Operation (List Role) :=
  .call (.rolesOfUser (Username.normalize name))

end Identity.Authorization
