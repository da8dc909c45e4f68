/-
Identity/Authorization/Roles.lean

Keeping roles.
-/
import Identity.Authentication.Secrets

namespace Identity.Authorization

open Authentication (freshUuid)

/-- What a new role is to be. -/
structure RoleDraft where
  name : String
  description : String
  permissions : List String
  deriving DecidableEq, Repr

/-- Stores a new active role. -/
def createRole (draft : RoleDraft) (actor : String) (now : Timestamp) : Operation Role := do
  let fresh ← freshUuid
  let role := (Role.draft draft.name draft.description draft.permissions).created ⟨fresh⟩ actor now
  .ofOutcome role.validate
  .call (.createRole role)

/-- The role with the given identifier. -/
def getRole (id : RoleId) : Operation Role := .call (.getRole id)

/-- The role with the given name, in any spelling. -/
def getRoleByName (name : String) : Operation Role :=
  .call (.findRoleByName (RoleName.normalize name))

/-- All roles. -/
def listRoles : Operation (List Role) := .call .listRoles

/-- All roles in one state. -/
def listRolesByStatus (status : RoleStatus) : Operation (List Role) :=
  .call (.listRolesByStatus status)

/-- Stores a record that has been edited. -/
def updateRole (role : Role) (actor : String) (now : Timestamp) : Operation Role := do
  let role := role.updated actor now
  .ofOutcome role.validate
  .call (.updateRole role)

/-- Removes a role and every grant of it. -/
def deleteRole (id : RoleId) : Operation Unit := .call (.deleteRole id)

/-- Moves a role to a state; nothing is written when that is the state already. -/
def setRoleStatus (id : RoleId) (status : RoleStatus) (actor : String) (now : Timestamp) :
    Operation Role := do
  let role : Role ← .call (.getRole id)
  if role.status = status then return role
  .call (.updateRole ({ role with status := status }.updated actor now))

/-- Lets a role give its permissions again. -/
def activateRole (id : RoleId) (actor : String) (now : Timestamp) : Operation Role :=
  setRoleStatus id .active actor now

/-- Stops a role from giving its permissions; its grants stay. -/
def deactivateRole (id : RoleId) (actor : String) (now : Timestamp) : Operation Role :=
  setRoleStatus id .inactive actor now

end Identity.Authorization
