/-
Identity/Grant.lean

Grants: a principal, named by its username, holds a role.
-/
import Identity.Identifier.Username
import Identity.Role

namespace Identity

/-- The identifier of a grant. -/
structure GrantId where
  uuid : Uuid
  deriving DecidableEq, Repr, Inhabited

/-- A grant record. -/
structure Grant where
  id : GrantId
  username : String
  roleId : RoleId
  assignedAt : Timestamp
  assignedBy : String
  deriving DecidableEq, Repr, Inhabited

/-- The grant of a role to a principal, whose name is put into canonical form. -/
def Grant.assigned (id : GrantId) (username : String) (roleId : RoleId) (actor : String)
    (now : Timestamp) : Grant where
  id := id
  username := Username.normalize username
  roleId := roleId
  assignedAt := now
  assignedBy := actor

end Identity
