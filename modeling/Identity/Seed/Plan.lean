/-
Identity/Seed/Plan.lean

Plans for roles, users and grants that are to exist, and the standard plan.
-/
import Identity.Authentication.SignUp
import Identity.Authorization.Roles

namespace Identity.Seed

open Authentication (Registration)
open Authorization (RoleDraft)

/-- A role that a principal is to hold; both are given by name. -/
structure PlannedGrant where
  username : String
  roleName : String
  deriving DecidableEq, Repr

/-- Everything that is to exist. -/
structure Plan where
  roles : List RoleDraft
  users : List Registration
  grants : List PlannedGrant
  deriving DecidableEq, Repr

/-- A user of the standard plan. -/
def fixtureUser (username displayName password : String) : Registration :=
  ⟨username ++ "@tessera.local", password, username, displayName⟩

/-- One administrator, one editor and one viewer, each with a role of its own. -/
def Plan.standard : Plan where
  roles :=
    [⟨"admin", "Full access", ["*"]⟩,
      ⟨"editor", "Reads and writes content", ["content:read", "content:write"]⟩,
      ⟨"viewer", "Reads content", ["content:read"]⟩]
  users :=
    [fixtureUser "admin" "Admin User" "Tessera-Admin-1",
      fixtureUser "editor" "Editor User" "Tessera-Editor-1",
      fixtureUser "viewer" "Viewer User" "Tessera-Viewer-1"]
  grants := [⟨"admin", "admin"⟩, ⟨"editor", "editor"⟩, ⟨"viewer", "viewer"⟩]

end Identity.Seed
