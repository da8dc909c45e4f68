/-
Identity/Seed/Run.lean

Carrying out a plan.

Roles come first, then users, then grants.  What exists already is counted
and left as it is; any other failure ends the run.  A grant refers to a role
of the plan by its canonical name, and to any other role by any spelling.
-/
import Identity.Authentication.Accounts
import Identity.Authorization.Grants
import Identity.Seed.Plan

namespace Identity.Seed

open Authentication Authorization

/-- How many entries of one kind were made, and how many existed. -/
structure Count where
  created : Nat
  existing : Nat
  deriving DecidableEq, Repr, Inhabited

namespace Count

/-- Nothing was made and nothing existed. -/
def zero : Count := ⟨0, 0⟩

/-- Counts an entry. -/
def add (count : Count) (isNew : Bool) : Count :=
  if isNew then { count with created := count.created + 1 }
  else { count with existing := count.existing + 1 }

end Count

/-- What a run found and made. -/
structure Report where
  roles : Count
  users : Count
  grants : Count
  deriving DecidableEq, Repr

/-! ### Single entries -/

/-- Makes sure of a role, and says whether it is new. -/
def ensureRole (draft : RoleDraft) (actor : String) (now : Timestamp) :
    Operation (Role × Bool) := do
  match ← (createRole draft actor now).attempt with
  | .ok role => return (role, true)
  | .error .roleAlreadyExists => return (← getRoleByName draft.name, false)
  | .error e => throw e

/-- Makes sure of a user, and says whether it is new. -/
def ensureUser (service : Settings.Accepted) (registration : Registration) (now : Timestamp) :
    Operation Bool := do
  match ← (signUp service registration now).attempt with
  | .ok _ => return true
  | .error .userAlreadyExists =>
    discard (getUserByEmail service registration.email)
    return false
  | .error .usernameExists =>
    discard (getUserByUsername registration.username)
    return false
  | .error e => throw e

/-- The role that a grant refers to: the last one of the plan with this name, or
else a stored one. -/
def referredRole (known : List (String × RoleId)) (name : String) : Operation RoleId := do
  match known.lookup name with
  | some id => return id
  | none => return (← getRoleByName name).id

/-- Makes sure of a grant, and says whether it is new. -/
def ensureGrant (known : List (String × RoleId)) (grant : PlannedGrant) (actor : String)
    (now : Timestamp) : Operation Bool := do
  let id ← referredRole known grant.roleName
  match ← (assignRole grant.username id actor now).attempt with
  | .ok _ => return true
  | .error .grantAlreadyExists => return false
  | .error e => throw e

/-! ### Whole plans -/

/-- Makes sure of all roles; answers their identifiers by name, the last one
first. -/
def ensureRoles (actor : String) (now : Timestamp) :
    List RoleDraft → List (String × RoleId) → Count → Operation (List (String × RoleId) × Count)
  | [], known, count => return (known, count)
  | draft :: drafts, known, count => do
    let (role, isNew) ← ensureRole draft actor now
    ensureRoles actor now drafts ((role.name, role.id) :: known) (count.add isNew)

/-- Makes sure of entries one after the other. -/
def ensureAll {α : Type} (ensure : α → Operation Bool) : List α → Count → Operation Count
  | [], count => return count
  | a :: rest, count => do
    let isNew ← ensure a
    ensureAll ensure rest (count.add isNew)

/-- Makes sure of everything in a plan. -/
def run (service : Settings.Accepted) (plan : Plan) (actor : String) (now : Timestamp) :
    Operation Report := do
  let (known, roles) ← ensureRoles actor now plan.roles [] .zero
  let users ← ensureAll (ensureUser service · now) plan.users .zero
  let grants ← ensureAll (ensureGrant known · actor now) plan.grants .zero
  return ⟨roles, users, grants⟩

end Identity.Seed
