/-
Identity/Store/Tables.lean

The store that keeps everything in memory: a table of users, a table of roles
and a list of grants.

Creating and updating check uniqueness against all *other* records: for users
the e-mail lookup, the username and the PIN lookup, for roles the name, for
grants the pair of principal and role.  Deleting a user only marks it;
deleting a role takes its grants with it.  Tables answer sorted lists, grants
are answered in the order in which they were made.
-/
import Identity.Store.Call

namespace Identity

/-- Everything that is stored. -/
structure Store where
  users : List User
  roles : List Role
  grants : List Grant
  deriving DecidableEq, Repr, Inhabited

namespace Store

/-- The store that holds nothing. -/
def empty : Store := ⟨[], [], []⟩

/-- A record that was looked for, or the error that says it is missing. -/
def found {α : Type} (missing : Error) : Option α → Outcome α
  | some a => .ok a
  | none => .error missing

/-! ### Users -/

/-- The user with the given identifier. -/
def user? (store : Store) (id : UserId) : Option User := store.users.find? (·.id == id)

/-- The first user of a kind. -/
def findUser (store : Store) (wanted : User → Bool) : Outcome User :=
  found .userNotFound (store.users.find? wanted)

/-- The user has a PIN with the given lookup. -/
def hasPinLookup (lookup : Bytes) (user : User) : Bool :=
  user.pin.any (·.lookup == lookup)

/-- Some user other than the candidate is of a kind. -/
def otherUser (store : Store) (candidate : User) (clashes : User → Bool) : Bool :=
  store.users.any fun user => user.id != candidate.id && clashes user

/-- No other user has the e-mail lookup, the username or the PIN lookup of the
candidate. -/
def ensureUnique (store : Store) (candidate : User) : Outcome Unit :=
  if store.otherUser candidate (·.email.lookup == candidate.email.lookup) then
    .error .userAlreadyExists
  else if store.otherUser candidate (·.username == candidate.username) then
    .error .usernameExists
  else if candidate.pin.any fun pin => store.otherUser candidate (hasPinLookup pin.lookup) then
    .error .pinAlreadyInUse
  else .ok ()

/-- The table with the record of one user replaced. -/
def replaceUser (users : List User) (user : User) : List User :=
  users.map fun stored => if stored.id = user.id then user else stored

/-- Adds a user. -/
def createUser (store : Store) (user : User) : Outcome (User × Store) := do
  if (store.user? user.id).isSome then throw .userAlreadyExists
  store.ensureUnique user
  return (user, { store with users := store.users ++ [user] })

/-- Replaces the record of a user. -/
def updateUser (store : Store) (user : User) : Outcome (User × Store) := do
  if (store.user? user.id).isNone then throw .userNotFound
  store.ensureUnique user
  return (user, { store with users := replaceUser store.users user })

/-- Marks a user as deleted. -/
def deleteUser (store : Store) (id : UserId) (actor : String) (now : Timestamp) :
    Outcome (Unit × Store) := do
  let user ← found .userNotFound (store.user? id)
  let marked := { user with status := .deleted, updatedAt := now, updatedBy := actor }
  return ((), { store with users := replaceUser store.users marked })

/-- Users in the order of their usernames. -/
def sortUsers (users : List User) : List User :=
  users.mergeSort fun a b => decide (a.username ≤ b.username)

/-- All users of a kind. -/
def listUsers (store : Store) (wanted : User → Bool) : List User :=
  sortUsers (store.users.filter wanted)

/-! ### Roles -/

/-- The role with the given identifier. -/
def role? (store : Store) (id : RoleId) : Option Role := store.roles.find? (·.id == id)

/-- Adds a role. -/
def createRole (store : Store) (role : Role) : Outcome (Role × Store) :=
  if store.roles.any fun stored => stored.id == role.id || stored.name == role.name then
    .error .roleAlreadyExists
  else .ok (role, { store with roles := store.roles ++ [role] })

/-- The table with the record of one role replaced. -/
def replaceRole (roles : List Role) (role : Role) : List Role :=
  roles.map fun stored => if stored.id = role.id then role else stored

/-- Replaces the record of a role. -/
def updateRole (store : Store) (role : Role) : Outcome (Role × Store) :=
  if (store.role? role.id).isNone then .error .roleNotFound
  else if store.roles.any fun stored => stored.id != role.id && stored.name == role.name then
    .error .roleAlreadyExists
  else .ok (role, { store with roles := replaceRole store.roles role })

/-- Removes a role and every grant of it. -/
def deleteRole (store : Store) (id : RoleId) : Outcome (Unit × Store) :=
  if (store.role? id).isNone then .error .roleNotFound
  else
    .ok ((), { store with
      roles := store.roles.filter (·.id != id)
      grants := store.grants.filter (·.roleId != id) })

/-- Roles in the order of their names. -/
def sortRoles (roles : List Role) : List Role :=
  roles.mergeSort fun a b => decide (a.name ≤ b.name)

/-- All roles of a kind. -/
def listRoles (store : Store) (wanted : Role → Bool) : List Role :=
  sortRoles (store.roles.filter wanted)

/-! ### Grants -/

/-- The grant gives the role to the principal. -/
def links (username : String) (roleId : RoleId) (grant : Grant) : Bool :=
  grant.username == username && grant.roleId == roleId

/-- Adds a grant of a stored role. -/
def createGrant (store : Store) (grant : Grant) : Outcome (Grant × Store) :=
  if (store.role? grant.roleId).isNone then .error .roleNotFound
  else if store.grants.any (links grant.username grant.roleId) then .error .grantAlreadyExists
  else .ok (grant, { store with grants := store.grants ++ [grant] })

/-- Removes the grant of a role to a principal. -/
def deleteGrant (store : Store) (username : String) (roleId : RoleId) :
    Outcome (Unit × Store) :=
  if store.grants.any (links username roleId) then
    .ok ((), { store with grants := store.grants.eraseP (links username roleId) })
  else .error .grantNotFound

/-- The grants of a principal. -/
def grantsOfUser (store : Store) (username : String) : List Grant :=
  store.grants.filter (·.username == username)

/-- The grants of a role. -/
def grantsOfRole (store : Store) (roleId : RoleId) : List Grant :=
  store.grants.filter (·.roleId == roleId)

/-- The roles of a principal, active or not, in the order of its grants. -/
def rolesOfUser (store : Store) (username : String) : List Role :=
  (store.grantsOfUser username).filterMap fun grant => store.role? grant.roleId

/-! ### Calls -/

/-- The outcome of a change, and the store after it: the old one if it failed. -/
def changed {α : Type} (store : Store) : Outcome (α × Store) → Outcome α × Store
  | .ok (a, changed) => (.ok a, changed)
  | .error e => (.error e, store)

/-- Answers a call. -/
def respond (store : Store) : (call : Call) → Outcome call.Reply × Store
  | .createUser user => store.changed (store.createUser user)
  | .getUser id => (found .userNotFound (store.user? id), store)
  | .findUserByEmail lookup => (store.findUser (·.email.lookup == lookup), store)
  | .findUserByUsername username => (store.findUser (·.username == username), store)
  | .findUserByPin lookup => (store.findUser (hasPinLookup lookup), store)
  | .updateUser user => store.changed (store.updateUser user)
  | .deleteUser id actor now => store.changed (store.deleteUser id actor now)
  | .listUsers => (.ok (store.listUsers fun _ => true), store)
  | .listUsersByStatus status => (.ok (store.listUsers (·.status == status)), store)
  | .createRole role => store.changed (store.createRole role)
  | .getRole id => (found .roleNotFound (store.role? id), store)
  | .findRoleByName name => (found .roleNotFound (store.roles.find? (·.name == name)), store)
  | .updateRole role => store.changed (store.updateRole role)
  | .deleteRole id => store.changed (store.deleteRole id)
  | .listRoles => (.ok (store.listRoles fun _ => true), store)
  | .listRolesByStatus status => (.ok (store.listRoles (·.status == status)), store)
  | .createGrant grant => store.changed (store.createGrant grant)
  | .deleteGrant username roleId => store.changed (store.deleteGrant username roleId)
  | .grantsOfUser username => (.ok (store.grantsOfUser username), store)
  | .grantsOfRole roleId => (.ok (store.grantsOfRole roleId), store)
  | .rolesOfUser username => (.ok (store.rolesOfUser username), store)
  | .hasRole username roleName =>
    (.ok ((store.rolesOfUser username).any (·.name == roleName)), store)

end Store

end Identity
