/-
Identity/Store/Keyed.lean

The store that keeps its users and roles under keys.

A table has entries, each of them a record under a key, and nothing about a
table says that the key is the identifier of the record.  An identifier is looked
for among the keys; all other searches go through the records.
-/
import Identity.Store.Tables

namespace Identity

/-- A table of records under keys. -/
structure Table (κ α : Type) where
  entries : List (κ × α)
  deriving DecidableEq, Repr

namespace Table

variable {κ α : Type} [DecidableEq κ]

/-- The table that holds nothing. -/
def empty : Table κ α := ⟨[]⟩

/-- The records of a table. -/
def records (table : Table κ α) : List α := table.entries.map Prod.snd

/-- The record under a key. -/
def get? (table : Table κ α) (k : κ) : Option α :=
  (table.entries.find? (·.1 == k)).map Prod.snd

/-- Puts a record under a key: in the place of the one that stands there, or else
at the end. -/
def put (table : Table κ α) (k : κ) (x : α) : Table κ α :=
  if (table.get? k).isSome then
    ⟨table.entries.map fun entry => if entry.1 = k then (k, x) else entry⟩
  else ⟨table.entries ++ [(k, x)]⟩

/-- Takes away what stands under a key. -/
def remove (table : Table κ α) (k : κ) : Table κ α := ⟨table.entries.filter (·.1 != k)⟩

end Table

/-- Everything that is stored, users and roles under keys. -/
structure KeyedStore where
  users : Table UserId User
  roles : Table RoleId Role
  grants : List Grant
  deriving DecidableEq, Repr

namespace KeyedStore

/-- The store that holds nothing. -/
def empty : KeyedStore := ⟨.empty, .empty, []⟩

/-- What is stored, without the keys. -/
def tables (store : KeyedStore) : Store :=
  ⟨store.users.records, store.roles.records, store.grants⟩

/-! ### Users -/

/-- Adds a user, under its identifier. -/
def createUser (store : KeyedStore) (user : User) : Outcome (User × KeyedStore) := do
  if (store.users.get? user.id).isSome then throw .userAlreadyExists
  store.tables.ensureUnique user
  return (user, { store with users := store.users.put user.id user })

/-- Replaces the record of a user. -/
def updateUser (store : KeyedStore) (user : User) : Outcome (User × KeyedStore) := do
  if (store.users.get? user.id).isNone then throw .userNotFound
  store.tables.ensureUnique user
  return (user, { store with users := store.users.put user.id user })

/-- Marks the user under a key as deleted. -/
def deleteUser (store : KeyedStore) (id : UserId) (actor : String) (now : Timestamp) :
    Outcome (Unit × KeyedStore) := do
  let user ← Store.found .userNotFound (store.users.get? id)
  let marked := { user with status := .deleted, updatedAt := now, updatedBy := actor }
  return ((), { store with users := store.users.put id marked })

/-! ### Roles -/

/-- Adds a role, under its identifier. -/
def createRole (store : KeyedStore) (role : Role) : Outcome (Role × KeyedStore) :=
  if store.roles.records.any fun stored => stored.id == role.id || stored.name == role.name then
    .error .roleAlreadyExists
  else .ok (role, { store with roles := store.roles.put role.id role })

/-- Replaces the record of a role. -/
def updateRole (store : KeyedStore) (role : Role) : Outcome (Role × KeyedStore) :=
  if (store.roles.get? role.id).isNone then .error .roleNotFound
  else if store.roles.records.any fun stored => stored.id != role.id && stored.name == role.name then
    .error .roleAlreadyExists
  else .ok (role, { store with roles := store.roles.put role.id role })

/-- Removes the role under a key and every grant of it. -/
def deleteRole (store : KeyedStore) (id : RoleId) : Outcome (Unit × KeyedStore) :=
  if (store.roles.get? id).isNone then .error .roleNotFound
  else
    .ok ((), { store with
      roles := store.roles.remove id
      grants := store.grants.filter (·.roleId != id) })

/-! ### Grants -/

/-- Adds a grant of a role that stands under a key. -/
def createGrant (store : KeyedStore) (grant : Grant) : Outcome (Grant × KeyedStore) :=
  if (store.roles.get? grant.roleId).isNone then .error .roleNotFound
  else if store.grants.any (Store.links grant.username grant.roleId) then
    .error .grantAlreadyExists
  else .ok (grant, { store with grants := store.grants ++ [grant] })

/-- Removes the grant of a role to a principal. -/
def deleteGrant (store : KeyedStore) (username : String) (roleId : RoleId) :
    Outcome (Unit × KeyedStore) :=
  if store.grants.any (Store.links username roleId) then
    .ok ((), { store with grants := store.grants.eraseP (Store.links username roleId) })
  else .error .grantNotFound

/-- The roles of a principal, active or not, in the order of its grants. -/
def rolesOfUser (store : KeyedStore) (username : String) : List Role :=
  (store.tables.grantsOfUser username).filterMap fun grant => store.roles.get? grant.roleId

/-! ### Calls -/

/-- The outcome of a change, and the store after it: the old one if it failed. -/
def changed {α : Type} (store : KeyedStore) : Outcome (α × KeyedStore) → Outcome α × KeyedStore
  | .ok (a, changed) => (.ok a, changed)
  | .error e => (.error e, store)

/-- Answers a call. -/
def respond (store : KeyedStore) : (call : Call) → Outcome call.Reply × KeyedStore
  | .createUser user => store.changed (store.createUser user)
  | .getUser id => (Store.found .userNotFound (store.users.get? id), store)
  | .updateUser user => store.changed (store.updateUser user)
  | .deleteUser id actor now => store.changed (store.deleteUser id actor now)
  | .createRole role => store.changed (store.createRole role)
  | .getRole id => (Store.found .roleNotFound (store.roles.get? id), store)
  | .updateRole role => store.changed (store.updateRole role)
  | .deleteRole id => store.changed (store.deleteRole id)
  | .createGrant grant => store.changed (store.createGrant grant)
  | .deleteGrant username roleId => store.changed (store.deleteGrant username roleId)
  | .rolesOfUser username => (.ok (store.rolesOfUser username), store)
  | .hasRole username roleName =>
    (.ok ((store.rolesOfUser username).any (·.name == roleName)), store)
  -- all that is left only goes through the records
  | call => ((store.tables.respond call).1, store)

end KeyedStore

end Identity
