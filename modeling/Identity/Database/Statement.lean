/-
Identity/Database/Statement.lean

What a database says to the one statement of each method, and what the store
over it answers.

A broken uniqueness rule is told apart by the name of its constraint and
becomes the conflict that the store in memory reports; every other failure is
a storage error that names what was attempted.
-/
import Identity.Database.Row
import Identity.Store.Call

namespace Identity.Database

/-- A failure that the database reports. -/
structure Failure where
  code : String
  message : String
  violated : Option String
  deriving DecidableEq, Repr

/-- What the database says to a statement that answers rows of type `ρ`. -/
inductive Answer (ρ : Type) where
  | rows (rows : List ρ)
  | affected (count : Nat)
  | failed (failure : Failure)
  deriving Repr

end Identity.Database

namespace Identity.Method

open Database

/-- The rows that the statement of a method answers; deletions answer none. -/
abbrev Row : Method → Type
  | createUser | getUser | findUserByEmail | findUserByUsername | findUserByPin | updateUser
  | listUsers | listUsersByStatus => UserRow
  | createRole | getRole | findRoleByName | updateRole | listRoles | listRolesByStatus
  | rolesOfUser => RoleRow
  | createGrant | grantsOfUser | grantsOfRole => GrantRow
  | hasRole => Bool
  | deleteUser | deleteRole | deleteGrant => Empty

/-- What a method attempts. -/
def purpose : Method → String
  | createUser => "create user"
  | getUser => "find user by id"
  | findUserByEmail => "find user by email lookup"
  | findUserByUsername => "find user by username"
  | findUserByPin => "find user by pin lookup"
  | updateUser => "update user"
  | deleteUser => "delete user"
  | listUsers | listUsersByStatus => "list users"
  | createRole => "create role"
  | getRole => "find role by id"
  | findRoleByName => "find role by name"
  | updateRole => "update role"
  | deleteRole => "delete role"
  | listRoles | listRolesByStatus => "list roles"
  | createGrant => "create grant"
  | deleteGrant => "delete grant"
  | grantsOfUser => "list user grants"
  | grantsOfRole => "list role grants"
  | rolesOfUser => "list user roles"
  | hasRole => "check role grant"

end Identity.Method

namespace Identity.Database

/-! ### Failures -/

/-- The code of a broken uniqueness rule. -/
def uniqueViolation : String := "23505"

/-- The code of a reference to a row that does not exist. -/
def foreignKeyViolation : String := "23503"

/-- The conflict that a broken uniqueness rule of the table of users stands for. -/
def userConflict : Option String → Error
  | some "users_username_key" => .usernameExists
  | some "users_pin_lookup_key" => .pinAlreadyInUse
  | _ => .userAlreadyExists

/-- The conflict that a failure stands for. -/
def conflict? (method : Method) (failure : Failure) : Option Error :=
  match method with
  | .createUser | .updateUser =>
    if failure.code = uniqueViolation then some (userConflict failure.violated) else none
  | .createRole | .updateRole =>
    if failure.code = uniqueViolation then some .roleAlreadyExists else none
  | .createGrant =>
    if failure.code = uniqueViolation then some .grantAlreadyExists
    else if failure.code = foreignKeyViolation then some .roleNotFound
    else none
  | _ => none

/-- The storage error of a method. -/
def storageError (method : Method) (reason : String) : Error :=
  .storage ("failed to " ++ method.purpose ++ ": " ++ reason)

/-- The error of a method whose statement failed. -/
def failureError (method : Method) (failure : Failure) : Error :=
  (conflict? method failure).getD
    (storageError method ("error returned from database: " ++ failure.message))

/-- The error of a method that found nothing. -/
def missingError (method : Method) : Error :=
  match method with
  | .getUser | .findUserByEmail | .findUserByUsername | .findUserByPin | .updateUser
  | .deleteUser => .userNotFound
  | .getRole | .findRoleByName | .updateRole | .deleteRole => .roleNotFound
  | .deleteGrant => .grantNotFound
  | _ =>
    storageError method
      "no rows returned by a query that expected to return at least one row"

/-! ### Answers -/

/-- All rows of an answer. -/
def allRows {ρ : Type} (method : Method) : Answer ρ → Outcome (List ρ)
  | .rows rows => .ok rows
  | .affected _ => .ok []
  | .failed failure => .error (failureError method failure)

/-- The first row of an answer. -/
def firstRow {ρ : Type} (method : Method) (answer : Answer ρ) : Outcome ρ := do
  match ← allRows method answer with
  | row :: _ => return row
  | [] => throw (missingError method)

/-- Fails unless the answer is that something was changed. -/
def someAffected {ρ : Type} (method : Method) : Answer ρ → Outcome Unit
  | .rows rows => if rows.isEmpty then .error (missingError method) else .ok ()
  | .affected count => if count = 0 then .error (missingError method) else .ok ()
  | .failed failure => .error (failureError method failure)

/-- The user in the first row. -/
def oneUser (method : Method) (answer : Answer UserRow) : Outcome User := do
  (← firstRow method answer).toUser

/-- The users in all rows. -/
def allUsers (method : Method) (answer : Answer UserRow) : Outcome (List User) := do
  (← allRows method answer).mapM UserRow.toUser

/-- The role in the first row. -/
def oneRole (method : Method) (answer : Answer RoleRow) : Outcome Role := do
  (← firstRow method answer).toRole

/-- The roles in all rows. -/
def allRoles (method : Method) (answer : Answer RoleRow) : Outcome (List Role) := do
  (← allRows method answer).mapM RoleRow.toRole

/-- The grants in all rows. -/
def allGrants (method : Method) (answer : Answer GrantRow) : Outcome (List Grant) := do
  return (← allRows method answer).map GrantRow.toGrant

/-- What a method answers when the database says this to its statement. -/
def reply : (method : Method) → Answer method.Row → Outcome method.Reply
  | .createUser, a => oneUser .createUser a
  | .getUser, a => oneUser .getUser a
  | .findUserByEmail, a => oneUser .findUserByEmail a
  | .findUserByUsername, a => oneUser .findUserByUsername a
  | .findUserByPin, a => oneUser .findUserByPin a
  | .updateUser, a => oneUser .updateUser a
  | .deleteUser, a => someAffected .deleteUser a
  | .listUsers, a => allUsers .listUsers a
  | .listUsersByStatus, a => allUsers .listUsersByStatus a
  | .createRole, a => oneRole .createRole a
  | .getRole, a => oneRole .getRole a
  | .findRoleByName, a => oneRole .findRoleByName a
  | .updateRole, a => oneRole .updateRole a
  | .deleteRole, a => someAffected .deleteRole a
  | .listRoles, a => allRoles .listRoles a
  | .listRolesByStatus, a => allRoles .listRolesByStatus a
  | .createGrant, a => GrantRow.toGrant <$> firstRow .createGrant a
  | .deleteGrant, a => someAffected .deleteGrant a
  | .grantsOfUser, a => allGrants .grantsOfUser a
  | .grantsOfRole, a => allGrants .grantsOfRole a
  | .rolesOfUser, a => allRoles .rolesOfUser a
  | .hasRole, a => firstRow .hasRole a

/-! ### Migrations -/

/-- The steps that bring the schema up to date: version and description. -/
def migrations : List (Nat × String) := [(1, "identity")]

end Identity.Database
