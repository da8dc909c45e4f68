/-
Identity/Store/Call.lean

The calls that the services make to a store, as data.

A *method* is what is asked for, a *call* is a method with its arguments, and
`Method.Reply` is what a method answers when it does not fail.  Every backend
answers every call, and a service is a program over them.

Where a backend has to note when something happened, the time comes with the
call.
-/
import Identity.Grant
import Identity.User

namespace Identity

/-- What can be asked of a store. -/
inductive Method where
  | createUser
  | getUser
  | findUserByEmail
  | findUserByUsername
  | findUserByPin
  | updateUser
  | deleteUser
  | listUsers
  | listUsersByStatus
  | createRole
  | getRole
  | findRoleByName
  | updateRole
  | deleteRole
  | listRoles
  | listRolesByStatus
  | createGrant
  | deleteGrant
  | grantsOfUser
  | grantsOfRole
  | rolesOfUser
  | hasRole
  deriving DecidableEq, Repr, Inhabited

namespace Method

/-- All methods. -/
def all : List Method :=
  [createUser, getUser, findUserByEmail, findUserByUsername, findUserByPin, updateUser,
    deleteUser, listUsers, listUsersByStatus, createRole, getRole, findRoleByName, updateRole,
    deleteRole, listRoles, listRolesByStatus, createGrant, deleteGrant, grantsOfUser,
    grantsOfRole, rolesOfUser, hasRole]

/-- The name of a method: its table and what it does there. -/
def name : Method → String
  | createUser => "users.create"
  | getUser => "users.get"
  | findUserByEmail => "users.get_by_email_lookup"
  | findUserByUsername => "users.get_by_username"
  | findUserByPin => "users.get_by_pin_lookup"
  | updateUser => "users.update"
  | deleteUser => "users.delete"
  | listUsers => "users.list"
  | listUsersByStatus => "users.list_by_status"
  | createRole => "roles.create"
  | getRole => "roles.get"
  | findRoleByName => "roles.get_by_name"
  | updateRole => "roles.update"
  | deleteRole => "roles.delete"
  | listRoles => "roles.list"
  | listRolesByStatus => "roles.list_by_status"
  | createGrant => "grants.create"
  | deleteGrant => "grants.delete"
  | grantsOfUser => "grants.get_user_grants"
  | grantsOfRole => "grants.get_role_grants"
  | rolesOfUser => "grants.get_user_roles"
  | hasRole => "grants.has_role"

/-- The method with the given name. -/
def ofName? (text : String) : Option Method := all.find? (·.name == text)

/-- What a method answers. -/
abbrev Reply : Method → Type
  | createUser | getUser | findUserByEmail | findUserByUsername | findUserByPin | updateUser =>
    User
  | listUsers | listUsersByStatus => List User
  | createRole | getRole | findRoleByName | updateRole => Role
  | listRoles | listRolesByStatus | rolesOfUser => List Role
  | createGrant => Grant
  | grantsOfUser | grantsOfRole => List Grant
  | hasRole => Bool
  | deleteUser | deleteRole | deleteGrant => Unit

end Method

/-- A method with its arguments. -/
inductive Call where
  | createUser (user : User)
  | getUser (id : UserId)
  | findUserByEmail (lookup : Bytes)
  | findUserByUsername (username : String)
  | findUserByPin (lookup : Bytes)
  | updateUser (user : User)
  | deleteUser (id : UserId) (actor : String) (now : Timestamp)
  | listUsers
  | listUsersByStatus (status : UserStatus)
  | createRole (role : Role)
  | getRole (id : RoleId)
  | findRoleByName (name : String)
  | updateRole (role : Role)
  | deleteRole (id : RoleId)
  | listRoles
  | listRolesByStatus (status : RoleStatus)
  | createGrant (grant : Grant)
  | deleteGrant (username : String) (roleId : RoleId)
  | grantsOfUser (username : String)
  | grantsOfRole (roleId : RoleId)
  | rolesOfUser (username : String)
  | hasRole (username roleName : String)
  deriving DecidableEq, Repr

/-- The method of a call. -/
abbrev Call.method : Call → Method
  | createUser .. => .createUser
  | getUser .. => .getUser
  | findUserByEmail .. => .findUserByEmail
  | findUserByUsername .. => .findUserByUsername
  | findUserByPin .. => .findUserByPin
  | updateUser .. => .updateUser
  | deleteUser .. => .deleteUser
  | listUsers => .listUsers
  | listUsersByStatus .. => .listUsersByStatus
  | createRole .. => .createRole
  | getRole .. => .getRole
  | findRoleByName .. => .findRoleByName
  | updateRole .. => .updateRole
  | deleteRole .. => .deleteRole
  | listRoles => .listRoles
  | listRolesByStatus .. => .listRolesByStatus
  | createGrant .. => .createGrant
  | deleteGrant .. => .deleteGrant
  | grantsOfUser .. => .grantsOfUser
  | grantsOfRole .. => .grantsOfRole
  | rolesOfUser .. => .rolesOfUser
  | hasRole .. => .hasRole

/-- What a call answers when it does not fail. -/
abbrev Call.Reply (call : Call) : Type := call.method.Reply

end Identity
