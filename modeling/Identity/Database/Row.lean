/-
Identity/Database/Row.lean

How users, roles and grants stand in the tables of a database.

A row has one field for each column.  The secrets of a user are spread over
several columns, those of a PIN over four that are all set or all empty, and
states are stored by their names; reading a row that breaks these rules
fails.  What is written of a record is read back as the same record.
-/
import Identity.Grant
import Identity.User

namespace Identity.Database

/-! ### Users -/

/-- A row of the table of users. -/
structure UserRow where
  id : Uuid
  username : String
  name : String
  emailCiphertext : Bytes
  emailNonce : Bytes
  emailTag : Bytes
  emailLookup : Bytes
  passwordDigest : Bytes
  passwordSalt : Bytes
  pinCiphertext : Option Bytes
  pinNonce : Option Bytes
  pinTag : Option Bytes
  pinLookup : Option Bytes
  status : String
  createdAt : Timestamp
  createdBy : String
  updatedAt : Timestamp
  updatedBy : String
  deriving DecidableEq, Repr

namespace UserRow

/-- The columns, in the order of the fields. -/
def columns : List String :=
  ["id", "username", "name", "email_ct", "email_iv", "email_tag", "email_lookup", "password_hash",
    "password_salt", "pin_ct", "pin_iv", "pin_tag", "pin_lookup", "status", "created_at",
    "created_by", "updated_at", "updated_by"]

/-- The row that is written for a user. -/
def ofUser (user : User) : UserRow where
  id := user.id.uuid
  username := user.username
  name := user.name
  emailCiphertext := user.email.ciphertext
  emailNonce := user.email.nonce
  emailTag := user.email.tag
  emailLookup := user.email.lookup
  passwordDigest := user.password.digest
  passwordSalt := user.password.salt
  pinCiphertext := user.pin.map (·.ciphertext)
  pinNonce := user.pin.map (·.nonce)
  pinTag := user.pin.map (·.tag)
  pinLookup := user.pin.map (·.lookup)
  status := user.status.name
  createdAt := user.createdAt
  createdBy := user.createdBy
  updatedAt := user.updatedAt
  updatedBy := user.updatedBy

/-- The PIN of a row. -/
def pin (row : UserRow) : Outcome (Option SealedValue) :=
  match row.pinCiphertext, row.pinNonce, row.pinTag, row.pinLookup with
  | some ciphertext, some nonce, some tag, some lookup => .ok (some ⟨ciphertext, nonce, tag, lookup⟩)
  | none, none, none, none => .ok none
  | _, _, _, _ =>
    .error (.internal ("user '" ++ row.id.toText ++ "' has an incomplete pin bundle"))

/-- The user of a row. -/
def toUser (row : UserRow) : Outcome User := do
  let pin ← row.pin
  let status ← UserStatus.parse row.status
  return {
    id := ⟨row.id⟩
    username := row.username
    name := row.name
    email := ⟨row.emailCiphertext, row.emailNonce, row.emailTag, row.emailLookup⟩
    password := ⟨row.passwordDigest, row.passwordSalt⟩
    pin := pin
    status := status
    createdAt := row.createdAt
    createdBy := row.createdBy
    updatedAt := row.updatedAt
    updatedBy := row.updatedBy }

end UserRow

/-! ### Roles -/

/-- A row of the table of roles. -/
structure RoleRow where
  id : Uuid
  name : String
  description : String
  permissions : List String
  status : String
  createdAt : Timestamp
  createdBy : String
  updatedAt : Timestamp
  updatedBy : String
  deriving DecidableEq, Repr

namespace RoleRow

/-- The columns, in the order of the fields. -/
def columns : List String :=
  ["id", "name", "description", "permissions", "status", "created_at", "created_by", "updated_at",
    "updated_by"]

/-- The row that is written for a role. -/
def ofRole (role : Role) : RoleRow where
  id := role.id.uuid
  name := role.name
  description := role.description
  permissions := role.permissions
  status := role.status.name
  createdAt := role.createdAt
  createdBy := role.createdBy
  updatedAt := role.updatedAt
  updatedBy := role.updatedBy

/-- The role of a row. -/
def toRole (row : RoleRow) : Outcome Role := do
  let status ← RoleStatus.parse row.status
  return {
    id := ⟨row.id⟩
    name := row.name
    description := row.description
    permissions := row.permissions
    status := status
    createdAt := row.createdAt
    createdBy := row.createdBy
    updatedAt := row.updatedAt
    updatedBy := row.updatedBy }

end RoleRow

/-! ### Grants -/

/-- A row of the table of grants. -/
structure GrantRow where
  id : Uuid
  username : String
  roleId : Uuid
  assignedAt : Timestamp
  assignedBy : String
  deriving DecidableEq, Repr

/-- The columns, in the order of the fields. -/
def GrantRow.columns : List String := ["id", "username", "role_id", "assigned_at", "assigned_by"]

/-- The grant of a row. -/
def GrantRow.toGrant (row : GrantRow) : Grant where
  id := ⟨row.id⟩
  username := row.username
  roleId := ⟨row.roleId⟩
  assignedAt := row.assignedAt
  assignedBy := row.assignedBy

end Identity.Database
