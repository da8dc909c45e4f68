/-
Identity/Database/Binding.lean

What is bound to the statements that write users and roles, and how their
columns are read.

A statement names columns and, for each of them, the number of a parameter; the
values are bound to the parameters one after the other, from the first on.  A
record is read the other way round, column by column under its name, and cannot
be read when a column is missing, has a value of another type, or is empty
where it must not be.
-/
import Identity.Database.Row

namespace Identity.Database

/-! ### Values of columns -/

/-- A value that stands in a column. -/
inductive Datum where
  | null
  | uuid (value : Uuid)
  | text (value : String)
  | texts (values : List String)
  | bytes (value : Bytes)
  | instant (value : Timestamp)
  deriving DecidableEq, Repr

/-- Types whose values stand in columns, and are read as they are written. -/
class Stored (α : Type) where
  write : α → Datum
  read? : Datum → Option α
  read?_write : ∀ a, read? (write a) = some a

instance : Stored Uuid where
  write := .uuid
  read? | .uuid value => some value | _ => none
  read?_write _ := rfl

instance : Stored String where
  write := .text
  read? | .text value => some value | _ => none
  read?_write _ := rfl

instance : Stored (List String) where
  write := .texts
  read? | .texts values => some values | _ => none
  read?_write _ := rfl

instance : Stored Bytes where
  write := .bytes
  read? | .bytes value => some value | _ => none
  read?_write _ := rfl

instance : Stored (Option Bytes) where
  write | some value => .bytes value | none => .null
  read? | .bytes value => some (some value) | .null => some none | _ => none
  read?_write value := by cases value <;> rfl

instance : Stored Timestamp where
  write := .instant
  read? | .instant value => some value | _ => none
  read?_write _ := rfl

/-! ### Records -/

/-- Columns and what stands in them. -/
abbrev Record := List (String × Datum)

namespace Record

/-- What stands in a column, if it is a value of the type. -/
def column? {α : Type} [Stored α] (record : Record) (name : String) : Option α :=
  (record.lookup name).bind Stored.read?

/-- The record with other values in some of its columns. -/
def update (record assigned : Record) : Record :=
  record.map fun (name, old) => (name, (assigned.lookup name).getD old)

end Record

/-- The user row of a record. -/
def UserRow.ofRecord? (record : Record) : Option UserRow := do
  return {
    id := ← record.column? "id"
    username := ← record.column? "username"
    name := ← record.column? "name"
    emailCiphertext := ← record.column? "email_ct"
    emailNonce := ← record.column? "email_iv"
    emailTag := ← record.column? "email_tag"
    emailLookup := ← record.column? "email_lookup"
    passwordDigest := ← record.column? "password_hash"
    passwordSalt := ← record.column? "password_salt"
    pinCiphertext := ← record.column? "pin_ct"
    pinNonce := ← record.column? "pin_iv"
    pinTag := ← record.column? "pin_tag"
    pinLookup := ← record.column? "pin_lookup"
    status := ← record.column? "status"
    createdAt := ← record.column? "created_at"
    createdBy := ← record.column? "created_by"
    updatedAt := ← record.column? "updated_at"
    updatedBy := ← record.column? "updated_by" }

/-- The role row of a record. -/
def RoleRow.ofRecord? (record : Record) : Option RoleRow := do
  return {
    id := ← record.column? "id"
    name := ← record.column? "name"
    description := ← record.column? "description"
    permissions := ← record.column? "permissions"
    status := ← record.column? "status"
    createdAt := ← record.column? "created_at"
    createdBy := ← record.column? "created_by"
    updatedAt := ← record.column? "updated_at"
    updatedBy := ← record.column? "updated_by" }

/-! ### Statements -/

/-- Columns with the numbers of their parameters, and the values that are bound. -/
structure Assignment where
  parameters : List (String × Nat)
  bound : List Datum

namespace Assignment

/-- The value of a parameter; the first one has the number 1. -/
def value? (a : Assignment) : (parameter : Nat) → Option Datum
  | 0 => none
  | i + 1 => a.bound[i]?

/-- The columns with the values that they are given, if there is one for each. -/
def record? (a : Assignment) : Option Record :=
  a.parameters.mapM fun (name, parameter) => (a.value? parameter).map (name, ·)

/-- A table in which the record with the first parameter as its identifier is written again. -/
def updateTable? (a : Assignment) (table : List Record) : Option (List Record) := do
  let assigned ← a.record?
  return table.map fun record =>
    if record.lookup "id" = a.value? 1 then record.update assigned else record

end Assignment

open Stored (write)

/-- The statement that inserts a user. -/
def insertUser (user : User) : Assignment where
  parameters :=
    [("id", 1), ("username", 2), ("name", 3), ("email_ct", 4), ("email_iv", 5),
      ("email_tag", 6), ("email_lookup", 7), ("password_hash", 8), ("password_salt", 9),
      ("pin_ct", 10), ("pin_iv", 11), ("pin_tag", 12), ("pin_lookup", 13), ("status", 14),
      ("created_at", 15), ("created_by", 16), ("updated_at", 17), ("updated_by", 18)]
  bound :=
    [write user.id.uuid, write user.username, write user.name, write user.email.ciphertext,
      write user.email.nonce, write user.email.tag, write user.email.lookup,
      write user.password.digest, write user.password.salt, write (user.pin.map (·.ciphertext)),
      write (user.pin.map (·.nonce)), write (user.pin.map (·.tag)),
      write (user.pin.map (·.lookup)), write user.status.name, write user.createdAt,
      write user.createdBy, write user.updatedAt, write user.updatedBy]

/-- The statement that writes a user again. -/
def updateUser (user : User) : Assignment where
  parameters :=
    [("username", 2), ("name", 3), ("email_ct", 4), ("email_iv", 5), ("email_tag", 6),
      ("email_lookup", 7), ("password_hash", 8), ("password_salt", 9), ("pin_ct", 10),
      ("pin_iv", 11), ("pin_tag", 12), ("pin_lookup", 13), ("status", 14), ("updated_at", 15),
      ("updated_by", 16)]
  bound :=
    [write user.id.uuid, write user.username, write user.name, write user.email.ciphertext,
      write user.email.nonce, write user.email.tag, write user.email.lookup,
      write user.password.digest, write user.password.salt, write (user.pin.map (·.ciphertext)),
      write (user.pin.map (·.nonce)), write (user.pin.map (·.tag)),
      write (user.pin.map (·.lookup)), write user.status.name, write user.updatedAt,
      write user.updatedBy]

/-- The statement that inserts a role. -/
def insertRole (role : Role) : Assignment where
  parameters :=
    [("id", 1), ("name", 2), ("description", 3), ("permissions", 4), ("status", 5),
      ("created_at", 6), ("created_by", 7), ("updated_at", 8), ("updated_by", 9)]
  bound :=
    [write role.id.uuid, write role.name, write role.description, write role.permissions,
      write role.status.name, write role.createdAt, write role.createdBy, write role.updatedAt,
      write role.updatedBy]

/-- The statement that writes a role again. -/
def updateRole (role : Role) : Assignment where
  parameters :=
    [("name", 2), ("description", 3), ("permissions", 4), ("status", 5), ("updated_at", 6),
      ("updated_by", 7)]
  bound :=
    [write role.id.uuid, write role.name, write role.description, write role.permissions,
      write role.status.name, write role.updatedAt, write role.updatedBy]

end Identity.Database
