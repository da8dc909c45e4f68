/-
Identity/Role.lean

Roles: named bundles of permissions.  An inactive role keeps its holders and
gives them nothing.
-/
import Identity.Identifier.RoleName
import Identity.Permission
import Identity.Time.Timestamp
import Identity.Uuid

namespace Identity

/-- The identifier of a role. -/
structure RoleId where
  uuid : Uuid
  deriving DecidableEq, Repr, Inhabited

/-- The identifier that no stored role has. -/
def RoleId.nil : RoleId := ⟨Uuid.nil⟩

/-- The identifier is `nil`. -/
def RoleId.isNil (id : RoleId) : Bool := id.uuid.isNil

/-! ### Role states -/

/-- The state of a role. -/
inductive RoleStatus where
  | active
  | inactive
  deriving DecidableEq, Repr, Inhabited

namespace RoleStatus

/-- All states. -/
def all : List RoleStatus := [active, inactive]

/-- The name of a state. -/
def name : RoleStatus → String
  | active => "active"
  | inactive => "inactive"

/-- The state with the given name. -/
def parse (text : String) : Outcome RoleStatus :=
  match all.find? (·.name == text) with
  | some status => .ok status
  | none => .error (.internal ("unknown role status '" ++ text ++ "'"))

/-- Every state is read back from its name. -/
@[simp] theorem parse_name (s : RoleStatus) : parse s.name = .ok s := by
  cases s <;> rfl

end RoleStatus

/-! ### Roles -/

/-- A role record. -/
structure Role where
  id : RoleId
  name : String
  description : String
  permissions : List String
  status : RoleStatus
  createdAt : Timestamp
  createdBy : String
  updatedAt : Timestamp
  updatedBy : String
  deriving DecidableEq, Repr, Inhabited

namespace Role

/-- An active role that is not stored yet: no identifier, no audit. -/
def draft (name description : String) (permissions : List String) : Role where
  id := .nil
  name := name
  description := description
  permissions := permissions
  status := .active
  createdAt := .epoch
  createdBy := ""
  updatedAt := .epoch
  updatedBy := ""

/-- The role gives its permissions to its holders. -/
def isActive (role : Role) : Bool := role.status == .active

/-- The record in canonical form: the name normalized, the description and the
permissions trimmed, later repeats of a permission dropped. -/
def normalized (role : Role) : Role :=
  { role with
    name := RoleName.normalize role.name
    description := Text.trim role.description
    permissions := Permission.dedup (role.permissions.map Text.trim) }

/-- The record as it is first stored: it takes the `fresh` identifier unless it
has one already. -/
def created (role : Role) (fresh : RoleId) (actor : String) (now : Timestamp) : Role :=
  { role.normalized with
    id := if role.id.isNil then fresh else role.id
    createdAt := now
    createdBy := actor
    updatedAt := now
    updatedBy := actor }

/-- The record as it is stored again. -/
def updated (role : Role) (actor : String) (now : Timestamp) : Role :=
  { role.normalized with
    updatedAt := now
    updatedBy := actor }

/-- Accepts a role whose name and permissions are all well formed, and reports
the first that is not. -/
def validate (role : Role) : Outcome Unit := do
  RoleName.validate role.name
  role.permissions.forM fun permission => discard (Permission.parse permission)

end Role

end Identity
