/-
Identity/User.lean

Users: who can sign in, and in what state their account is.

`User.created` is a record as it is first stored and `User.updated` as it is
stored again; both put the names into canonical form and record who acted
and when.  Only `created` touches the creation audit.
-/
import Identity.Identifier.DisplayName
import Identity.Identifier.Username
import Identity.Sealed
import Identity.Time.Timestamp
import Identity.Uuid

namespace Identity

/-- The identifier of a user. -/
structure UserId where
  uuid : Uuid
  deriving DecidableEq, Repr, Inhabited

/-- The identifier that no stored user has. -/
def UserId.nil : UserId := ⟨Uuid.nil⟩

/-- The identifier is `nil`. -/
def UserId.isNil (id : UserId) : Bool := id.uuid.isNil

/-! ### Account states -/

/-- The state of an account; only an active one can sign in. -/
inductive UserStatus where
  | active
  | suspended
  | pending
  | deleted
  deriving DecidableEq, Repr, Inhabited

namespace UserStatus

/-- All states. -/
def all : List UserStatus := [active, suspended, pending, deleted]

/-- The name of a state. -/
def name : UserStatus → String
  | active => "active"
  | suspended => "suspended"
  | pending => "pending"
  | deleted => "deleted"

/-- The state with the given name. -/
def parse (text : String) : Outcome UserStatus :=
  match all.find? (·.name == text) with
  | some status => .ok status
  | none => .error (.internal ("unknown user status '" ++ text ++ "'"))

/-- Every state is read back from its name. -/
@[simp] theorem parse_name (s : UserStatus) : parse s.name = .ok s := by
  cases s <;> rfl

end UserStatus

/-! ### Users -/

/-- A user record. -/
structure User where
  id : UserId
  username : String
  name : String
  email : SealedValue
  password : PasswordHash
  pin : Option SealedValue
  status : UserStatus
  createdAt : Timestamp
  createdBy : String
  updatedAt : Timestamp
  updatedBy : String
  deriving DecidableEq, Repr, Inhabited

namespace User

/-- An active user that is not stored yet: no identifier, no PIN, no audit. -/
def draft (username name : String) (email : SealedValue) (password : PasswordHash) : User where
  id := .nil
  username := username
  name := name
  email := email
  password := password
  pin := none
  status := .active
  createdAt := .epoch
  createdBy := ""
  updatedAt := .epoch
  updatedBy := ""

/-- The account is active. -/
def isActive (user : User) : Bool := user.status == .active

/-- The record with its names in canonical form. -/
def normalized (user : User) : User :=
  { user with
    username := Username.normalize user.username
    name := DisplayName.normalize user.name }

/-- The record as it is first stored: it takes the `fresh` identifier unless it
has one already. -/
def created (user : User) (fresh : UserId) (actor : String) (now : Timestamp) : User :=
  { user.normalized with
    id := if user.id.isNil then fresh else user.id
    createdAt := now
    createdBy := actor
    updatedAt := now
    updatedBy := actor }

/-- The record as it is stored again. -/
def updated (user : User) (actor : String) (now : Timestamp) : User :=
  { user.normalized with
    updatedAt := now
    updatedBy := actor }

end User

end Identity
