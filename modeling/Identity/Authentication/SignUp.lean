/-
Identity/Authentication/SignUp.lean

Registration of users.

The address and the username are looked up first; a duplicate that arrives
between the lookups and the insertion is refused by the store.
-/
import Identity.Authentication.Secrets

namespace Identity.Authentication

/-- What a user who signs up gives. -/
structure Registration where
  email : String
  password : String
  username : String
  displayName : String
  deriving DecidableEq, Repr

/-- Shows the names of a registration and nothing else. -/
def Registration.describe (r : Registration) : String :=
  Text.partialRecord "SignUpInput"
    [("username", Text.quoted r.username), ("display_name", Text.quoted r.displayName)]

/-- The registration with every name in canonical form. -/
def Registration.normalized (r : Registration) : Registration where
  email := Email.normalize r.email
  password := r.password
  username := Username.normalize r.username
  displayName := DisplayName.normalize r.displayName

/-- Accepts a registration in canonical form whose parts are all well formed. -/
def Registration.validate (r : Registration) : Outcome Unit := do
  Email.validate r.email
  Username.validate r.username
  DisplayName.validate r.displayName
  Password.validate r.password

/-- Stores a new user in the words of the user itself. -/
def signUp (service : Settings.Accepted) (registration : Registration) (now : Timestamp) :
    Operation User := do
  let s := service.settings
  let r := registration.normalized
  .ofOutcome r.validate
  ensureAbsent (.findUserByEmail (lookup s r.email)) .userAlreadyExists
  ensureAbsent (.findUserByUsername r.username) .usernameExists
  let email ← sealValue s r.email
  let password ← hashPassword s r.password
  let fresh ← freshUuid
  let user := User.draft r.username r.displayName email password
  .call (.createUser (user.created ⟨fresh⟩ r.username now))

end Identity.Authentication
