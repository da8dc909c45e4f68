/-
Identity/Authentication/Credentials.lean

Changing what a user signs in with: the password, the address and the PIN.

Every change reads the record and writes it back whole.  An address and its
lookup digest change together, a password and its salt too.
-/
import Identity.Authentication.Secrets

namespace Identity.Authentication

/-! ### Passwords and addresses -/

/-- Replaces the password of a user who knows the current one. -/
def changePassword (service : Settings.Accepted) (id : UserId) (current new : String)
    (now : Timestamp) : Operation User := do
  let s := service.settings
  let user : User ← .call (.getUser id)
  if !passwordMatches s user.password current then throw .invalidCredentials
  .ofOutcome (Password.validate new)
  let password ← hashPassword s new
  .call (.updateUser ({ user with password := password }.updated user.username now))

/-- Replaces the address of a user. -/
def updateEmail (service : Settings.Accepted) (id : UserId) (email actor : String)
    (now : Timestamp) : Operation User := do
  let s := service.settings
  let email := Email.normalize email
  .ofOutcome (Email.validate email)
  let user : User ← .call (.getUser id)
  if user.email.lookup = lookup s email then return user
  ensureAbsent (.findUserByEmail (lookup s email)) .userAlreadyExists
  let sealedEmail ← sealValue s email
  .call (.updateUser ({ user with email := sealedEmail }.updated actor now))

/-! ### PINs -/

/-- Accepts active users only. -/
def ensureActive (user : User) : Outcome Unit :=
  if user.isActive then .ok () else .error .inactiveAccount

/-- Stores a PIN for a user. -/
def storePin (s : Settings) (user : User) (pin : String) (now : Timestamp) :
    Operation User := do
  let sealedPin ← sealValue s pin
  .call (.updateUser ({ user with pin := some sealedPin }.updated user.username now))

/-- Stores the PIN that a user has chosen. -/
def setPin (service : Settings.Accepted) (id : UserId) (pin : String) (now : Timestamp) :
    Operation User := do
  .ofOutcome (Pin.validate pin)
  let user : User ← .call (.getUser id)
  .ofOutcome (ensureActive user)
  storePin service.settings user pin now

/-- The PINs that are tried before a collision is reported. -/
def pinAttempts : Nat := 5

/-- Draws a PIN of the configured length. -/
def drawPin (s : Settings) : Operation String :=
  .draw (fun fault => .internal ("failed to generate pin: " ++ fault.message))
    (Generated.pin s.pinLength)

/-- Stores the first of `attempts` drawn PINs that nobody else has. -/
def storeFreshPin (s : Settings) (user : User) (now : Timestamp) :
    (attempts : Nat) → Operation String
  | 0 => throw .pinAlreadyInUse
  | attempts + 1 => do
    let pin ← drawPin s
    match ← (storePin s user pin now).attempt with
    | .ok _ => return pin
    | .error .pinAlreadyInUse => storeFreshPin s user now attempts
    | .error e => throw e

/-- Gives a user a fresh PIN. -/
def generatePin (service : Settings.Accepted) (id : UserId) (now : Timestamp) :
    Operation String := do
  let user : User ← .call (.getUser id)
  .ofOutcome (ensureActive user)
  storeFreshPin service.settings user now pinAttempts

/-- Takes the PIN away from a user. -/
def clearPin (id : UserId) (now : Timestamp) : Operation User := do
  let user : User ← .call (.getUser id)
  .call (.updateUser ({ user with pin := none }.updated user.username now))

end Identity.Authentication
