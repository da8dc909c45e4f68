/-
Identity/Authentication/Accounts.lean

Finding users, and moving their accounts from one state to another.
-/
import Identity.Authentication.Credentials

namespace Identity.Authentication

/-! ### Finding users -/

/-- The user with the given identifier. -/
def getUser (id : UserId) : Operation User := .call (.getUser id)

/-- The user with the given name, in any spelling. -/
def getUserByUsername (username : String) : Operation User :=
  .call (.findUserByUsername (Username.normalize username))

/-- The user with the given address, in any spelling. -/
def getUserByEmail (service : Settings.Accepted) (email : String) : Operation User :=
  .call (.findUserByEmail (lookup service.settings (Email.normalize email)))

/-- All users. -/
def listUsers : Operation (List User) := .call .listUsers

/-- All users in one state. -/
def listUsersByStatus (status : UserStatus) : Operation (List User) :=
  .call (.listUsersByStatus status)

/-- The address of a user. -/
def revealEmail (service : Settings.Accepted) (user : User) : Outcome String :=
  reveal service.settings user.email

/-! ### Changing users -/

/-- Stores a record whose names have been edited. -/
def updateUser (user : User) (actor : String) (now : Timestamp) : Operation User := do
  let user := user.updated actor now
  .ofOutcome (Username.validate user.username)
  .ofOutcome (DisplayName.validate user.name)
  .call (.updateUser user)

/-- Marks a user as deleted. -/
def deleteUser (id : UserId) (actor : String) (now : Timestamp) : Operation Unit :=
  .call (.deleteUser id actor now)

/-- Moves a user to a state; nothing is written when that is the state already. -/
def setUserStatus (id : UserId) (status : UserStatus) (actor : String) (now : Timestamp) :
    Operation User := do
  let user : User ← .call (.getUser id)
  if user.status = status then return user
  .call (.updateUser ({ user with status := status }.updated actor now))

/-- Suspends a user. -/
def suspendUser (id : UserId) (actor : String) (now : Timestamp) : Operation User :=
  setUserStatus id .suspended actor now

/-- Makes a user active again. -/
def activateUser (id : UserId) (actor : String) (now : Timestamp) : Operation User :=
  setUserStatus id .active actor now

end Identity.Authentication
