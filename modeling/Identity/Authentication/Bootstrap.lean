/-
Identity/Authentication/Bootstrap.lean

Making sure of the superadmin.

Only the call that inserts the account learns its password.  A call that
loses the race against another one reads the winner's account.
-/
import Identity.Authentication.Secrets

namespace Identity.Authentication

/-- The superadmin, and the password if this call created the account. -/
structure Bootstrapped where
  user : User
  password : Option String
  deriving DecidableEq

/-- Draws a password that meets the policy. -/
def drawPassword (s : Settings) : Operation String := do
  let password ← .draw (fun fault => .internal ("failed to generate password: " ++ fault.message))
    (Generated.password s.passwordLength)
  .ofOutcome (Password.validate password)
  return password

/-- A new account for the superadmin, with the given password. -/
def draftSuperadmin (s : Settings) (password : String) (now : Timestamp) : Operation User := do
  let email ← sealValue s (Email.normalize s.superadmin.email)
  let hash ← hashPassword s password
  let fresh ← freshUuid
  let user := User.draft s.superadmin.username s.superadmin.name email hash
  return user.created ⟨fresh⟩ systemActor now

/-- Makes sure that the superadmin is stored. -/
def bootstrap (service : Settings.Accepted) (now : Timestamp) : Operation Bootstrapped := do
  let s := service.settings
  let digest := lookup s (Email.normalize s.superadmin.email)
  match ← findUser? digest with
  | some user => return ⟨user, none⟩
  | none =>
    if !s.bootstrapEnabled then throw .bootstrapDisabled
    let password ← drawPassword s
    let user ← draftSuperadmin s password now
    match ← (Operation.call (.createUser user)).attempt with
    | .ok user => return ⟨user, some password⟩
    | .error e =>
      if e = .userAlreadyExists ∨ e = .usernameExists then
        match ← findUser? digest with
        | some user => return ⟨user, none⟩
        | none => throw e
      else throw e

end Identity.Authentication
