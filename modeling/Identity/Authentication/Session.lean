/-
Identity/Authentication/Session.lean

Signing in, and the tokens that stand for sessions.

An unknown address, a wrong password and an inactive account all end in
`invalidCredentials`, and so do the failures of signing in by PIN.
-/
import Identity.Authentication.Secrets
import Identity.Time.Calendar
import Identity.Token.Signed

namespace Identity.Authentication

open Crypto

/-- A user who has signed in, and the token that says so. -/
structure Session where
  user : User
  token : String
  id : Uuid
  expiresAt : Timestamp
  deriving DecidableEq

/-! ### Sessions -/

/-- The longest lifetime that a token can be given: as many milliseconds as fit
a signed word of 64 bits. -/
def maxLifetime : Duration := .ofMillis ((1 <<< 63) - 1)

/-- When a session that starts now expires. -/
def expiry (s : Settings) (now : Timestamp) : Outcome Timestamp :=
  if maxLifetime.nanos < s.tokenLifetime.nanos then
    .error (.config
      "invalid token ttl: Source duration value is out of range for the target type")
  else if Calendar.holds (now.add s.tokenLifetime).seconds then .ok (now.add s.tokenLifetime)
  else .error .calendarExceeded

/-- What the token of a session says. -/
def sessionClaims (s : Settings) (user : User) (id : Uuid) (expiresAt : Timestamp) :
    Token.Claims where
  subject := user.id.uuid.toText
  sessionId := id.toText
  audience := s.audience
  context := .empty
  expiresAt := expiresAt.seconds
  authzVersion := none

/-- Starts a session of a user. -/
def issueSession (s : Settings) (user : User) (now : Timestamp) : Operation Session := do
  match s.tokenKey with
  | none => throw (.tokenGenerationFailed "token private key is not configured")
  | some key =>
    let expiresAt ← .ofOutcome (expiry s now)
    let id ← freshUuid
    match Token.sign (sessionClaims s user id expiresAt) key.bytes now.seconds with
    | .ok token => return ⟨user, token, id, expiresAt⟩
    | .error fault => throw (.tokenGenerationFailed fault.message)

/-! ### Signing in -/

/-- The user whose address and password these are, if the account is active. -/
def checkCredentials (s : Settings) (email password : String) : Operation User := do
  match ← findUser? (lookup s (Email.normalize email)) with
  | none => throw .invalidCredentials
  | some user =>
    if !passwordMatches s user.password password then throw .invalidCredentials
    if !user.isActive then throw .invalidCredentials
    return user

/-- Signs in with an address and a password. -/
def signIn (service : Settings.Accepted) (email password : String) (now : Timestamp) :
    Operation Session := do
  let user ← checkCredentials service.settings email password
  issueSession service.settings user now

/-- The user has this PIN. -/
def pinMatches (s : Settings) (user : User) (pin : String) : Bool :=
  match user.pin.map (reveal s) with
  | some (.ok stored) => stored == pin
  | _ => false

/-- Signs in with a PIN, without a token. -/
def signInByPin (service : Settings.Accepted) (pin : String) : Operation User := do
  let s := service.settings
  if !(Pin.validate pin).isOk then throw .invalidCredentials
  match found? (← (Operation.call (.findUserByPin (lookup s pin))).attempt) with
  | .error e => throw e
  | .ok none => throw .invalidCredentials
  | .ok (some user) =>
    if !pinMatches s user pin then throw .invalidCredentials
    if !user.isActive then throw .invalidCredentials
    return user

/-! ### Tokens -/

/-- What is said about a token that was refused. -/
def tokenError : Fault → Error
  | .tokenExpired => .tokenExpired
  | fault => .tokenVerificationFailed fault.message

/-- The claims of a token that this service issued and that has not expired at
the given second. -/
def verifyToken (service : Settings.Accepted) (token : String) (now : Int) :
    Outcome Token.Claims := do
  let s := service.settings
  if s.tokenKey.isNone then throw (tokenError .missingKey)
  let publicKey ← s.publicKey
  let claims ← (Token.verify token publicKey now).mapError tokenError
  if claims.audience ≠ s.audience then throw (.tokenVerificationFailed "unexpected audience")
  return claims

end Identity.Authentication
