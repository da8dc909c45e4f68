/-
Identity/Settings.lean

The keys and the policies of the authentication service.

`validate` reports the first rule that settings break.  Settings that break
none are `Settings.Accepted`; a service runs on nothing else.
-/
import Identity.Crypto.Gcm
import Identity.Crypto.Lookup
import Identity.Crypto.PasswordHashing
import Identity.Identifier.DisplayName
import Identity.Identifier.Email
import Identity.Identifier.Username
import Identity.Key
import Identity.Secret.Password
import Identity.Secret.Pin
import Identity.Text.Quoted
import Identity.Time.Timestamp
import Identity.Token.Key

namespace Identity

open Crypto

/-- The account that bootstrapping makes sure of. -/
structure Superadmin where
  email : String
  username : String
  name : String
  deriving DecidableEq, Repr

/-- Keys and policies. -/
structure Settings where
  encryptionKey : Key Gcm.keyLength
  signingKey : Key Lookup.keyLength
  tokenKey : Option (Key Token.privateKeyLength)
  tokenLifetime : Duration
  audience : String
  passwordLength : Nat
  pinLength : Nat
  bootstrapEnabled : Bool
  superadmin : Superadmin
  cost : Argon2.Cost
  deriving DecidableEq

namespace Settings

/-- The usual policies around two keys, without a token key. -/
def standard (encryptionKey : Key Gcm.keyLength) (signingKey : Key Lookup.keyLength) :
    Settings where
  encryptionKey := encryptionKey
  signingKey := signingKey
  tokenKey := none
  tokenLifetime := .ofSeconds (24 * 60 * 60)
  audience := "tessera"
  passwordLength := 24
  pinLength := 6
  bootstrapEnabled := true
  superadmin := ⟨"superadmin@tessera.local", "superadmin", "Super Admin"⟩
  cost := PasswordHashing.defaultCost

/-! ### Rules -/

/-- The shortest generated password that may be asked for. -/
def minPasswordLength : Nat := 16

/-- What is said about a number outside its range. -/
def rangeText (what : String) (low high : Nat) : String :=
  what ++ " must be between " ++ toString low ++ " and " ++ toString high

/-- An outcome whose error is about a part of the settings. -/
def about {α : Type} (part : String) (outcome : Outcome α) : Outcome α :=
  outcome.mapError fun e => .config (part ++ ": " ++ e.message)

/-- Accepts a superadmin whose canonical names are well formed. -/
def checkSuperadmin (superadmin : Superadmin) : Outcome Unit := do
  about "superadmin email" (Email.validate (Email.normalize superadmin.email))
  about "superadmin username" (Username.validate (Username.normalize superadmin.username))
  about "superadmin name" (DisplayName.validate (DisplayName.normalize superadmin.name))

/-- The public key of a token key. -/
def publicKeyOf (key : Key Token.privateKeyLength) : Outcome Bytes :=
  (Token.publicKey key.bytes).mapError fun fault =>
    .config ("token private key: " ++ fault.message)

/-- Accepts policies in range and keys that can be used. -/
def validate (s : Settings) : Outcome Unit := do
  if s.tokenLifetime.nanos = 0 then throw (.config "token ttl must be positive")
  if Text.isBlank s.audience then throw (.config "token audience must not be empty")
  if s.passwordLength < minPasswordLength ∨ Password.maxLength < s.passwordLength then
    throw (.config (rangeText "password length" minPasswordLength Password.maxLength))
  if s.pinLength < Pin.minLength ∨ Pin.maxLength < s.pinLength then
    throw (.config (rangeText "pin length" Pin.minLength Pin.maxLength))
  if s.cost.memory = 0 ∨ s.cost.passes = 0 ∨ s.cost.lanes = 0 then
    throw (.config "kdf parameters must be positive")
  checkSuperadmin s.superadmin
  match s.tokenKey with
  | some key => discard (publicKeyOf key)
  | none => return

/-- The public key that belongs to the token key. -/
def publicKey (s : Settings) : Outcome Bytes :=
  match s.tokenKey with
  | some key => publicKeyOf key
  | none => .error (.config "token private key is not configured")

/-- Settings that break no rule. -/
structure Accepted where
  settings : Settings
  valid : settings.validate = .ok ()

/-- Accepts settings that break no rule. -/
def accept (s : Settings) : Outcome Accepted :=
  match h : s.validate with
  | .ok () => .ok ⟨s, h⟩
  | .error e => .error e

/-! ### Text -/

/-- What is shown instead of a key. -/
def redacted : String := Text.quoted "<redacted>"

/-- A cost as a record. -/
def costText (cost : Argon2.Cost) : String :=
  Text.record "KdfParams" [("memory_kib", toString cost.memory),
    ("iterations", toString cost.passes), ("parallelism", toString cost.lanes)]

/-- Settings as a record, without their keys. -/
def describe (s : Settings) : String :=
  Text.record "AuthConfig"
    [("encryption_key", redacted), ("signing_key", redacted),
      ("token_private_key", if s.tokenKey.isSome then "Some(" ++ redacted ++ ")" else "None"),
      ("token_ttl", s.tokenLifetime.toText), ("token_audience", Text.quoted s.audience),
      ("password_length", toString s.passwordLength), ("pin_length", toString s.pinLength),
      ("bootstrap_enabled", if s.bootstrapEnabled then "true" else "false"),
      ("superadmin_email", Text.quoted s.superadmin.email),
      ("superadmin_username", Text.quoted s.superadmin.username),
      ("superadmin_name", Text.quoted s.superadmin.name), ("kdf", costText s.cost)]

end Settings

end Identity
