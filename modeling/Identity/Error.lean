/-
Identity/Error.lean

The closed set of errors that the stores and the services report.

An error is a cause, with a `detail` where the cause leaves something to
say.  `Error.kind` forgets the detail: callers compare kinds, never
messages.  `Error.message` is the one place where an error gets its wording.
The four classifiers split the kinds by what the caller can do about them.

`calendarExceeded` stands apart: it is the failure of an operation whose
result would be an instant after the last day of the calendar.
-/

namespace Identity

/-- Everything that can go wrong in a store or a service. -/
inductive Error where
  | userNotFound
  | roleNotFound
  | grantNotFound
  | userAlreadyExists
  | usernameExists
  | roleAlreadyExists
  | grantAlreadyExists
  | pinAlreadyInUse
  | invalidCredentials
  | inactiveAccount
  | invalidEmail (detail : String)
  | invalidPassword (detail : String)
  | invalidUsername (detail : String)
  | invalidRoleName (detail : String)
  | invalidDisplayName (detail : String)
  | invalidPin (detail : String)
  | invalidPermission (detail : String)
  | permissionDenied (detail : String)
  | encryptionFailed (detail : String)
  | decryptionFailed (detail : String)
  | passwordHashFailed (detail : String)
  | tokenGenerationFailed (detail : String)
  | tokenVerificationFailed (detail : String)
  | tokenExpired
  | bootstrapDisabled
  | config (detail : String)
  | storage (detail : String)
  | transport (detail : String)
  | internal (detail : String)
  | calendarExceeded
  deriving DecidableEq, Repr, Inhabited

namespace Error

/-- The identity of an error without its detail. -/
inductive Kind where
  | userNotFound
  | roleNotFound
  | grantNotFound
  | userAlreadyExists
  | usernameExists
  | roleAlreadyExists
  | grantAlreadyExists
  | pinAlreadyInUse
  | invalidCredentials
  | inactiveAccount
  | invalidEmail
  | invalidPassword
  | invalidUsername
  | invalidRoleName
  | invalidDisplayName
  | invalidPin
  | invalidPermission
  | permissionDenied
  | encryptionFailed
  | decryptionFailed
  | passwordHashFailed
  | tokenGenerationFailed
  | tokenVerificationFailed
  | tokenExpired
  | bootstrapDisabled
  | config
  | storage
  | transport
  | internal
  | calendarExceeded
  deriving DecidableEq, Repr

/-- The kind of an error. -/
def kind : Error → Kind
  | userNotFound => .userNotFound
  | roleNotFound => .roleNotFound
  | grantNotFound => .grantNotFound
  | userAlreadyExists => .userAlreadyExists
  | usernameExists => .usernameExists
  | roleAlreadyExists => .roleAlreadyExists
  | grantAlreadyExists => .grantAlreadyExists
  | pinAlreadyInUse => .pinAlreadyInUse
  | invalidCredentials => .invalidCredentials
  | inactiveAccount => .inactiveAccount
  | invalidEmail _ => .invalidEmail
  | invalidPassword _ => .invalidPassword
  | invalidUsername _ => .invalidUsername
  | invalidRoleName _ => .invalidRoleName
  | invalidDisplayName _ => .invalidDisplayName
  | invalidPin _ => .invalidPin
  | invalidPermission _ => .invalidPermission
  | permissionDenied _ => .permissionDenied
  | encryptionFailed _ => .encryptionFailed
  | decryptionFailed _ => .decryptionFailed
  | passwordHashFailed _ => .passwordHashFailed
  | tokenGenerationFailed _ => .tokenGenerationFailed
  | tokenVerificationFailed _ => .tokenVerificationFailed
  | tokenExpired => .tokenExpired
  | bootstrapDisabled => .bootstrapDisabled
  | config _ => .config
  | storage _ => .storage
  | transport _ => .transport
  | internal _ => .internal
  | calendarExceeded => .calendarExceeded

/-- What the cause leaves to say: empty for a cause that says it all. -/
def detail : Error → String
  | invalidEmail d | invalidPassword d | invalidUsername d | invalidRoleName d
  | invalidDisplayName d | invalidPin d | invalidPermission d | permissionDenied d
  | encryptionFailed d | decryptionFailed d | passwordHashFailed d
  | tokenGenerationFailed d | tokenVerificationFailed d
  | config d | storage d | transport d | internal d => d
  | _ => ""

namespace Kind

/-- All kinds, in the order in which they are declared. -/
def all : List Kind :=
  [userNotFound, roleNotFound, grantNotFound, userAlreadyExists, usernameExists,
    roleAlreadyExists, grantAlreadyExists, pinAlreadyInUse, invalidCredentials,
    inactiveAccount, invalidEmail, invalidPassword, invalidUsername, invalidRoleName,
    invalidDisplayName, invalidPin, invalidPermission, permissionDenied, encryptionFailed,
    decryptionFailed, passwordHashFailed, tokenGenerationFailed, tokenVerificationFailed,
    tokenExpired, bootstrapDisabled, config, storage, transport, internal, calendarExceeded]

/-- The name under which a kind is reported to an operator. -/
def name : Kind → String
  | userNotFound => "UserNotFound"
  | roleNotFound => "RoleNotFound"
  | grantNotFound => "GrantNotFound"
  | userAlreadyExists => "UserAlreadyExists"
  | usernameExists => "UsernameExists"
  | roleAlreadyExists => "RoleAlreadyExists"
  | grantAlreadyExists => "GrantAlreadyExists"
  | pinAlreadyInUse => "PinAlreadyInUse"
  | invalidCredentials => "InvalidCredentials"
  | inactiveAccount => "InactiveAccount"
  | invalidEmail => "InvalidEmail"
  | invalidPassword => "InvalidPassword"
  | invalidUsername => "InvalidUsername"
  | invalidRoleName => "InvalidRoleName"
  | invalidDisplayName => "InvalidDisplayName"
  | invalidPin => "InvalidPin"
  | invalidPermission => "InvalidPermission"
  | permissionDenied => "PermissionDenied"
  | encryptionFailed => "EncryptionFailed"
  | decryptionFailed => "DecryptionFailed"
  | passwordHashFailed => "PasswordHashFailed"
  | tokenGenerationFailed => "TokenGenerationFailed"
  | tokenVerificationFailed => "TokenVerificationFailed"
  | tokenExpired => "TokenExpired"
  | bootstrapDisabled => "BootstrapDisabled"
  | config => "Config"
  | storage => "Storage"
  | transport => "Transport"
  | internal => "Internal"
  | calendarExceeded => "CalendarExceeded"

/-- An error of this kind has something to say beyond its kind. -/
def hasDetail : Kind → Bool
  | invalidEmail | invalidPassword | invalidUsername | invalidRoleName | invalidDisplayName
  | invalidPin | invalidPermission | permissionDenied | encryptionFailed | decryptionFailed
  | passwordHashFailed | tokenGenerationFailed | tokenVerificationFailed | config | storage
  | transport | internal => true
  | _ => false

/-- The error of a kind that says `detail`; a kind without detail ignores it. -/
def toError (detail : String) : Kind → Error
  | userNotFound => .userNotFound
  | roleNotFound => .roleNotFound
  | grantNotFound => .grantNotFound
  | userAlreadyExists => .userAlreadyExists
  | usernameExists => .usernameExists
  | roleAlreadyExists => .roleAlreadyExists
  | grantAlreadyExists => .grantAlreadyExists
  | pinAlreadyInUse => .pinAlreadyInUse
  | invalidCredentials => .invalidCredentials
  | inactiveAccount => .inactiveAccount
  | invalidEmail => .invalidEmail detail
  | invalidPassword => .invalidPassword detail
  | invalidUsername => .invalidUsername detail
  | invalidRoleName => .invalidRoleName detail
  | invalidDisplayName => .invalidDisplayName detail
  | invalidPin => .invalidPin detail
  | invalidPermission => .invalidPermission detail
  | permissionDenied => .permissionDenied detail
  | encryptionFailed => .encryptionFailed detail
  | decryptionFailed => .decryptionFailed detail
  | passwordHashFailed => .passwordHashFailed detail
  | tokenGenerationFailed => .tokenGenerationFailed detail
  | tokenVerificationFailed => .tokenVerificationFailed detail
  | tokenExpired => .tokenExpired
  | bootstrapDisabled => .bootstrapDisabled
  | config => .config detail
  | storage => .storage detail
  | transport => .transport detail
  | internal => .internal detail
  | calendarExceeded => .calendarExceeded

/-- The kind with the given name. -/
def ofName? (text : String) : Option Kind := all.find? (·.name == text)

/-! ### Classes of kinds -/

/-- A uniqueness rule would have been broken. -/
def isConflict : Kind → Bool
  | userAlreadyExists | usernameExists | roleAlreadyExists | grantAlreadyExists
  | pinAlreadyInUse => true
  | _ => false

/-- Nothing is stored under what was looked for. -/
def isNotFound : Kind → Bool
  | userNotFound | roleNotFound | grantNotFound => true
  | _ => false

/-- The caller's input was rejected. -/
def isValidation : Kind → Bool
  | invalidEmail | invalidPassword | invalidUsername | invalidRoleName
  | invalidDisplayName | invalidPin | invalidPermission => true
  | _ => false

/-- Sealing, hashing or the token pipeline failed: the request fails, never
the process. -/
def isCrypto : Kind → Bool
  | encryptionFailed | decryptionFailed | passwordHashFailed | tokenGenerationFailed
  | tokenVerificationFailed | tokenExpired => true
  | _ => false

end Kind

/-! ### Wording -/

/-- The text shown for an error. -/
def message : Error → String
  | userNotFound => "user not found"
  | roleNotFound => "role not found"
  | grantNotFound => "grant not found"
  | userAlreadyExists => "user already exists"
  | usernameExists => "username already exists"
  | roleAlreadyExists => "role already exists"
  | grantAlreadyExists => "grant already exists"
  | pinAlreadyInUse => "pin already in use"
  | invalidCredentials => "invalid credentials"
  | inactiveAccount => "account is not active"
  | invalidEmail d => "invalid email: " ++ d
  | invalidPassword d => "invalid password: " ++ d
  | invalidUsername d => "invalid username: " ++ d
  | invalidRoleName d => "invalid role name: " ++ d
  | invalidDisplayName d => "invalid display name: " ++ d
  | invalidPin d => "invalid pin: " ++ d
  | invalidPermission d => "invalid permission: " ++ d
  | permissionDenied d => "permission denied: " ++ d
  | encryptionFailed d => "encryption failed: " ++ d
  | decryptionFailed d => "decryption failed: " ++ d
  | passwordHashFailed d => "password hashing failed: " ++ d
  | tokenGenerationFailed d => "token generation failed: " ++ d
  | tokenVerificationFailed d => "token verification failed: " ++ d
  | tokenExpired => "token expired"
  | bootstrapDisabled => "bootstrap is disabled"
  | config d => "configuration error: " ++ d
  | storage d => "storage error: " ++ d
  | transport d => "transport error: " ++ d
  | internal d => "internal error: " ++ d
  | calendarExceeded => "session expiry lies outside the calendar"

/-- A kind names the error it is made into. -/
@[simp] theorem kind_toError (k : Kind) (d : String) : (k.toError d).kind = k := by
  cases k <;> rfl

/-- An error is recovered from its kind and its detail. -/
@[simp] theorem toError_kind (e : Error) : e.kind.toError e.detail = e := by
  cases e <;> rfl

end Error

/-- The outcome of an operation that answers a value or fails. -/
abbrev Outcome (α : Type) := Except Error α

end Identity
