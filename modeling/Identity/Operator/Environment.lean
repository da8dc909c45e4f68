/-
Identity/Operator/Environment.lean

What an operator asks for, and the settings that the environment gives.

A variable that is blank counts as absent.  Keys are hexadecimal texts of a
fixed length.  A command that touches no users needs no keys, and then the
environment is not asked for them.
-/
import Identity.Settings
import Identity.Text.Unsigned

namespace Identity.Operator

/-! ### Commands -/

/-- What an operator can ask for. -/
inductive Command where
  | migrate
  | bootstrap
  | seed
  deriving DecidableEq, Repr

namespace Command

/-- What is said about the commands that exist. -/
def expected : String := "expected one of: migrate, bootstrap, seed"

/-- The command with the given name. -/
def parse : Option String → Outcome Command
  | some "migrate" => .ok migrate
  | some "bootstrap" => .ok bootstrap
  | some "seed" => .ok seed
  | some other => .error (.config ("unknown command '" ++ other ++ "', " ++ expected))
  | none => .error (.config ("missing command, " ++ expected))

/-- The command touches users, so that it needs keys. -/
def needsKeys : Command → Bool
  | migrate => false
  | bootstrap | seed => true

end Command

/-! ### Variables -/

/-- The values of variables. -/
structure Environment where
  get? : String → Option String

namespace Environment

/-- The value of a variable, unless it is blank. -/
def value? (env : Environment) (name : String) : Option String :=
  (env.get? name).filter fun text => !Text.isBlank text

/-- The value of a variable that has to be there. -/
def required (env : Environment) (name : String) : Outcome String :=
  match env.value? name with
  | some text => .ok text
  | none => .error (.config (name ++ " is required"))

/-- What is said about a text that is not hexadecimal. -/
def hexFaultText : Hex.Fault → String
  | .oddLength => "Odd number of digits"
  | .notADigit byte position =>
    "Invalid character " ++ Text.quotedChar (Char.ofNat byte.toNat) ++ " at position " ++
      toString position

/-- The bytes that a variable gives. -/
def hex (env : Environment) (name : String) : Outcome Bytes := do
  let text ← env.required name
  (Hex.decode (Text.trim text)).mapError fun fault =>
    .config (name ++ " must be hex encoded: " ++ hexFaultText fault)

/-- The key that a variable gives. -/
def key (env : Environment) (length : Nat) (name : String) : Outcome (Key length) := do
  let bytes ← env.hex name
  match Key.ofBytes? length bytes with
  | some key => return key
  | none =>
    throw (.config (name ++ " must decode to " ++ toString length ++ " bytes, got " ++
      toString bytes.length))

/-- The number that a variable gives, or another one when it is absent. -/
def number (env : Environment) (name : String) (otherwise : Nat) : Outcome Nat :=
  match env.value? name with
  | none => .ok otherwise
  | some text =>
    (Unsigned.parse (Text.trim text)).mapError fun fault =>
      .config ("invalid " ++ name ++ ": " ++ fault.message)

/-- The text says yes, in any case of its letters. -/
def isTrue (text : String) : Bool := text.toList.map Char.toLower == "true".toList

/-- The key that signs tokens, if a variable gives one. -/
def tokenKey (env : Environment) (name : String) :
    Outcome (Option (Key Token.privateKeyLength)) :=
  match env.value? name with
  | none => .ok none
  | some _ => some <$> env.key Token.privateKeyLength name

/-- The settings that the variables give, as they stand. -/
def draft (env : Environment) : Outcome Settings := do
  let encryptionKey ← env.key Crypto.Gcm.keyLength "TESSERA_ENCRYPTION_KEY"
  let signingKey ← env.key Crypto.Lookup.keyLength "TESSERA_SIGNING_KEY"
  let s := Settings.standard encryptionKey signingKey
  let lifetime ← env.number "TESSERA_TOKEN_TTL_SECONDS" s.tokenLifetime.seconds
  let passwordLength ← env.number "TESSERA_PASSWORD_LENGTH" s.passwordLength
  let pinLength ← env.number "TESSERA_PIN_LENGTH" s.pinLength
  let tokenKey ← env.tokenKey "TESSERA_TOKEN_PRIVATE_KEY"
  return { s with
    tokenKey := tokenKey
    tokenLifetime := .ofSeconds lifetime
    audience := (env.value? "TESSERA_TOKEN_AUDIENCE").getD s.audience
    passwordLength := passwordLength
    pinLength := pinLength
    bootstrapEnabled := ((env.value? "TESSERA_BOOTSTRAP_ENABLED").map isTrue).getD true
    superadmin := { s.superadmin with
      email := (env.value? "TESSERA_SUPERADMIN_EMAIL").getD s.superadmin.email } }

/-- The settings that the variables give. -/
def settings (env : Environment) : Outcome Settings.Accepted := do
  (← env.draft).accept

end Environment

/-! ### Jobs -/

/-- A command with all that it needs. -/
structure Job where
  command : Command
  databaseUrl : String
  settings : Option Settings.Accepted

/-- The variables that a job may depend on. -/
def variableNames : List String :=
  ["DATABASE_URL", "TESSERA_ENCRYPTION_KEY", "TESSERA_SIGNING_KEY", "TESSERA_TOKEN_PRIVATE_KEY",
    "TESSERA_TOKEN_TTL_SECONDS", "TESSERA_TOKEN_AUDIENCE", "TESSERA_PASSWORD_LENGTH",
    "TESSERA_PIN_LENGTH", "TESSERA_BOOTSTRAP_ENABLED", "TESSERA_SUPERADMIN_EMAIL"]

/-- The job that a command is in an environment. -/
def Job.prepare (command : Command) (env : Environment) : Outcome Job := do
  let databaseUrl ← env.required "DATABASE_URL"
  let settings ← if command.needsKeys then some <$> env.settings else pure none
  return ⟨command, databaseUrl, settings⟩

end Identity.Operator
