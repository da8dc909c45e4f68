/-
Identity/Proofs/Operator/Environment.lean

Which environments give a job, and with which settings.

Each variable is told apart by what it gives: nothing, when it is absent or
blank, or a text (`Given`).  A text is read after trimming, as bytes
(`Hex.Spells`) or as a number (`Reads`).  The variable that enables bootstrapping
is the exception.  It is not trimmed, and no text is refused: whatever does not
say "true" disables bootstrapping.

Main result: `prepare_exact`.
-/
import Identity.Operator.Environment
import Identity.Proofs.Settings
import Identity.Proofs.Text.Hex
import Identity.Proofs.Text.Unsigned
import Identity.Proofs.Token.Signed

namespace Identity.Operator

open Crypto

/-! ### Errors -/

/-- The outcome can fail, but only with an error of the configuration. -/
def ConfigOnly {α : Type} (outcome : Outcome α) : Prop :=
  ∀ e, outcome = .error e → ∃ detail, e = .config detail

section ConfigOnly

variable {α β : Type} {outcome : Outcome α} {f : α → Outcome β}

theorem ConfigOnly.pure (a : α) : ConfigOnly (Pure.pure a : Outcome α) := nofun

theorem ConfigOnly.error (detail : String) : ConfigOnly (.error (.config detail) : Outcome α) := by
  rintro _ ⟨⟩
  exact ⟨detail, rfl⟩

theorem ConfigOnly.bind (h : ConfigOnly outcome) (hf : ∀ a, ConfigOnly (f a)) :
    ConfigOnly (outcome >>= f) := by
  intro e he
  rcases Outcome.bind_eq_error.mp he with he | ⟨a, -, he⟩
  · exact h e he
  · exact hf a e he

theorem ConfigOnly.map (h : ConfigOnly outcome) (f : α → β) : ConfigOnly (f <$> outcome) := by
  rw [map_eq_pure_bind]
  exact h.bind fun a => .pure (f a)

theorem ConfigOnly.mapError {ε : Type} (x : Except ε α) (text : ε → String) :
    ConfigOnly (x.mapError fun fault => Error.config (text fault)) := by
  intro e he
  obtain ⟨fault, -, rfl⟩ := Outcome.mapError_eq_error.mp he
  exact ⟨text fault, rfl⟩

theorem ConfigOnly.unless {c : Prop} [Decidable c] {detail : String} {rest : Outcome β}
    (h : ConfigOnly rest) :
    ConfigOnly (if c then MonadExcept.throw (.config detail) >>= f else rest) := by
  split_ifs
  · exact .error detail
  · exact h

theorem validate_configOnly (s : Settings) : ConfigOnly s.validate := by
  unfold Settings.validate Settings.checkSuperadmin Settings.about Settings.publicKeyOf
  refine .unless (.unless (.unless (.unless (.unless (.bind ?_ fun _ => ?_)))))
  · exact .bind (.mapError _ _) fun _ => .bind (.mapError _ _) fun _ => .mapError _ _
  · cases s.tokenKey with
    | none => exact .pure ()
    | some key => exact .map (.mapError _ _) _

theorem accept_configOnly (s : Settings) : ConfigOnly s.accept := by
  intro e he
  unfold Settings.accept at he
  split at he
  · cases he
  · next found hfound =>
    cases he
    exact validate_configOnly s _ hfound

end ConfigOnly

/-! ### Variables -/

variable {env : Environment} {name text : String} {n otherwise : Nat}

/-- The variable has a value, and it is not blank. -/
structure Given (env : Environment) (name text : String) : Prop where
  value : env.get? name = some text
  notBlank : Text.isBlank text = false

theorem value?_eq_some : env.value? name = some text ↔ Given env name text := by
  rw [Environment.value?, Option.filter_eq_some_iff, Bool.not_eq_true']
  exact ⟨fun h => ⟨h.1, h.2⟩, fun h => ⟨h.value, h.notBlank⟩⟩

theorem value?_eq_none : env.value? name = none ↔ ∀ text, ¬ Given env name text := by
  simp only [← value?_eq_some, Option.eq_none_iff_forall_not_mem, Option.mem_def]

theorem Given.unique {text' : String} (h : Given env name text) (h' : Given env name text') :
    text = text' :=
  Option.some.inj (h.value.symm.trans h'.value)

/-- What is true of the value of a variable, or of what stands in for it. -/
theorem forall_given_iff {P : String → Prop} {otherwise : String} (h : P otherwise) :
    P ((env.value? name).getD otherwise) ↔ ∀ text, Given env name text → P text := by
  cases hv : env.value? name with
  | none => exact iff_of_true h fun text ht => absurd ht (value?_eq_none.mp hv text)
  | some text =>
    have hgiven := value?_eq_some.mp hv
    exact ⟨fun hP text' ht => hgiven.unique ht ▸ hP, fun hall => hall text hgiven⟩

theorem required_eq_ok : env.required name = .ok text ↔ Given env name text := by
  rw [← value?_eq_some, Environment.required]
  cases env.value? name with
  | none => exact iff_of_false nofun nofun
  | some found => rw [Except.ok.injEq, Option.some.injEq]

theorem required_configOnly (env : Environment) (name : String) :
    ConfigOnly (env.required name) := by
  unfold Environment.required
  split
  · exact .pure _
  · exact .error _

/-! ### Keys -/

/-- The variable gives these bytes, as a hexadecimal text. -/
def Spelled (env : Environment) (name : String) (bytes : Bytes) : Prop :=
  ∃ text, Given env name text ∧ Hex.Spells (Text.trim text) bytes

theorem hex_eq_ok {bytes : Bytes} : env.hex name = .ok bytes ↔ Spelled env name bytes := by
  simp only [Environment.hex, Outcome.bind_eq_ok, required_eq_ok, Outcome.mapError_eq_ok,
    Hex.decode_eq_ok, Spelled]

theorem key_eq_ok {length : Nat} {key : Key length} :
    env.key length name = .ok key ↔ Spelled env name key.bytes := by
  rw [Environment.key, Outcome.bind_eq_ok]
  simp only [hex_eq_ok]
  constructor
  · rintro ⟨bytes, hspelled, hkey⟩
    unfold Key.ofBytes? at hkey
    split_ifs at hkey
    cases hkey
    exact hspelled
  · intro h
    refine ⟨key.bytes, h, ?_⟩
    rw [Key.ofBytes?_bytes]
    rfl

theorem key_configOnly (env : Environment) (length : Nat) (name : String) :
    ConfigOnly (env.key length name) := by
  refine .bind (.bind (required_configOnly env name) fun text => .mapError _ _) fun bytes => ?_
  split
  · exact .pure _
  · exact .error _

/-- The variable gives no token key, or this one. -/
def TokenKeyOf (env : Environment) (name : String) :
    Option (Key Token.privateKeyLength) → Prop
  | none => ∀ text, ¬ Given env name text
  | some key => Spelled env name key.bytes

theorem tokenKey_eq_ok {key : Option (Key Token.privateKeyLength)} :
    env.tokenKey name = .ok key ↔ TokenKeyOf env name key := by
  unfold Environment.tokenKey
  cases hv : env.value? name with
  | none =>
    have habsent := value?_eq_none.mp hv
    cases key with
    | none => exact iff_of_true rfl habsent
    | some key =>
      refine iff_of_false nofun ?_
      rintro ⟨text, hgiven, -⟩
      exact habsent text hgiven
  | some text =>
    have hgiven := value?_eq_some.mp hv
    simp only [map_eq_pure_bind, Outcome.bind_eq_ok, key_eq_ok]
    cases key with
    | none =>
      refine iff_of_false ?_ fun habsent => habsent text hgiven
      rintro ⟨key, -, ⟨⟩⟩
    | some key =>
      constructor
      · rintro ⟨_, hspelled, ⟨⟩⟩
        exact hspelled
      · exact fun hspelled => ⟨key, hspelled, rfl⟩

theorem tokenKey_configOnly (env : Environment) (name : String) :
    ConfigOnly (env.tokenKey name) := by
  unfold Environment.tokenKey
  split
  · exact .pure _
  · exact .map (key_configOnly env _ name) _

/-! ### Numbers -/

/-- The text is a number of 64 bits, perhaps between white space. -/
structure Reads (text : String) (n : Nat) : Prop where
  denotes : Unsigned.Denotes (Text.trim text).toList n
  small : n < UInt64.size

/-- The variable gives this number, or gives none and the number stands in for it. -/
def Numbered (env : Environment) (name : String) (otherwise n : Nat) : Prop :=
  (∃ text, Given env name text ∧ Reads text n) ∨
    ((∀ text, ¬ Given env name text) ∧ n = otherwise)

theorem number_eq_ok : env.number name otherwise = .ok n ↔ Numbered env name otherwise n := by
  rw [Environment.number, Numbered]
  cases hv : env.value? name with
  | none =>
    have habsent := value?_eq_none.mp hv
    have hnone : ¬ ∃ text, Given env name text ∧ Reads text n := fun ⟨text, h, _⟩ => habsent text h
    rw [or_iff_right hnone, and_iff_right habsent, Except.ok.injEq, eq_comm]
  | some text =>
    have hgiven := value?_eq_some.mp hv
    have hpresent : ¬ ((∀ text, ¬ Given env name text) ∧ n = otherwise) :=
      fun h => h.1 text hgiven
    rw [or_iff_left hpresent]
    dsimp only
    rw [Outcome.mapError_eq_ok, Unsigned.parse_eq_ok]
    constructor
    · exact fun h => ⟨text, hgiven, h.1, h.2⟩
    · rintro ⟨text', hgiven', hreads⟩
      obtain rfl := hgiven.unique hgiven'
      exact ⟨hreads.denotes, hreads.small⟩

theorem number_configOnly (env : Environment) (name : String) (otherwise : Nat) :
    ConfigOnly (env.number name otherwise) := by
  unfold Environment.number
  split
  · exact .pure _
  · exact .mapError _ _

/-- Every text that the variable gives is a number like this. -/
def NumberIs (env : Environment) (name : String) (P : Nat → Prop) : Prop :=
  ∀ text, Given env name text → ∃ n, Reads text n ∧ P n

theorem exists_numbered_iff {P : Nat → Prop} (otherwise : Nat) (h : P otherwise) :
    (∃ n, Numbered env name otherwise n ∧ P n) ↔ NumberIs env name P := by
  constructor
  · rintro ⟨n, ⟨text, hgiven, hreads⟩ | ⟨habsent, -⟩, hn⟩ text' hgiven'
    · exact ⟨n, hgiven.unique hgiven' ▸ hreads, hn⟩
    · exact absurd hgiven' (habsent text')
  · intro hall
    by_cases hgiven : ∃ text, Given env name text
    · obtain ⟨text, hgiven⟩ := hgiven
      obtain ⟨n, hreads, hn⟩ := hall text hgiven
      exact ⟨n, .inl ⟨text, hgiven, hreads⟩, hn⟩
    · exact ⟨otherwise, .inr ⟨fun text ht => hgiven ⟨text, ht⟩, rfl⟩, h⟩

/-! ### Settings -/

/-- The text is this word in any case of its letters, without anything around it. -/
def Says (word text : String) : Prop := text.toList.map Char.toLower = word.toList

instance (word text : String) : Decidable (Says word text) := inferInstanceAs (Decidable (_ = _))

theorem isTrue_eq_true : Environment.isTrue text = true ↔ Says "true" text := beq_iff_eq

/-- Bootstrapping is enabled as long as the variable does not give another text than "true". -/
def Enabled (env : Environment) (name : String) : Prop :=
  ∀ text, Given env name text → Says "true" text

theorem enabled_iff : ((env.value? name).map Environment.isTrue).getD true = true ↔
    Enabled env name := by
  unfold Enabled
  cases hv : env.value? name with
  | none => exact iff_of_true rfl fun text ht => absurd ht (value?_eq_none.mp hv text)
  | some text =>
    have hgiven := value?_eq_some.mp hv
    rw [Option.map_some, Option.getD_some, isTrue_eq_true]
    exact ⟨fun h text' ht => hgiven.unique ht ▸ h, fun hall => hall text hgiven⟩

/-- What the variables say about each part of the settings. -/
structure Drafts (env : Environment) (s : Settings) : Prop where
  encryptionKey : Spelled env "TESSERA_ENCRYPTION_KEY" s.encryptionKey.bytes
  signingKey : Spelled env "TESSERA_SIGNING_KEY" s.signingKey.bytes
  tokenKey : TokenKeyOf env "TESSERA_TOKEN_PRIVATE_KEY" s.tokenKey
  lifetime : ∃ n, Numbered env "TESSERA_TOKEN_TTL_SECONDS" (24 * 60 * 60) n ∧
    s.tokenLifetime = .ofSeconds n
  audience : s.audience = (env.value? "TESSERA_TOKEN_AUDIENCE").getD "tessera"
  passwordLength : Numbered env "TESSERA_PASSWORD_LENGTH" 24 s.passwordLength
  pinLength : Numbered env "TESSERA_PIN_LENGTH" 6 s.pinLength
  enabled : s.bootstrapEnabled = true ↔ Enabled env "TESSERA_BOOTSTRAP_ENABLED"
  superadmin : s.superadmin =
    ⟨(env.value? "TESSERA_SUPERADMIN_EMAIL").getD "superadmin@tessera.local", "superadmin",
      "Super Admin"⟩
  cost : s.cost = PasswordHashing.defaultCost

theorem seconds_standard (encryptionKey : Key Gcm.keyLength) (signingKey : Key Lookup.keyLength) :
    (Settings.standard encryptionKey signingKey).tokenLifetime.seconds = 24 * 60 * 60 :=
  Nat.mul_div_cancel _ (by decide)

theorem draft_eq_ok {s : Settings} : env.draft = .ok s ↔ Drafts env s := by
  simp only [Environment.draft, Outcome.bind_eq_ok, key_eq_ok, number_eq_ok, tokenKey_eq_ok,
    seconds_standard]
  constructor
  · rintro ⟨_, hencryption, _, hsigning, lifetime, hlifetime, _, hpassword, _, hpin, _, htoken, ⟨⟩⟩
    exact {
      encryptionKey := hencryption
      signingKey := hsigning
      tokenKey := htoken
      lifetime := ⟨lifetime, hlifetime, rfl⟩
      audience := rfl
      passwordLength := hpassword
      pinLength := hpin
      enabled := enabled_iff
      superadmin := rfl
      cost := rfl }
  · intro h
    obtain ⟨lifetime, hlifetime, hduration⟩ := h.lifetime
    refine ⟨_, h.encryptionKey, _, h.signingKey, lifetime, hlifetime, _, h.passwordLength, _,
      h.pinLength, _, h.tokenKey, congrArg Except.ok ?_⟩
    have henabled : s.bootstrapEnabled =
        ((env.value? "TESSERA_BOOTSTRAP_ENABLED").map Environment.isTrue).getD true :=
      Bool.eq_iff_iff.mpr (h.enabled.trans enabled_iff.symm)
    obtain ⟨_, _, _, _, _, _, _, _, _, _⟩ := s
    cases hduration
    cases henabled
    cases h.audience
    cases h.superadmin
    cases h.cost
    rfl

theorem draft_configOnly (env : Environment) : ConfigOnly env.draft := by
  refine .bind (key_configOnly _ _ _) fun _ => .bind (key_configOnly _ _ _) fun _ => ?_
  refine .bind (number_configOnly _ _ _) fun _ => .bind (number_configOnly _ _ _) fun _ => ?_
  refine .bind (number_configOnly _ _ _) fun _ => .bind (tokenKey_configOnly _ _) fun _ => ?_
  exact .pure _

/-- The variables from which the settings are made are all well formed.  Nothing is asked of
the audience, nor of the text that enables bootstrapping. -/
structure WellFormed (env : Environment) : Prop where
  encryptionKey : ∃ bytes, Spelled env "TESSERA_ENCRYPTION_KEY" bytes ∧
    bytes.length = Gcm.keyLength
  signingKey : ∃ bytes, Spelled env "TESSERA_SIGNING_KEY" bytes ∧ bytes.length = Lookup.keyLength
  tokenKey : ∀ text, Given env "TESSERA_TOKEN_PRIVATE_KEY" text →
    ∃ bytes, Hex.Spells (Text.trim text) bytes ∧ bytes.length = Token.privateKeyLength ∧
      Ed25519.isPrivateKey bytes = true
  lifetime : NumberIs env "TESSERA_TOKEN_TTL_SECONDS" (0 < ·)
  passwordLength : NumberIs env "TESSERA_PASSWORD_LENGTH" fun n =>
    Settings.minPasswordLength ≤ n ∧ n ≤ Password.maxLength
  pinLength : NumberIs env "TESSERA_PIN_LENGTH" fun n => Pin.minLength ≤ n ∧ n ≤ Pin.maxLength
  superadminEmail : ∀ text, Given env "TESSERA_SUPERADMIN_EMAIL" text →
    Email.validate (Email.normalize text) = .ok ()

theorem exists_tokenKey_iff :
    (∃ key, TokenKeyOf env name key ∧
      ∀ k, key = some k → ∃ publicKey, Token.publicKey k.bytes = .ok publicKey) ↔
    ∀ text, Given env name text →
      ∃ bytes, Hex.Spells (Text.trim text) bytes ∧ bytes.length = Token.privateKeyLength ∧
        Ed25519.isPrivateKey bytes = true := by
  simp only [Token.exists_publicKey_iff]
  constructor
  · rintro ⟨_ | key, hkey, hpublic⟩ text hgiven
    · exact absurd hgiven (hkey text)
    · obtain ⟨text', hgiven', hspells⟩ := hkey
      exact ⟨key.bytes, hgiven.unique hgiven' ▸ hspells, hpublic key rfl⟩
  · intro hall
    by_cases hgiven : ∃ text, Given env name text
    · obtain ⟨text, hgiven⟩ := hgiven
      obtain ⟨bytes, hspells, hlength, hprivate⟩ := hall text hgiven
      refine ⟨some ⟨bytes, hlength⟩, ⟨text, hgiven, hspells⟩, ?_⟩
      rintro _ ⟨⟩
      exact ⟨hlength, hprivate⟩
    · exact ⟨none, fun text ht => hgiven ⟨text, ht⟩, nofun⟩

theorem superadminEmail_iff :
    Settings.GoodSuperadmin
      ⟨(env.value? name).getD "superadmin@tessera.local", "superadmin", "Super Admin"⟩ ↔
    ∀ text, Given env name text → Email.validate (Email.normalize text) = .ok () := by
  have hemail : Email.validate (Email.normalize "superadmin@tessera.local") = .ok () := by
    decide +kernel
  have husername : Username.validate (Username.normalize "superadmin") = .ok () := by
    decide +kernel
  have hname : DisplayName.validate (DisplayName.normalize "Super Admin") = .ok () := by
    decide +kernel
  rw [← forall_given_iff (P := fun text => Email.validate (Email.normalize text) = .ok ()) hemail]
  exact ⟨fun h => h.email, fun h => ⟨h, husername, hname⟩⟩

theorem audience_given :
    Text.isBlank ((env.value? name).getD "tessera") = false :=
  (forall_given_iff (P := fun text => Text.isBlank text = false) (by decide)).mpr
    fun _ h => h.notBlank

theorem settings_eq_ok {service : Settings.Accepted} :
    env.settings = .ok service ↔ Drafts env service.settings := by
  simp only [Environment.settings, Outcome.bind_eq_ok, draft_eq_ok, Settings.accept_eq_ok]
  exact ⟨fun ⟨_, hdrafts, hs⟩ => hs ▸ hdrafts, fun hdrafts => ⟨_, hdrafts, rfl⟩⟩

theorem settings_configOnly (env : Environment) : ConfigOnly env.settings :=
  (draft_configOnly env).bind accept_configOnly

theorem positive_ofSeconds {n : Nat} : (Duration.ofSeconds n).nanos ≠ 0 ↔ 0 < n := by
  show n * 1000000000 ≠ 0 ↔ 0 < n
  omega

/-- **The environment gives settings** when all variables are well formed. -/
theorem exists_settings_iff : (∃ service, env.settings = .ok service) ↔ WellFormed env := by
  simp only [settings_eq_ok]
  constructor
  · rintro ⟨service, h⟩
    have hvalid := service.isValid
    obtain ⟨lifetime, hlifetime, hduration⟩ := h.lifetime
    exact {
      encryptionKey := ⟨_, h.encryptionKey, service.settings.encryptionKey.length_bytes⟩
      signingKey := ⟨_, h.signingKey, service.settings.signingKey.length_bytes⟩
      tokenKey := exists_tokenKey_iff.mp ⟨_, h.tokenKey, hvalid.tokenKey⟩
      lifetime := (exists_numbered_iff _ (by decide)).mp
        ⟨lifetime, hlifetime, positive_ofSeconds.mp (hduration ▸ hvalid.lifetime)⟩
      passwordLength := (exists_numbered_iff _ (by decide)).mp
        ⟨_, h.passwordLength, hvalid.passwordLength⟩
      pinLength := (exists_numbered_iff _ (by decide)).mp ⟨_, h.pinLength, hvalid.pinLength⟩
      superadminEmail := superadminEmail_iff.mp (h.superadmin ▸ hvalid.superadmin) }
  · intro h
    obtain ⟨encryptionKey, hencryption, hencryptionLength⟩ := h.encryptionKey
    obtain ⟨signingKey, hsigning, hsigningLength⟩ := h.signingKey
    obtain ⟨tokenKey, htoken, hpublic⟩ := exists_tokenKey_iff.mpr h.tokenKey
    obtain ⟨lifetime, hlifetime, hpositive⟩ :=
      (exists_numbered_iff (24 * 60 * 60) (by decide)).mpr h.lifetime
    obtain ⟨passwordLength, hpassword, hpasswordRange⟩ :=
      (exists_numbered_iff 24 (by decide)).mpr h.passwordLength
    obtain ⟨pinLength, hpin, hpinRange⟩ := (exists_numbered_iff 6 (by decide)).mpr h.pinLength
    have hcost : PasswordHashing.defaultCost.memory ≠ 0 ∧ PasswordHashing.defaultCost.passes ≠ 0 ∧
        PasswordHashing.defaultCost.lanes ≠ 0 := by decide
    have hdrafts : Drafts env {
      encryptionKey := ⟨encryptionKey, hencryptionLength⟩
      signingKey := ⟨signingKey, hsigningLength⟩
      tokenKey := tokenKey
      tokenLifetime := .ofSeconds lifetime
      audience := (env.value? "TESSERA_TOKEN_AUDIENCE").getD "tessera"
      passwordLength := passwordLength
      pinLength := pinLength
      bootstrapEnabled :=
        ((env.value? "TESSERA_BOOTSTRAP_ENABLED").map Environment.isTrue).getD true
      superadmin := ⟨(env.value? "TESSERA_SUPERADMIN_EMAIL").getD "superadmin@tessera.local",
        "superadmin", "Super Admin"⟩
      cost := PasswordHashing.defaultCost } :=
      ⟨hencryption, hsigning, htoken, ⟨lifetime, hlifetime, rfl⟩, rfl, hpassword, hpin,
        enabled_iff, rfl, rfl⟩
    refine ⟨⟨_, Settings.validate_eq_ok.mpr ?_⟩, hdrafts⟩
    exact {
      lifetime := positive_ofSeconds.mpr hpositive
      audience := audience_given
      passwordLength := hpasswordRange
      pinLength := hpinRange
      cost := hcost
      superadmin := superadminEmail_iff.mpr h.superadminEmail
      tokenKey := hpublic }

/-! ### Jobs -/

variable {command : Command}

/-- The database is named, and a command that touches users has settings to be made. -/
structure Prepared (command : Command) (env : Environment) : Prop where
  databaseUrl : ∃ url, Given env "DATABASE_URL" url
  settings : command ≠ .migrate → WellFormed env

/-- The settings that go with a command: none for a migration, or those of the environment. -/
def SettingsOf (command : Command) (env : Environment) : Option Settings.Accepted → Prop
  | none => command = .migrate
  | some service => command ≠ .migrate ∧ Drafts env service.settings

/-- The settings are made for a command that touches users. -/
def settingsFor (command : Command) (env : Environment) : Outcome (Option Settings.Accepted) :=
  if command.needsKeys then some <$> env.settings else pure none

theorem prepare_eq : Job.prepare command env = do
    let databaseUrl ← env.required "DATABASE_URL"
    let settings ← settingsFor command env
    return ⟨command, databaseUrl, settings⟩ := by
  cases command <;> rfl

theorem needsKeys_eq_true : command.needsKeys = true ↔ command ≠ .migrate := by
  cases command <;> decide

theorem settingsFor_eq_ok {settings : Option Settings.Accepted} :
    settingsFor command env = .ok settings ↔ SettingsOf command env settings := by
  unfold settingsFor
  split_ifs with hneeds
  · have hcommand := needsKeys_eq_true.mp hneeds
    rw [map_eq_pure_bind, Outcome.bind_eq_ok]
    cases settings with
    | none =>
      refine iff_of_false ?_ hcommand
      rintro ⟨_, -, ⟨⟩⟩
    | some service =>
      rw [SettingsOf, ← settings_eq_ok, and_iff_right hcommand]
      constructor
      · rintro ⟨_, h, ⟨⟩⟩
        exact h
      · exact fun h => ⟨service, h, rfl⟩
  · have hcommand : command = .migrate := not_not.mp fun h => hneeds (needsKeys_eq_true.mpr h)
    cases settings with
    | none => exact iff_of_true rfl hcommand
    | some service => exact iff_of_false nofun fun h => h.1 hcommand

theorem prepare_eq_ok {job : Job} : Job.prepare command env = .ok job ↔
    job.command = command ∧ Given env "DATABASE_URL" job.databaseUrl ∧
      SettingsOf command env job.settings := by
  simp only [prepare_eq, Outcome.bind_eq_ok, required_eq_ok, settingsFor_eq_ok]
  constructor
  · rintro ⟨url, hurl, settings, hsettings, ⟨⟩⟩
    exact ⟨rfl, hurl, hsettings⟩
  · rintro ⟨rfl, hurl, hsettings⟩
    exact ⟨_, hurl, _, hsettings, rfl⟩

/-- **There is a job** when the command is prepared. -/
theorem exists_job_iff : (∃ job, Job.prepare command env = .ok job) ↔ Prepared command env := by
  simp only [prepare_eq_ok]
  constructor
  · rintro ⟨⟨_, url, settings⟩, rfl, hurl, hsettings⟩
    refine ⟨⟨url, hurl⟩, fun hcommand => ?_⟩
    cases settings with
    | none => exact absurd hsettings hcommand
    | some service => exact exists_settings_iff.mp ⟨service, settings_eq_ok.mpr hsettings.2⟩
  · rintro ⟨⟨url, hurl⟩, hsettings⟩
    by_cases hcommand : command = .migrate
    · exact ⟨⟨command, url, none⟩, rfl, hurl, hcommand⟩
    · obtain ⟨service, hservice⟩ := exists_settings_iff.mpr (hsettings hcommand)
      exact ⟨⟨command, url, some service⟩, rfl, hurl, hcommand, settings_eq_ok.mp hservice⟩

theorem prepare_configOnly (command : Command) (env : Environment) :
    ConfigOnly (Job.prepare command env) := by
  rw [prepare_eq]
  refine .bind (required_configOnly env _) fun url => .bind ?_ fun _ => .pure _
  unfold settingsFor
  split_ifs
  · exact .map (settings_configOnly env) _
  · exact .pure _

/-- The variable that enables bootstrapping is left alone, or says "true" or "false". -/
def Decided (env : Environment) : Prop :=
  ∀ text, Given env "TESSERA_BOOTSTRAP_ENABLED" text → Says "true" text ∨ Says "false" text

/-- Nothing says "true" and "false" at once. -/
theorem not_says_both (htrue : Says "true" text) : ¬ Says "false" text := by
  intro hfalse
  cases htrue.symm.trans hfalse

theorem Drafts.disabled_iff {s : Settings} (h : Drafts env s) : s.bootstrapEnabled = false ↔
    ∃ text, Given env "TESSERA_BOOTSTRAP_ENABLED" text ∧ ¬ Says "true" text := by
  rw [← Bool.not_eq_true, h.enabled, Enabled]
  push Not
  rfl

/-- **Which environments give a job, and which job.**  All variables have to be well formed but
the one that enables bootstrapping, and every other environment is refused with an error of
the configuration.  Settings are valid and say what the variables say.  Bootstrapping is
disabled by every text that does not say "true"; the texts that say "false" are all of
them only where the variable is decided. -/
structure PreparesExactly (command : Command) (env : Environment) : Prop where
  accepts : (∃ job, Job.prepare command env = .ok job) ↔ Prepared command env
  refuses : ∀ e, Job.prepare command env = .error e → ∃ detail, e = .config detail
  job : ∀ job, Job.prepare command env = .ok job → job.command = command ∧
    Given env "DATABASE_URL" job.databaseUrl ∧ (job.settings = none ↔ command = .migrate)
  settings : ∀ job service, Job.prepare command env = .ok job → job.settings = some service →
    service.settings.validate = .ok () ∧ Drafts env service.settings
  disabled : ∀ job service, Job.prepare command env = .ok job → job.settings = some service →
    (service.settings.bootstrapEnabled = false ↔
      ∃ text, Given env "TESSERA_BOOTSTRAP_ENABLED" text ∧ ¬ Says "true" text)
  decided : Decided env → ∀ job service, Job.prepare command env = .ok job →
    job.settings = some service → (service.settings.bootstrapEnabled = false ↔
      ∃ text, Given env "TESSERA_BOOTSTRAP_ENABLED" text ∧ Says "false" text)

theorem prepare_exact (command : Command) (env : Environment) : PreparesExactly command env := by
  have hdrafts : ∀ {job : Job} {service}, Job.prepare command env = .ok job →
      job.settings = some service → Drafts env service.settings := by
    intro job service hjob hservice
    obtain ⟨-, -, hsettings⟩ := prepare_eq_ok.mp hjob
    rw [hservice] at hsettings
    exact hsettings.2
  exact {
    accepts := exists_job_iff
    refuses := prepare_configOnly command env
    job := by
      intro job hjob
      obtain ⟨hcommand, hurl, hsettings⟩ := prepare_eq_ok.mp hjob
      refine ⟨hcommand, hurl, ?_⟩
      cases hs : job.settings with
      | none =>
        rw [hs] at hsettings
        exact iff_of_true rfl hsettings
      | some service =>
        rw [hs] at hsettings
        exact iff_of_false nofun hsettings.1
    settings := fun job service hjob hservice => ⟨service.valid, hdrafts hjob hservice⟩
    disabled := fun job service hjob hservice => (hdrafts hjob hservice).disabled_iff
    decided := by
      intro hdecided job service hjob hservice
      rw [(hdrafts hjob hservice).disabled_iff]
      constructor
      · exact fun ⟨text, hgiven, hnot⟩ => ⟨text, hgiven, (hdecided text hgiven).resolve_left hnot⟩
      · exact fun ⟨text, hgiven, hfalse⟩ => ⟨text, hgiven, fun h => not_says_both h hfalse⟩ }

/-- An environment that gives two keys, and a text that may enable bootstrapping. -/
def sampleEnvironment (enabled : String) : Environment where
  get?
    | "DATABASE_URL" => some "postgres://localhost/tessera"
    | "TESSERA_ENCRYPTION_KEY" => some (Hex.encode (List.replicate 32 0xAB))
    | "TESSERA_SIGNING_KEY" => some " CDCDCDCDCDCDCDCDCDCDCDCDCDCDCDCDCDCDCDCDCDCDCDCDCDCDCDCDCDCDCDCD"
    | "TESSERA_TOKEN_TTL_SECONDS" => some "+0900 "
    | "TESSERA_BOOTSTRAP_ENABLED" => some enabled
    | _ => none

theorem prepared_sample (command : Command) (enabled : String) :
    Prepared command (sampleEnvironment enabled) where
  databaseUrl := ⟨_, rfl, by decide⟩
  settings _ := {
    encryptionKey := ⟨List.replicate 32 0xAB, ⟨_, ⟨rfl, by decide⟩, by decide⟩, rfl⟩
    signingKey := ⟨List.replicate 32 0xCD, ⟨_, ⟨rfl, by decide⟩, by decide⟩, rfl⟩
    tokenKey := fun text h => by cases h.value
    lifetime := by
      rintro text ⟨hvalue, -⟩
      cases hvalue
      exact ⟨900, ⟨⟨['0', '9', '0', '0'], .inr (by decide), nofun, by simp, rfl⟩, by decide⟩,
        by decide⟩
    passwordLength := fun text h => by cases h.value
    pinLength := fun text h => by cases h.value
    superadminEmail := fun text h => by cases h.value }

/-- Here "TRUE" enables bootstrapping, and "False" disables it. -/
theorem prepare_exact_sample :
    (∃ job service, Job.prepare .bootstrap (sampleEnvironment "TRUE") = .ok job ∧
        job.settings = some service ∧ service.settings.bootstrapEnabled = true) ∧
      ∃ job service, Job.prepare .seed (sampleEnvironment "False") = .ok job ∧
        job.settings = some service ∧ service.settings.bootstrapEnabled = false := by
  have hexists : ∀ command enabled, command ≠ .migrate → ∃ job service,
      Job.prepare command (sampleEnvironment enabled) = .ok job ∧ job.settings = some service := by
    intro command enabled hcommand
    have h := prepare_exact command (sampleEnvironment enabled)
    obtain ⟨job, hjob⟩ := h.accepts.mpr (prepared_sample command enabled)
    obtain ⟨service, hservice⟩ := Option.ne_none_iff_exists'.mp
      (mt (h.job job hjob).2.2.mp hcommand)
    exact ⟨job, service, hjob, hservice⟩
  constructor
  · obtain ⟨job, service, hjob, hservice⟩ := hexists .bootstrap "TRUE" nofun
    refine ⟨job, service, hjob, hservice, ?_⟩
    rw [← Bool.not_eq_false, (prepare_exact _ _).disabled job service hjob hservice]
    rintro ⟨text, ⟨hvalue, -⟩, hnot⟩
    cases hvalue
    exact hnot (by decide)
  · obtain ⟨job, service, hjob, hservice⟩ := hexists .seed "False" nofun
    refine ⟨job, service, hjob, hservice, ?_⟩
    exact ((prepare_exact _ _).disabled job service hjob hservice).mpr
      ⟨"False", ⟨rfl, by decide⟩, by decide⟩

/-- A text that says neither "true" nor "false" is not refused. -/
theorem prepare_undecided : ¬ Says "true" "yes" ∧ ¬ Says "false" "yes" ∧
    ∃ job service, Job.prepare .bootstrap (sampleEnvironment "yes") = .ok job ∧
      job.settings = some service ∧ service.settings.bootstrapEnabled = false := by
  refine ⟨by decide, by decide, ?_⟩
  obtain ⟨⟨command, url, settings⟩, hjob⟩ := exists_job_iff.mpr (prepared_sample .bootstrap "yes")
  obtain ⟨rfl, -, hsettings⟩ := prepare_eq_ok.mp hjob
  cases settings with
  | none => cases hsettings
  | some service =>
    refine ⟨_, service, hjob, rfl, hsettings.2.disabled_iff.mpr ?_⟩
    exact ⟨"yes", ⟨rfl, by decide⟩, by decide⟩

end Identity.Operator
