/-
Identity/Proofs/Settings.lean

What settings are like that break no rule.
-/
import Identity.Proofs.Outcome
import Identity.Settings

namespace Identity

namespace Settings

/-! ### Accepted settings -/

/-- A superadmin whose canonical address and names are well formed. -/
structure GoodSuperadmin (superadmin : Superadmin) : Prop where
  email : Email.validate (Email.normalize superadmin.email) = .ok ()
  username : Username.validate (Username.normalize superadmin.username) = .ok ()
  name : DisplayName.validate (DisplayName.normalize superadmin.name) = .ok ()

theorem checkSuperadmin_eq_ok {superadmin : Superadmin} :
    checkSuperadmin superadmin = .ok () ↔ GoodSuperadmin superadmin := by
  unfold checkSuperadmin about
  simp only [Outcome.bind_eq_ok, Outcome.mapError_eq_ok]
  constructor
  · rintro ⟨_, hemail, _, husername, hname⟩
    exact ⟨hemail, husername, hname⟩
  · rintro ⟨hemail, husername, hname⟩
    exact ⟨(), hemail, (), husername, hname⟩

theorem discard_eq_ok {α : Type} {outcome : Outcome α} :
    discard outcome = .ok () ↔ ∃ a, outcome = .ok a := by
  cases outcome with
  | error e => exact iff_of_false nofun nofun
  | ok a => exact iff_of_true rfl ⟨a, rfl⟩

theorem publicKeyOf_eq_ok {key : Key Token.privateKeyLength} {publicKey : Bytes} :
    publicKeyOf key = .ok publicKey ↔ Token.publicKey key.bytes = .ok publicKey :=
  Outcome.mapError_eq_ok

/-- Policies in range and keys that can be used. -/
structure Valid (s : Settings) : Prop where
  lifetime : s.tokenLifetime.nanos ≠ 0
  audience : Text.isBlank s.audience = false
  passwordLength : minPasswordLength ≤ s.passwordLength ∧ s.passwordLength ≤ Password.maxLength
  pinLength : Pin.minLength ≤ s.pinLength ∧ s.pinLength ≤ Pin.maxLength
  cost : s.cost.memory ≠ 0 ∧ s.cost.passes ≠ 0 ∧ s.cost.lanes ≠ 0
  superadmin : GoodSuperadmin s.superadmin
  tokenKey : ∀ key, s.tokenKey = some key → ∃ publicKey, Token.publicKey key.bytes = .ok publicKey

/-- Settings break no rule when they are valid. -/
theorem validate_eq_ok {s : Settings} : s.validate = .ok () ↔ s.Valid := by
  unfold validate
  simp only [Outcome.unless_eq_ok, Outcome.bind_eq_ok, not_or, Nat.not_lt, Bool.not_eq_true]
  constructor
  · rintro ⟨hlifetime, haudience, hpassword, hpin, hcost, _, hsuperadmin, hkey⟩
    refine ⟨hlifetime, haudience, hpassword, hpin, hcost,
      checkSuperadmin_eq_ok.mp hsuperadmin, fun key hsome => ?_⟩
    rw [hsome] at hkey
    obtain ⟨publicKey, hpublic⟩ := discard_eq_ok.mp hkey
    exact ⟨publicKey, publicKeyOf_eq_ok.mp hpublic⟩
  · intro h
    refine ⟨h.lifetime, h.audience, h.passwordLength, h.pinLength, h.cost, (),
      checkSuperadmin_eq_ok.mpr h.superadmin, ?_⟩
    cases hsome : s.tokenKey with
    | none => rfl
    | some key =>
      obtain ⟨publicKey, hpublic⟩ := h.tokenKey key hsome
      exact discard_eq_ok.mpr ⟨publicKey, publicKeyOf_eq_ok.mpr hpublic⟩

theorem Accepted.isValid (service : Accepted) : service.settings.Valid :=
  validate_eq_ok.mp service.valid

theorem Accepted.passwordLength (service : Accepted) :
    minPasswordLength ≤ service.settings.passwordLength ∧
      service.settings.passwordLength ≤ Password.maxLength :=
  service.isValid.passwordLength

theorem Accepted.pinLength (service : Accepted) :
    Pin.minLength ≤ service.settings.pinLength ∧ service.settings.pinLength ≤ Pin.maxLength :=
  service.isValid.pinLength

/-- Of a cost it is only asked that no part of it is zero. -/
theorem Accepted.cost (service : Accepted) :
    service.settings.cost.memory ≠ 0 ∧ service.settings.cost.passes ≠ 0 ∧
      service.settings.cost.lanes ≠ 0 :=
  service.isValid.cost

theorem Accepted.superadmin (service : Accepted) : GoodSuperadmin service.settings.superadmin :=
  service.isValid.superadmin

/-- Settings are accepted when they are valid, and left as they are. -/
theorem accept_eq_ok {s : Settings} {service : Accepted} :
    s.accept = .ok service ↔ service.settings = s := by
  unfold accept
  split
  · next hvalid =>
    rw [Except.ok.injEq]
    constructor
    · rintro rfl
      rfl
    · rintro rfl
      rfl
  · next e herror =>
    refine iff_of_false nofun ?_
    rintro rfl
    cases herror.symm.trans service.valid

/-! ### Token keys -/

/-- The token key of accepted settings has a public key. -/
theorem Accepted.exists_publicKey (service : Accepted) {key : Key Token.privateKeyLength}
    (hkey : service.settings.tokenKey = some key) :
    ∃ publicKey, Token.publicKey key.bytes = .ok publicKey ∧
      service.settings.publicKey = .ok publicKey := by
  obtain ⟨publicKey, hpublic⟩ := service.isValid.tokenKey key hkey
  refine ⟨publicKey, hpublic, ?_⟩
  rw [Settings.publicKey, hkey]
  exact publicKeyOf_eq_ok.mpr hpublic

/-- Accepted settings are accepted with any token key that has a public key. -/
def Accepted.withTokenKey (service : Accepted) (key : Key Token.privateKeyLength)
    {publicKey : Bytes} (h : Token.publicKey key.bytes = .ok publicKey) : Accepted where
  settings := { service.settings with tokenKey := some key }
  valid := by
    refine validate_eq_ok.mpr { service.isValid with tokenKey := ?_ }
    rintro _ ⟨⟩
    exact ⟨publicKey, h⟩

/-- Accepted settings are accepted with any lifetime of tokens but zero. -/
def Accepted.withLifetime (service : Accepted) (lifetime : Duration) (h : lifetime.nanos ≠ 0) :
    Accepted where
  settings := { service.settings with tokenLifetime := lifetime }
  valid := validate_eq_ok.mpr { service.isValid with lifetime := h }

end Settings

end Identity
