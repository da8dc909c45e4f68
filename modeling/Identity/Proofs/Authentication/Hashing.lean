/-
Identity/Proofs/Authentication/Hashing.lean

Which settings can store passwords.

Settings are accepted with every cost of which no part is zero, and hashing asks
for more: eight units of memory for each lane, and not too many lanes
(`Argon2.Cost.Affordable`).  A service that runs on any other cost hashes no
password at all.  Whoever signs up learns this when everything else is in order,
and so does whoever makes sure of the superadmin.

Main result: `storing_exact`.
-/
import Identity.Proofs.Authentication.Superadmin

namespace Identity.Authentication

open Crypto Operation

variable {s : Settings} {service : Settings.Accepted} {store : Store} {entropy rest : Entropy}

/-! ### Hashing -/

/-- Accepted settings leave nothing to check but whether the cost is affordable. -/
theorem check_eq_ok_iff (service : Settings.Accepted) :
    service.settings.cost.check = .ok () ↔ service.settings.cost.Affordable := by
  rw [Argon2.Cost.check_eq_ok]
  exact and_iff_left service.cost.2

/-- Hashing fails without bytes for a salt, and at a cost that is not affordable. -/
theorem hashPassword_failsAs (service : Settings.Accepted) (password : String) :
    (hashPassword service.settings password).FailsAs .passwordHashFailed entropy store ↔
      entropy.tape.length < Generated.saltLength ∨ ¬ service.settings.cost.Affordable := by
  rcases Nat.lt_or_ge entropy.tape.length Generated.saltLength with hshort | hlong
  · have hsalt : Generated.salt entropy = .error Draw.exhausted := Draw.bytes_eq_error hshort
    rw [hashPassword, failsAs_bind_of_error (run_draw_of_error hsalt)]
    exact iff_of_true rfl (.inl hshort)
  · have hdrawn : Generated.salt entropy = .ok (entropy.tape.take Generated.saltLength,
        ⟨entropy.tape.drop Generated.saltLength⟩) := Draw.bytes_eq_ok hlong
    have hsalt : (entropy.tape.take Generated.saltLength).length = PasswordHashing.saltLength :=
      List.length_take_of_le hlong
    rw [hashPassword, failsAs_bind_of_ok (run_draw_of_ok hdrawn), failsAs_ofOutcome,
      or_iff_right (Nat.not_lt.mpr hlong), ← check_eq_ok_iff,
      ← PasswordHashing.exists_hash_iff password hsalt, passwordHash]
    cases PasswordHashing.hash password (entropy.tape.take Generated.saltLength)
        service.settings.cost with
    | error fault => exact iff_of_true ⟨_, rfl, rfl⟩ nofun
    | ok digest => exact iff_of_false nofun (not_not.mpr ⟨digest, rfl⟩)

/-! ### Accounts -/

/-- The random bytes suffice to seal an address, and then a password cannot be hashed: there
is no salt, or the cost is not affordable. -/
def HashingFails (cost : Argon2.Cost) (entropy : Entropy) : Prop :=
  Gcm.nonceLength ≤ entropy.tape.length ∧
    (entropy.tape.length < Gcm.nonceLength + Generated.saltLength ∨ ¬ cost.Affordable)

theorem run_sealValue_of_short (text : String) (h : entropy.tape.length < Gcm.nonceLength) :
    (sealValue s text).run entropy store =
      (.error (.encryptionFailed Draw.exhausted.message), entropy, store) :=
  run_bind_of_error (run_draw_of_error
    (Sealing.encryptRaw_eq_error s.encryptionKey.length_bytes h (Bytes.ofText text)))

/-- An account is drawn from a sealed address and a hashed password, and the rest of what is
done with them does not hash. -/
theorem sealed_hashed_failsAs {α : Type} (service : Settings.Accepted) (email password : String)
    {f : SealedValue → PasswordHash → Operation α}
    (hf : ∀ v hash, (f v hash).Avoids .passwordHashFailed) :
    (do let v ← sealValue service.settings email
        let hash ← hashPassword service.settings password
        f v hash).FailsAs .passwordHashFailed entropy store ↔
      HashingFails service.settings.cost entropy := by
  rw [HashingFails]
  rcases Nat.lt_or_ge entropy.tape.length Gcm.nonceLength with hshort | hlong
  · rw [failsAs_bind_of_error (run_sealValue_of_short email hshort)]
    exact iff_of_false nofun fun h => absurd h.1 (Nat.not_le.mpr hshort)
  · have hsealed : (sealValue service.settings email).Succeeds entropy store fun _ rest after =>
        rest = ⟨entropy.tape.drop Gcm.nonceLength⟩ ∧ after = store :=
      (sealValue_succeeds email hlong).mono fun _ _ _ h => h.2
    obtain ⟨v, rest, after, hr, rfl, rfl⟩ := hsealed
    rw [failsAs_bind_of_ok hr, failsAs_bind_of_avoids (hf v), hashPassword_failsAs,
      and_iff_right hlong, List.length_drop, Nat.sub_lt_iff_lt_add hlong, Nat.add_comm]

/-- No store replies that a password cannot be hashed. -/
theorem respond_avoids_passwordHashFailed (store : Store) (c : Call) :
    Outcome.Avoids .passwordHashFailed (store.respond c).1 := by
  intro e he hkind
  rcases Store.kind_of_refused he with h | h <;> rw [hkind] at h <;> cases h

/-! ### Signing up -/

/-- A well-formed registration that clashes with nobody who is stored. -/
structure Registrable (s : Settings) (store : Store) (r : Registration) : Prop where
  valid : r.normalized.validate = .ok ()
  email : ∀ user ∈ store.users, user.email.lookup ≠ lookup s (Email.normalize r.email)
  username : ∀ user ∈ store.users, user.username ≠ Username.normalize r.username

/-- Who could sign up is turned away for the password exactly when it cannot be hashed. -/
theorem signUp_failsAs {r : Registration} (h : Registrable service.settings store r)
    (now : Timestamp) : (signUp service r now).FailsAs .passwordHashFailed entropy store ↔
      HashingFails service.settings.cost entropy := by
  have hemail : store.respond (.findUserByEmail (lookup service.settings r.normalized.email)) =
      (.error .userNotFound, store) :=
    respond_findUserByEmail_of_absent h.email
  have husername : store.respond (.findUserByUsername r.normalized.username) =
      (.error .userNotFound, store) :=
    respond_findUserByUsername_of_absent h.username
  unfold signUp
  rw [failsAs_bind_of_ok (run_ofOutcome_of h.valid),
    failsAs_bind_of_ok (run_ensureAbsent_of_absent hemail),
    failsAs_bind_of_ok (run_ensureAbsent_of_absent husername)]
  refine sealed_hashed_failsAs service _ _ fun v hash => ?_
  refine NeverRaises.avoids ?_ respond_avoids_passwordHashFailed
  exact (freshUuid_neverRaises (by decide)).bind fun _ => NeverRaises.call

/-! ### Making sure of the superadmin -/

/-- Nobody has the address of the superadmin. -/
def SuperadminAbsent (s : Settings) (store : Store) : Prop :=
  ∀ user ∈ store.users, user.email.lookup ≠ superadminLookup s

theorem draftSuperadmin_failsAs (service : Settings.Accepted) (password : String)
    (now : Timestamp) :
    (draftSuperadmin service.settings password now).FailsAs .passwordHashFailed entropy store ↔
      HashingFails service.settings.cost entropy :=
  sealed_hashed_failsAs service _ _ fun _ _ =>
    ((freshUuid_neverRaises (by decide)).bind fun _ => .pure).avoids
      respond_avoids_passwordHashFailed

/-- A superadmin who is missing is not created exactly when the password that is drawn cannot
be hashed. -/
theorem bootstrap_failsAs (henabled : service.settings.bootstrapEnabled = true)
    (habsent : SuperadminAbsent service.settings store) (now : Timestamp) :
    (bootstrap service now).FailsAs .passwordHashFailed entropy store ↔
      ∃ password rest,
        Generated.password service.settings.passwordLength entropy = .ok (password, rest) ∧
          HashingFails service.settings.cost rest := by
  have hfind : store.users.find? (·.email.lookup == superadminLookup service.settings) = none :=
    List.find?_eq_none.mpr fun user hu => by simp [habsent user hu]
  have hfound : (findUser? (superadminLookup service.settings)).run entropy store =
      (.ok none, entropy, store) := by
    rw [run_findUser?, hfind]
  have hready : ¬ (!service.settings.bootstrapEnabled) = true := by
    rw [henabled]
    nofun
  rw [bootstrap_eq]
  refine (failsAs_bind_of_ok hfound).trans ?_
  dsimp only
  rw [if_neg hready]
  cases hdrawn : Generated.password service.settings.passwordLength entropy with
  | error fault =>
    have hpassword : (drawPassword service.settings).run entropy store = (.error (.internal
        ("failed to generate password: " ++ fault.message)), entropy, store) :=
      run_bind_of_error (run_draw_of_error hdrawn)
    rw [failsAs_bind_of_error hpassword]
    exact iff_of_false nofun (by nofun)
  | ok drawn =>
    obtain ⟨password, rest⟩ := drawn
    have hdraws : (drawPassword service.settings).Succeeds entropy store fun drawn left after =>
        (drawn = password ∧ left = rest) ∧ after = store :=
      (drawPassword_draws service hdrawn).succeeds
    obtain ⟨drawn, left, after, hpassword, ⟨rfl, rfl⟩, rfl⟩ := hdraws
    rw [failsAs_bind_of_ok hpassword]
    rw [failsAs_bind_of_avoids fun user =>
      (addSuperadmin_neverRaises _ _ user).avoids respond_avoids_passwordHashFailed,
      draftSuperadmin_failsAs]
    constructor
    · exact fun h => ⟨drawn, left, rfl, h⟩
    · rintro ⟨_, _, ⟨⟩, h⟩
      exact h

/-! ### Storing passwords -/

/-- **Which settings can store passwords.**  Under a salt of the right length a password has
a digest exactly when the cost is affordable.  In every store, somebody who could sign up
and a superadmin who is missing are turned away for the password exactly when the cost is
not affordable, or there are no random bytes for a salt. -/
structure StoringExact (service : Settings.Accepted) : Prop where
  hash : ∀ (password : String) (salt : Bytes), salt.length = PasswordHashing.saltLength →
    ((∃ digest, PasswordHashing.hash password salt service.settings.cost = .ok digest) ↔
      service.settings.cost.Affordable)
  signUp : ∀ (store : Store) (r : Registration), Registrable service.settings store r →
    ∀ (now : Timestamp) (entropy : Entropy),
      (signUp service r now).FailsAs .passwordHashFailed entropy store ↔
        HashingFails service.settings.cost entropy
  bootstrap : service.settings.bootstrapEnabled = true →
    ∀ store : Store, SuperadminAbsent service.settings store →
      ∀ (now : Timestamp) (entropy : Entropy),
        (bootstrap service now).FailsAs .passwordHashFailed entropy store ↔
          ∃ password rest,
            Generated.password service.settings.passwordLength entropy = .ok (password, rest) ∧
              HashingFails service.settings.cost rest

theorem storing_exact (service : Settings.Accepted) : StoringExact service where
  hash password _ hsalt :=
    (PasswordHashing.exists_hash_iff password hsalt).trans (check_eq_ok_iff service)
  signUp _ _ h now _ := signUp_failsAs h now
  bootstrap henabled _ habsent now _ := bootstrap_failsAs henabled habsent now

/-- Alice can sign up as the first user of any service. -/
theorem registrable_alice (s : Settings) : Registrable s .empty alice :=
  ⟨by decide +kernel, by nofun, by nofun⟩

/-- The superadmin is missing at first. -/
theorem superadminAbsent_empty (s : Settings) : SuperadminAbsent s .empty := by nofun

theorem affordable_plain : plainService.settings.cost.Affordable :=
  ⟨by decide, by decide, by decide⟩

theorem storing_exact_plain :
    (∃ digest, PasswordHashing.hash alice.password (List.replicate 32 0)
        plainService.settings.cost = .ok digest) ∧
      ¬ (signUp plainService alice .epoch).FailsAs .passwordHashFailed plainEntropy .empty ∧
      ¬ (bootstrap plainService .epoch).FailsAs .passwordHashFailed (twoStarters true).entropy
        .empty := by
  have h := storing_exact plainService
  have hsupplied : (twoStarters true).Supplied plainService.settings := by
    unfold Starter.Supplied
    decide +kernel
  refine ⟨(h.hash _ _ rfl).mpr affordable_plain, fun hfails => ?_, fun hfails => ?_⟩
  · have hhashing := (h.signUp .empty alice (registrable_alice _) .epoch plainEntropy).mp hfails
    exact hhashing.2.elim (by decide) (not_not.mpr affordable_plain)
  · obtain ⟨password, rest, hdrawn, hhashing⟩ :=
      (h.bootstrap rfl .empty (superadminAbsent_empty _) .epoch _).mp hfails
    obtain ⟨-, hleft⟩ := hsupplied
    rw [Starter.left, hdrawn] at hleft
    dsimp only at hleft
    exact hhashing.2.elim (fun hshort => by omega) (not_not.mpr affordable_plain)

/-- A service with less memory than a single lane needs. -/
def scantService : Settings.Accepted where
  settings := { plainService.settings with cost := ⟨1, 1, 1⟩ }
  valid := by decide +kernel

theorem scantService_hashes_nothing :
    PasswordHashing.hash alice.password (List.replicate 32 0) scantService.settings.cost =
        .error (.passwordHash "memory cost is too small") ∧
      (signUp scantService alice .epoch).FailsAs .passwordHashFailed plainEntropy .empty ∧
      (bootstrap scantService .epoch).FailsAs .passwordHashFailed (twoStarters true).entropy
        .empty := by
  have hscant : ¬ scantService.settings.cost.Affordable := fun h => absurd h.least (by decide)
  have hsupplied : (twoStarters true).Supplied scantService.settings := by
    unfold Starter.Supplied
    decide +kernel
  obtain ⟨password, hdrawn⟩ := hsupplied.exists_password
  refine ⟨by decide, ?_, ?_⟩
  · exact (signUp_failsAs (registrable_alice _) .epoch).mpr ⟨by decide, .inr hscant⟩
  · exact (bootstrap_failsAs rfl (superadminAbsent_empty _) .epoch).mpr
      ⟨password, _, hdrawn, le_trans (by decide) hsupplied.2, .inr hscant⟩

end Identity.Authentication
