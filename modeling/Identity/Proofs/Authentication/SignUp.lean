/-
Identity/Proofs/Authentication/SignUp.lean

When signing up succeeds.

A registration is accepted whenever its parts are well formed and nobody has
its address, its name or the identifier that is drawn, given enough random
bytes and a password cost that is in range.
-/
import Identity.Proofs.Authentication.Specifications

namespace Identity.Authentication

open Crypto Operation

variable {s : Settings} {store : Store} {entropy : Entropy}

/-- Sealing draws a nonce. -/
theorem sealValue_draws (text : String) (h : Gcm.nonceLength ≤ entropy.tape.length) :
    (sealValue s text).Draws entropy fun v rest =>
      v.lookup = lookup s text ∧ rest = ⟨entropy.tape.drop Gcm.nonceLength⟩ := by
  have hraw := Sealing.encryptRaw_eq_ok s.encryptionKey.length_bytes h (Bytes.ofText text)
  refine .bind (P := fun _ rest => rest = ⟨entropy.tape.drop Gcm.nonceLength⟩) (.draw hraw rfl) ?_
  rintro raw rest rfl
  exact .pure ⟨rfl, rfl⟩

theorem sealValue_succeeds (text : String) (h : Gcm.nonceLength ≤ entropy.tape.length) :
    (sealValue s text).Succeeds entropy store fun v rest after =>
      v.lookup = lookup s text ∧ rest = ⟨entropy.tape.drop Gcm.nonceLength⟩ ∧ after = store :=
  (sealValue_draws text h).succeeds.mono fun _ _ _ hdone => and_assoc.mp hdone

/-- Hashing draws a salt. -/
theorem hashPassword_draws (password : String) (hcost : s.cost.check = .ok ())
    (h : Generated.saltLength ≤ entropy.tape.length) :
    (hashPassword s password).Draws entropy fun _ rest =>
      rest = ⟨entropy.tape.drop Generated.saltLength⟩ := by
  have hlength : (entropy.tape.take Generated.saltLength).length = PasswordHashing.saltLength :=
    List.length_take_of_le h
  refine .bind (P := fun salt rest => salt.length = PasswordHashing.saltLength ∧
    rest = ⟨entropy.tape.drop Generated.saltLength⟩) (.draw (Draw.bytes_eq_ok h) ⟨hlength, rfl⟩) ?_
  rintro salt rest ⟨hsalt, rfl⟩
  have hhash : HashOf s password ⟨_, salt⟩ := PasswordHashing.hash_eq_ok password hsalt hcost
  exact .ofOutcome (passwordHash_eq_ok.mpr ⟨hhash, rfl⟩) rfl

theorem hashPassword_succeeds (password : String) (hcost : s.cost.check = .ok ())
    (h : Generated.saltLength ≤ entropy.tape.length) :
    (hashPassword s password).Succeeds entropy store fun _ rest after =>
      rest = ⟨entropy.tape.drop Generated.saltLength⟩ ∧ after = store :=
  (hashPassword_draws password hcost h).succeeds

theorem freshUuid_draws (h : 16 ≤ entropy.tape.length) :
    freshUuid.Draws entropy fun u _ => u = Uuid.ofRandomBytes (entropy.tape.take 16) :=
  .draw (Draw.uuid_eq_ok h) rfl

theorem freshUuid_succeeds (h : 16 ≤ entropy.tape.length) :
    freshUuid.Succeeds entropy store fun u _ after =>
      u = Uuid.ofRandomBytes (entropy.tape.take 16) ∧ after = store :=
  (freshUuid_draws h).succeeds

theorem ensureAbsent_succeeds {c : Call} {conflict : Error}
    (h : store.respond c = (.error .userNotFound, store)) :
    (ensureAbsent c conflict).Succeeds entropy store fun _ rest after =>
      rest = entropy ∧ after = store :=
  ⟨(), entropy, store, run_ensureAbsent_of_absent h, rfl, rfl⟩

theorem createUser_succeeds {user : User}
    (h : ∀ stored ∈ store.users, Store.UsersApart stored user) :
    (call (.createUser user)).Succeeds entropy store fun answer _ after =>
      answer = user ∧ after = { store with users := store.users ++ [user] } := by
  have hcreate : store.createUser user =
      .ok (user, { store with users := store.users ++ [user] }) :=
    Store.createUser_eq_ok.mpr ⟨h, rfl, rfl⟩
  refine .call (a := user) ?_ ⟨rfl, rfl⟩
  rw [Store.respond, hcreate]
  rfl

/-! ### Signing up -/

/-- The identifier that signing up draws. -/
def drawnId (entropy : Entropy) : UserId :=
  ⟨Uuid.ofRandomBytes ((entropy.tape.drop (Gcm.nonceLength + Generated.saltLength)).take 16)⟩

/-- **Signing up succeeds** for a well-formed registration that clashes with nobody. -/
theorem signUp_succeeds (service : Settings.Accepted) (r : Registration) (now : Timestamp)
    (hvalid : r.normalized.validate = .ok ()) (hcost : service.settings.cost.check = .ok ())
    (htape : Gcm.nonceLength + Generated.saltLength + 16 ≤ entropy.tape.length)
    (hemail : ∀ user ∈ store.users,
      user.email.lookup ≠ lookup service.settings (Email.normalize r.email))
    (husername : ∀ user ∈ store.users, user.username ≠ Username.normalize r.username)
    (hid : ∀ user ∈ store.users, user.id ≠ drawnId entropy) :
    (signUp service r now).Succeeds entropy store fun user _ after =>
      user.id = drawnId entropy ∧ user.username = Username.normalize r.username ∧
        after = { store with users := store.users ++ [user] } := by
  unfold signUp
  -- nothing is drawn before the registration has passed all checks
  refine .bind (P := fun _ rest after => rest = entropy ∧ after = store)
    (.ofOutcome hvalid ⟨rfl, rfl⟩) ?_
  rintro _ rest after ⟨hrest, hafter⟩
  rw [hrest, hafter]
  refine .bind (ensureAbsent_succeeds (respond_findUserByEmail_of_absent hemail)) ?_
  rintro _ rest after ⟨hrest, hafter⟩
  rw [hrest, hafter]
  refine .bind (ensureAbsent_succeeds (respond_findUserByUsername_of_absent husername)) ?_
  rintro _ rest after ⟨hrest, hafter⟩
  rw [hrest, hafter]
  -- a nonce, a salt and an identifier, in this order
  refine .bind (sealValue_succeeds _ (by omega)) ?_
  rintro email _ _ ⟨hlookup, rfl, rfl⟩
  refine .bind (hashPassword_succeeds _ hcost ?_) ?_
  · rw [List.length_drop]
    omega
  rintro password _ _ ⟨rfl, rfl⟩
  refine .bind (freshUuid_succeeds ?_) ?_
  · rw [List.length_drop, List.length_drop]
    omega
  rintro fresh _ _ ⟨hfresh, rfl⟩
  have hdrawn : drawnId entropy = ⟨fresh⟩ := by
    rw [hfresh, drawnId, List.drop_drop]
  rw [hdrawn] at hid ⊢
  -- the store checks the record once more, now with its identifier
  refine (createUser_succeeds fun stored hs => ?_).mono ?_
  rotate_left
  · rintro user _ after ⟨rfl, hafter⟩
    exact ⟨rfl, Username.normalize_normalize r.username, hafter⟩
  exact {
    id := hid stored hs
    email := hlookup ▸ hemail stored hs
    username := by
      have h := husername stored hs
      rw [← Username.normalize_normalize r.username] at h
      exact h
    pin := by nofun }

/-! ### A first user -/

/-- A service with the usual policies, under keys of zeros. -/
def plainService : Settings.Accepted where
  settings := .standard ⟨List.replicate 32 0, rfl⟩ ⟨List.replicate 32 0, rfl⟩
  valid := by decide +kernel

/-- As many random bytes as signing up takes. -/
def plainEntropy : Entropy := ⟨List.replicate 60 0⟩

/-- A registration with an address and a name that are not in canonical form. -/
def alice : Registration := ⟨" Alice@Example.org", "Correct1!", "Alice", "Alice "⟩

/-- The first user of a store signs up. -/
theorem signUp_first (service : Settings.Accepted)
    (hcost : service.settings.cost.check = .ok ()) :
    (signUp service alice .epoch).Succeeds plainEntropy .empty fun user _ after =>
      user.id = drawnId plainEntropy ∧ after.users = [user] ∧
        Fresh service.settings alice.email alice.password user := by
  have hsucceeds : (signUp service alice .epoch).Succeeds plainEntropy .empty
      fun user _ after => user.id = drawnId plainEntropy ∧
        user.username = Username.normalize alice.username ∧
          after = { Store.empty with users := [] ++ [user] } :=
    signUp_succeeds service alice .epoch (by decide +kernel) hcost (by decide)
      (by nofun) (by nofun) (by nofun)
  obtain ⟨user, rest, after, hrun, ⟨hid, -, hafter⟩, -, -, hfresh⟩ :=
    hsucceeds.and_yields (signUp_yields service alice .epoch)
  exact ⟨user, rest, after, hrun, hid, by rw [hafter]; rfl, hfresh⟩

theorem signUp_alice :
    (signUp plainService alice .epoch).Succeeds plainEntropy .empty fun user _ after =>
      after.users = [user] ∧ Fresh plainService.settings alice.email alice.password user :=
  (signUp_first plainService (by decide +kernel)).mono fun _ _ _ h => h.2

end Identity.Authentication
