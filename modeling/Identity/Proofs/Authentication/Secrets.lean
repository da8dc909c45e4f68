/-
Identity/Proofs/Authentication/Secrets.lean

What the building blocks of the authentication service answer.

Each of them reads at most, so their specifications say that the store is the
same afterwards and what is known of the answer.  Sealing is the important
one: the sealed value opens to the text whose digest goes with it (`Opens`).
-/
import Identity.Authentication.Secrets
import Identity.Proofs.Crypto.PasswordHashing
import Identity.Proofs.Crypto.Sealing
import Identity.Proofs.Operation
import Identity.Proofs.Store.Invariant

namespace Identity.Authentication

open Crypto

variable {s : Settings} {store : Store}

/-! ### Sealed texts -/

/-- The sealed value opens to a text, and can be looked up by that text. -/
structure Opens (s : Settings) (v : SealedValue) (text : String) : Prop where
  reveal : reveal s v = .ok text
  lookup : v.lookup = lookup s text

theorem opens_sealWith {nonce : Bytes} (hnonce : nonce.length = Gcm.nonceLength) (text : String) :
    let raw := Sealing.sealWith s.encryptionKey.bytes nonce (Bytes.ofText text)
    Opens s ⟨raw.ciphertext, raw.nonce, raw.tag, lookup s text⟩ text where
  reveal := by
    have hopen := Sealing.decryptRaw_sealWith s.encryptionKey.length_bytes hnonce
      (Bytes.ofText text)
    simp only [reveal, hopen, Bytes.toText?_ofText]
  lookup := rfl

theorem sealValue_yields (s : Settings) (text : String) :
    (sealValue s text).Yields store fun v after => after = store ∧ Opens s v text := by
  refine .bind (P := fun raw => ∃ nonce, nonce.length = Gcm.nonceLength ∧
    raw = Sealing.sealWith s.encryptionKey.bytes nonce (Bytes.ofText text)) (.draw ?_) ?_
  · intro raw hraw
    refine ⟨rfl, ?_⟩
    obtain ⟨-, -, hraw⟩ := Draw.gives_bind hraw
    obtain ⟨nonce, hnonce, hraw⟩ := Draw.gives_bind hraw
    exact ⟨nonce, Draw.length_of_gives_bytes hnonce, Draw.gives_pure hraw⟩
  · rintro raw ⟨nonce, hnonce, rfl⟩
    exact .pure ⟨rfl, opens_sealWith hnonce text⟩

/-! ### Passwords -/

/-- What is stored of a password. -/
def HashOf (s : Settings) (password : String) (stored : PasswordHash) : Prop :=
  PasswordHashing.hash password stored.salt s.cost = .ok stored.digest

theorem passwordHash_eq_ok {password : String} {salt : Bytes} {stored : PasswordHash} :
    passwordHash s password salt = .ok stored ↔ HashOf s password stored ∧ stored.salt = salt := by
  unfold passwordHash HashOf
  cases hh : PasswordHashing.hash password salt s.cost with
  | error fault =>
    refine iff_of_false (by nofun) ?_
    rintro ⟨h, rfl⟩
    rw [hh] at h
    cases h
  | ok digest =>
    constructor
    · intro h
      cases h
      exact ⟨hh, rfl⟩
    · rintro ⟨h, rfl⟩
      rw [hh] at h
      cases h
      rfl

theorem hashPassword_yields (s : Settings) (password : String) :
    (hashPassword s password).Yields store fun h after => after = store ∧ HashOf s password h := by
  refine .bind (P := fun _ => True) (.draw fun _ _ => ⟨rfl, trivial⟩) fun salt _ => .ofOutcome ?_
  intro stored hstored
  exact ⟨rfl, (passwordHash_eq_ok.mp hstored).1⟩

/-- A password matches what is stored of another one exactly when the two have
the same digest under the stored salt. -/
theorem passwordMatches_eq_true {password tried : String} {stored : PasswordHash}
    (h : HashOf s password stored) : passwordMatches s stored tried = true ↔
      PasswordHashing.hash tried stored.salt s.cost =
        PasswordHashing.hash password stored.salt s.cost := by
  rw [show PasswordHashing.hash password stored.salt s.cost = _ from h]
  exact PasswordHashing.verify_eq_true

/-! ### Identifiers -/

theorem freshUuid_yields :
    freshUuid.Yields store fun u after => after = store ∧ u.isNil = false :=
  .draw fun _ hu => ⟨rfl, Draw.isNil_of_gives_uuid hu⟩

/-! ### Looking for users -/

/-- A call that reads and what it answers. -/
theorem attempt_yields {c : Call} (hread : (store.respond c).2 = store) :
    (Operation.call c).attempt.Yields store fun outcome after =>
      after = store ∧ outcome = (store.respond c).1 := by
  refine ⟨fun entropy => ?_⟩
  rw [Operation.run_attempt, Operation.run_call]
  exact ⟨hread, rfl⟩

theorem getUser_yields (id : UserId) :
    (Operation.call (.getUser id)).Yields store fun user after =>
      after = store ∧ store.user? id = some user := by
  refine .call fun user after h => ?_
  have hfound : Store.found .userNotFound (store.user? id) = .ok user := congrArg Prod.fst h
  exact ⟨(congrArg Prod.snd h).symm, Store.found_eq_ok.mp hfound⟩

theorem findUser_eq_ok {wanted : User → Bool} {user : User} :
    store.findUser wanted = .ok user ↔ store.users.find? wanted = some user :=
  Store.found_eq_ok

theorem mem_of_findUser {wanted : User → Bool} {user : User}
    (h : store.findUser wanted = .ok user) : user ∈ store.users :=
  List.mem_of_find?_eq_some (findUser_eq_ok.mp h)

theorem wanted_of_findUser {wanted : User → Bool} {user : User}
    (h : store.findUser wanted = .ok user) : wanted user = true :=
  List.find?_some (findUser_eq_ok.mp h)

theorem found?_findUser (wanted : User → Bool) :
    found? (store.findUser wanted) = .ok (store.users.find? wanted) := by
  unfold Store.findUser
  cases store.users.find? wanted <;> rfl

/-- Looking for an address never fails and never writes. -/
theorem run_findUser? (digest : Bytes) (entropy : Entropy) (store : Store) :
    (findUser? digest).run entropy store =
      (.ok (store.users.find? (·.email.lookup == digest)), entropy, store) := by
  rw [← found?_findUser]
  rfl

theorem findUser?_yields (digest : Bytes) :
    (findUser? digest).Yields store fun found after =>
      after = store ∧ store.users.find? (·.email.lookup == digest) = found := by
  refine ⟨fun entropy => ?_⟩
  rw [run_findUser?]
  exact ⟨rfl, rfl⟩

/-! ### Errors of the building blocks -/

section Errors

variable {kind : Error.Kind}

theorem sealValue_neverRaises (s : Settings) (text : String)
    (h : Error.Kind.encryptionFailed ≠ kind) : (sealValue s text).NeverRaises kind :=
  .bind (.draw fun _ => h) fun _ => .pure

theorem hashPassword_neverRaises (s : Settings) (password : String)
    (h : Error.Kind.passwordHashFailed ≠ kind) : (hashPassword s password).NeverRaises kind := by
  refine .bind (.draw fun _ => h) fun salt => .ofOutcome fun e he => ?_
  unfold passwordHash at he
  split at he
  · cases he
  · cases he
    exact h

theorem freshUuid_neverRaises (h : Error.Kind.internal ≠ kind) : freshUuid.NeverRaises kind :=
  .draw fun _ => h

/-- Looking for an address hands on what the call fails with, and fails with nothing else. -/
theorem findUser?_neverRaises (digest : Bytes) : (findUser? digest).NeverRaises kind := by
  refine .attempt_bind .call fun outcome houtcome => .ofOutcome fun e he => ?_
  unfold found? at he
  split at he
  · cases he
  · cases he
  · exact houtcome e (congrArg Except.error (Except.error.inj he))

end Errors

/-! ### Answers to searches -/

theorem findUser_eq_error {wanted : User → Bool} (h : ∀ user ∈ store.users, wanted user = false) :
    store.findUser wanted = .error .userNotFound := by
  have hnone : store.users.find? wanted = none :=
    List.find?_eq_none.mpr fun user hu => by simp [h user hu]
  rw [Store.findUser, hnone]
  rfl

theorem respond_findUserByEmail (hsound : store.Sound) {user : User} {digest : Bytes}
    (hu : user ∈ store.users) (hlookup : user.email.lookup = digest) :
    store.respond (.findUserByEmail digest) = (.ok user, store) := by
  have hfound : store.users.find? (·.email.lookup == digest) = some user :=
    (Store.find?_key_iff (·.email.lookup) Store.UsersApart.email hsound.users).mpr ⟨hu, hlookup⟩
  exact congrArg (·, store) (findUser_eq_ok.mpr hfound)

theorem respond_findUserByUsername (hsound : store.Sound) {user : User} {username : String}
    (hu : user ∈ store.users) (hsame : user.username = username) :
    store.respond (.findUserByUsername username) = (.ok user, store) := by
  have hfound : store.users.find? (·.username == username) = some user :=
    (Store.find?_key_iff User.username Store.UsersApart.username hsound.users).mpr ⟨hu, hsame⟩
  exact congrArg (·, store) (findUser_eq_ok.mpr hfound)

theorem respond_findUserByEmail_of_absent {digest : Bytes}
    (h : ∀ user ∈ store.users, user.email.lookup ≠ digest) :
    store.respond (.findUserByEmail digest) = (.error .userNotFound, store) :=
  congrArg (·, store) (findUser_eq_error fun user hu => beq_eq_false_iff_ne.mpr (h user hu))

theorem respond_findUserByUsername_of_absent {username : String}
    (h : ∀ user ∈ store.users, user.username ≠ username) :
    store.respond (.findUserByUsername username) = (.error .userNotFound, store) :=
  congrArg (·, store) (findUser_eq_error fun user hu => beq_eq_false_iff_ne.mpr (h user hu))

/-- Nobody is found who is not stored. -/
theorem run_ensureAbsent_of_absent {c : Call} {conflict : Error} {entropy : Entropy}
    (h : store.respond c = (.error .userNotFound, store)) :
    (ensureAbsent c conflict).run entropy store = (.ok (), entropy, store) :=
  Operation.run_attempt_bind (Operation.run_call_of h)

/-- Whoever is found is in the way. -/
theorem run_ensureAbsent_of_found {c : Call} {conflict : Error} {entropy : Entropy}
    {found : c.Reply} (h : store.respond c = (.ok found, store)) :
    (ensureAbsent c conflict).run entropy store = (.error conflict, entropy, store) :=
  Operation.run_attempt_bind (Operation.run_call_of h)

/-- Past this check the call has found nothing. -/
theorem ensureAbsent_yields {c : Call} {conflict : Error} (hread : (store.respond c).2 = store) :
    (ensureAbsent c conflict).Yields store fun _ after =>
      after = store ∧ (store.respond c).1 = .error .userNotFound := by
  refine .bind (attempt_yields hread) fun outcome houtcome => ?_
  split
  · exact .throw
  · exact .pure ⟨rfl, houtcome.symm⟩
  · exact .throw

end Identity.Authentication
