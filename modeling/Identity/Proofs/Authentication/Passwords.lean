/-
Identity/Proofs/Authentication/Passwords.lean

Who can sign in, told from what has happened.

The events of a run say which password each user has: the one of the last
change, or else the one that the user was created with (`currentPassword?`).
Every operation rewrites whole records, so that the stored digest is still the
one of this password is an invariant of runs (`Remembers`).

Main result: `signIn_exact`.
-/
import Identity.Proofs.Authentication.Effects
import Identity.Proofs.Authentication.SignUp

namespace Identity.Authentication

open Crypto

variable {s : Settings} {store after : Store} {events : List Event} {user : User} {id : UserId}

/-! ### Passwords in the history -/

/-- The password that a notice says a user was created with. -/
def Request.Notice.created? (id : UserId) : Request.Notice → Option String
  | .created user password => if user = id then some password else none
  | _ => none

/-- The password that a notice says a user has changed to. -/
def Request.Notice.changed? (id : UserId) : Request.Notice → Option String
  | .changed user password => if user = id then some password else none
  | _ => none

/-- The password that a user was created with. -/
def createdPassword? (events : List Event) (id : UserId) : Option String :=
  events.findSome? fun event => event.notice.created? id

/-- The password that a user has last changed to. -/
def changedPassword? (events : List Event) (id : UserId) : Option String :=
  events.findSome? fun event => event.notice.changed? id

/-- The password of a user: the one of the last change, or else the first one. -/
def currentPassword? (events : List Event) (id : UserId) : Option String :=
  (changedPassword? events id).or (createdPassword? events id)

theorem createdPassword?_cons (event : Event) (events : List Event) (id : UserId) :
    createdPassword? (event :: events) id =
      (event.notice.created? id).or (createdPassword? events id) := by
  unfold createdPassword?
  rw [List.findSome?_cons]
  cases event.notice.created? id <;> rfl

theorem changedPassword?_cons (event : Event) (events : List Event) (id : UserId) :
    changedPassword? (event :: events) id =
      (event.notice.changed? id).or (changedPassword? events id) := by
  unfold changedPassword?
  rw [List.findSome?_cons]
  cases event.notice.changed? id <;> rfl

/-- The notice is about another user, or about none. -/
def Request.Notice.Spares (id : UserId) : Request.Notice → Prop
  | .nothing => True
  | .created user _ | .changed user _ => user ≠ id

/-- An event leaves the passwords of the users that it is not about. -/
theorem passwords_cons_of_spares {event : Event} (h : event.notice.Spares id)
    (events : List Event) :
    createdPassword? (event :: events) id = createdPassword? events id ∧
      changedPassword? (event :: events) id = changedPassword? events id := by
  rw [createdPassword?_cons, changedPassword?_cons]
  cases hn : event.notice with
  | nothing => exact ⟨rfl, rfl⟩
  | created user password =>
    rw [hn] at h
    exact ⟨by rw [Request.Notice.created?, if_neg h, Option.none_or], rfl⟩
  | changed user password =>
    rw [hn] at h
    exact ⟨rfl, by rw [Request.Notice.changed?, if_neg h, Option.none_or]⟩

/-! ### The invariant -/

/-- The history tells the creation of a user, and the stored digest is the one of
the current password. -/
def Recalls (s : Settings) (events : List Event) (user : User) : Prop :=
  (createdPassword? events user.id).isSome = true ∧
    ∃ password, currentPassword? events user.id = some password ∧ HashOf s password user.password

/-- The history tells all about the passwords of the stored users, and nothing
about other ones. -/
structure Remembers (s : Settings) (events : List Event) (store : Store) : Prop where
  stored : ∀ user ∈ store.users, Recalls s events user
  unknown : ∀ id, (∀ user ∈ store.users, user.id ≠ id) →
    createdPassword? events id = none ∧ changedPassword? events id = none

theorem remembers_empty (s : Settings) : Remembers s [] Store.empty :=
  ⟨by simp [Store.empty], fun _ _ => ⟨rfl, rfl⟩⟩

theorem Recalls.cons {event : Event} (h : Recalls s events user)
    (hspares : event.notice.Spares user.id) : Recalls s (event :: events) user := by
  obtain ⟨hcreated, hchanged⟩ := passwords_cons_of_spares hspares events
  unfold Recalls currentPassword? at h ⊢
  rw [hcreated, hchanged]
  exact h

/-- What is recalled of a record is recalled of each one with its identifier and
its password. -/
theorem Recalls.of_eq {old new : User} (h : Recalls s events old) (hid : new.id = old.id)
    (hpassword : new.password = old.password) : Recalls s events new := by
  unfold Recalls at h ⊢
  rw [hid, hpassword]
  exact h

/-- An event that says nothing about passwords, with the store as it was. -/
theorem Remembers.cons {event : Event} (h : Remembers s events store)
    (hnotice : event.notice = .nothing) : Remembers s (event :: events) store := by
  have hspares : ∀ id, event.notice.Spares id := fun id => hnotice ▸ trivial
  constructor
  · intro user hu
    exact (h.stored user hu).cons (hspares user.id)
  · intro id hid
    obtain ⟨hcreated, hchanged⟩ := passwords_cons_of_spares (hspares id) events
    rw [hcreated, hchanged]
    exact h.unknown id hid

/-- An event about no user but the one whose record it has written. -/
theorem Remembers.write {event : Event} {new : User} (h : Remembers s events store)
    (hholds : Holds after new store) (hspares : ∀ id, id ≠ new.id → event.notice.Spares id)
    (hnew : Recalls s (event :: events) new) : Remembers s (event :: events) after := by
  constructor
  · intro user hu
    rcases (hholds user).mp hu with rfl | ⟨hu, hne⟩
    · exact hnew
    · exact (h.stored user hu).cons (hspares user.id hne)
  -- who is not stored afterwards was not stored before either
  · intro id hid
    have hne : id ≠ new.id := (hid new ((hholds new).mpr (.inl rfl))).symm
    obtain ⟨hcreated, hchanged⟩ := passwords_cons_of_spares (hspares id hne) events
    rw [hcreated, hchanged]
    refine h.unknown id fun user hu heq => ?_
    have hother : user.id ≠ new.id := heq ▸ hne
    exact hid user ((hholds user).mpr (.inr ⟨hu, hother⟩)) heq

/-! ### Steps and runs -/

/-- **One step**, of a caller who edits records as they are stored. -/
theorem Remembers.step {request : Request} {answer : request.Answer}
    (h : Remembers s events store)
    (heffect : Effect s store request answer after)
    (hupdate : ∀ user actor, request = .updateUser user actor →
      ∃ stored ∈ store.users, EditOf stored user) :
    Remembers s (⟨request, .ok answer⟩ :: events) after := by
  cases heffect with
  | read _ notice => exact h.cons notice
  | @insert user _ password _ inserted fresh _ notice =>
    have hevent : (Event.mk request (.ok answer)).notice = .created user.id password := notice
    -- the identifier is new, so the history cannot tell of a change under it
    have hnew : ∀ stored ∈ store.users, stored.id ≠ user.id :=
      fun stored hs => (inserted.apart stored hs).id
    obtain ⟨-, hchanged⟩ := h.unknown user.id hnew
    refine h.write inserted.holds (fun id hne => hevent ▸ hne.symm) ?_
    have hcreated : createdPassword? (⟨request, .ok answer⟩ :: events) user.id = some password := by
      rw [createdPassword?_cons, hevent, Request.Notice.created?, if_pos rfl, Option.some_or]
    refine ⟨by rw [hcreated]; rfl, password, ?_, fresh.password⟩
    rw [currentPassword?, hcreated, changedPassword?_cons, hevent, hchanged]
    rfl
  | @rewrite old new _ replaced rewrites _ =>
    have hid : new.id = old.id := (id_of_user? replaced.stored).symm
    have hold : Recalls s events old := h.stored old (mem_of_user? replaced.stored)
    -- the password is carried over, or changes together with what the events tell
    rcases rewrites.password with ⟨hnotice, hsame⟩ | ⟨password, hnotice, hhash⟩
    · have hspares : ∀ id, (Event.mk request (.ok answer)).notice.Spares id :=
        fun id => (hnotice ▸ trivial : (request.notice answer).Spares id)
      exact h.write replaced.holds (fun id _ => hspares id)
        ((hold.of_eq hid hsame).cons (hspares new.id))
    · have hevent : (Event.mk request (.ok answer)).notice = .changed new.id password := hnotice
      refine h.write replaced.holds (fun id hne => hevent ▸ hne.symm) ?_
      refine ⟨?_, password, ?_, hhash⟩
      · rw [createdPassword?_cons, hevent, hid]
        exact hold.1
      · rw [currentPassword?, changedPassword?_cons, hevent, Request.Notice.changed?, if_pos rfl,
          Option.some_or, Option.some_or]
  | @update user old actor now _ asked names replaced _ notice =>
    -- the record is an edit of one that is stored, so its password is recalled
    obtain ⟨stored, hstored, hedit⟩ := hupdate user actor asked
    have hspares : ∀ id, (Event.mk request (.ok answer)).notice.Spares id :=
      fun id => (notice ▸ trivial : (request.notice answer).Spares id)
    have hid : (user.updated actor now).id = stored.id := by rw [User.updated_id, hedit]
    have hpassword : (user.updated actor now).password = stored.password := by
      rw [User.updated_password, hedit]
    have hrecalls : Recalls s events stored := h.stored stored hstored
    exact h.write replaced.holds (fun id _ => hspares id)
      ((hrecalls.of_eq hid hpassword).cons (hspares _))

/-- **Runs**: the history tells the password of each stored user. -/
theorem Run.remembers {service : Settings.Accepted} (h : Run service EditsStored events store) :
    Remembers service.settings events store := by
  induction h with
  | start => exact remembers_empty service.settings
  | @step events store request now entropy hrun hallowed ih =>
    rcases step_cases service now request entropy store with ⟨answer, hok, heffect⟩ | ⟨e, he, hsame⟩
    · rw [hok]
      exact ih.step heffect hallowed
    · rw [hsame, he]
      exact ih.cons rfl

/-! ### Signing in -/

/-- The attempt to sign in gets as far as issuing a token for the user: everything
that `signIn` does before `issueSession` succeeds with this record. -/
def ReachesIssuance (s : Settings) (email password : String) (entropy : Entropy) (store : Store)
    (user : User) : Prop :=
  (checkCredentials s email password).run entropy store = (.ok user, entropy, store)

theorem run_checkCredentials (s : Settings) (email password : String) (entropy : Entropy)
    (store : Store) :
    (checkCredentials s email password).run entropy store =
      match store.users.find? (·.email.lookup == lookup s (Email.normalize email)) with
      | none => (.error .invalidCredentials, entropy, store)
      | some user =>
        if passwordMatches s user.password password = true ∧ user.isActive = true then
          (.ok user, entropy, store)
        else (.error .invalidCredentials, entropy, store) := by
  unfold checkCredentials
  rw [Operation.run_bind, run_findUser?]
  cases store.users.find? (·.email.lookup == lookup s (Email.normalize email)) with
  | none => rfl
  -- a wrong password and an inactive account end in the error of an unknown address
  | some user =>
    cases hmatches : passwordMatches s user.password password with
    | false => simp [hmatches]
    | true =>
      cases hactive : user.isActive with
      | false => simp [hmatches, hactive]
      | true => simp [hmatches, hactive]

/-- In a sound store an address stands for one user. -/
theorem find?_email (h : store.Sound) {digest : Bytes} :
    store.users.find? (·.email.lookup == digest) = some user ↔
      user ∈ store.users ∧ user.email.lookup = digest :=
  Store.find?_key_iff (fun user : User => user.email.lookup) Store.UsersApart.email h.users

theorem isActive_eq_true : user.isActive = true ↔ user.status = .active := by
  simp [User.isActive]

/-- What it takes to sign in as a user, who has the `current` password. -/
structure Admits (s : Settings) (user : User) (current email tried : String) : Prop where
  email : user.email.lookup =
    Hmac.sha256 s.signingKey.bytes (Bytes.ofText (Email.normalize email))
  status : user.status = .active
  password : PasswordHashing.hash tried user.password.salt s.cost =
    PasswordHashing.hash current user.password.salt s.cost

theorem reachesIssuance_iff (hsound : store.Sound) {current email tried : String}
    {entropy : Entropy} (hu : user ∈ store.users) (hhash : HashOf s current user.password) :
    ReachesIssuance s email tried entropy store user ↔ Admits s user current email tried := by
  unfold ReachesIssuance
  rw [run_checkCredentials]
  constructor
  · intro h
    split at h
    · cases h
    · rename_i found hfound
      split_ifs at h with hpasses
      · cases h
        obtain ⟨hmatches, hactive⟩ := hpasses
        exact {
          email := (find?_email hsound).mp hfound |>.2
          status := isActive_eq_true.mp hactive
          password := (passwordMatches_eq_true hhash).mp hmatches }
      · cases h
  -- no other record can be found in its place, since addresses are unique
  · rintro ⟨hemail, hstatus, hpassword⟩
    have hfound : store.users.find? (·.email.lookup == lookup s (Email.normalize email)) =
        some user := (find?_email hsound).mpr ⟨hu, hemail⟩
    rw [hfound]
    exact if_pos ⟨(passwordMatches_eq_true hhash).mpr hpassword, isActive_eq_true.mpr hstatus⟩

/-- Checking credentials reaches a stored user, or ends in one and the same error. -/
theorem checkCredentials_cases (s : Settings) (email tried : String) (entropy : Entropy)
    (store : Store) :
    (∃ user ∈ store.users, ReachesIssuance s email tried entropy store user) ∨
      (checkCredentials s email tried).run entropy store =
        (.error .invalidCredentials, entropy, store) := by
  unfold ReachesIssuance
  rw [run_checkCredentials]
  split
  · exact .inr rfl
  · rename_i user hfound
    split_ifs
    · exact .inl ⟨user, List.mem_of_find?_eq_some hfound, rfl⟩
    · exact .inr rfl

/-- Signing in with a password does what the history of a run says. -/
structure SignInExact (service : Settings.Accepted) (events : List Event) (store : Store) :
    Prop where
  known : ∀ id, (createdPassword? events id).isSome = true ↔ (store.user? id).isSome = true
  reaches : ∀ id user, store.user? id = some user →
    ∃ current, currentPassword? events id = some current ∧ ∀ email tried entropy,
      ReachesIssuance service.settings email tried entropy store user ↔
        Admits service.settings user current email tried
  issues : ∀ email tried now entropy user,
    ReachesIssuance service.settings email tried entropy store user →
      (signIn service email tried now).run entropy store =
        (issueSession service.settings user now).run entropy store
  rejects : ∀ email tried now entropy,
    (∀ user ∈ store.users, ∀ current ∈ currentPassword? events user.id,
      ¬ Admits service.settings user current email tried) →
    (signIn service email tried now).run entropy store =
      (.error .invalidCredentials, entropy, store)
  unchanged : ∀ email tried now entropy,
    ((signIn service email tried now).run entropy store).2.2 = store

/-- **Signing in is exact**: in each run whose updates are edits of records as they
are stored, signing in gets to the token of a user exactly with the address, an
active account and the password that the history tells; every other attempt is
answered in the same way. -/
theorem signIn_exact (service : Settings.Accepted) {events : List Event} {store : Store}
    (h : Run service EditsStored events store) : SignInExact service events store := by
  have hsound := h.sound
  have hremembers := h.remembers
  constructor
  -- `known`: nothing is told of a user who is not stored
  · intro id
    constructor
    · intro hcreated
      rw [Option.isSome_iff_ne_none]
      intro hnone
      rw [(hremembers.unknown id (Store.user?_eq_none.mp hnone)).1] at hcreated
      cases hcreated
    · intro hstored
      obtain ⟨user, huser⟩ := Option.isSome_iff_exists.mp hstored
      obtain ⟨hu, rfl⟩ := hsound.user?_eq_some.mp huser
      exact (hremembers.stored user hu).1
  -- `reaches`: the stored digest is the one of the current password
  · intro id user huser
    obtain ⟨hu, rfl⟩ := hsound.user?_eq_some.mp huser
    obtain ⟨-, current, hcurrent, hhash⟩ := hremembers.stored user hu
    exact ⟨current, hcurrent, fun email tried entropy => reachesIssuance_iff hsound hu hhash⟩
  -- `issues`: a token is issued right after the check of the credentials
  · intro email tried now entropy user hreaches
    rw [signIn, Operation.run_bind, hreaches]
  -- `rejects`: whoever the check lets through is admitted, so it lets nobody through
  · intro email tried now entropy hnobody
    rcases checkCredentials_cases service.settings email tried entropy store with
      ⟨user, hu, hreaches⟩ | hrejected
    · obtain ⟨-, current, hcurrent, hhash⟩ := hremembers.stored user hu
      have hadmits := (reachesIssuance_iff hsound hu hhash).mp hreaches
      exact absurd hadmits (hnobody user hu current hcurrent)
    · rw [signIn, Operation.run_bind, hrejected]
  -- `unchanged`: by its specification, whether it fails or not
  · intro email tried now entropy
    have hyields : (signIn service email tried now).Yields store _ :=
      signIn_yields service email tried now
    rcases hr : (signIn service email tried now).run entropy store with ⟨e | session, rest, after⟩
    · exact hyields.of_error hr
    · exact (hyields.of_ok hr).1

/-- After she has signed up, a user gets to her token with her password and with
another spelling of her address. -/
theorem signIn_exact_alice :
    ∃ events store user, Run plainService EditsStored events store ∧ store.users = [user] ∧
      SignInExact plainService events store ∧
      ∀ entropy, ReachesIssuance plainService.settings "ALICE@example.org" "Correct1!" entropy
        store user := by
  obtain ⟨user, rest, store, hsignUp, husers, hfresh⟩ := signUp_alice
  have hrun : Run plainService EditsStored [⟨.signUp alice, .ok user⟩] store :=
    Run.start.next (by nofun) hsignUp
  have hexact := signIn_exact plainService hrun
  have huser : store.user? user.id = some user :=
    hrun.sound.user?_eq_some.mpr ⟨by simp [husers], rfl⟩
  obtain ⟨current, hcurrent, hreaches⟩ := hexact.reaches user.id user huser
  have htold : currentPassword? [⟨.signUp alice, .ok user⟩] user.id = some "Correct1!" := by
    simp [currentPassword?, createdPassword?, changedPassword?, Event.notice, Request.notice,
      Request.Notice.created?, Request.Notice.changed?, alice]
  have hpassword : current = "Correct1!" := Option.some.inj (hcurrent.symm.trans htold)
  have hspelling : Email.normalize "ALICE@example.org" = Email.normalize alice.email := by
    decide +kernel
  refine ⟨_, store, user, hrun, husers, hexact, fun entropy => (hreaches _ _ entropy).mpr ?_⟩
  exact {
    email := by
      rw [hspelling]
      exact hfresh.email.lookup
    status := hfresh.status
    password := by rw [hpassword] }

end Identity.Authentication
