/-
Identity/Proofs/Authentication/Specifications.lean

What each operation of the authentication service does to a store.

There is one specification for each operation, and nothing after this file
opens an operation again.  A specification says which record a success writes:
a new one is added (`Inserted`), or the record of a user is replaced
(`Replaced`).  A failure writes nothing, which is part of `Yields`.
-/
import Identity.Authentication.Accounts
import Identity.Authentication.Bootstrap
import Identity.Authentication.Session
import Identity.Authentication.SignUp
import Identity.Proofs.Authentication.Secrets
import Identity.Proofs.Identifier.Canonical
import Identity.Proofs.Settings

namespace Identity

/-! ### Records that are stored again -/

namespace User

variable (user : User) (actor : String) (now : Timestamp)

@[simp] theorem updated_id : (user.updated actor now).id = user.id := by
  dsimp only [updated, normalized]

@[simp] theorem updated_username :
    (user.updated actor now).username = Username.normalize user.username := by
  dsimp only [updated, normalized]

@[simp] theorem updated_name :
    (user.updated actor now).name = DisplayName.normalize user.name := by
  dsimp only [updated, normalized]

@[simp] theorem updated_email : (user.updated actor now).email = user.email := by
  dsimp only [updated, normalized]

@[simp] theorem updated_password : (user.updated actor now).password = user.password := by
  dsimp only [updated, normalized]

@[simp] theorem updated_pin : (user.updated actor now).pin = user.pin := by
  dsimp only [updated, normalized]

@[simp] theorem updated_status : (user.updated actor now).status = user.status := by
  dsimp only [updated, normalized]

@[simp] theorem updated_createdAt : (user.updated actor now).createdAt = user.createdAt := by
  dsimp only [updated, normalized]

@[simp] theorem updated_createdBy : (user.updated actor now).createdBy = user.createdBy := by
  dsimp only [updated, normalized]

end User

namespace Authentication

open Operation

variable {s : Settings} {store after : Store}

/-! ### Records -/

/-- The names of a record are in canonical form and well formed. -/
structure Named (user : User) : Prop where
  username : Username.normalize user.username = user.username
  validUsername : Username.validate user.username = .ok ()
  name : DisplayName.normalize user.name = user.name
  validName : DisplayName.validate user.name = .ok ()

/-- Storing a record again leaves its names as they are. -/
theorem Named.updated_eq {user : User} (h : Named user) (actor : String) (now : Timestamp) :
    user.updated actor now = { user with updatedAt := now, updatedBy := actor } := by
  unfold User.updated User.normalized
  rw [h.username, h.name]

/-- The value opens to a well-formed address in canonical form. -/
def SealsEmail (s : Settings) (v : SealedValue) : Prop :=
  ∃ email, Email.normalize email = email ∧ Email.validate email = .ok () ∧ Opens s v email

/-- The value opens to a well-formed PIN. -/
def SealsPin (s : Settings) (v : SealedValue) : Prop :=
  ∃ pin, Pin.validate pin = .ok () ∧ Opens s v pin

/-- A record as it is first stored, of a user with the given address, in any
spelling, and the given password. -/
structure Fresh (s : Settings) (email password : String) (user : User) : Prop where
  id : user.id.isNil = false
  names : Named user
  validEmail : Email.validate (Email.normalize email) = .ok ()
  email : Opens s user.email (Email.normalize email)
  password : HashOf s password user.password
  pin : user.pin = none
  status : user.status = .active

/-- Names that have been normalized and then accepted. -/
theorem named_of_normalize {user : User} {username name : String}
    (husername : Username.normalize username = user.username)
    (hvalid : Username.validate (Username.normalize username) = .ok ())
    (hname : DisplayName.normalize name = user.name)
    (hvalidName : DisplayName.validate (DisplayName.normalize name) = .ok ()) : Named user where
  username := by rw [← husername, Username.normalize_normalize]
  validUsername := husername ▸ hvalid
  name := by rw [← hname, DisplayName.normalize_normalize]
  validName := hname ▸ hvalidName

theorem sealsEmail_normalize {v : SealedValue} {email : String}
    (hvalid : Email.validate (Email.normalize email) = .ok ())
    (h : Opens s v (Email.normalize email)) : SealsEmail s v :=
  ⟨_, Email.normalize_normalize email, hvalid, h⟩

/-! ### Writing records -/

/-- A user has been added who is apart from all others. -/
structure Inserted (store : Store) (user : User) (after : Store) : Prop where
  apart : ∀ stored ∈ store.users, Store.UsersApart stored user
  after : after = { store with users := store.users ++ [user] }

/-- The record of a user has been replaced. -/
structure Replaced (store : Store) (old new : User) (after : Store) : Prop where
  stored : store.user? new.id = some old
  after : after = { store with users := Store.replaceUser store.users new }

theorem id_of_user? {id : UserId} {user : User} (h : store.user? id = some user) :
    user.id = id := by
  simpa using List.find?_some h

theorem mem_of_user? {id : UserId} {user : User} (h : store.user? id = some user) :
    user ∈ store.users :=
  List.mem_of_find?_eq_some h

/-- Both ways of writing leave the new record and those of all other users. -/
def Holds (after : Store) (new : User) (store : Store) : Prop :=
  ∀ shown, shown ∈ after.users ↔ shown = new ∨ (shown ∈ store.users ∧ shown.id ≠ new.id)

theorem Inserted.holds {user : User} (h : Inserted store user after) :
    Holds after user store := by
  intro shown
  have hother : shown ∈ store.users → shown.id ≠ user.id := fun hs => (h.apart shown hs).id
  rw [h.after, List.mem_append, List.mem_singleton, or_comm, and_iff_left_of_imp hother]

theorem Replaced.holds {old new : User} (h : Replaced store old new after) :
    Holds after new store := by
  intro shown
  have hstored : ∃ stored ∈ store.users, stored.id = new.id :=
    ⟨old, mem_of_user? h.stored, id_of_user? h.stored⟩
  rw [h.after]
  refine (Store.mem_replace User.id).trans ?_
  rw [and_iff_left hstored]

theorem createUser_yields (user : User) :
    (call (.createUser user)).Yields store fun answer after =>
      answer = user ∧ Inserted store user after := by
  refine .call fun answer after h => ?_
  obtain ⟨hapart, hanswer, hafter⟩ := Store.createUser_eq_ok.mp (Store.changed_eq_ok h)
  exact ⟨hanswer, hapart, hafter⟩

/-- An edited record is stored in the place of the old one. -/
theorem replace_yields {id : UserId} {old edited : User} (hold : store.user? id = some old)
    (hid : edited.id = old.id) (actor : String) (now : Timestamp) :
    (call (.updateUser (edited.updated actor now))).Yields store fun answer after =>
      answer = edited.updated actor now ∧ Replaced store old (edited.updated actor now) after := by
  refine .call fun answer after h => ?_
  obtain ⟨-, -, hanswer, hafter⟩ := Store.updateUser_eq_ok.mp (Store.changed_eq_ok h)
  refine ⟨hanswer, ?_, hafter⟩
  rw [User.updated_id, hid, id_of_user? hold]
  exact hold

/-! ### New users -/

theorem validate_eq_ok {r : Registration} : r.validate = .ok () ↔
    Email.validate r.email = .ok () ∧ Username.validate r.username = .ok () ∧
      DisplayName.validate r.displayName = .ok () ∧ Password.validate r.password = .ok () := by
  unfold Registration.validate
  simp only [Outcome.bind_eq_ok]
  constructor
  · rintro ⟨_, hemail, _, husername, _, hname, hpassword⟩
    exact ⟨hemail, husername, hname, hpassword⟩
  · rintro ⟨hemail, husername, hname, hpassword⟩
    exact ⟨(), hemail, (), husername, (), hname, hpassword⟩

theorem signUp_yields (service : Settings.Accepted) (r : Registration) (now : Timestamp) :
    (signUp service r now).Yields store fun user after =>
      r.normalized.validate = .ok () ∧ Inserted store user after ∧
        Fresh service.settings r.email r.password user := by
  unfold signUp
  refine .bind (P := fun _ => r.normalized.validate = .ok ()) (.ofOutcome fun _ h => ⟨rfl, h⟩)
    fun _ hvalid => ?_
  obtain ⟨hemail, husername, hname, -⟩ := validate_eq_ok.mp hvalid
  -- what the two searches find is not needed: the store checks for clashes itself
  refine .bind (ensureAbsent_yields rfl) fun _ _ => ?_
  refine .bind (ensureAbsent_yields rfl) fun _ _ => ?_
  refine .bind (sealValue_yields _ _) fun email hopens => ?_
  refine .bind (hashPassword_yields _ _) fun password hhash => ?_
  refine .bind freshUuid_yields fun fresh hfresh => ?_
  refine (createUser_yields _).mono ?_
  rintro user after ⟨rfl, hinserted⟩
  refine ⟨hvalid, hinserted, ?_⟩
  exact {
    id := hfresh
    names := named_of_normalize (Username.normalize_normalize r.username).symm husername
      (DisplayName.normalize_normalize r.displayName).symm hname
    validEmail := hemail
    email := hopens
    password := hhash
    pin := rfl
    status := rfl }

theorem drawPassword_yields (s : Settings) :
    (drawPassword s).Yields store fun _ after => after = store ∧ True := by
  unfold drawPassword
  refine .bind (P := fun _ => True) (.draw fun _ _ => ⟨rfl, trivial⟩) fun password _ => ?_
  refine .bind (P := fun _ => True) (.ofOutcome fun _ _ => ⟨rfl, trivial⟩) fun _ _ => ?_
  exact .pure ⟨rfl, trivial⟩

theorem draftSuperadmin_yields (service : Settings.Accepted) (password : String)
    (now : Timestamp) :
    (draftSuperadmin service.settings password now).Yields store fun user after =>
      after = store ∧ Fresh service.settings service.settings.superadmin.email password user := by
  have hgood := service.superadmin
  unfold draftSuperadmin
  refine .bind (sealValue_yields _ _) fun email hopens => ?_
  refine .bind (hashPassword_yields _ _) fun hash hhash => ?_
  refine .bind freshUuid_yields fun fresh hfresh => ?_
  refine .pure ⟨rfl, ?_⟩
  exact {
    id := hfresh
    names := named_of_normalize rfl hgood.username rfl hgood.name
    validEmail := hgood.email
    email := hopens
    password := hhash
    pin := rfl
    status := rfl }

/-- The superadmin is found, or added together with its password. -/
theorem bootstrap_yields (service : Settings.Accepted) (now : Timestamp) :
    (bootstrap service now).Yields store fun answer after =>
      (answer.password = none ∧ after = store ∧ answer.user ∈ store.users) ∨
        ∃ password, answer.password = some password ∧ Inserted store answer.user after ∧
          Fresh service.settings service.settings.superadmin.email password answer.user := by
  unfold bootstrap
  refine .bind (findUser?_yields _) fun found hfound => ?_
  split
  · exact .pure (.inl ⟨rfl, rfl, List.mem_of_find?_eq_some hfound⟩)
  -- nobody is found: the only write is the attempt to add the superadmin
  · refine .unless fun _ => ?_
    refine .bind (drawPassword_yields _) fun password _ => ?_
    refine .bind (draftSuperadmin_yields service password now) fun user hfresh => ?_
    refine .attempt_bind (Bootstrapped.mk · (some password)) (createUser_yields user) ?_ ?_ ?_
    · exact fun _ => rfl
    · rintro answer after ⟨hanswer, hinserted⟩
      rw [hanswer]
      exact .inr ⟨password, rfl, hinserted, hfresh⟩
    -- refused because somebody else has added the superadmin in the meantime
    · intro e
      dsimp only
      split_ifs
      · refine .bind (findUser?_yields _) fun found hfound => ?_
        split
        · exact .pure (.inl ⟨rfl, rfl, List.mem_of_find?_eq_some hfound⟩)
        · exact .throw
      · exact .throw

/-! ### Signing in -/

theorem issueSession_yields (s : Settings) (user : User) (now : Timestamp) :
    (issueSession s user now).Yields store fun session after =>
      after = store ∧ session.user = user := by
  unfold issueSession
  split
  · exact .throw
  · refine .bind (P := fun _ => True) (.ofOutcome fun _ _ => ⟨rfl, trivial⟩) fun expiresAt _ => ?_
    refine .bind freshUuid_yields fun id _ => ?_
    split
    · exact .pure ⟨rfl, rfl⟩
    · exact .throw

theorem checkCredentials_yields (s : Settings) (email password : String) :
    (checkCredentials s email password).Yields store fun user after =>
      after = store ∧ user ∈ store.users := by
  unfold checkCredentials
  refine .bind (findUser?_yields _) fun found hfound => ?_
  split
  · exact .throw
  · refine .unless fun _ => .unless fun _ => ?_
    exact .pure ⟨rfl, List.mem_of_find?_eq_some hfound⟩

theorem signIn_yields (service : Settings.Accepted) (email password : String) (now : Timestamp) :
    (signIn service email password now).Yields store fun session after =>
      after = store ∧ session.user ∈ store.users := by
  unfold signIn
  refine .bind (checkCredentials_yields _ _ _) fun user huser => ?_
  refine (issueSession_yields _ _ _).mono ?_
  rintro session after ⟨rfl, rfl⟩
  exact ⟨rfl, huser⟩

theorem signInByPin_yields (service : Settings.Accepted) (pin : String) :
    (signInByPin service pin).Yields store fun user after =>
      after = store ∧ user ∈ store.users := by
  unfold signInByPin
  refine .unless fun _ => ?_
  refine .bind (attempt_yields rfl) fun outcome houtcome => ?_
  have hfound : found? outcome = _ := (congrArg found? houtcome).trans (found?_findUser _)
  split
  · exact .throw
  · exact .throw
  · rename_i heq
    refine .unless fun _ => .unless fun _ => ?_
    exact .pure ⟨rfl, List.mem_of_find?_eq_some (Except.ok.inj (hfound.symm.trans heq))⟩

/-! ### Finding users -/

theorem getUserByUsername_yields (username : String) :
    (getUserByUsername username).Yields store fun user after =>
      after = store ∧ user ∈ store.users ∧ user.username = Username.normalize username := by
  refine .call fun user after h => ?_
  have hfound : store.findUser (·.username == Username.normalize username) = .ok user :=
    congrArg Prod.fst h
  exact ⟨(congrArg Prod.snd h).symm, mem_of_findUser hfound,
    beq_iff_eq.mp (wanted_of_findUser hfound)⟩

theorem getUserByEmail_yields (service : Settings.Accepted) (email : String) :
    (getUserByEmail service email).Yields store fun user after =>
      after = store ∧ user ∈ store.users ∧
        user.email.lookup = lookup service.settings (Email.normalize email) := by
  refine .call fun user after h => ?_
  have hfound : store.findUser
      (·.email.lookup == lookup service.settings (Email.normalize email)) = .ok user :=
    congrArg Prod.fst h
  exact ⟨(congrArg Prod.snd h).symm, mem_of_findUser hfound,
    beq_iff_eq.mp (wanted_of_findUser hfound)⟩

theorem mem_listUsers {wanted : User → Bool} {user : User} :
    user ∈ store.listUsers wanted ↔ user ∈ store.users ∧ wanted user = true := by
  rw [Store.listUsers, Store.sortUsers, List.mem_mergeSort, List.mem_filter]

theorem listUsers_yields :
    listUsers.Yields store fun users after =>
      after = store ∧ ∀ user ∈ users, user ∈ store.users := by
  refine .call fun users after h => ?_
  have husers : store.listUsers (fun _ => true) = users := Except.ok.inj (congrArg Prod.fst h)
  exact ⟨(congrArg Prod.snd h).symm, fun user hu => (mem_listUsers.mp (husers ▸ hu)).1⟩

theorem listUsersByStatus_yields (status : UserStatus) :
    (listUsersByStatus status).Yields store fun users after =>
      after = store ∧ ∀ user ∈ users, user ∈ store.users := by
  refine .call fun users after h => ?_
  have husers : store.listUsers (·.status == status) = users :=
    Except.ok.inj (congrArg Prod.fst h)
  exact ⟨(congrArg Prod.snd h).symm, fun user hu => (mem_listUsers.mp (husers ▸ hu)).1⟩

/-! ### Changing credentials -/

theorem changePassword_yields (service : Settings.Accepted) (id : UserId) (current new : String)
    (now : Timestamp) :
    (changePassword service id current new now).Yields store fun user after =>
      ∃ old password, store.user? id = some old ∧ HashOf service.settings new password ∧
        user = { old with password := password }.updated old.username now ∧
          Replaced store old user after := by
  unfold changePassword
  refine .bind (getUser_yields id) fun old hold => ?_
  refine .unless fun _ => ?_
  refine .bind (P := fun _ => True) (.ofOutcome fun _ _ => ⟨rfl, trivial⟩) fun _ _ => ?_
  refine .bind (hashPassword_yields _ _) fun password hhash => ?_
  refine (replace_yields hold (by rfl) _ now).mono ?_
  rintro user after ⟨rfl, hreplaced⟩
  exact ⟨old, password, hold, hhash, rfl, hreplaced⟩

theorem updateEmail_yields (service : Settings.Accepted) (id : UserId) (email actor : String)
    (now : Timestamp) :
    (updateEmail service id email actor now).Yields store fun user after =>
      (after = store ∧ user ∈ store.users) ∨
        ∃ old v, store.user? id = some old ∧ SealsEmail service.settings v ∧
          user = { old with email := v }.updated actor now ∧ Replaced store old user after := by
  unfold updateEmail
  refine .bind (P := fun _ => Email.validate (Email.normalize email) = .ok ())
    (.ofOutcome fun _ h => ⟨rfl, h⟩) fun _ hvalid => ?_
  refine .bind (getUser_yields id) fun old hold => ?_
  -- an address that is looked up as before is not sealed again
  split_ifs
  · exact .pure (.inl ⟨rfl, mem_of_user? hold⟩)
  · refine .bind (ensureAbsent_yields rfl) fun _ _ => ?_
    refine .bind (sealValue_yields _ _) fun v hopens => ?_
    refine (replace_yields hold (by rfl) _ now).mono ?_
    rintro user after ⟨rfl, hreplaced⟩
    exact .inr ⟨old, v, hold, sealsEmail_normalize hvalid hopens, rfl, hreplaced⟩

theorem storePin_yields (s : Settings) {id : UserId} {old : User} (hold : store.user? id = some old)
    (pin : String) (now : Timestamp) :
    (storePin s old pin now).Yields store fun user after =>
      ∃ v, Opens s v pin ∧ user = { old with pin := some v }.updated old.username now ∧
        Replaced store old user after := by
  unfold storePin
  refine .bind (sealValue_yields _ _) fun v hopens => ?_
  refine (replace_yields hold (by rfl) _ now).mono ?_
  rintro user after ⟨rfl, hreplaced⟩
  exact ⟨v, hopens, rfl, hreplaced⟩

theorem setPin_yields (service : Settings.Accepted) (id : UserId) (pin : String)
    (now : Timestamp) :
    (setPin service id pin now).Yields store fun user after =>
      ∃ old v, store.user? id = some old ∧ SealsPin service.settings v ∧
        user = { old with pin := some v }.updated old.username now ∧
          Replaced store old user after := by
  unfold setPin
  refine .bind (P := fun _ => Pin.validate pin = .ok ()) (.ofOutcome fun _ h => ⟨rfl, h⟩)
    fun _ hvalid => ?_
  refine .bind (getUser_yields id) fun old hold => ?_
  refine .bind (P := fun _ => True) (.ofOutcome fun _ _ => ⟨rfl, trivial⟩) fun _ _ => ?_
  refine (storePin_yields _ hold pin now).mono ?_
  rintro user after ⟨v, hopens, huser, hreplaced⟩
  exact ⟨old, v, hold, ⟨pin, hvalid, hopens⟩, huser, hreplaced⟩

/-- Whatever the number of attempts, at most one of them writes. -/
theorem storeFreshPin_yields (service : Settings.Accepted) {id : UserId} {old : User}
    (hold : store.user? id = some old) (now : Timestamp) (attempts : Nat) :
    (storeFreshPin service.settings old now attempts).Yields store fun _ after =>
      ∃ v, SealsPin service.settings v ∧
        Replaced store old ({ old with pin := some v }.updated old.username now) after := by
  induction attempts with
  | zero => exact .throw
  | succ attempts ih =>
    obtain ⟨hmin, hmax⟩ := service.pinLength
    unfold storeFreshPin
    refine .bind (P := fun pin => Pin.validate pin = .ok ()) (.draw fun pin hpin => ?_)
      fun pin hvalid => ?_
    · exact ⟨rfl, Generated.validate_of_gives_pin hmin hmax hpin⟩
    · refine .attempt_bind (fun _ => pin) (storePin_yields _ hold pin now) ?_ ?_ ?_
      · exact fun _ => rfl
      · rintro user after ⟨v, hopens, rfl, hreplaced⟩
        exact ⟨v, ⟨pin, hvalid, hopens⟩, hreplaced⟩
      -- a collision has changed nothing, so the next attempt starts from the same store
      · intro e
        split
        · cases ‹_›
        · exact ih
        · exact .throw

theorem generatePin_yields (service : Settings.Accepted) (id : UserId) (now : Timestamp) :
    (generatePin service id now).Yields store fun _ after =>
      ∃ old v, store.user? id = some old ∧ SealsPin service.settings v ∧
        Replaced store old ({ old with pin := some v }.updated old.username now) after := by
  unfold generatePin
  refine .bind (getUser_yields id) fun old hold => ?_
  refine .bind (P := fun _ => True) (.ofOutcome fun _ _ => ⟨rfl, trivial⟩) fun _ _ => ?_
  refine (storeFreshPin_yields service hold now pinAttempts).mono ?_
  rintro _ after ⟨v, hseals, hreplaced⟩
  exact ⟨old, v, hold, hseals, hreplaced⟩

theorem clearPin_yields (id : UserId) (now : Timestamp) :
    (clearPin id now).Yields store fun user after =>
      ∃ old, store.user? id = some old ∧
        user = { old with pin := none }.updated old.username now ∧
          Replaced store old user after := by
  unfold clearPin
  refine .bind (getUser_yields id) fun old hold => ?_
  refine (replace_yields hold (by rfl) _ now).mono ?_
  rintro user after ⟨rfl, hreplaced⟩
  exact ⟨old, hold, rfl, hreplaced⟩

/-! ### Changing accounts -/

theorem updateUser_yields (user : User) (actor : String) (now : Timestamp) :
    (updateUser user actor now).Yields store fun answer after =>
      answer = user.updated actor now ∧ Named answer ∧ ∃ old, Replaced store old answer after := by
  unfold updateUser
  refine .bind (P := fun _ => Username.validate (Username.normalize user.username) = .ok ())
    (.ofOutcome fun _ h => ⟨rfl, h⟩) fun _ husername => ?_
  refine .bind (P := fun _ => DisplayName.validate (DisplayName.normalize user.name) = .ok ())
    (.ofOutcome fun _ h => ⟨rfl, h⟩) fun _ hname => ?_
  refine .call fun answer after h => ?_
  obtain ⟨⟨old, hold⟩, -, rfl, hafter⟩ := Store.updateUser_eq_ok.mp (Store.changed_eq_ok h)
  exact ⟨rfl, named_of_normalize rfl husername rfl hname, old, hold, hafter⟩

theorem deleteUser_yields (id : UserId) (actor : String) (now : Timestamp) :
    (deleteUser id actor now).Yields store fun _ after =>
      ∃ old, store.user? id = some old ∧
        Replaced store old (Store.markDeleted old actor now) after := by
  refine .call fun answer after h => ?_
  obtain ⟨old, hold, hafter⟩ := Store.deleteUser_eq_ok.mp (Store.changed_eq_ok h)
  -- the record is stored under the identifier that it has
  have hself := hold
  rw [← id_of_user? hold] at hself
  exact ⟨old, hold, hself, hafter⟩

theorem setUserStatus_yields (id : UserId) (status : UserStatus) (actor : String)
    (now : Timestamp) :
    (setUserStatus id status actor now).Yields store fun user after =>
      (after = store ∧ user ∈ store.users) ∨
        ∃ old, store.user? id = some old ∧
          user = { old with status := status }.updated actor now ∧
            Replaced store old user after := by
  unfold setUserStatus
  refine .bind (getUser_yields id) fun old hold => ?_
  split_ifs
  · exact .pure (.inl ⟨rfl, mem_of_user? hold⟩)
  · refine (replace_yields hold (by rfl) _ now).mono ?_
    rintro user after ⟨rfl, hreplaced⟩
    exact .inr ⟨old, hold, rfl, hreplaced⟩

end Authentication

end Identity
