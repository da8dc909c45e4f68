/-
Identity/Proofs/Authentication/Records.lean

What is true of every user record, whatever has been requested.

The ciphertext of an address and its lookup digest are computed apart from each
other, and most operations write a record back without looking at either.
They still belong together on every stored record, and so do the parts of a
PIN; the names are canonical, and the password is a digest under a salt.

The invariant (`Intact`) is about single records.  It holds of all records that
are stored *and* of all that the service has ever shown: a caller may edit an
old record and have it stored again.

Main result: `stored_wellKept`.
-/
import Identity.Proofs.Authentication.Effects
import Identity.Proofs.Authentication.SignUp

namespace Identity.Authentication

open Crypto

variable {s : Settings} {store after : Store} {user seen : User}

/-! ### The invariant -/

/-- A record as the service keeps it. -/
structure Intact (s : Settings) (user : User) : Prop where
  id : user.id.isNil = false
  names : Named user
  email : SealsEmail s user.email
  pin : ∀ v ∈ user.pin, SealsPin s v
  password : ∃ password, HashOf s password user.password

theorem Fresh.intact {email password : String} (h : Fresh s email password user) :
    Intact s user where
  id := h.id
  names := h.names
  email := sealsEmail_normalize h.validEmail h.email
  pin := by simp [h.pin]
  password := ⟨password, h.password⟩

/-- Rewriting a record keeps it intact. -/
theorem Rewrite.intact {old new : User} {notice : Request.Notice}
    (h : Rewrite s old new notice) (hid : new.id = old.id) (hold : Intact s old) :
    Intact s new where
  id := hid ▸ hold.id
  names := h.names hold.names
  email := by
    rcases h.email with heq | hseals
    · exact heq ▸ hold.email
    · exact hseals
  pin := by
    rcases h.pin with heq | hseals
    · exact heq ▸ hold.pin
    · exact hseals
  password := by
    rcases h.password with ⟨-, heq⟩ | ⟨password, -, hhash⟩
    · exact heq ▸ hold.password
    · exact ⟨password, hhash⟩

/-- An edit of an intact record is intact once its names are accepted. -/
theorem EditOf.intact {actor : String} {now : Timestamp} (hedit : EditOf seen user)
    (hseen : Intact s seen) (hnames : Named (user.updated actor now)) :
    Intact s (user.updated actor now) where
  id := by
    rw [User.updated_id, hedit]
    exact hseen.id
  names := hnames
  email := by
    rw [User.updated_email, hedit]
    exact hseen.email
  pin := by
    rw [User.updated_pin, hedit]
    exact hseen.pin
  password := by
    rw [User.updated_password, hedit]
    exact hseen.password

/-! ### Steps and runs -/

/-- **One step**: if the stored records are intact, and an update is an edit of an
intact record, then the stored records and those of the answer are intact. -/
theorem Effect.intact {request : Request} {answer : request.Answer}
    (h : Effect s store request answer after) (hstore : ∀ user ∈ store.users, Intact s user)
    (hupdate : ∀ user actor, request = .updateUser user actor →
      ∃ seen, Intact s seen ∧ EditOf seen user) :
    (∀ user ∈ after.users, Intact s user) ∧
      ∀ shown ∈ request.records answer, Intact s shown := by
  have hwrite : ∀ {new : User} {after : Store}, Holds after new store → Intact s new →
      ∀ user ∈ after.users, Intact s user := by
    intro new after hholds hnew user hu
    rcases (hholds user).mp hu with rfl | ⟨hu, -⟩
    · exact hnew
    · exact hstore user hu
  cases h with
  | read records _ => exact ⟨hstore, fun shown hs => hstore shown (records shown hs)⟩
  | insert inserted fresh records _ =>
    have hnew := fresh.intact
    exact ⟨hwrite inserted.holds hnew, fun shown hs => records shown hs ▸ hnew⟩
  | rewrite replaced rewrites records =>
    have hid := id_of_user? replaced.stored
    have hnew := rewrites.intact hid.symm (hstore _ (mem_of_user? replaced.stored))
    exact ⟨hwrite replaced.holds hnew, fun shown hs => records shown hs ▸ hnew⟩
  | update asked names replaced records _ =>
    -- the edited record may be an old one; all that counts is that it was intact
    obtain ⟨seen, hseen, hedit⟩ := hupdate _ _ asked
    have hnew := hedit.intact hseen names
    exact ⟨hwrite replaced.holds hnew, fun shown hs => records shown hs ▸ hnew⟩

/-- **Runs**: all records that are stored or have been shown are intact. -/
theorem Run.intact {service : Settings.Accepted} {events : List Event}
    (h : Run service EditsSeen events store) :
    (∀ user ∈ store.users, Intact service.settings user) ∧
      ∀ event ∈ events, ∀ shown ∈ event.records, Intact service.settings shown := by
  induction h with
  | start => exact ⟨by simp [Store.empty], by simp⟩
  | @step events store request now entropy _ hallowed ih =>
    obtain ⟨hstore, hshown⟩ := ih
    have hupdate : ∀ user actor, request = .updateUser user actor →
        ∃ seen, Intact service.settings seen ∧ EditOf seen user := by
      intro user actor hrequest
      -- the record that was edited was intact when it was shown, however long ago
      obtain ⟨event, hevent, seen, hseen, hedit⟩ := hallowed user actor hrequest
      exact ⟨seen, hshown event hevent seen hseen, hedit⟩
    rw [List.forall_mem_cons]
    rcases step_cases service now request entropy store with ⟨answer, hok, heffect⟩ | ⟨e, he, hsame⟩
    · obtain ⟨hafter, hanswer⟩ := heffect.intact hstore hupdate
      refine ⟨hafter, ?_, hshown⟩
      simp only [Event.records, hok]
      exact hanswer
    · rw [hsame]
      refine ⟨hstore, ?_, hshown⟩
      simp [Event.records, he]

/-! ### Stored records -/

/-- What can be relied on when a record is read from a store. -/
structure WellKept (s : Settings) (user : User) : Prop where
  id : user.id ≠ .nil
  username : Username.normalize user.username = user.username
  validUsername : Username.validate user.username = .ok ()
  name : Text.trim user.name = user.name
  validName : DisplayName.validate user.name = .ok ()
  email : ∃ email, reveal s user.email = .ok email ∧ Email.normalize email = email ∧
    Email.validate email = .ok () ∧
      user.email.lookup = Hmac.sha256 s.signingKey.bytes (Bytes.ofText email)
  pin : ∀ v ∈ user.pin, ∃ pin, reveal s v = .ok pin ∧ Pin.validate pin = .ok () ∧
    v.lookup = Hmac.sha256 s.signingKey.bytes (Bytes.ofText pin)
  digest : user.password.digest.length = 32
  salt : user.password.salt.length = 32

theorem Intact.wellKept (h : Intact s user) : WellKept s user where
  id := by
    intro hnil
    have hid := h.id
    rw [hnil] at hid
    cases hid
  username := h.names.username
  validUsername := h.names.validUsername
  name := h.names.name
  validName := h.names.validName
  email := by
    obtain ⟨email, hcanonical, hvalid, hopens⟩ := h.email
    exact ⟨email, hopens.reveal, hcanonical, hvalid, hopens.lookup⟩
  pin := by
    intro v hv
    obtain ⟨pin, hvalid, hopens⟩ := h.pin v hv
    exact ⟨pin, hopens.reveal, hvalid, hopens.lookup⟩
  digest := by
    obtain ⟨password, hhash⟩ := h.password
    exact (PasswordHashing.length_of_hash hhash).1
  salt := by
    obtain ⟨password, hhash⟩ := h.password
    exact (PasswordHashing.length_of_hash hhash).2

/-- **Every stored record is well kept**: in each run whose updates are edits of
records that the service has shown, the names of a stored user are canonical
and accepted, its address and its PIN open to accepted texts that their
lookups are the digests of, and its password is a digest under a salt. -/
theorem stored_wellKept (service : Settings.Accepted) {events : List Event} {store : Store}
    (h : Run service EditsSeen events store) :
    ∀ user ∈ store.users, WellKept service.settings user :=
  fun user hu => (h.intact.1 user hu).wellKept

/-- A user signs up, and then her record is edited and stored again. -/
theorem stored_wellKept_alice :
    ∃ events store, Run plainService EditsSeen events store ∧ store.users ≠ [] ∧
      ∀ user ∈ store.users, WellKept plainService.settings user := by
  obtain ⟨user, rest, store, hsignUp, husers, -⟩ := signUp_alice
  have hfirst : Run plainService EditsSeen [⟨.signUp alice, .ok user⟩] store :=
    Run.start.next (by nofun) hsignUp
  have hallowed : EditsSeen [⟨.signUp alice, .ok user⟩] store
      (.updateUser { user with name := "Al", status := .suspended } "root") := by
    rintro _ _ ⟨⟩
    exact ⟨_, List.mem_singleton_self _, user, List.mem_singleton_self _, rfl⟩
  have hsecond := Run.step _ .epoch plainEntropy hfirst hallowed
  refine ⟨_, _, hsecond, ?_, stored_wellKept plainService hsecond⟩
  have hmem : user ∈ store.users := by simp [husers]
  obtain ⟨kept, hkept, -⟩ := step_keeps plainService .epoch
    (.updateUser { user with name := "Al", status := .suspended } "root") plainEntropy hmem
  exact List.ne_nil_of_mem hkept

end Identity.Authentication
