/-
Identity/Proofs/Authentication/Addresses.lean

Moving an account to another address.

A record has the address twice: sealed, and as the digest that it is found by.
A change of address replaces both (`withEmail`), and afterwards the account is
found by the new address in every spelling and no longer by the old one.

Accounts are told apart by digests, and addresses by what the records open to.
The two agree as long as nobody has another address with the digest of the one
that is moved to (`Unmistakable`); nothing more is asked of the digests.

Main result: `addresses_exact`.
-/
import Identity.Proofs.Authentication.Records
import Identity.Proofs.Crypto.Sha2

namespace Identity.Authentication

open Crypto Operation

variable {service : Settings.Accepted} {store : Store} {entropy : Entropy} {user other : User}
variable {email actor : String} {now : Timestamp} {v : SealedValue}

/-! ### Whose address it is -/

/-- The record of the user opens to this address. -/
def HasEmail (service : Settings.Accepted) (user : User) (email : String) : Prop :=
  revealEmail service user = .ok email

/-- Nobody has another address with the same lookup digest. -/
def Unmistakable (service : Settings.Accepted) (store : Store) (email : String) : Prop :=
  ∀ user ∈ store.users, ∀ held, HasEmail service user held →
    lookup service.settings held = lookup service.settings email → held = email

/-- The record of a user who has an address can be found by it. -/
theorem HasEmail.lookup_eq (h : HasEmail service user email)
    (hintact : Intact service.settings user) :
    user.email.lookup = lookup service.settings email := by
  obtain ⟨held, -, -, hopens⟩ := hintact.email
  have hsame : held = email := Except.ok.inj (hopens.reveal.symm.trans h)
  rw [← hsame]
  exact hopens.lookup

/-- Who can be found by an address that cannot be mistaken has it. -/
theorem Unmistakable.hasEmail (h : Unmistakable service store email) (hu : user ∈ store.users)
    (hintact : Intact service.settings user)
    (hlookup : user.email.lookup = lookup service.settings email) :
    HasEmail service user email := by
  obtain ⟨held, -, -, hopens⟩ := hintact.email
  have hheld : HasEmail service user held := hopens.reveal
  rw [← h user hu held hheld (hopens.lookup.symm.trans hlookup)]
  exact hheld

/-! ### Finding users by their addresses -/

theorem run_getUserByEmail_of_lookup (hsound : store.Sound) (hu : user ∈ store.users)
    (hlookup : user.email.lookup = lookup service.settings (Email.normalize email))
    (entropy : Entropy) :
    (getUserByEmail service email).run entropy store = (.ok user, entropy, store) :=
  run_call_of (respond_findUserByEmail hsound hu hlookup)

theorem run_getUserByEmail_of_nobody
    (h : ∀ user ∈ store.users,
      user.email.lookup ≠ lookup service.settings (Email.normalize email)) (entropy : Entropy) :
    (getUserByEmail service email).run entropy store = (.error .userNotFound, entropy, store) :=
  run_call_of (respond_findUserByEmail_of_absent h)

/-! ### Storing an address -/

/-- The record of a user with another address. -/
def withEmail (user : User) (v : SealedValue) (actor : String) (now : Timestamp) : User :=
  { user with email := v, updatedAt := now, updatedBy := actor }

theorem updated_eq_withEmail (hnames : Named user) (v : SealedValue) (actor : String)
    (now : Timestamp) :
    { user with email := v }.updated actor now = withEmail user v actor now := by
  have hkept : Named { user with email := v } := { hnames with }
  exact hkept.updated_eq actor now

/-- The store with the record of a user replaced by the one with another address. -/
def moved (store : Store) (user : User) (v : SealedValue) (actor : String) (now : Timestamp) :
    Store :=
  { store with users := Store.replaceUser store.users (withEmail user v actor now) }

/-- An address that nobody else can be found by is stored. -/
theorem respond_withEmail (hsound : store.Sound) (hu : user ∈ store.users)
    (hfree : ∀ other ∈ store.users, other.id ≠ user.id → other.email.lookup ≠ v.lookup)
    (actor : String) (now : Timestamp) :
    store.respond (.updateUser (withEmail user v actor now)) =
      (.ok (withEmail user v actor now), moved store user v actor now) := by
  have hstored : store.user? user.id = some user := hsound.user?_eq_some.mpr ⟨hu, rfl⟩
  refine Store.respond_updateUser_of_apart hstored fun other hother hne => ?_
  -- only the address of the record is not the user's own
  have hapart := hsound.apart_of_id hother hu hne
  exact ⟨hapart.id, hfree other hother hne, hapart.username, hapart.pin⟩

/-- What is done about an address that the record is not found by yet. -/
def storeEmail (s : Settings) (user : User) (email actor : String) (now : Timestamp) :
    Operation User := do
  ensureAbsent (.findUserByEmail (lookup s email)) .userAlreadyExists
  let sealedEmail ← sealValue s email
  .call (.updateUser ({ user with email := sealedEmail }.updated actor now))

theorem run_updateEmail (hsound : store.Sound) (hu : user ∈ store.users)
    (hvalid : Email.validate (Email.normalize email) = .ok ()) (actor : String) (now : Timestamp)
    (entropy : Entropy) :
    (updateEmail service user.id email actor now).run entropy store =
      if user.email.lookup = lookup service.settings (Email.normalize email) then
        (.ok user, entropy, store)
      else (storeEmail service.settings user (Email.normalize email) actor now).run entropy
        store := by
  have hstored : store.user? user.id = some user := hsound.user?_eq_some.mpr ⟨hu, rfl⟩
  have hget := Store.respond_getUser hstored
  refine (run_bind_of_ok (run_ofOutcome_of hvalid)).trans ?_
  refine (run_bind_of_ok (run_call_of hget)).trans ?_
  split_ifs with hsame
  · rfl
  · rfl

/-- An address that somebody can be found by is refused. -/
theorem run_storeEmail_of_taken (hsound : store.Sound) (hother : other ∈ store.users)
    (hlookup : other.email.lookup = lookup service.settings email) :
    (storeEmail service.settings user email actor now).run entropy store =
      (.error .userAlreadyExists, entropy, store) :=
  run_bind_of_error (run_ensureAbsent_of_found (respond_findUserByEmail hsound hother hlookup))

/-- Any other address is sealed and stored. -/
theorem run_storeEmail_of_free (hsound : store.Sound) (hu : user ∈ store.users)
    (hnames : Named user)
    (hfree : ∀ other ∈ store.users, other.email.lookup ≠ lookup service.settings email)
    (h : Gcm.nonceLength ≤ entropy.tape.length) (actor : String) (now : Timestamp) :
    ∃ v, Opens service.settings v email ∧
      (storeEmail service.settings user email actor now).run entropy store =
        (.ok (withEmail user v actor now), ⟨entropy.tape.drop Gcm.nonceLength⟩,
          moved store user v actor now) := by
  have habsent := respond_findUserByEmail_of_absent hfree
  obtain ⟨v, rest, after, hsealed, ⟨hlookup, rfl, rfl⟩, -, hopens⟩ :=
    (sealValue_succeeds email h).and_yields (sealValue_yields service.settings email)
  have hstored := respond_withEmail hsound hu (fun other ho _ => hlookup ▸ hfree other ho) actor now
  refine ⟨v, hopens, ?_⟩
  refine (run_bind_of_ok (run_ensureAbsent_of_absent habsent)).trans ?_
  refine (run_bind_of_ok hsealed).trans ?_
  rw [updated_eq_withEmail hnames]
  exact run_call_of hstored

/-! ### Moving an account -/

/-- An account has moved to an address.  It is found by the address, in every spelling, and no
longer by the one that it had, if that was another one.  The record is otherwise the same, and so
is everything else in the store. -/
structure Moves (service : Settings.Accepted) (store : Store) (user : User) (email : String)
    (result : User) (after : Store) : Prop where
  reveals : revealEmail service result = .ok email
  found : ∀ spelling, Email.normalize spelling = email → ∀ entropy,
    (getUserByEmail service spelling).run entropy after = (.ok result, entropy, after)
  left : ∃ old, revealEmail service user = .ok old ∧ Email.normalize old = old ∧
    (old ≠ email → ∀ spelling, Email.normalize spelling = old → ∀ entropy,
      (getUserByEmail service spelling).run entropy after = (.error .userNotFound, entropy, after))
  record : result = { user with
    email := result.email, updatedAt := result.updatedAt, updatedBy := result.updatedBy }
  stored : after.user? user.id = some result
  others : ∀ id, id ≠ user.id → after.user? id = store.user? id
  roles : after.roles = store.roles
  grants : after.grants = store.grants

/-- An account that has the address already has moved there. -/
theorem moves_of_hasEmail (hsound : store.Sound) (hu : user ∈ store.users)
    (hintact : Intact service.settings user) (h : HasEmail service user email) :
    Moves service store user email user store where
  reveals := h
  found := by
    rintro spelling rfl entropy
    exact run_getUserByEmail_of_lookup hsound hu (h.lookup_eq hintact) entropy
  left := by
    obtain ⟨old, hcanonical, -, hopens⟩ := hintact.email
    have hold : HasEmail service user old := hopens.reveal
    exact ⟨old, hold, hcanonical, fun hne => absurd (Except.ok.inj (hold.symm.trans h)) hne⟩
  record := rfl
  stored := hsound.user?_eq_some.mpr ⟨hu, rfl⟩
  others := fun _ _ => rfl
  roles := rfl
  grants := rfl

theorem sound_moved (hsound : store.Sound) (hu : user ∈ store.users)
    (hfree : ∀ other ∈ store.users, other.id ≠ user.id → other.email.lookup ≠ v.lookup)
    (actor : String) (now : Timestamp) : (moved store user v actor now).Sound := by
  have hafter := hsound.respond (.updateUser (withEmail user v actor now))
  rw [respond_withEmail hsound hu hfree] at hafter
  exact hafter

/-- Everybody else is stored as before. -/
theorem user?_moved_of_ne (hsound : store.Sound) (hsound' : (moved store user v actor now).Sound)
    {id : UserId} (hne : id ≠ user.id) :
    (moved store user v actor now).user? id = store.user? id := by
  refine Option.ext fun stored => ?_
  rw [hsound'.user?_eq_some, hsound.user?_eq_some]
  refine and_congr_left fun hid => ?_
  have hother : stored.id ≠ user.id := hid ▸ hne
  constructor
  · intro hs
    rcases (Store.mem_replace User.id).mp hs with ⟨rfl, -⟩ | ⟨hstored, -⟩
    · exact absurd rfl hother
    · exact hstored
  · exact fun hs => (Store.mem_replace User.id).mpr (.inr ⟨hs, hother⟩)

/-- An account whose record has been replaced has moved, unless the address can be mistaken for
the old one. -/
theorem moves_of_moved (hsound : store.Sound)
    (hintact : ∀ user ∈ store.users, Intact service.settings user)
    (hsound' : (moved store user v actor now).Sound) (hu : user ∈ store.users)
    (hclear : Unmistakable service store email) (hopens : Opens service.settings v email) :
    Moves service store user email (withEmail user v actor now)
      (moved store user v actor now) := by
  have hmem : withEmail user v actor now ∈ (moved store user v actor now).users :=
    (Store.mem_replace User.id).mpr (.inl ⟨rfl, user, hu, rfl⟩)
  exact {
    reveals := hopens.reveal
    found := by
      rintro spelling rfl entropy
      exact run_getUserByEmail_of_lookup hsound' hmem hopens.lookup entropy
    left := by
      obtain ⟨old, hcanonical, -, hold⟩ := (hintact user hu).email
      refine ⟨old, hold.reveal, hcanonical, ?_⟩
      rintro hne spelling rfl entropy
      refine run_getUserByEmail_of_nobody (fun stored hs => ?_) entropy
      rcases (Store.mem_replace User.id).mp hs with ⟨rfl, -⟩ | ⟨hstored, hid⟩
      -- the account itself is found by the new address only
      · intro hsame
        exact hne (hclear user hu _ hold.reveal (hsame.symm.trans hopens.lookup))
      -- and nobody else could be found by the old one before
      · have hapart := hsound.apart_of_id hstored hu hid
        exact fun hsame => hapart.email (hsame.trans hold.lookup.symm)
    record := rfl
    stored := hsound'.user?_eq_some.mpr ⟨hmem, rfl⟩
    others := fun id hne => user?_moved_of_ne hsound hsound' hne
    roles := rfl
    grants := rfl }

/-- Accounts move from one address to another as they are asked to, and to free ones only. -/
structure AddressesExact (service : Settings.Accepted) (store : Store) : Prop where
  refuses : ∀ user ∈ store.users, ∀ email actor now entropy,
    Email.validate (Email.normalize email) = .ok () →
    (∃ other ∈ store.users, other.id ≠ user.id ∧
      revealEmail service other = .ok (Email.normalize email)) →
    (updateEmail service user.id email actor now).run entropy store =
      (.error .userAlreadyExists, entropy, store)
  moves : ∀ user ∈ store.users, ∀ email actor now entropy,
    Email.validate (Email.normalize email) = .ok () →
    Unmistakable service store (Email.normalize email) →
    (∀ other ∈ store.users, other.id ≠ user.id →
      revealEmail service other ≠ .ok (Email.normalize email)) →
    Gcm.nonceLength ≤ entropy.tape.length →
    ∃ result rest after, (updateEmail service user.id email actor now).run entropy store =
        (.ok result, rest, after) ∧
      Moves service store user (Email.normalize email) result after

/-- **Moving is exact**: in each run whose updates are edits of records that the service has shown,
an account moves to every well-formed address that no other stored account has, whatever its
state, and to no other one. -/
theorem addresses_exact (service : Settings.Accepted) {events : List Event} {store : Store}
    (h : Run service EditsSeen events store) : AddressesExact service store := by
  have hsound := h.sound
  have hintact := h.intact.1
  constructor
  -- `refuses`: the other account is found, since the digest of the user's own address is another
  · rintro user hu email actor now entropy hvalid ⟨other, hother, hne, hheld⟩
    have hlookup := HasEmail.lookup_eq hheld (hintact other hother)
    have hapart := hsound.apart_of_id hother hu hne
    have hother' : ¬ user.email.lookup = lookup service.settings (Email.normalize email) :=
      fun hsame => hapart.email (hlookup.trans hsame.symm)
    rw [run_updateEmail hsound hu hvalid, if_neg hother']
    exact run_storeEmail_of_taken hsound hother hlookup
  -- `moves`: the account may have the address already
  · intro user hu email actor now entropy hvalid hclear hfree hlength
    rw [run_updateEmail hsound hu hvalid]
    split_ifs with hsame
    · have hheld := hclear.hasEmail hu (hintact user hu) hsame
      exact ⟨user, entropy, store, rfl, moves_of_hasEmail hsound hu (hintact user hu) hheld⟩
    · have hnobody : ∀ other ∈ store.users,
          other.email.lookup ≠ lookup service.settings (Email.normalize email) := by
        intro other hother hlookup
        rcases eq_or_ne other user with rfl | hne
        · exact hsame hlookup
        · have hid := (hsound.usersApart hother hu hne).id
          exact hfree other hother hid (hclear.hasEmail hother (hintact other hother) hlookup)
      obtain ⟨v, hopens, hrun⟩ := run_storeEmail_of_free hsound hu (hintact user hu).names hnobody
        hlength actor now
      have hsound' : (moved store user v actor now).Sound :=
        sound_moved hsound hu (fun other hother _ => hopens.lookup ▸ hnobody other hother) actor now
      exact ⟨_, _, _, hrun, moves_of_moved hsound hintact hsound' hu hclear hopens⟩

/-- Somebody else who signs up. -/
def bob : Registration := ⟨"bob@example.org", "Correct1!", "bob", "Bob"⟩

/-- The addresses of two users, and another one. -/
theorem lookup_distinct :
    lookup plainService.settings "alice@example.org" ≠
        lookup plainService.settings "bob@example.org" ∧
      lookup plainService.settings "alice@example.org" ≠
        lookup plainService.settings "alice@new.example" ∧
      lookup plainService.settings "bob@example.org" ≠
        lookup plainService.settings "alice@new.example" := by
  unfold lookup Lookup.digest Hmac.sha256 Hmac.blockKey Sha256.hash
  rw [Sha2.hash_eq_hashBackward]
  decide +kernel

/-- Two users sign up, one after the other. -/
theorem signUp_alice_bob : ∃ events store, ∃ a b : User,
    Run plainService EditsSeen events store ∧ store.users = [a, b] ∧ a.id ≠ b.id ∧
      HasEmail plainService a "alice@example.org" ∧ HasEmail plainService b "bob@example.org" := by
  have halice : (signUp plainService alice .epoch).Succeeds plainEntropy .empty fun user _ after =>
      user.id = drawnId plainEntropy ∧ user.username = Username.normalize alice.username ∧
        after = { Store.empty with users := [] ++ [user] } :=
    signUp_succeeds plainService alice .epoch (by decide +kernel) (by decide +kernel) (by decide)
      nofun nofun nofun
  obtain ⟨a, _, store, hrun, ⟨hid, hname, hstore⟩, -, -, hfresh⟩ :=
    halice.and_yields (signUp_yields plainService alice .epoch)
  have hfirst : Run plainService EditsSeen [⟨.signUp alice, .ok a⟩] store :=
    Run.start.next nofun hrun
  have halone : ∀ user ∈ store.users, user = a := by simp [hstore]
  have hemail : ∀ user ∈ store.users,
      user.email.lookup ≠ lookup plainService.settings (Email.normalize bob.email) := by
    intro user hu
    rw [halone user hu, hfresh.email.lookup]
    exact lookup_distinct.1
  have husername : ∀ user ∈ store.users, user.username ≠ Username.normalize bob.username := by
    intro user hu
    rw [halone user hu, hname]
    decide +kernel
  have hnew : ∀ user ∈ store.users, user.id ≠ drawnId ⟨List.replicate 60 1⟩ := by
    intro user hu
    rw [halone user hu, hid]
    decide +kernel
  obtain ⟨b, _, after, hrun', ⟨-, -, hafter⟩, -, hinserted, hfresh'⟩ :=
    (signUp_succeeds plainService bob .epoch (by decide +kernel) (by decide +kernel) (by decide)
      hemail husername hnew).and_yields (signUp_yields plainService bob .epoch)
  have hsecond : Run plainService EditsSeen [⟨.signUp bob, .ok b⟩, ⟨.signUp alice, .ok a⟩] after :=
    hfirst.next nofun hrun'
  have hmem : a ∈ store.users := by simp [hstore]
  exact ⟨_, after, a, b, hsecond, by simp [hafter, hstore], (hinserted.apart a hmem).id,
    hfresh.email.reveal, hfresh'.email.reveal⟩

/-- A user moves to a new address and is found by it, and no longer by the old one; the address
of the other user was refused. -/
theorem addresses_exact_alice_bob : ∃ events store, ∃ a b : User,
    Run plainService EditsSeen events store ∧ store.users = [a, b] ∧
      (updateEmail plainService a.id " Bob@Example.org" "alice" .epoch).run plainEntropy store =
        (.error .userAlreadyExists, plainEntropy, store) ∧
      ∃ result rest after,
        (updateEmail plainService a.id "Alice@New.example" "alice" .epoch).run plainEntropy store =
          (.ok result, rest, after) ∧
        (getUserByEmail plainService "alice@NEW.example").run ⟨[]⟩ after =
          (.ok result, ⟨[]⟩, after) ∧
        (getUserByEmail plainService "Alice@Example.org").run ⟨[]⟩ after =
          (.error .userNotFound, ⟨[]⟩, after) := by
  obtain ⟨events, store, a, b, hrun, husers, hne, halice, hbob⟩ := signUp_alice_bob
  have hexact := addresses_exact plainService hrun
  have ha : a ∈ store.users := by simp [husers]
  have hb : b ∈ store.users := by simp [husers]
  have hheld : ∀ user ∈ store.users, HasEmail plainService user "alice@example.org" ∨
      HasEmail plainService user "bob@example.org" := by
    simp [husers, halice, hbob]
  have hnew : Email.normalize "Alice@New.example" = "alice@new.example" := by decide +kernel
  have hrefused := hexact.refuses a ha " Bob@Example.org" "alice" .epoch plainEntropy
    (by decide +kernel) ⟨b, hb, hne.symm, hbob.trans (by decide +kernel)⟩
  have hclear : Unmistakable plainService store (Email.normalize "Alice@New.example") := by
    intro user hu held hhas hsame
    rw [hnew] at hsame
    rcases hheld user hu with h | h
    · obtain rfl := Except.ok.inj (h.symm.trans hhas)
      exact absurd hsame lookup_distinct.2.1
    · obtain rfl := Except.ok.inj (h.symm.trans hhas)
      exact absurd hsame lookup_distinct.2.2
  have hfree : ∀ other ∈ store.users, other.id ≠ a.id →
      revealEmail plainService other ≠ .ok (Email.normalize "Alice@New.example") := by
    intro other hother _ hhas
    rw [hnew] at hhas
    rcases hheld other hother with h | h
    · exact absurd (Except.ok.inj (h.symm.trans hhas)) (by decide)
    · exact absurd (Except.ok.inj (h.symm.trans hhas)) (by decide)
  obtain ⟨result, rest, after, hmoved, hmoves⟩ := hexact.moves a ha "Alice@New.example" "alice"
    .epoch plainEntropy (by decide +kernel) hclear hfree (by decide)
  obtain ⟨old, hold, -, hleft⟩ := hmoves.left
  obtain rfl : old = "alice@example.org" := Except.ok.inj (hold.symm.trans halice)
  have hother : "alice@example.org" ≠ Email.normalize "Alice@New.example" := by
    rw [hnew]
    decide
  exact ⟨events, store, a, b, hrun, husers, hrefused, result, rest, after, hmoved,
    hmoves.found _ (by decide +kernel) ⟨[]⟩, hleft hother _ (by decide +kernel) ⟨[]⟩⟩

end Identity.Authentication
