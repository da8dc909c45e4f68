/-
Identity/Proofs/Authentication/Superadmin.lean

Making sure of the superadmin many times at once.

Each call looks for the superadmin, draws a password and an account when it
finds none, and tries to add the account.  Several calls may come to this point.
The store accepts one account, and a call that is refused looks once more and
finds it: what refused it, be it the address or the username, belongs to the
superadmin, because nobody else is stored under either (`bootstrap_meets`).

Main result: `race_ensures`.
-/
import Identity.Proofs.Authentication.Passwords
import Identity.Proofs.Authentication.Registrations
import Identity.Proofs.Crypto.Sha2
import Identity.Proofs.Secret.Generated
import Mathlib.Data.Fintype.Sum

namespace Identity.Authentication

open Crypto Operation

variable {s : Settings} {service : Settings.Accepted} {store : Store} {entropy rest : Entropy}
variable {password : String}

/-! ### Drawing an account -/

/-- The password that is drawn is never refused. -/
theorem drawPassword_draws (service : Settings.Accepted)
    (h : Generated.password service.settings.passwordLength entropy = .ok (password, rest)) :
    (drawPassword service.settings).Draws entropy fun drawn left =>
      drawn = password ∧ left = rest := by
  have hvalid : Password.validate password = .ok () :=
    Generated.validate_of_gives_password service.passwordLength.2 ⟨entropy, rest, h⟩
  unfold drawPassword
  refine .bind (P := fun drawn left => drawn = password ∧ left = rest) (.draw h ⟨rfl, rfl⟩) ?_
  rintro drawn left ⟨rfl, rfl⟩
  refine .bind (P := fun _ left' => left' = left) (.ofOutcome hvalid rfl) ?_
  rintro _ left' rfl
  exact .pure ⟨rfl, rfl⟩

/-- The address and the username of the superadmin. -/
def SuperadminCandidate (s : Settings) (id : UserId) : User → Prop :=
  Candidate s s.superadmin.email s.superadmin.username id

/-- The account that is drawn is one for the superadmin, with the password that is given. -/
theorem draftSuperadmin_draws (service : Settings.Accepted) (password : String) (now : Timestamp)
    (hcost : service.settings.cost.check = .ok ())
    (htape : Gcm.nonceLength + Generated.saltLength + 16 ≤ entropy.tape.length) :
    (draftSuperadmin service.settings password now).Draws entropy fun user _ =>
      SuperadminCandidate service.settings (drawnId entropy) user ∧
        Fresh service.settings service.settings.superadmin.email password user := by
  have hdraws : (draftSuperadmin service.settings password now).Draws entropy fun user _ =>
      user.id = drawnId entropy ∧
        user.username = Username.normalize service.settings.superadmin.username := by
    unfold draftSuperadmin
    refine .bind (sealValue_draws _ (by omega)) ?_
    rintro email _ ⟨-, rfl⟩
    refine .bind (hashPassword_draws _ hcost ?_) ?_
    · rw [List.length_drop]
      omega
    rintro hash _ rfl
    refine .bind (freshUuid_draws ?_) ?_
    · rw [List.length_drop, List.length_drop]
      omega
    rintro fresh _ hfresh
    refine .pure ⟨?_, rfl⟩
    rw [drawnId, ← List.drop_drop, ← hfresh]
    rfl
  have hyields : (draftSuperadmin service.settings password now).Yields .empty fun user after =>
      after = .empty ∧ Fresh service.settings service.settings.superadmin.email password user :=
    draftSuperadmin_yields service password now
  obtain ⟨user, rest, hr, ⟨hid, husername⟩, hfresh⟩ := hdraws.and_yields hyields
  exact ⟨user, rest, hr, ⟨hid, hfresh.email.lookup, husername⟩, hfresh⟩

/-! ### Adding an account -/

/-- The digest under which the superadmin is looked up. -/
def superadminLookup (s : Settings) : Bytes := lookup s (Email.normalize s.superadmin.email)

/-- Adds a new account for the superadmin, or finds the one that is in its way. -/
def addSuperadmin (s : Settings) (password : String) (user : User) : Operation Bootstrapped := do
  match ← (Operation.call (.createUser user)).attempt with
  | .ok user => return ⟨user, some password⟩
  | .error e =>
    if e = .userAlreadyExists ∨ e = .usernameExists then
      match ← findUser? (superadminLookup s) with
      | some user => return ⟨user, none⟩
      | none => throw e
    else throw e

/-- Bootstrapping looks for the superadmin, and else draws an account that it adds. -/
theorem bootstrap_eq (service : Settings.Accepted) (now : Timestamp) :
    bootstrap service now =
      (do match ← findUser? (superadminLookup service.settings) with
          | some user => return ⟨user, none⟩
          | none =>
            if !service.settings.bootstrapEnabled then throw .bootstrapDisabled
            let password ← drawPassword service.settings
            let user ← draftSuperadmin service.settings password now
            addSuperadmin service.settings password user) :=
  rfl

/-- Adding an account hands on what the calls fail with, and fails with nothing else. -/
theorem addSuperadmin_neverRaises (s : Settings) (password : String) (user : User)
    {kind : Error.Kind} : (addSuperadmin s password user).NeverRaises kind := by
  refine .attempt_bind .call fun outcome houtcome => ?_
  cases outcome with
  | ok user => exact .pure
  | error e =>
    have he : e.kind ≠ kind := houtcome e rfl
    dsimp only
    split_ifs
    -- the account that is in the way is looked for once more
    · refine (findUser?_neverRaises _).bind fun found => ?_
      cases found with
      | none => exact .throw he
      | some user => exact .pure
    · exact .throw he

/-! ### One of many -/

/-- The username of the superadmin in canonical form. -/
def superadminUsername (s : Settings) : String := Username.normalize s.superadmin.username

/-- Nobody has the username of the superadmin without the address. -/
def Reserved (s : Settings) (user : User) : Prop :=
  user.username = superadminUsername s → user.email.lookup = superadminLookup s

/-- What the outcome of a call says about a store. -/
inductive Ensures (s : Settings) (id : UserId) (store : Store) : Outcome Bootstrapped → Prop
  | created {user : User} {password : String} (stored : user ∈ store.users)
      (candidate : SuperadminCandidate s id user)
      (fresh : Fresh s s.superadmin.email password user) :
      Ensures s id store (.ok ⟨user, some password⟩)
  | found {user : User} (stored : user ∈ store.users)
      (same : user.email.lookup = superadminLookup s)
      (absent : ∀ stored ∈ store.users, stored.id ≠ id) : Ensures s id store (.ok ⟨user, none⟩)

/-- Every answer is about somebody who is stored under the address of the superadmin. -/
theorem Ensures.answer {id : UserId} {outcome : Outcome Bootstrapped}
    (h : Ensures s id store outcome) :
    ∃ user ∈ store.users, user.email.lookup = superadminLookup s ∧
      ((∃ password, outcome = .ok ⟨user, some password⟩ ∧ user.id = id ∧
          Fresh s s.superadmin.email password user) ∨
        outcome = .ok ⟨user, none⟩ ∧ user.id ≠ id) := by
  cases h with
  | created stored candidate fresh =>
    exact ⟨_, stored, candidate.email, .inl ⟨_, rfl, candidate.id, fresh⟩⟩
  | found stored same absent => exact ⟨_, stored, same, .inr ⟨rfl, absent _ stored⟩⟩

/-- The terms of a call: others add users under other identifiers, and none with the username
of the superadmin alone. -/
def superadminTerms (s : Settings) (id : UserId) : Terms :=
  growth (fun user => user.id ≠ id ∧ Reserved s user) (SuperadminCandidate s id)

/-- What refuses the superadmin is the superadmin, who can be found. -/
theorem exists_find?_of_conflict {e : Error}
    (h : Conflict store (superadminLookup s) (superadminUsername s) e)
    (hreserved : ∀ stored ∈ store.users, Reserved s stored) :
    ∃ user, store.users.find? (·.email.lookup == superadminLookup s) = some user := by
  rw [← Option.isSome_iff_exists, List.find?_isSome]
  cases h with
  | email stored same => exact ⟨_, stored, beq_iff_eq.mpr same⟩
  | username stored same => exact ⟨_, stored, beq_iff_eq.mpr (hreserved _ stored same)⟩

/-- **Making sure of the superadmin among others**: the call succeeds, and its outcome is true
of the store from then on. -/
theorem bootstrap_meets (service : Settings.Accepted) (now : Timestamp)
    (henabled : service.settings.bootstrapEnabled = true)
    (hcost : service.settings.cost.check = .ok ())
    (hdrawn : Generated.password service.settings.passwordLength entropy = .ok (password, rest))
    (htape : Gcm.nonceLength + Generated.saltLength + 16 ≤ rest.tape.length)
    (hid : ∀ stored ∈ store.users, stored.id ≠ drawnId rest)
    (hreserved : ∀ stored ∈ store.users, Reserved service.settings stored) :
    (bootstrap service now).Meets (superadminTerms service.settings (drawnId rest))
      (fun outcome store => Ensures service.settings (drawnId rest) store outcome) entropy
      store := by
  -- whoever is found by the address is the answer, now and later
  have hfound : ∀ later user,
      Grows (fun user => user.id ≠ drawnId rest ∧ Reserved service.settings user) store later →
      later.users.find? (·.email.lookup == superadminLookup service.settings) = some user →
      ∀ final, Grows (fun user => user.id ≠ drawnId rest ∧ Reserved service.settings user)
        later final → Ensures service.settings (drawnId rest) final (.ok ⟨user, none⟩) := by
    intro later user hlater hfind final hfinal
    refine .found (hfinal.mem (List.mem_of_find?_eq_some hfind)) ?_ ?_
    · have hsame := List.find?_some hfind
      exact beq_iff_eq.mp hsame
    · exact (hlater.trans hfinal).forall_mem hid fun _ h => h.1
  unfold bootstrap
  refine findUser?_meets fun later hlater => ?_
  split
  · next user hfind => exact .pure (hfound later user hlater hfind)
  refine .unless (by rw [henabled]; nofun) ?_
  refine .draws_bind (drawPassword_draws service hdrawn) ?_
  rintro drawn left ⟨rfl, rfl⟩
  refine .draws_bind (draftSuperadmin_draws service drawn now hcost htape) ?_
  rintro user left' ⟨hcandidate, hfresh⟩
  refine createUser_meets hfresh.pin ?_ ?_ hcandidate ?_ ?_
  · exact hcandidate.id ▸ hlater.forall_mem hid fun _ h => h.1
  · exact fun other hother => hcandidate.id ▸ hother.1
  · refine fun latest _ => .pure fun final hfinal => ?_
    exact .created (hfinal.mem (List.mem_append_right _ (List.mem_singleton_self _))) hcandidate
      hfresh
  · intro latest e hlatest hconflict
    have hretried : e = .userAlreadyExists ∨ e = .usernameExists := by
      cases hconflict with
      | email => exact .inl rfl
      | username => exact .inr rfl
    rw [hcandidate.email, hcandidate.username] at hconflict
    dsimp only
    rw [if_pos hretried]
    refine findUser?_meets fun last hlast => ?_
    have hgrows := hlater.trans (hlatest.trans hlast)
    obtain ⟨winner, hwinner⟩ := exists_find?_of_conflict (hconflict.grows hlast)
      (hgrows.forall_mem hreserved fun _ h => h.2)
    rw [show lookup _ _ = superadminLookup service.settings from rfl, hwinner]
    exact .pure (hfound last winner hgrows hwinner)

/-! ### Starters and applicants -/

/-- Somebody who makes sure of the superadmin. -/
structure Starter where
  now : Timestamp
  entropy : Entropy

namespace Starter

/-- The request of a starter. -/
def submission (b : Starter) : Submission := ⟨.bootstrap, b.now, b.entropy⟩

/-- The random bytes that are left when a password has been drawn. -/
def left (b : Starter) (s : Settings) : Entropy :=
  match Generated.password s.passwordLength b.entropy with
  | .ok (_, rest) => rest
  | .error _ => ⟨[]⟩

/-- The identifier that is drawn for the account of a starter. -/
def id (b : Starter) (s : Settings) : UserId := drawnId (b.left s)

/-- The random bytes suffice for a password and an account. -/
def Supplied (b : Starter) (s : Settings) : Prop :=
  (Generated.password s.passwordLength b.entropy).isOk = true ∧
    Gcm.nonceLength + Generated.saltLength + 16 ≤ (b.left s).tape.length

theorem Supplied.exists_password {b : Starter} {s : Settings} (h : b.Supplied s) :
    ∃ password, Generated.password s.passwordLength b.entropy = .ok (password, b.left s) := by
  obtain ⟨hok, -⟩ := h
  unfold left
  cases hp : Generated.password s.passwordLength b.entropy with
  | error fault =>
    rw [hp] at hok
    cases hok
  | ok drawn => exact ⟨drawn.1, rfl⟩

end Starter

section Races

variable {ι κ : Type} {starters : ι → Starter} {applicants : κ → Applicant}
variable {before after : Store}

/-- The requests of starters and applicants. -/
def submissions (starters : ι → Starter) (applicants : κ → Applicant) : ι ⊕ κ → Submission
  | .inl i => (starters i).submission
  | .inr k => (applicants k).submission

/-- The identifiers that are drawn for starters and applicants. -/
def drawnIds (s : Settings) (starters : ι → Starter) (applicants : κ → Applicant) : ι ⊕ κ → UserId
  | .inl i => (starters i).id s
  | .inr k => (applicants k).id

/-- The random bytes suffice, and the identifiers that are drawn are new. -/
structure AllFreshlyDrawn (s : Settings) (starters : ι → Starter) (applicants : κ → Applicant)
    (before : Store) : Prop where
  supplied : ∀ i, (starters i).Supplied s
  enough : ∀ k, Gcm.nonceLength + Generated.saltLength + 16 ≤ (applicants k).entropy.tape.length
  distinct : ∀ x y, drawnIds s starters applicants x = drawnIds s starters applicants y → x = y
  unused : ∀ x, ∀ stored ∈ before.users, stored.id ≠ drawnIds s starters applicants x

/-- Nobody else has the address or the username of the superadmin, or asks for it. -/
structure Unclaimed (s : Settings) (applicants : κ → Applicant) (before : Store) : Prop where
  stored : ∀ user ∈ before.users,
    user.email.lookup ≠ superadminLookup s ∧ user.username ≠ superadminUsername s
  asked : ∀ k, lookup s (applicants k).email ≠ superadminLookup s ∧
    (applicants k).username ≠ superadminUsername s

/-- The terms of a starter or an applicant. -/
def sharedTerms (s : Settings) (starters : ι → Starter) (applicants : κ → Applicant) :
    ι ⊕ κ → Terms
  | .inl i => superadminTerms s ((starters i).id s)
  | .inr k => (applicants k).terms s

/-- The records that a starter or an applicant may add. -/
def SharedCandidate (s : Settings) (starters : ι → Starter) (applicants : κ → Applicant) :
    ι ⊕ κ → User → Prop
  | .inl i => SuperadminCandidate s ((starters i).id s)
  | .inr k => (applicants k).Candidate s

theorem SharedCandidate.id {s : Settings} {x : ι ⊕ κ} {user : User}
    (h : SharedCandidate s starters applicants x user) :
    user.id = drawnIds s starters applicants x := by
  cases x with
  | inl i => exact Candidate.id h
  | inr k => exact Candidate.id h

theorem SharedCandidate.reserved {s : Settings} (hunclaimed : Unclaimed s applicants before)
    {x : ι ⊕ κ} {user : User} (h : SharedCandidate s starters applicants x user) :
    Reserved s user := by
  cases x with
  | inl i => exact fun _ => Candidate.email h
  | inr k =>
    intro husername
    exact absurd ((Candidate.username h).symm.trans husername) (hunclaimed.asked k).2

theorem sharedTerms_own (s : Settings) (starters : ι → Starter) (applicants : κ → Applicant)
    (x : ι ⊕ κ) : (sharedTerms s starters applicants x).own =
      Grows (SharedCandidate s starters applicants x) := by
  cases x with
  | inl i => rfl
  | inr k => rfl

theorem allowed_of_allFreshlyDrawn {s : Settings}
    (hfresh : AllFreshlyDrawn s starters applicants before)
    (hunclaimed : Unclaimed s applicants before) (x y : ι ⊕ κ) (hne : x ≠ y) {a b : Store}
    (h : (sharedTerms s starters applicants x).own a b) :
    (sharedTerms s starters applicants y).others a b := by
  rw [sharedTerms_own] at h
  have hid : ∀ user, SharedCandidate s starters applicants x user →
      user.id ≠ drawnIds s starters applicants y :=
    fun user hu heq => hne (hfresh.distinct x y (hu.id.symm.trans heq))
  cases y with
  | inl i => exact h.mono fun user hu => ⟨hid user hu, hu.reserved hunclaimed⟩
  | inr k => exact h.mono hid

/-- The outcome of a starter or an applicant, as it is true of a store. -/
def SharedResult (s : Settings) (starters : ι → Starter) (applicants : κ → Applicant) :
    (x : ι ⊕ κ) → Outcome (submissions starters applicants x).request.Answer → Store → Prop
  | .inl i, outcome, store => Ensures s ((starters i).id s) store outcome
  | .inr k, outcome, store => (applicants k).Settled s outcome store

theorem submissions_meet (henabled : service.settings.bootstrapEnabled = true)
    (hcost : service.settings.cost.check = .ok ())
    (hfresh : AllFreshlyDrawn service.settings starters applicants before)
    (hunclaimed : Unclaimed service.settings applicants before) (x : ι ⊕ κ) :
    ((submissions starters applicants x).program service).Meets
      (sharedTerms service.settings starters applicants x)
      (fun r => SharedResult service.settings starters applicants x r.1) before := by
  cases x with
  | inl i =>
    obtain ⟨password, hdrawn⟩ := (hfresh.supplied i).exists_password
    have hreserved : ∀ stored ∈ before.users, Reserved service.settings stored :=
      fun stored hs husername => absurd husername (hunclaimed.stored stored hs).2
    exact (bootstrap_meets service (starters i).now henabled hcost hdrawn
      (hfresh.supplied i).2 (hfresh.unused (.inl i)) hreserved).program
  | inr k =>
    exact (signUp_meets service (applicants k).registration (applicants k).now hcost
      (hfresh.enough k) (hfresh.unused (.inr k))).program

variable [DecidableEq ι] [DecidableEq κ] {log : List ((ι ⊕ κ) × Exchange)}
variable {outcome : ∀ x, Outcome (submissions starters applicants x).request.Answer}

/-- Everybody who has been added was a candidate of somebody. -/
theorem race_grows_shared (henabled : service.settings.bootstrapEnabled = true)
    (hcost : service.settings.cost.check = .ok ())
    (hfresh : AllFreshlyDrawn service.settings starters applicants before)
    (hunclaimed : Unclaimed service.settings applicants before)
    (h : Race service (submissions starters applicants) before log outcome after) :
    Grows (fun user => ∃ x, SharedCandidate service.settings starters applicants x user) before
      after := by
  obtain ⟨rest, h⟩ := h
  refine h.changes (.refl _) .trans (allowed_of_allFreshlyDrawn hfresh hunclaimed)
    (submissions_meet henabled hcost hfresh hunclaimed) fun x _ _ hown => ?_
  rw [sharedTerms_own] at hown
  exact hown.mono fun user hu => ⟨x, hu⟩

/-- The outcomes of all starters are true in the end. -/
theorem race_ensured (henabled : service.settings.bootstrapEnabled = true)
    (hcost : service.settings.cost.check = .ok ())
    (hfresh : AllFreshlyDrawn service.settings starters applicants before)
    (hunclaimed : Unclaimed service.settings applicants before)
    (h : Race service (submissions starters applicants) before log outcome after) (i : ι) :
    Ensures service.settings ((starters i).id service.settings) after (outcome (.inl i)) := by
  obtain ⟨rest, h⟩ := h
  exact h.results (allowed_of_allFreshlyDrawn hfresh hunclaimed)
    (submissions_meet henabled hcost hfresh hunclaimed) (.inl i)

/-! ### One superadmin -/

/-- One starter has created the account, with a password that only this one has been told,
and all others have found it. -/
structure EnsuresOne (service : Settings.Accepted) (outcome : ι → Outcome Bootstrapped)
    (after : Store) (user : User) (winner : ι) (password : String) : Prop where
  won : outcome winner = .ok ⟨user, some password⟩
  others : ∀ i, i ≠ winner → outcome i = .ok ⟨user, none⟩
  stored : after.users.filter (·.email.lookup == superadminLookup service.settings) = [user]
  signsIn : ∀ entropy, ReachesIssuance service.settings service.settings.superadmin.email password
    entropy after user
  again : ∀ later : Store, later.Sound → user ∈ later.users → ∀ now entropy,
    (bootstrap service now).run entropy later = (.ok ⟨user, none⟩, entropy, later)

/-- Who has the address of the superadmin is the answer to every later call. -/
theorem run_bootstrap_of_mem {user : User} (hsound : store.Sound) (hu : user ∈ store.users)
    (hemail : user.email.lookup = superadminLookup service.settings) (now : Timestamp)
    (entropy : Entropy) :
    (bootstrap service now).run entropy store = (.ok ⟨user, none⟩, entropy, store) := by
  have hfind : store.users.find? (·.email.lookup == superadminLookup service.settings) =
      some user := (find?_email hsound).mpr ⟨hu, hemail⟩
  unfold bootstrap
  rw [run_bind, run_findUser?, show lookup _ _ = superadminLookup service.settings from rfl, hfind]
  rfl

/-- In a sound store the only user with an address is all that is found by it. -/
theorem filter_email {user : User} {digest : Bytes} (hsound : store.Sound)
    (hu : user ∈ store.users) (hemail : user.email.lookup = digest) :
    store.users.filter (·.email.lookup == digest) = [user] := by
  have hnodup : store.users.Nodup :=
    hsound.users.imp fun hapart heq => hapart.id (congrArg User.id heq)
  have hmem : ∀ other, other ∈ store.users.filter (·.email.lookup == digest) ↔ other ∈ [user] := by
    intro other
    rw [List.mem_filter, beq_iff_eq, List.mem_singleton]
    constructor
    · rintro ⟨hother, hsame⟩
      by_contra hne
      exact (hsound.usersApart hother hu hne).email (hsame.trans hemail.symm)
    · rintro rfl
      exact ⟨hu, hemail⟩
  exact ((List.perm_ext_iff_of_nodup (hnodup.filter _) (List.nodup_singleton user)).mpr
    hmem).eq_singleton

/-- **Making sure of the superadmin at the same time.**  Where nobody has the address or the
username of the superadmin and no applicant asks for them, all calls succeed, whatever the
order in which the store answers them.  One of them has created the account and tells its
password, which signs in, and there is no second account. -/
theorem race_ensures [Nonempty ι] (henabled : service.settings.bootstrapEnabled = true)
    (hcost : service.settings.cost.check = .ok ()) (hreached : before.Reached)
    (hunclaimed : Unclaimed service.settings applicants before)
    (hfresh : AllFreshlyDrawn service.settings starters applicants before)
    (h : Race service (submissions starters applicants) before log outcome after) :
    ∃ user winner password,
      EnsuresOne service (fun i => outcome (.inl i)) after user winner password := by
  have hsound : after.Sound := h.sound hreached.sound
  have hensured := race_ensured henabled hcost hfresh hunclaimed h
  -- all answers are about one user, because they all have the address of the superadmin
  obtain ⟨user, hu, hemail, -⟩ := (hensured (Classical.arbitrary ι)).answer
  have hanswer : ∀ i, (∃ password, outcome (.inl i) = .ok ⟨user, some password⟩ ∧
      user.id = (starters i).id service.settings ∧
        Fresh service.settings service.settings.superadmin.email password user) ∨
      outcome (.inl i) = .ok ⟨user, none⟩ ∧ user.id ≠ (starters i).id service.settings := by
    intro i
    obtain ⟨found, hfound, hsame, h⟩ := (hensured i).answer
    have heq : found = user := by
      by_contra hne
      exact (hsound.usersApart hfound hu hne).email (hsame.trans hemail.symm)
    exact heq ▸ h
  -- the user was not stored before, and no applicant has added it
  obtain ⟨winner, hwinner⟩ : ∃ i, SuperadminCandidate service.settings
      ((starters i).id service.settings) user := by
    obtain ⟨added, hafter, hadded⟩ := race_grows_shared henabled hcost hfresh hunclaimed h
    have hmem : user ∈ before.users ++ added := by
      rw [hafter] at hu
      exact hu
    rcases List.mem_append.mp hmem with hbefore | hnew
    · exact absurd hemail (hunclaimed.stored user hbefore).1
    · obtain ⟨i | k, hcandidate⟩ := hadded user hnew
      · exact ⟨i, hcandidate⟩
      · exact absurd ((Candidate.email hcandidate).symm.trans hemail) (hunclaimed.asked k).1
  obtain ⟨password, hwon, -, haccount⟩ :=
    (hanswer winner).resolve_right fun hfound => hfound.2 hwinner.id
  refine ⟨user, winner, password, ?_⟩
  exact {
    won := hwon
    others := by
      intro i hne
      rcases hanswer i with ⟨_, -, hid, -⟩ | ⟨hfound, -⟩
      · have hids : Sum.inl i = Sum.inl winner :=
          hfresh.distinct (.inl i) (.inl winner) (hid.symm.trans hwinner.id)
        exact absurd (Sum.inl.inj hids) hne
      · exact hfound
    stored := filter_email hsound hu hemail
    signsIn := fun entropy => (reachesIssuance_iff hsound hu haccount.password).mpr
      ⟨haccount.email.lookup, haccount.status, rfl⟩
    again := fun later hlater hmem now entropy =>
      run_bootstrap_of_mem hlater hmem hemail now entropy }

end Races

/-- Two who make sure of the superadmin, with different random bytes. -/
def twoStarters : Bool → Starter
  | true => ⟨.epoch, ⟨List.replicate 300 0⟩⟩
  | false => ⟨.epoch, ⟨List.replicate 300 1⟩⟩

/-- Somebody else who signs up. -/
def oneApplicant : Unit → Applicant := fun _ => ⟨alice, .epoch, ⟨List.replicate 60 2⟩⟩

theorem lookup_oneApplicant : lookup plainService.settings (oneApplicant ()).email ≠
    superadminLookup plainService.settings := by
  unfold superadminLookup lookup Lookup.digest Hmac.sha256 Hmac.blockKey Sha256.hash
  rw [Sha2.hash_eq_hashBackward]
  decide +kernel

theorem race_ensures_two : ∃ log outcome after user winner password,
    Race plainService (submissions twoStarters oneApplicant) .empty log outcome after ∧
      EnsuresOne plainService (fun i => outcome (.inl i)) after user winner password := by
  obtain ⟨log, outcome, after, hrace⟩ :=
    exists_race plainService (submissions twoStarters oneApplicant) .empty
  have hunclaimed : Unclaimed plainService.settings oneApplicant .empty := {
    stored := nofun
    asked := fun
      | () => ⟨lookup_oneApplicant, by decide +kernel⟩ }
  have hfresh : AllFreshlyDrawn plainService.settings twoStarters oneApplicant .empty := {
    supplied := by
      unfold Starter.Supplied
      decide +kernel
    enough := by decide
    distinct := by decide +kernel
    unused := nofun }
  obtain ⟨user, winner, password, h⟩ := race_ensures (by decide +kernel) (by decide +kernel)
    ⟨[], rfl⟩ hunclaimed hfresh hrace
  exact ⟨log, outcome, after, user, winner, password, hrace, h⟩

end Identity.Authentication
