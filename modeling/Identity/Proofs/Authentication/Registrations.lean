/-
Identity/Proofs/Authentication/Registrations.lean

What becomes of users who sign up at the same time.

Signing up looks for the address, then for the username, and then adds the
record, in three calls between which other users may be added.  What is known
after the two searches may be wrong when the record is added, and still every
outcome tells the truth about the store, from then on (`signUp_meets`): who is
accepted is stored, and who is refused has met somebody who is stored.

Main result: `race_enrolled`.
-/
import Identity.Proofs.Authentication.Race
import Mathlib.Data.Finset.Card

namespace Identity.Authentication

open Crypto Operation

variable {store : Store} {entropy : Entropy}

/-! ### One of many -/

/-- What the outcome of a registration says about a store. -/
inductive Settles (s : Settings) (r : Registration) (id : UserId) (store : Store) :
    Outcome User → Prop
  | accepted {user : User} (stored : user ∈ store.users)
      (candidate : Candidate s r.email r.username id user) : Settles s r id store (.ok user)
  | malformed {e : Error} (malformed : r.normalized.validate = .error e) :
      Settles s r id store (.error e)
  | refused {e : Error} (absent : ∀ stored ∈ store.users, stored.id ≠ id)
      (conflict : Conflict store (lookup s (Email.normalize r.email))
        (Username.normalize r.username) e) : Settles s r id store (.error e)

/-- **Signing up among others**, who add users under other identifiers: the only record that
is added is the candidate, and the outcome is true of the store from then on. -/
theorem signUp_meets (service : Settings.Accepted) (r : Registration) (now : Timestamp)
    (hcost : service.settings.cost.check = .ok ())
    (htape : Gcm.nonceLength + Generated.saltLength + 16 ≤ entropy.tape.length)
    (hid : ∀ stored ∈ store.users, stored.id ≠ drawnId entropy) :
    (signUp service r now).Meets
      (growth (·.id ≠ drawnId entropy)
        (Candidate service.settings r.email r.username (drawnId entropy)))
      (fun outcome store => Settles service.settings r (drawnId entropy) store outcome) entropy
      store := by
  have hrefused : ∀ later e, Grows (·.id ≠ drawnId entropy) store later →
      Conflict later (lookup service.settings (Email.normalize r.email))
        (Username.normalize r.username) e →
      ∀ final, Grows (·.id ≠ drawnId entropy) later final →
        Settles service.settings r (drawnId entropy) final (.error e) :=
    fun later e hlater hconflict final hfinal =>
      .refused ((hlater.trans hfinal).forall_mem hid fun _ h => h) (hconflict.grows hfinal)
  unfold signUp
  refine .ofOutcome_bind (fun e he _ _ => .malformed he) fun _ _ => ?_
  -- somebody who is found by one of the searches stays in the store
  refine ensureAbsent_meets (searches_email _)
    (fun later _ hlater hr => hrefused later _ hlater (conflict_of_email hr)) ?_
  refine ensureAbsent_meets (searches_username _)
    (fun later _ hlater hr => hrefused later _ hlater (conflict_of_username hr)) ?_
  refine .draws_bind (sealValue_draws _ (by omega)) ?_
  rintro email _ ⟨hlookup, rfl⟩
  refine .draws_bind (hashPassword_draws _ hcost ?_) ?_
  · rw [List.length_drop]
    omega
  rintro password _ rfl
  refine .draws_bind (freshUuid_draws ?_) ?_
  · rw [List.length_drop, List.length_drop]
    omega
  rintro fresh _ hfresh
  have hcandidate : Candidate service.settings r.email r.username (drawnId entropy)
      ((User.draft r.normalized.username r.normalized.displayName email password).created ⟨fresh⟩
        r.normalized.username now) := {
    id := by
      rw [drawnId, ← List.drop_drop, ← hfresh]
      rfl
    email := hlookup
    username := Username.normalize_normalize r.username }
  rw [call_eq_attempt]
  refine createUser_meets rfl ?_ ?_ hcandidate ?_ ?_
  · exact fun stored hs => hcandidate.id ▸ hid stored hs
  · exact fun other hother => hcandidate.id ▸ hother
  · refine fun later _ => .ofOutcome fun final hfinal => ?_
    exact .accepted (hfinal.mem (List.mem_append_right _ (List.mem_singleton_self _))) hcandidate
  · refine fun later e hlater hconflict => .ofOutcome fun final hfinal => ?_
    rw [hcandidate.email, hcandidate.username] at hconflict
    exact hrefused later e hlater hconflict final hfinal

/-! ### Applicants -/

/-- Somebody who signs up. -/
structure Applicant where
  registration : Registration
  now : Timestamp
  entropy : Entropy

namespace Applicant

/-- The request of an applicant. -/
def submission (a : Applicant) : Submission := ⟨.signUp a.registration, a.now, a.entropy⟩

/-- The identifier that is drawn for an applicant. -/
def id (a : Applicant) : UserId := drawnId a.entropy

/-- The address of an applicant in canonical form. -/
def email (a : Applicant) : String := Email.normalize a.registration.email

/-- The username of an applicant in canonical form. -/
def username (a : Applicant) : String := Username.normalize a.registration.username

/-- The record may be the one that an applicant adds. -/
def Candidate (a : Applicant) (s : Settings) : User → Prop :=
  Authentication.Candidate s a.registration.email a.registration.username a.id

/-- An applicant adds candidates, and the others users under other identifiers. -/
def terms (a : Applicant) (s : Settings) : Terms :=
  growth (·.id ≠ a.id) (a.Candidate s)

/-- The outcome of an applicant, as it is true of a store. -/
def Settled (a : Applicant) (s : Settings) (outcome : Outcome User) (store : Store) : Prop :=
  Settles s a.registration a.id store outcome

end Applicant

section Races

variable {ι : Type} {service : Settings.Accepted} {applicants : ι → Applicant}
variable {before after : Store} {log : List (ι × Exchange)} {outcome : ι → Outcome User}

/-- The random bytes suffice, and the identifiers that are drawn are new. -/
structure FreshlyDrawn (applicants : ι → Applicant) (before : Store) : Prop where
  enough : ∀ i, Gcm.nonceLength + Generated.saltLength + 16 ≤ (applicants i).entropy.tape.length
  distinct : ∀ i j, (applicants i).id = (applicants j).id → i = j
  unused : ∀ i, ∀ stored ∈ before.users, stored.id ≠ (applicants i).id

/-- Some applicant may have added the record. -/
def SomeCandidate (s : Settings) (applicants : ι → Applicant) (user : User) : Prop :=
  ∃ i, (applicants i).Candidate s user

theorem allowed_of_freshlyDrawn {s : Settings} (hfresh : FreshlyDrawn applicants before) (i j : ι)
    (hne : i ≠ j) {a b : Store} (h : ((applicants i).terms s).own a b) :
    ((applicants j).terms s).others a b :=
  Grows.mono h fun _ hu heq => hne (hfresh.distinct i j (hu.id.symm.trans heq))

theorem submission_meets (hcost : service.settings.cost.check = .ok ())
    (hfresh : FreshlyDrawn applicants before) (i : ι) :
    ((applicants i).submission.program service).Meets ((applicants i).terms service.settings)
      (fun r => (applicants i).Settled service.settings r.1) before :=
  (signUp_meets service (applicants i).registration (applicants i).now hcost (hfresh.enough i)
    (hfresh.unused i)).program

/-- **Users who sign up at the same time.** -/
structure Enrolled [Fintype ι] (s : Settings) (applicants : ι → Applicant) (before : Store)
    (outcome : ι → Outcome User) (after : Store) : Prop where
  emails : ∀ i j u v, outcome i = .ok u → outcome j = .ok v →
    (applicants i).email = (applicants j).email → i = j
  usernames : ∀ i j u v, outcome i = .ok u → outcome j = .ok v →
    (applicants i).username = (applicants j).username → i = j
  refused : ∀ i e, outcome i = .error e → ∃ other ∈ after.users, other.id ≠ (applicants i).id ∧
    (e = .userAlreadyExists ∧ other.email.lookup = lookup s (applicants i).email ∨
      e = .usernameExists ∧ other.username = (applicants i).username)
  count : after.users.length =
    before.users.length + (Finset.univ.filter fun i => (outcome i).isOk = true).card
  kept : ∃ added, after = { before with users := before.users ++ added } ∧
    ∀ user, user ∈ added ↔ ∃ i, outcome i = .ok user

/-- The users who are accepted are stored, each under the identifier that was drawn. -/
theorem Applicant.Settled.candidate {a : Applicant} {s : Settings} {user : User}
    (h : a.Settled s (.ok user) after) :
    user ∈ after.users ∧ a.Candidate s user := by
  cases h with
  | accepted stored candidate => exact ⟨stored, candidate⟩

/-- A well-formed applicant is refused for nothing but a conflict. -/
theorem Applicant.Settled.conflict {a : Applicant} {s : Settings} {e : Error}
    (h : a.Settled s (.error e) after) (hvalid : a.registration.normalized.validate = .ok ()) :
    (∀ stored ∈ after.users, stored.id ≠ a.id) ∧
      Conflict after (lookup s a.email) a.username e := by
  cases h with
  | malformed malformed => cases hvalid.symm.trans malformed
  | refused absent conflict => exact ⟨absent, conflict⟩

/-- Exactly those who are accepted have been added. -/
theorem mem_added_iff {s : Settings} {added : List User} (hsound : after.Sound)
    (hafter : after = { before with users := before.users ++ added })
    (hadded : ∀ user ∈ added, SomeCandidate s applicants user)
    (hfresh : FreshlyDrawn applicants before)
    (hvalid : ∀ i, (applicants i).registration.normalized.validate = .ok ())
    (hsettled : ∀ i, (applicants i).Settled s (outcome i) after) (user : User) :
    user ∈ added ↔ ∃ i, outcome i = .ok user := by
  have hstored : user ∈ after.users ↔ user ∈ before.users ∨ user ∈ added := by
    rw [hafter, List.mem_append]
  constructor
  · intro hu
    obtain ⟨i, hi⟩ := hadded user hu
    have hmem : user ∈ after.users := hstored.mpr (.inr hu)
    refine ⟨i, ?_⟩
    cases ho : outcome i with
    | error e =>
      -- the identifier of somebody who is refused is not stored
      obtain ⟨habsent, -⟩ := (ho ▸ hsettled i).conflict (hvalid i)
      exact absurd hi.id (habsent user hmem)
    | ok found =>
      obtain ⟨hfound, hcandidate⟩ := (ho ▸ hsettled i).candidate
      by_contra hne
      exact (hsound.usersApart hfound hmem fun heq => hne (heq ▸ rfl)).id
        (hcandidate.id.trans hi.id.symm)
  · rintro ⟨i, ho⟩
    obtain ⟨hmem, hcandidate⟩ := (ho ▸ hsettled i).candidate
    refine (hstored.mp hmem).resolve_left fun hu => ?_
    exact hfresh.unused i user hu hcandidate.id

/-- The added users are as many as the applicants who are accepted. -/
theorem length_added [Fintype ι] {s : Settings} {added : List User}
    (hapart : added.Pairwise Store.UsersApart) (hfresh : FreshlyDrawn applicants before)
    (hsettled : ∀ i, (applicants i).Settled s (outcome i) after)
    (hadded : ∀ user, user ∈ added ↔ ∃ i, outcome i = .ok user) :
    added.length = (Finset.univ.filter fun i => (outcome i).isOk = true).card := by
  have hnodup : (added.map User.id).Nodup := List.pairwise_map.mpr (hapart.imp Store.UsersApart.id)
  have hinjective : Function.Injective fun i => (applicants i).id := fun i j => hfresh.distinct i j
  -- both sides are counted by identifiers
  have hids : (added.map User.id).toFinset =
      (Finset.univ.filter fun i => (outcome i).isOk = true).image fun i => (applicants i).id := by
    ext id
    simp only [List.mem_toFinset, List.mem_map, hadded, Finset.mem_image, Finset.mem_filter,
      Finset.mem_univ, true_and]
    constructor
    · rintro ⟨user, ⟨i, ho⟩, rfl⟩
      exact ⟨i, by rw [ho]; rfl, (ho ▸ hsettled i).candidate.2.id.symm⟩
    · rintro ⟨i, hok, rfl⟩
      cases ho : outcome i with
      | error e =>
        rw [ho] at hok
        cases hok
      | ok user => exact ⟨user, ⟨i, ho⟩, (ho ▸ hsettled i).candidate.2.id⟩
  rw [← Finset.card_image_of_injective _ hinjective, ← hids, List.toFinset_card_of_nodup hnodup,
    List.length_map]

variable [DecidableEq ι]

/-- The applicants add nobody but candidates of theirs. -/
theorem race_grows (hcost : service.settings.cost.check = .ok ())
    (hfresh : FreshlyDrawn applicants before)
    (h : Race service (fun i => (applicants i).submission) before log outcome after) :
    Grows (SomeCandidate service.settings applicants) before after := by
  obtain ⟨rest, h⟩ := h
  refine h.changes (.refl _) .trans (allowed_of_freshlyDrawn hfresh)
    (submission_meets hcost hfresh) fun i _ _ hgrows => ?_
  exact Grows.mono hgrows fun user hu => ⟨i, hu⟩

/-- The outcomes of all applicants are true in the end. -/
theorem race_settled (hcost : service.settings.cost.check = .ok ())
    (hfresh : FreshlyDrawn applicants before)
    (h : Race service (fun i => (applicants i).submission) before log outcome after) (i : ι) :
    (applicants i).Settled service.settings (outcome i) after := by
  obtain ⟨rest, h⟩ := h
  exact h.results (allowed_of_freshlyDrawn hfresh) (submission_meets hcost hfresh) i

/-- **Signing up at the same time.**  Whatever the order of their calls, of those who sign up
with one address at most one is accepted, and of those with one username too.  Everybody else
is refused on account of somebody who is stored, and the store grows by exactly those who are
accepted. -/
theorem race_enrolled [Fintype ι] (hcost : service.settings.cost.check = .ok ())
    (hreached : before.Reached)
    (hvalid : ∀ i, (applicants i).registration.normalized.validate = .ok ())
    (hfresh : FreshlyDrawn applicants before)
    (h : Race service (fun i => (applicants i).submission) before log outcome after) :
    Enrolled service.settings applicants before outcome after := by
  have hsound : after.Sound := h.sound hreached.sound
  have hsettled := race_settled hcost hfresh h
  have hcandidate : ∀ i user, outcome i = .ok user → user ∈ after.users ∧
      (applicants i).Candidate service.settings user :=
    fun i _ ho => (ho ▸ hsettled i).candidate
  obtain ⟨added, hafter, hcandidates⟩ := race_grows hcost hfresh h
  have hadded := mem_added_iff hsound hafter hcandidates hfresh hvalid hsettled
  have hapart : added.Pairwise Store.UsersApart := by
    have husers := hsound.users
    rw [hafter] at husers
    exact (List.pairwise_append.mp husers).2.1
  -- two who are accepted with something in common are one user, under one identifier
  have hsame : ∀ i j u v, outcome i = .ok u → outcome j = .ok v →
      ¬ Store.UsersApart u v → i = j := by
    intro i j u v hu hv hnot
    have heq : u = v := by
      by_contra hne
      exact hnot (hsound.usersApart (hcandidate i u hu).1 (hcandidate j v hv).1 hne)
    exact hfresh.distinct i j ((hcandidate i u hu).2.id.symm.trans (heq ▸ (hcandidate j v hv).2.id))
  exact {
    emails := by
      intro i j u v hu hv heq
      refine hsame i j u v hu hv fun hapart => hapart.email ?_
      rw [(hcandidate i u hu).2.email, (hcandidate j v hv).2.email]
      exact congrArg (lookup service.settings) heq
    usernames := by
      intro i j u v hu hv heq
      refine hsame i j u v hu hv fun hapart => hapart.username ?_
      rw [(hcandidate i u hu).2.username, (hcandidate j v hv).2.username]
      exact heq
    refused := by
      intro i e he
      obtain ⟨habsent, hconflict⟩ := (he ▸ hsettled i).conflict (hvalid i)
      cases hconflict with
      | email stored same => exact ⟨_, stored, habsent _ stored, .inl ⟨rfl, same⟩⟩
      | username stored same => exact ⟨_, stored, habsent _ stored, .inr ⟨rfl, same⟩⟩
    count := by
      rw [hafter, List.length_append, length_added hapart hfresh hsettled hadded]
    kept := ⟨added, hafter, hadded⟩ }

end Races

/-- Two who sign up with one address in two spellings, and with different usernames. -/
def spellings : Bool → Applicant
  | true => ⟨alice, .epoch, plainEntropy⟩
  | false => ⟨⟨"ALICE@example.org ", "Correct2!", "lewis", "Lewis"⟩, .epoch, ⟨List.replicate 60 1⟩⟩

/-- Whatever the order of their calls, exactly one of them is stored. -/
theorem race_enrolled_spellings : ∃ log, ∃ outcome : Bool → Outcome User, ∃ after,
    Race plainService (fun i => (spellings i).submission) .empty log outcome after ∧
      Enrolled plainService.settings spellings .empty outcome after ∧ after.users.length = 1 := by
  have hvalid : ∀ i, (spellings i).registration.normalized.validate = .ok () := by decide +kernel
  have hfresh : FreshlyDrawn spellings .empty := {
    enough := by decide
    distinct := by decide +kernel
    unused := nofun }
  obtain ⟨log, outcome, after, hrace⟩ : ∃ log, ∃ outcome : Bool → Outcome User, ∃ after,
      Race plainService (fun i => (spellings i).submission) .empty log outcome after :=
    exists_race plainService (fun i => (spellings i).submission) .empty
  have h : Enrolled plainService.settings spellings .empty outcome after :=
    race_enrolled (by decide +kernel) ⟨[], rfl⟩ hvalid hfresh hrace
  refine ⟨log, outcome, after, hrace, h, ?_⟩
  have hcount := h.count
  have hlength (accepted : Finset Bool) (hall : ∀ i, (outcome i).isOk = true ↔ i ∈ accepted) :
      after.users.length = accepted.card := by
    rw [hcount, Finset.filter_congr fun i _ => hall i, Finset.filter_univ_mem]
    exact Nat.zero_add _
  rcases hfirst : outcome true with e | u
  · rcases hsecond : outcome false with e' | v
    -- nobody can be refused on account of nobody
    · obtain ⟨other, hmem, -⟩ := h.refused true e hfirst
      have hnone := hlength ∅ (by simp [hfirst, hsecond, Except.isOk, Except.toBool])
      rw [List.length_eq_zero_iff.mp hnone] at hmem
      cases hmem
    · exact hlength {false} (by simp [hfirst, hsecond, Except.isOk, Except.toBool])
  · rcases hsecond : outcome false with e' | v
    · exact hlength {true} (by simp [hfirst, hsecond, Except.isOk, Except.toBool])
    · have heq : true = false := h.emails true false u v hfirst hsecond (by decide +kernel)
      cases heq

end Identity.Authentication
