/-
Identity/Proofs/Seed/Plans.lean

Plans that are carried out, once and then once more.

A run makes sure of one entry after the other.  Every step only adds records, so
what was stored before stays as it was, and entries that are present stay
present; at the end all of them are.  The next run then finds each entry and
adds nothing, although it goes through other branches than the first one.

Main result: `seeding_exact`.
-/
import Identity.Proofs.Authentication.Race
import Identity.Proofs.Authorization.Decision
import Identity.Proofs.Seed.Steady

namespace Identity.Seed

open Operation Authentication Authorization

variable {service : Settings.Accepted} {store before after : Store} {entropy : Entropy}
variable {actor : String} {now : Timestamp} {known : List (String × RoleId)}

/-! ### Counts -/

/-- How many entries have been counted. -/
def Count.total (count : Count) : Nat := count.created + count.existing

theorem Count.total_add (count : Count) (isNew : Bool) :
    (count.add isNew).total = count.total + 1 := by
  unfold Count.add Count.total
  split_ifs
  · exact Nat.add_right_comm ..
  · rfl

/-- The count after entries that all existed. -/
def Count.found (count : Count) (entries : Nat) : Count :=
  { count with existing := count.existing + entries }

theorem Count.found_add (count : Count) (entries : Nat) :
    (count.add false).found entries = count.found (entries + 1) :=
  congrArg (Count.mk count.created) (Nat.add_right_comm ..)

theorem Count.zero_found (entries : Nat) : zero.found entries = ⟨0, entries⟩ :=
  congrArg (Count.mk 0) (Nat.zero_add entries)

/-! ### The first run -/

/-- Making sure of all roles leaves all of them present, and answers their identifiers. -/
theorem ensureRoles_adds (hsound : store.Sound) (hknown : Known store known)
    (actor : String) (now : Timestamp) (drafts : List RoleDraft) (count : Count) :
    (ensureRoles actor now drafts known count).Adds store fun answer after =>
      Known after answer.1 ∧ answer.2.total = count.total + drafts.length ∧
        ∀ draft ∈ drafts, RolePresent after draft := by
  induction drafts generalizing store known count with
  | nil => exact .pure hsound ⟨hknown, rfl, fun _ => nofun⟩
  | cons draft drafts ih =>
    refine (ensureRole_adds hsound draft actor now).bind ?_
    rintro ⟨role, isNew⟩ between hsound' hextends ⟨hpresent, hmem, hname⟩
    have hcanonical : RoleName.normalize role.name = role.name := by
      rw [hname, RoleName.normalize_normalize]
    have hknown' := (hknown.extends hextends).cons hmem hcanonical
    refine (ih hsound' hknown' (count.add isNew)).mono ?_
    rintro answer after hextends' ⟨hknown'', htotal, hall⟩
    refine ⟨hknown'', ?_, List.forall_mem_cons.mpr ⟨hpresent.extends hextends', hall⟩⟩
    rw [htotal, Count.total_add, List.length_cons, Nat.add_assoc, Nat.add_comm 1]

/-- Making sure of entries one after the other leaves all of them present, if each step leaves one
present and what is present stays so. -/
theorem ensureAll_adds {α : Type} {ensure : α → Operation Bool} (Present : Store → α → Prop)
    (hkept : ∀ {store after a}, Present store a → store.Extends after → Present after a)
    (hensure : ∀ a between, between.Sound → before.Extends between →
      (ensure a).Adds between fun _ after => Present after a)
    (hsound : store.Sound) (hextends : before.Extends store) (entries : List α) (count : Count) :
    (ensureAll ensure entries count).Adds store fun answer after =>
      answer.total = count.total + entries.length ∧ ∀ a ∈ entries, Present after a := by
  induction entries generalizing store count with
  | nil => exact .pure hsound ⟨rfl, fun _ => nofun⟩
  | cons a entries ih =>
    refine (hensure a store hsound hextends).bind ?_
    rintro isNew between hsound' hfirst hpresent
    refine (ih hsound' (hextends.trans hfirst) (count.add isNew)).mono ?_
    rintro answer after hothers ⟨htotal, hall⟩
    refine ⟨?_, List.forall_mem_cons.mpr ⟨hkept hpresent hothers, hall⟩⟩
    rw [htotal, Count.total_add, List.length_cons, Nat.add_assoc, Nat.add_comm 1]

/-- All entries of a plan are present, and a report counts each of them once. -/
structure Applied (service : Settings.Accepted) (plan : Plan) (report : Report) (store : Store) :
    Prop where
  roleCount : report.roles.total = plan.roles.length
  userCount : report.users.total = plan.users.length
  grantCount : report.grants.total = plan.grants.length
  roles : ∀ draft ∈ plan.roles, RolePresent store draft
  users : ∀ r ∈ plan.users, UserPresent service.settings store r
  grants : ∀ planned ∈ plan.grants, GrantPresent store planned

theorem run_adds (hsound : before.Sound) (service : Settings.Accepted) (plan : Plan)
    (actor : String) (now : Timestamp) :
    (Seed.run service plan actor now).Adds before fun report after =>
      Applied service plan report after := by
  unfold Seed.run
  refine (ensureRoles_adds hsound (known_nil before) actor now plan.roles .zero).bind ?_
  rintro ⟨known, roles⟩ first hsound₁ - ⟨hknown, hrolesCount, hroles⟩
  refine (ensureAll_adds (UserPresent service.settings) UserPresent.extends
    (fun r _ hsound _ => ensureUser_adds hsound service r now) hsound₁ (.refl first) plan.users
    .zero).bind ?_
  rintro users second hsound₂ hextends₂ ⟨husersCount, husers⟩
  refine (ensureAll_adds GrantPresent GrantPresent.extends
    (fun planned _ hsound hextends =>
      ensureGrant_adds hsound (hknown.extends hextends) planned actor now) hsound₂ hextends₂
    plan.grants .zero).bind ?_
  rintro grants third hsound₃ hextends₃ ⟨hgrantsCount, hgrants⟩
  refine .pure hsound₃ ?_
  exact {
    roleCount := hrolesCount.trans (Nat.zero_add _)
    userCount := husersCount.trans (Nat.zero_add _)
    grantCount := hgrantsCount.trans (Nat.zero_add _)
    roles := fun draft hdraft => (hroles draft hdraft).extends (hextends₂.trans hextends₃)
    users := fun r hr => (husers r hr).extends hextends₃
    grants := hgrants }

/-! ### The next run -/

/-- Roles that are present are all found, at the price of an identifier each. -/
theorem ensureRoles_costs (hsound : store.Sound) (hknown : Known store known) (actor : String)
    (now : Timestamp) {drafts : List RoleDraft} (count : Count)
    (hpresent : ∀ draft ∈ drafts, RolePresent store draft) :
    ∃ known', Known store known' ∧
      (ensureRoles actor now drafts known count).Costs store (16 * drafts.length)
        (.ok (known', count.found drafts.length)) := by
  induction drafts generalizing known count with
  | nil => exact ⟨known, hknown, .free fun _ => rfl⟩
  | cons draft drafts ih =>
    obtain ⟨hdraft, hdrafts⟩ := List.forall_mem_cons.mp hpresent
    obtain ⟨role, hrole, hname, hfirst⟩ := ensureRole_costs hsound hdraft actor now
    have hcanonical : RoleName.normalize role.name = role.name := by
      rw [hname, RoleName.normalize_normalize]
    obtain ⟨known', hknown', hothers⟩ :=
      ih (hknown.cons hrole hcanonical) (count.add false) hdrafts
    refine ⟨known', hknown', ?_⟩
    rw [List.length_cons, ← Count.found_add, Nat.mul_succ, Nat.add_comm]
    exact hfirst.bind hothers

/-- Entries each of which is found, at the same price, are all found. -/
theorem ensureAll_costs {α : Type} {ensure : α → Operation Bool} {cost : Nat} {entries : List α}
    (count : Count) (hfound : ∀ a ∈ entries, (ensure a).Costs store cost (.ok false)) :
    (ensureAll ensure entries count).Costs store (cost * entries.length)
      (.ok (count.found entries.length)) := by
  induction entries generalizing count with
  | nil => exact .free fun _ => rfl
  | cons a entries ih =>
    obtain ⟨hfirst, hothers⟩ := List.forall_mem_cons.mp hfound
    rw [List.length_cons, ← Count.found_add, Nat.mul_succ, Nat.add_comm]
    exact hfirst.bind (ih (count.add false) hothers)

/-- Carrying out a plan that is applied already finds everything and adds nothing. -/
theorem run_costs {plan : Plan} {report : Report} (hsound : store.Sound)
    (h : Applied service plan report store) (actor : String) (now : Timestamp) :
    (Seed.run service plan actor now).Costs store
      (16 * (plan.roles.length + plan.grants.length))
      (.ok ⟨⟨0, plan.roles.length⟩, ⟨0, plan.users.length⟩, ⟨0, plan.grants.length⟩⟩) := by
  obtain ⟨known, hknown, hroles⟩ :=
    ensureRoles_costs hsound (known_nil store) actor now .zero h.roles
  have husers := ensureAll_costs .zero fun r hr => ensureUser_costs hsound (h.users r hr) now
  have hgrants := ensureAll_costs .zero fun planned hplanned =>
    ensureGrant_costs hsound hknown (h.grants planned hplanned) actor now
  rw [Count.zero_found] at hroles husers hgrants
  have hprice : 16 * (plan.roles.length + plan.grants.length) =
      16 * plan.roles.length + (0 * plan.users.length + (16 * plan.grants.length + 0)) := by
    omega
  rw [hprice]
  exact hroles.bind (husers.bind (hgrants.bind (.free fun _ => rfl)))

/-! ### Seeding -/

/-- A plan has been carried out: its entries are counted and can be found, and carrying it out once
more, at any time and in the name of anybody, finds them all and changes nothing.  That takes an
identifier for each role and each grant, although none of them is used; for want of one of them the
run fails, and still changes nothing. -/
structure Seeded (service : Settings.Accepted) (plan : Plan) (report : Report) (store : Store) :
    Prop where
  roleCount : report.roles.created + report.roles.existing = plan.roles.length
  userCount : report.users.created + report.users.existing = plan.users.length
  grantCount : report.grants.created + report.grants.existing = plan.grants.length
  rolesFound : ∀ draft ∈ plan.roles, ∃ role ∈ store.roles,
    role.name = RoleName.normalize draft.name ∧ ∀ entropy,
      (getRoleByName draft.name).run entropy store = (.ok role, entropy, store)
  usersFound : ∀ r ∈ plan.users, ∀ entropy, ∃ user ∈ store.users,
    (getUserByEmail service r.email).run entropy store = (.ok user, entropy, store) ∨
      (getUserByUsername r.username).run entropy store = (.ok user, entropy, store)
  grantsHeld : ∀ planned ∈ plan.grants, ∀ entropy,
    (hasRole planned.username planned.roleName).run entropy store = (.ok true, entropy, store)
  again : ∀ actor now entropy,
    16 * (plan.roles.length + plan.grants.length) ≤ entropy.tape.length →
    (Seed.run service plan actor now).run entropy store =
      (.ok ⟨⟨0, plan.roles.length⟩, ⟨0, plan.users.length⟩, ⟨0, plan.grants.length⟩⟩,
        ⟨entropy.tape.drop (16 * (plan.roles.length + plan.grants.length))⟩, store)
  starved : ∀ actor now entropy,
    entropy.tape.length < 16 * (plan.roles.length + plan.grants.length) →
    ∃ rest, (Seed.run service plan actor now).run entropy store =
      (.error unidentified, rest, store)

theorem Applied.seeded {plan : Plan} {report : Report} (hsound : store.Sound)
    (h : Applied service plan report store) : Seeded service plan report store where
  roleCount := h.roleCount
  userCount := h.userCount
  grantCount := h.grantCount
  rolesFound draft hdraft := by
    obtain ⟨role, hrole, hname⟩ := (h.roles draft hdraft).stored
    exact ⟨role, hrole, hname, fun _ => run_getRoleByName hsound hrole hname⟩
  usersFound r hr entropy := by
    obtain ⟨user, hu, hlookup | husername⟩ := (h.users r hr).stored
    · exact ⟨user, hu, .inl (run_call_of (respond_findUserByEmail hsound hu hlookup))⟩
    · exact ⟨user, hu, .inr (run_call_of (respond_findUserByUsername hsound hu husername))⟩
  grantsHeld planned hplanned entropy := by
    obtain ⟨role, hrole, hname, grant, hgrant, husername, hid⟩ := (h.grants planned hplanned).held
    have hmem : role ∈ store.rolesOfUser (Username.normalize planned.username) :=
      (mem_rolesOfUser hsound).mpr ⟨grant, hgrant, husername, hrole, hid.symm⟩
    have hheld : ((store.rolesOfUser (Username.normalize planned.username)).any
        (·.name == RoleName.normalize planned.roleName)) = true :=
      List.any_eq_true.mpr ⟨role, hmem, beq_iff_eq.mpr hname⟩
    exact run_call_of (congrArg (fun b => (Except.ok b, store)) hheld)
  again actor now := (run_costs hsound h actor now).enough
  starved actor now := (run_costs hsound h actor now).short

/-- **Seeding only adds, and adds once**: whatever a plan asks for, carrying it out leaves every
record that was stored before as it was, whether it succeeds or fails; and if it succeeds, then
everything that the plan asks for is there, and carrying it out again changes nothing. -/
theorem seeding_exact (service : Settings.Accepted) (plan : Plan) (actor : String) (now : Timestamp)
    {outcome : Outcome Report} {rest : Entropy} (hreached : before.Reached)
    (h : (Seed.run service plan actor now).run entropy before = (outcome, rest, after)) :
    before.Extends after ∧ ∀ report, outcome = .ok report → Seeded service plan report after := by
  obtain ⟨hsound, hextends, happlied⟩ := (run_adds hreached.sound service plan actor now).run h
  exact ⟨hextends, fun report hreport => (happlied report hreport).seeded hsound⟩

/-- A suspended user, who has a username and not much else. -/
def resident : User where
  id := ⟨Uuid.ofRandomBytes (List.replicate 16 1)⟩
  username := "alice"
  name := "Alice"
  email := ⟨[], [], [], []⟩
  password := ⟨[], []⟩
  pin := none
  status := .suspended
  createdAt := .epoch
  createdBy := ""
  updatedAt := .epoch
  updatedBy := ""

/-- A store in which one user has been created. -/
def residence : Store := Store.empty.answered [.createUser resident]

/-- One role twice, a user who exists under another address, and one grant twice, in many
spellings. -/
def repetitive : Plan where
  roles := [⟨" Editor ", "Edits", ["users:*"]⟩, ⟨"EDITOR", "Reads", []⟩]
  users := [⟨"lewis@example.org", "Correct1!", "_ALICE", "Alice"⟩]
  grants := [⟨"Alice", "editor"⟩, ⟨" alice", "Editor"⟩]

theorem seeding_exact_repetitive : ∃ rest after,
    (Seed.run plainService repetitive "root" .epoch).run ⟨List.replicate 64 0⟩ residence =
        (.ok ⟨⟨1, 1⟩, ⟨0, 1⟩, ⟨1, 1⟩⟩, rest, after) ∧
      residence.Reached ∧ residence.Extends after ∧
        Seeded plainService repetitive ⟨⟨1, 1⟩, ⟨0, 1⟩, ⟨1, 1⟩⟩ after := by
  have hreached : residence.Reached := ⟨[.createUser resident], rfl⟩
  have hok : ((Seed.run plainService repetitive "root" .epoch).run ⟨List.replicate 64 0⟩
      residence).1 = .ok ⟨⟨1, 1⟩, ⟨0, 1⟩, ⟨1, 1⟩⟩ := by
    decide +kernel
  rcases hrun : (Seed.run plainService repetitive "root" .epoch).run ⟨List.replicate 64 0⟩
    residence with ⟨outcome, rest, after⟩
  rw [hrun] at hok
  obtain ⟨hextends, hseeded⟩ := seeding_exact plainService repetitive "root" .epoch hreached hrun
  exact ⟨rest, after, by rw [← hok], hreached, hextends, hseeded _ hok⟩

end Identity.Seed
