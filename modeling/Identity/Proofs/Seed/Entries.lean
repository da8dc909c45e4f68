/-
Identity/Proofs/Seed/Entries.lean

The entries of a plan, one by one.

An entry is *present* when making sure of it has nothing to add: what it asks
for is stored, and it is well formed, so that the operation that would add it
gets as far as the store.  Making sure of an entry ends with the entry present
(`ensureRole_adds` and its companions), because a conflict proves as much as a
success: somebody else is stored, and nothing was wrong with the entry.
-/
import Identity.Proofs.Authentication.SignUp
import Identity.Proofs.Authorization.Specifications
import Identity.Proofs.Malformed
import Identity.Proofs.Store.Growth
import Identity.Seed.Run

namespace Identity

namespace Seed

open Operation Authentication Authorization

variable {service : Settings.Accepted} {s : Settings} {store after : Store}
variable {draft : RoleDraft} {r : Registration} {planned : PlannedGrant}
variable {known : List (String × RoleId)} {actor : String} {now : Timestamp} {entropy : Entropy}

/-! ### Entries that are present -/

/-- A role with the name of the draft is stored, and the draft is well formed. -/
structure RolePresent (store : Store) (draft : RoleDraft) : Prop where
  valid : ∀ fresh actor now, (draft.record fresh actor now).validate = .ok ()
  stored : ∃ role ∈ store.roles, role.name = RoleName.normalize draft.name

/-- A user with the address or the username of the registration is stored, and the registration
is well formed. -/
structure UserPresent (s : Settings) (store : Store) (r : Registration) : Prop where
  valid : r.normalized.validate = .ok ()
  stored : ∃ user ∈ store.users, user.email.lookup = lookup s (Email.normalize r.email) ∨
    user.username = Username.normalize r.username

/-- The principal holds a stored role of this name, and its own name is well formed. -/
structure GrantPresent (store : Store) (planned : PlannedGrant) : Prop where
  valid : Username.validate (Username.normalize planned.username) = .ok ()
  held : ∃ role ∈ store.roles, role.name = RoleName.normalize planned.roleName ∧
    ∃ grant ∈ store.grants, grant.username = Username.normalize planned.username ∧
      grant.roleId = role.id

/-- The identifiers of the list are those of stored roles, by their names. -/
def Known (store : Store) (known : List (String × RoleId)) : Prop :=
  ∀ entry ∈ known, RoleName.normalize entry.1 = entry.1 ∧
    ∃ role ∈ store.roles, role.name = entry.1 ∧ role.id = entry.2

theorem known_nil (store : Store) : Known store [] := fun _ h => absurd h List.not_mem_nil

/-- A stored role is known by its name, if that is in canonical form. -/
theorem Known.cons (h : Known store known) {role : Role} (hrole : role ∈ store.roles)
    (hname : RoleName.normalize role.name = role.name) :
    Known store ((role.name, role.id) :: known) := by
  intro entry hentry
  rcases List.mem_cons.mp hentry with rfl | hentry
  · exact ⟨hname, role, hrole, rfl, rfl⟩
  · exact h entry hentry

theorem RolePresent.extends (h : RolePresent store draft) (hextends : store.Extends after) :
    RolePresent after draft := by
  obtain ⟨role, hrole, hname⟩ := h.stored
  exact ⟨h.valid, role, hextends.roles.subset hrole, hname⟩

theorem UserPresent.extends (h : UserPresent s store r) (hextends : store.Extends after) :
    UserPresent s after r := by
  obtain ⟨user, hu, hsame⟩ := h.stored
  exact ⟨h.valid, user, hextends.users.subset hu, hsame⟩

theorem GrantPresent.extends (h : GrantPresent store planned) (hextends : store.Extends after) :
    GrantPresent after planned := by
  obtain ⟨role, hrole, hname, grant, hgrant, hheld⟩ := h.held
  exact ⟨h.valid, role, hextends.roles.subset hrole, hname, grant,
    hextends.grants.subset hgrant, hheld⟩

theorem Known.extends (h : Known store known) (hextends : store.Extends after) :
    Known after known := by
  intro entry hentry
  obtain ⟨hcanonical, role, hrole, hsame⟩ := h entry hentry
  exact ⟨hcanonical, role, hextends.roles.subset hrole, hsame⟩

theorem Known.of_lookup (h : Known store known) {name : String} {id : RoleId}
    (hlookup : known.lookup name = some id) :
    ∃ role ∈ store.roles, role.name = RoleName.normalize name ∧ role.id = id := by
  obtain ⟨_, _, rfl, -⟩ := List.lookup_eq_some_iff.mp hlookup
  obtain ⟨hcanonical, role, hrole, hname, hid⟩ := h (name, id) (by simp)
  exact ⟨role, hrole, hname.trans hcanonical.symm, hid⟩

/-! ### What a conflict proves -/

theorem internal_of_freshUuid {e : Error} (h : freshUuid.Fails store e) :
    ∃ detail, e = .internal detail := by
  obtain ⟨fault, rfl⟩ := h.of_draw
  exact ⟨_, rfl⟩

/-- A draft that is refused on account of a stored role is well formed. -/
theorem valid_of_createRole_fails
    (h : (createRole draft actor now).Fails store .roleAlreadyExists) :
    ∀ fresh actor now, (draft.record fresh actor now).validate = .ok () := by
  unfold createRole at h
  rcases h.bind freshUuid_yields with h | ⟨fresh, -, h⟩
  · obtain ⟨detail, h⟩ := internal_of_freshUuid h
    cases h
  rcases h.bind (P := fun _ => (draft.record fresh actor now).validate = .ok ())
    (.ofOutcome fun _ h => ⟨rfl, h⟩) with h | ⟨_, hvalid, -⟩
  · cases Role.malformed_of_validate h.of_ofOutcome
  -- validation looks neither at the identifier nor at the audit
  · exact fun _ _ _ => hvalid

/-- A registration that is refused on account of a stored user is well formed. -/
theorem valid_of_signUp_fails {e : Error} (h : (signUp service r now).Fails store e)
    (he : ¬ e.Malformed) : r.normalized.validate = .ok () := by
  unfold signUp at h
  rcases h.bind (P := fun _ => r.normalized.validate = .ok ()) (.ofOutcome fun _ h => ⟨rfl, h⟩)
    with h | ⟨_, hvalid, -⟩
  · exact absurd (Registration.malformed_of_validate h.of_ofOutcome) he
  · exact hvalid

/-- A grant that is refused on account of a stored one is held. -/
theorem held_of_assignRole_fails {name : String} {roleId : RoleId}
    (h : (assignRole name roleId actor now).Fails store .grantAlreadyExists) :
    Username.validate (Username.normalize name) = .ok () ∧
      ∃ grant ∈ store.grants, grant.username = Username.normalize name ∧
        grant.roleId = roleId := by
  unfold assignRole at h
  rcases h.bind (P := fun username => principal name = .ok username)
    (.ofOutcome fun _ h => ⟨rfl, h⟩) with h | ⟨username, hprincipal, h⟩
  · cases malformed_of_principal h.of_ofOutcome
  obtain ⟨hvalid, rfl⟩ := principal_eq_ok.mp hprincipal
  rcases h.bind (getRole_yields roleId) with h | ⟨role, hrole, h⟩
  · cases Store.eq_of_found_eq_error h.of_call
  rcases h.bind freshUuid_yields with h | ⟨fresh, -, h⟩
  · obtain ⟨detail, h⟩ := internal_of_freshUuid h
    cases h
  obtain ⟨-, stored, hs, husername, hid⟩ :=
    Store.createGrant_eq_grantAlreadyExists.mp (Store.changed_eq_error h.of_call)
  refine ⟨hvalid, stored, hs, ?_, hid.trans (id_of_role? hrole)⟩
  exact husername.trans (Username.normalize_normalize name)

/-! ### Finding users and roles -/

theorem getRoleByName_yields (name : String) :
    (getRoleByName name).Yields store fun role after =>
      after = store ∧ role ∈ store.roles ∧ role.name = RoleName.normalize name := by
  refine .call fun role after h => ?_
  have hfound := Store.found_eq_ok.mp (congrArg Prod.fst h)
  refine ⟨(congrArg Prod.snd h).symm, List.mem_of_find?_eq_some hfound, ?_⟩
  simpa using List.find?_some hfound

theorem run_getRoleByName (hsound : store.Sound) {name : String} {role : Role}
    (hrole : role ∈ store.roles) (hname : role.name = RoleName.normalize name) :
    (getRoleByName name).run entropy store = (.ok role, entropy, store) := by
  have hfound : store.roles.find? (·.name == RoleName.normalize name) = some role :=
    (Store.find?_key_iff Role.name Store.RolesApart.name hsound.roles).mpr ⟨hrole, hname⟩
  rw [getRoleByName, run_call, Store.respond, hfound, Store.found]

/-- A grant refers to a stored role by the name of the role. -/
theorem referredRole_yields (hknown : Known store known) (name : String) :
    (referredRole known name).Yields store fun id after =>
      after = store ∧ ∃ role ∈ store.roles, role.name = RoleName.normalize name ∧ role.id = id := by
  unfold referredRole
  cases hlookup : known.lookup name with
  | some id => exact .pure ⟨rfl, hknown.of_lookup hlookup⟩
  | none =>
    refine .bind (getRoleByName_yields name) fun role hrole => ?_
    exact .pure ⟨rfl, role, hrole.1, hrole.2, rfl⟩

theorem run_referredRole (hsound : store.Sound) (hknown : Known store known) {name : String}
    {role : Role} (hrole : role ∈ store.roles) (hname : role.name = RoleName.normalize name) :
    (referredRole known name).run entropy store = (.ok role.id, entropy, store) := by
  unfold referredRole
  cases hlookup : known.lookup name with
  | some id =>
    obtain ⟨stored, hstored, hsame, rfl⟩ := hknown.of_lookup hlookup
    rw [hsound.eq_of_roleName hstored hrole (hsame.trans hname.symm)]
    rfl
  | none =>
    show ((getRoleByName name >>= fun role => pure role.id).run entropy store) = _
    rw [run_bind, run_getRoleByName hsound hrole hname]
    rfl

/-! ### Making sure of an entry -/

/-- A search whose answer is of no further use still says that there is one. -/
theorem discard_yields {α : Type} {op : Operation α} {P : α → Prop}
    (h : op.Yields store fun a after => after = store ∧ P a) :
    (discard op).Yields store fun _ after => after = store ∧ ∃ a, P a :=
  h.bind fun a ha => .pure ⟨rfl, a, ha⟩

theorem ensureRole_adds (hsound : store.Sound) (draft : RoleDraft) (actor : String)
    (now : Timestamp) :
    (ensureRole draft actor now).Adds store fun answer after =>
      RolePresent after draft ∧ answer.1 ∈ after.roles ∧
        answer.1.name = RoleName.normalize draft.name := by
  unfold ensureRole
  refine .attempt_bind hsound (createRole_yields draft actor now) ?_ ?_ ?_
  · rintro role after ⟨-, hinserted⟩
    rw [hinserted.after]
    exact .add_role store role
  · rintro role after hsound' ⟨hdrafted, hinserted⟩
    have hmem : role ∈ after.roles := by
      rw [hinserted.after]
      exact List.mem_append_right _ (List.mem_singleton_self role)
    exact .pure hsound' ⟨⟨hdrafted.valid_record, role, hmem, hdrafted.name⟩, hmem, hdrafted.name⟩
  · intro e hfails
    split
    · cases ‹_›
    · cases ‹Except.error e = _›
      refine .reads_bind hsound (getRoleByName_yields draft.name) ?_
      rintro role ⟨hmem, hname⟩
      exact .pure hsound ⟨⟨valid_of_createRole_fails hfails, role, hmem, hname⟩, hmem, hname⟩
    · exact .throw hsound

theorem ensureUser_adds (hsound : store.Sound) (service : Settings.Accepted) (r : Registration)
    (now : Timestamp) :
    (ensureUser service r now).Adds store fun _ after => UserPresent service.settings after r := by
  unfold ensureUser
  refine .attempt_bind hsound (signUp_yields service r now) ?_ ?_ ?_
  · rintro user after ⟨-, hinserted, -⟩
    rw [hinserted.after]
    exact .add_user store user
  · rintro user after hsound' ⟨hvalid, hinserted, hfresh⟩
    have hmem : user ∈ after.users := (hinserted.holds user).mpr (.inl rfl)
    exact .pure hsound' ⟨hvalid, user, hmem, .inl hfresh.email.lookup⟩
  · intro e hfails
    split
    · cases ‹_›
    -- a user who is not found here has been refused on account of a drawn identifier
    · cases ‹Except.error e = _›
      refine .reads_bind hsound (discard_yields (getUserByEmail_yields service r.email)) ?_
      rintro _ ⟨user, hmem, hlookup⟩
      exact .pure hsound ⟨valid_of_signUp_fails hfails nofun, user, hmem, .inl hlookup⟩
    · cases ‹Except.error e = _›
      refine .reads_bind hsound (discard_yields (getUserByUsername_yields r.username)) ?_
      rintro _ ⟨user, hmem, husername⟩
      exact .pure hsound ⟨valid_of_signUp_fails hfails nofun, user, hmem, .inr husername⟩
    · exact .throw hsound

theorem ensureGrant_adds (hsound : store.Sound) (hknown : Known store known)
    (planned : PlannedGrant) (actor : String) (now : Timestamp) :
    (ensureGrant known planned actor now).Adds store fun _ after => GrantPresent after planned := by
  unfold ensureGrant
  refine .reads_bind hsound (referredRole_yields hknown planned.roleName) ?_
  rintro id ⟨role, hrole, hname, rfl⟩
  refine .attempt_bind hsound (assignRole_yields planned.username role.id actor now) ?_ ?_ ?_
  · rintro grant after ⟨-, -, hinserted⟩
    rw [hinserted.after]
    exact .add_grant store grant
  · rintro grant after hsound' ⟨hprincipal, hid, hinserted⟩
    obtain ⟨hvalid, husername⟩ := principal_eq_ok.mp hprincipal
    have hmem : grant ∈ after.grants := by
      rw [hinserted.after]
      exact List.mem_append_right _ (List.mem_singleton_self grant)
    have hrole' : role ∈ after.roles := by
      rw [hinserted.after]
      exact hrole
    exact .pure hsound' ⟨hvalid, role, hrole', hname, grant, hmem, husername, hid⟩
  · intro e hfails
    split
    · cases ‹_›
    · cases ‹Except.error e = _›
      obtain ⟨hvalid, grant, hgrant, hheld⟩ := held_of_assignRole_fails hfails
      exact .pure hsound ⟨hvalid, role, hrole, hname, grant, hgrant, hheld⟩
    · exact .throw hsound

end Seed

end Identity
