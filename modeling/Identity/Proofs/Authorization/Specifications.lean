/-
Identity/Proofs/Authorization/Specifications.lean

What each change of roles and grants does to a store.

There is one specification for each operation that writes, and from them the
effect of a `Change`: one new role, one role replaced, one role removed with its
grants, one grant more or one less.  A failure writes nothing, which is part of
`Yields`.
-/
import Identity.Proofs.Authentication.Secrets
import Identity.Proofs.Authorization.Reachable
import Identity.Proofs.Operation
import Identity.Proofs.Role

namespace Identity.Authorization

open Operation Authentication

variable {store after : Store}

/-! ### Records -/

/-- A role as it is stored: in canonical form and accepted. -/
structure Kept (role : Role) : Prop where
  canonical : role.normalized = role
  valid : role.validate = .ok ()

/-- The record that is made of a draft before it is stored for the first time. -/
def RoleDraft.record (draft : RoleDraft) (fresh : Uuid) (actor : String) (now : Timestamp) :
    Role :=
  (Role.draft draft.name draft.description draft.permissions).created ⟨fresh⟩ actor now

/-- A record as it is first stored, of a role that is to be as the draft says. -/
structure Drafted (draft : RoleDraft) (role : Role) : Prop where
  id : role.id.isNil = false
  record : ∃ fresh actor now, role = draft.record fresh actor now
  valid : role.validate = .ok ()

theorem Drafted.name {draft : RoleDraft} {role : Role} (h : Drafted draft role) :
    role.name = RoleName.normalize draft.name := by
  obtain ⟨fresh, actor, now, rfl⟩ := h.record
  rfl

theorem Drafted.permissions {draft : RoleDraft} {role : Role} (h : Drafted draft role) :
    role.permissions = Permission.dedup (draft.permissions.map Text.trim) := by
  obtain ⟨fresh, actor, now, rfl⟩ := h.record
  rfl

/-- Validation looks neither at the identifier nor at the audit. -/
theorem Drafted.valid_record {draft : RoleDraft} {role : Role} (h : Drafted draft role)
    (fresh : Uuid) (actor : String) (now : Timestamp) :
    (draft.record fresh actor now).validate = .ok () := by
  have hvalid := h.valid
  obtain ⟨_, _, _, rfl⟩ := h.record
  exact hvalid

theorem Drafted.kept {draft : RoleDraft} {role : Role} (h : Drafted draft role) : Kept role := by
  refine ⟨?_, h.valid⟩
  obtain ⟨fresh, actor, now, rfl⟩ := h.record
  exact Role.normalized_created ..

/-! ### Writing records -/

/-- A role has been added that is apart from all others. -/
structure RoleInserted (store : Store) (role : Role) (after : Store) : Prop where
  apart : ∀ stored ∈ store.roles, Store.RolesApart stored role
  after : after = { store with roles := store.roles ++ [role] }

/-- The record of a role has been replaced. -/
structure RoleReplaced (store : Store) (old new : Role) (after : Store) : Prop where
  stored : store.role? new.id = some old
  after : after = { store with roles := Store.replaceRole store.roles new }

/-- A grant of a stored role has been added that is apart from all others. -/
structure GrantInserted (store : Store) (grant : Grant) (after : Store) : Prop where
  role : ∃ role, store.role? grant.roleId = some role
  apart : ∀ stored ∈ store.grants, Store.GrantsApart stored grant
  after : after = { store with grants := store.grants ++ [grant] }

theorem id_of_role? {id : RoleId} {role : Role} (h : store.role? id = some role) :
    role.id = id := by
  simpa using List.find?_some h

theorem mem_of_role? {id : RoleId} {role : Role} (h : store.role? id = some role) :
    role ∈ store.roles :=
  List.mem_of_find?_eq_some h

theorem respond_getRole (hsound : store.Sound) {role : Role} (hrole : role ∈ store.roles) :
    store.respond (.getRole role.id) = (.ok role, store) := by
  have hstored : store.role? role.id = some role := hsound.role?_eq_some.mpr ⟨hrole, rfl⟩
  exact congrArg (·, store) (Store.found_eq_ok.mpr hstored)

theorem getRole_yields (id : RoleId) :
    (call (.getRole id)).Yields store fun role after =>
      after = store ∧ store.role? id = some role := by
  refine .call fun role after h => ?_
  have hfound : Store.found .roleNotFound (store.role? id) = .ok role := congrArg Prod.fst h
  exact ⟨(congrArg Prod.snd h).symm, Store.found_eq_ok.mp hfound⟩

/-! ### Roles -/

theorem createRole_yields (draft : RoleDraft) (actor : String) (now : Timestamp) :
    (createRole draft actor now).Yields store fun role after =>
      Drafted draft role ∧ RoleInserted store role after := by
  unfold createRole
  refine .bind freshUuid_yields fun fresh hfresh => ?_
  refine .bind (P := fun _ => (draft.record fresh actor now).validate = .ok ())
    (.ofOutcome fun _ h => ⟨rfl, h⟩) fun _ hvalid => ?_
  refine .call fun role after h => ?_
  obtain ⟨hapart, rfl, hafter⟩ := Store.createRole_eq_ok.mp (Store.changed_eq_ok h)
  exact ⟨⟨hfresh, ⟨fresh, actor, now, rfl⟩, hvalid⟩, hapart, hafter⟩

theorem updateRole_yields (role : Role) (actor : String) (now : Timestamp) :
    (updateRole role actor now).Yields store fun answer after =>
      answer = role.updated actor now ∧ answer.validate = .ok () ∧
        ∃ old, RoleReplaced store old answer after := by
  unfold updateRole
  refine .bind (P := fun _ => (role.updated actor now).validate = .ok ())
    (.ofOutcome fun _ h => ⟨rfl, h⟩) fun _ hvalid => ?_
  refine .call fun answer after h => ?_
  obtain ⟨⟨old, hold⟩, -, rfl, hafter⟩ := Store.updateRole_eq_ok.mp (Store.changed_eq_ok h)
  exact ⟨rfl, hvalid, old, hold, hafter⟩

theorem setRoleStatus_yields (id : RoleId) (status : RoleStatus) (actor : String)
    (now : Timestamp) :
    (setRoleStatus id status actor now).Yields store fun role after =>
      (after = store ∧ role ∈ store.roles) ∨
        ∃ old, RoleReplaced store old role after ∧
          role = { old with status := status }.updated actor now := by
  unfold setRoleStatus
  refine .bind (getRole_yields id) fun old hold => ?_
  split_ifs
  · exact .pure (.inl ⟨rfl, mem_of_role? hold⟩)
  · refine .call fun role after h => ?_
    obtain ⟨-, -, rfl, hafter⟩ := Store.updateRole_eq_ok.mp (Store.changed_eq_ok h)
    -- the record is stored under the identifier that it has
    have hself := hold
    rw [← id_of_role? hold] at hself
    exact .inr ⟨old, ⟨hself, hafter⟩, rfl⟩

theorem deleteRole_yields (id : RoleId) :
    (deleteRole id).Yields store fun _ after =>
      after = { store with
        roles := store.roles.filter (·.id != id)
        grants := store.grants.filter (·.roleId != id) } := by
  refine .call fun _ after h => ?_
  exact (Store.deleteRole_eq_ok.mp (Store.changed_eq_ok h)).2

/-! ### Grants -/

theorem principal_eq_ok {name username : String} : principal name = .ok username ↔
    Username.validate (Username.normalize name) = .ok () ∧ username = Username.normalize name := by
  unfold principal
  rw [Outcome.bind_eq_ok]
  constructor
  · rintro ⟨_, hvalid, h⟩
    exact ⟨hvalid, (Except.ok.inj h).symm⟩
  · rintro ⟨hvalid, rfl⟩
    exact ⟨(), hvalid, rfl⟩

theorem assignRole_yields (name : String) (roleId : RoleId) (actor : String) (now : Timestamp) :
    (assignRole name roleId actor now).Yields store fun grant after =>
      principal name = .ok grant.username ∧ grant.roleId = roleId ∧
        GrantInserted store grant after := by
  unfold assignRole
  refine .bind (P := fun username => principal name = .ok username)
    (.ofOutcome fun username h => ⟨rfl, h⟩) fun username hprincipal => ?_
  obtain ⟨hvalid, rfl⟩ := principal_eq_ok.mp hprincipal
  refine .bind (getRole_yields roleId) fun role hrole => ?_
  refine .bind freshUuid_yields fun fresh _ => ?_
  refine .call fun grant after h => ?_
  obtain ⟨hstored, hapart, rfl, hafter⟩ := Store.createGrant_eq_ok.mp (Store.changed_eq_ok h)
  refine ⟨principal_eq_ok.mpr ⟨hvalid, ?_⟩, id_of_role? hrole, hstored, hapart, hafter⟩
  exact Username.normalize_normalize name

theorem revokeRole_yields (name : String) (roleId : RoleId) :
    (revokeRole name roleId).Yields store fun _ after =>
      after = { store with
        grants := store.grants.eraseP (Store.links (Username.normalize name) roleId) } := by
  unfold revokeRole
  refine .bind (P := fun username => principal name = .ok username)
    (.ofOutcome fun username h => ⟨rfl, h⟩) fun username hprincipal => ?_
  obtain ⟨-, rfl⟩ := principal_eq_ok.mp hprincipal
  refine .call fun _ after h => ?_
  exact (Store.deleteGrant_eq_ok.mp (Store.changed_eq_ok h)).2

/-! ### Changes -/

/-- What a change that succeeds has done to a store. -/
inductive Effect (store : Store) : Store → Prop
  | unchanged : Effect store store
  | inserted {role : Role} {after : Store} (id : role.id.isNil = false) (kept : Kept role)
      (inserted : RoleInserted store role after) : Effect store after
  | replaced {old new : Role} {after : Store} (kept : Kept old → Kept new)
      (replaced : RoleReplaced store old new after) : Effect store after
  | removed (id : RoleId) :
      Effect store { store with
        roles := store.roles.filter (·.id != id)
        grants := store.grants.filter (·.roleId != id) }
  | granted {grant : Grant} {after : Store} (inserted : GrantInserted store grant after) :
      Effect store after
  | revoked (username : String) (roleId : RoleId) :
      Effect store { store with grants := store.grants.eraseP (Store.links username roleId) }

/-- A role whose status has been set, without having been validated again. -/
theorem Kept.updated_status {role : Role} (h : Kept role) (status : RoleStatus) (actor : String)
    (now : Timestamp) : Kept ({ role with status := status }.updated actor now) where
  canonical := Role.normalized_updated ..
  valid := by
    rw [Role.updated_of_normalized h.canonical]
    exact h.valid

theorem setRoleStatus_effect (id : RoleId) (status : RoleStatus) (actor : String)
    (now : Timestamp) :
    (setRoleStatus id status actor now).Yields store fun _ => Effect store := by
  refine (setRoleStatus_yields id status actor now).mono ?_
  rintro _ after (⟨rfl, -⟩ | ⟨old, hreplaced, rfl⟩)
  · exact .unchanged
  · exact .replaced (fun hold => hold.updated_status status actor now) hreplaced

/-- **Every change has one of the effects**, or fails and changes nothing. -/
theorem Change.perform_yields (change : Change) (store : Store) :
    change.perform.Yields store fun _ => Effect store := by
  cases change with
  | createRole draft actor now =>
    refine (createRole_yields draft actor now).mono ?_
    rintro role after ⟨hdrafted, hinserted⟩
    exact .inserted hdrafted.id hdrafted.kept hinserted
  | updateRole role actor now =>
    refine (updateRole_yields role actor now).mono ?_
    rintro _ after ⟨rfl, hvalid, old, hreplaced⟩
    exact .replaced (fun _ => ⟨Role.normalized_updated .., hvalid⟩) hreplaced
  | activateRole id actor now => exact setRoleStatus_effect id .active actor now
  | deactivateRole id actor now => exact setRoleStatus_effect id .inactive actor now
  | deleteRole id =>
    refine (deleteRole_yields id).mono ?_
    rintro _ after rfl
    exact .removed id
  | assignRole name roleId actor now =>
    refine (assignRole_yields name roleId actor now).mono ?_
    rintro grant after ⟨-, -, hinserted⟩
    exact .granted hinserted
  | revokeRole name roleId =>
    refine (revokeRole_yields name roleId).mono ?_
    rintro _ after rfl
    exact .revoked _ roleId

end Identity.Authorization
