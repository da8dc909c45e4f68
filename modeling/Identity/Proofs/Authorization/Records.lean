/-
Identity/Proofs/Authorization/Records.lean

What is true of every role record, whatever has been asked to change.

Roles are validated when they are created and when an edited record is stored,
but not when their status is set, although that normalizes the record once
more.  The invariant says why that is safe: a stored record is its own
canonical form, so setting the status writes no other name and no other
permissions than the ones that were accepted.

Main result: `roles_exact`, for all stores that the service leads to.
-/
import Identity.Proofs.Authorization.Decision
import Identity.Proofs.Authorization.Specifications

namespace Identity.Authorization

open Operation Authentication

variable {store after : Store} {role : Role}

/-! ### The invariant -/

/-- A stored role: it has an identifier, and its record is canonical and accepted. -/
structure Intact (role : Role) : Prop extends Kept role where
  id : role.id.isNil = false

/-- A step that succeeds keeps the stored roles intact. -/
theorem Effect.intact (h : Effect store after) (hstore : ∀ role ∈ store.roles, Intact role) :
    ∀ role ∈ after.roles, Intact role := by
  cases h with
  | unchanged => exact hstore
  | inserted id kept inserted =>
    rw [inserted.after]
    intro role hrole
    rcases List.mem_append.mp hrole with hrole | hrole
    · exact hstore role hrole
    · rw [List.mem_singleton.mp hrole]
      exact ⟨kept, id⟩
  | @replaced old new _ kept replaced =>
    rw [replaced.after]
    intro role hrole
    rcases (Store.mem_replace Role.id).mp hrole with ⟨rfl, -⟩ | ⟨hrole, -⟩
    -- the new record has the identifier of the old one, and is kept because that was
    · have hold : Intact old := hstore old (mem_of_role? replaced.stored)
      exact ⟨kept hold.toKept, id_of_role? replaced.stored ▸ hold.id⟩
    · exact hstore role hrole
  | removed id => exact fun role hrole => hstore role (List.mem_filter.mp hrole).1
  | granted inserted =>
    rw [inserted.after]
    exact hstore
  | revoked username roleId => exact hstore

/-- **Runs**: all stored roles are intact. -/
theorem Reachable.intact (h : Reachable store) : ∀ role ∈ store.roles, Intact role := by
  induction h with
  | empty => exact fun role hrole => absurd hrole List.not_mem_nil
  | @change store _ change entropy ih =>
    rcases hr : change.perform.run entropy store with ⟨e | answer, rest, after⟩
    · rw [(change.perform_yields store).of_error hr]
      exact ih
    · exact ((change.perform_yields store).of_ok hr).intact ih

/-! ### Stored records -/

/-- What can be relied on when a role is read from a store. -/
structure WellKept (role : Role) : Prop where
  id : role.id ≠ .nil
  name : RoleName.normalize role.name = role.name
  validName : RoleName.validate role.name = .ok ()
  description : Text.trim role.description = role.description
  distinct : role.permissions.Nodup
  permissions : ∀ permission ∈ role.permissions, Permission.Segmented permission

theorem Intact.wellKept (h : Intact role) : WellKept role where
  id := by
    intro hnil
    have hid := h.id
    rw [hnil] at hid
    cases hid
  name := congrArg Role.name h.canonical
  validName := (Role.wellFormed_of_validate h.valid).1
  description := congrArg Role.description h.canonical
  distinct := by
    rw [← h.canonical]
    exact (Permission.firstOccurrences_dedup _).nodup
  permissions permission hp :=
    Permission.segmented_of_check ((Role.wellFormed_of_validate h.valid).2 permission hp)

/-! ### Setting the status -/

/-- The role in a state: its record as it is if that is its state already, and otherwise with
another status and another last update. -/
def restated (role : Role) (status : RoleStatus) (actor : String) (now : Timestamp) : Role :=
  if role.status = status then role
  else { role with status := status, updatedAt := now, updatedBy := actor }

/-- A role may always be stored again under the name that it has. -/
theorem updateRole_same (h : store.Sound) {new : Role} (hrole : role ∈ store.roles)
    (hid : new.id = role.id) (hname : new.name = role.name) :
    store.updateRole new =
      .ok (new, { store with roles := Store.replaceRole store.roles new }) := by
  refine Store.updateRole_eq_ok.mpr ⟨⟨role, h.role?_eq_some.mpr ⟨hrole, hid.symm⟩⟩, ?_, rfl, rfl⟩
  intro stored hstored hne
  refine ⟨hne, fun heq => ?_⟩
  have hsame : stored = role := h.eq_of_roleName hstored hrole (heq.trans hname)
  exact hne (hsame ▸ hid.symm)

/-- Replacing a record by itself changes nothing. -/
theorem replaceRole_self (h : store.Sound) (hrole : role ∈ store.roles) :
    Store.replaceRole store.roles role = store.roles := by
  refine (List.map_congr_left fun stored hstored => ?_).trans (List.map_id _)
  split_ifs with hid
  · exact h.eq_of_roleId hrole hstored hid.symm
  · rfl

/-- Setting the status of a stored role succeeds, and replaces its record by the restated one. -/
theorem run_setRoleStatus (h : Reachable store) (hrole : role ∈ store.roles) (status : RoleStatus)
    (actor : String) (now : Timestamp) (entropy : Entropy) :
    (setRoleStatus role.id status actor now).run entropy store =
      (.ok (restated role status actor now), entropy,
        { store with
          roles := Store.replaceRole store.roles (restated role status actor now) }) := by
  refine (run_bind_of_ok (run_call_of (respond_getRole h.sound hrole))).trans ?_
  show Operation.run (if role.status = status then _ else _) entropy store = _
  unfold restated
  split_ifs with hstatus
  · rw [run_pure, replaceRole_self h.sound hrole]
  · have hwrite : store.updateRole
        { role with status := status, updatedAt := now, updatedBy := actor } = _ :=
      updateRole_same h.sound hrole rfl rfl
    rw [Role.updated_of_normalized (h.intact role hrole).canonical]
    refine run_call_of ?_
    rw [Store.respond, hwrite, Store.changed]

/-- No status is set of a role that is not stored. -/
theorem run_setRoleStatus_absent {id : RoleId} (h : ∀ role ∈ store.roles, role.id ≠ id)
    (status : RoleStatus) (actor : String) (now : Timestamp) (entropy : Entropy) :
    (setRoleStatus id status actor now).run entropy store =
      (.error .roleNotFound, entropy, store) := by
  have hnone : store.role? id = none := by
    refine List.find?_eq_none.mpr fun role hrole heq => ?_
    exact h role hrole (beq_iff_eq.mp heq)
  have hmissing : store.respond (.getRole id) = (.error .roleNotFound, store) :=
    congrArg (fun o => (Store.found .roleNotFound o, store)) hnone
  exact run_bind_of_error (run_call_of hmissing)

/-! ### All changes -/

/-- The role records of a store are well kept, and changes of roles do to them what is asked. -/
structure RolesExact (store : Store) : Prop where
  kept : ∀ role ∈ store.roles, WellKept role
  created : ∀ draft actor now, (createRole draft actor now).Yields store fun role after =>
    after = { store with roles := store.roles ++ [role] } ∧
      Permission.FirstOccurrences (draft.permissions.map Text.trim) role.permissions
  updated : ∀ role actor now, (updateRole role actor now).Yields store fun answer after =>
    after = { store with roles := Store.replaceRole store.roles answer } ∧
      answer.id = role.id ∧
        Permission.FirstOccurrences (role.permissions.map Text.trim) answer.permissions
  activated : ∀ role ∈ store.roles, ∀ actor now entropy,
    (activateRole role.id actor now).run entropy store =
      (.ok (restated role .active actor now), entropy,
        { store with roles := Store.replaceRole store.roles (restated role .active actor now) })
  deactivated : ∀ role ∈ store.roles, ∀ actor now entropy,
    (deactivateRole role.id actor now).run entropy store =
      (.ok (restated role .inactive actor now), entropy,
        { store with roles := Store.replaceRole store.roles (restated role .inactive actor now) })
  absent : ∀ id, (∀ role ∈ store.roles, role.id ≠ id) → ∀ actor now entropy,
    (activateRole id actor now).run entropy store = (.error .roleNotFound, entropy, store) ∧
      (deactivateRole id actor now).run entropy store = (.error .roleNotFound, entropy, store)

/-- **Every stored role is well kept**, whatever has been asked to change: it has an identifier, its
name is canonical and accepted, its description is trimmed, and its permissions are distinct and
well formed.  A role that is created or edited is stored with the permissions that were given,
trimmed and without later repeats; setting the status of a role changes nothing else of it. -/
theorem roles_exact (h : Reachable store) : RolesExact store where
  kept role hrole := (h.intact role hrole).wellKept
  created draft actor now := by
    refine (createRole_yields draft actor now).mono ?_
    rintro role after ⟨hdrafted, hinserted⟩
    refine ⟨hinserted.after, ?_⟩
    rw [hdrafted.permissions]
    exact Permission.firstOccurrences_dedup _
  updated role actor now := by
    refine (updateRole_yields role actor now).mono ?_
    rintro _ after ⟨rfl, -, old, hreplaced⟩
    exact ⟨hreplaced.after, rfl, Permission.firstOccurrences_dedup _⟩
  activated role hrole actor now entropy := run_setRoleStatus h hrole .active actor now entropy
  deactivated role hrole actor now entropy :=
    run_setRoleStatus h hrole .inactive actor now entropy
  absent id hid actor now entropy :=
    ⟨run_setRoleStatus_absent hid .active actor now entropy,
      run_setRoleStatus_absent hid .inactive actor now entropy⟩

/-- The editor's permission was given twice, in two spellings, and the auditor is inactive. -/
theorem roles_exact_editor :
    Reachable editorStore ∧ RolesExact editorStore ∧
      editorStore.roles.map (fun role => (role.name, role.permissions, role.status)) =
        [("editor", ["users:*"], .active), ("auditor", ["*"], .inactive)] := by
  have hreach : Reachable editorStore := Reachable.empty.changed _
  exact ⟨hreach, roles_exact hreach, by decide +kernel⟩

end Identity.Authorization
