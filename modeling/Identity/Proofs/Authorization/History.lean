/-
Identity/Proofs/Authorization/History.lean

Runs of the authorization service, and who holds a role by what has happened.

The history of a run tells who holds a role without looking at the tables
(`Granted`): the last thing that was said about the principal and the role was
that it is assigned, and since then the role has not been made anew.  Every step
keeps the tables and the history in agreement (`Agrees.write`).

Nothing is assumed of fresh identifiers.  Should a role be made under the
identifier of an earlier one, it starts without holders all the same.
-/
import Identity.Proofs.Authorization.Specifications

namespace Identity.Authorization

open Operation

variable {store after : Store}

/-! ### Histories -/

/-- What an answer says about the holders of a role. -/
inductive Notice where
  | nothing
  | created (id : RoleId)
  | assigned (username : String) (id : RoleId)
  | revoked (username : String) (id : RoleId)
  deriving DecidableEq

/-- What the answer to a change says; a principal is known by its canonical name. -/
def Change.notice : (change : Change) → change.Answer → Notice
  | createRole .., role => .created role.id
  | assignRole name id .., _ => .assigned (Username.normalize name) id
  | revokeRole name id, _ => .revoked (Username.normalize name) id
  | updateRole .., _ | activateRole .., _ | deactivateRole .., _ | deleteRole .., _ => .nothing

/-- A change that has been asked for, with its outcome. -/
structure Event where
  change : Change
  outcome : Outcome change.Answer

/-- What an event says; a change that has failed says nothing. -/
def Event.notice (event : Event) : Notice :=
  match event.outcome with
  | .ok answer => event.change.notice answer
  | .error _ => .nothing

/-- **Runs of the service** with their history: what has happened, the last event first, and the
store at the end. -/
inductive Run : List Event → Store → Prop
  | start : Run [] .empty
  | step {events : List Event} {store : Store} (h : Run events store) (change : Change)
      (entropy : Entropy) :
      Run (⟨change, (change.perform.run entropy store).1⟩ :: events)
        (change.perform.run entropy store).2.2

theorem Run.reachable {events : List Event} (h : Run events store) : Reachable store := by
  induction h with
  | start => exact .empty
  | step _ change entropy ih => exact ih.change change entropy

/-- Every store that the service leads to has a history. -/
theorem Reachable.exists_run (h : Reachable store) : ∃ events, Run events store := by
  induction h with
  | empty => exact ⟨[], .start⟩
  | change _ change entropy ih =>
    obtain ⟨events, hrun⟩ := ih
    exact ⟨_, hrun.step change entropy⟩

/-- The last time that something was said about the principal and the role, the role was assigned;
that was after the role was made, and it has not been made anew since. -/
def Granted (notices : List Notice) (username : String) (id : RoleId) : Prop :=
  ∃ later earlier, notices = later ++ .assigned username id :: earlier ∧
    (∀ n ∈ later, n ≠ .assigned username id ∧ n ≠ .revoked username id ∧ n ≠ .created id) ∧
      .created id ∈ earlier

/-- What one more notice, the last one, does to the holders of a role. -/
theorem granted_cons {n : Notice} {notices : List Notice} {username : String} {id : RoleId} :
    Granted (n :: notices) username id ↔
      (n = .assigned username id ∧ .created id ∈ notices) ∨
        (n ≠ .assigned username id ∧ n ≠ .revoked username id ∧ n ≠ .created id) ∧
          Granted notices username id := by
  constructor
  · rintro ⟨later, earlier, hsplit, hlater, hcreated⟩
    cases later with
    | nil =>
      obtain ⟨rfl, rfl⟩ := List.cons.inj hsplit
      exact .inl ⟨rfl, hcreated⟩
    | cons m later =>
      obtain ⟨rfl, rfl⟩ := List.cons.inj hsplit
      obtain ⟨hm, hlater⟩ := List.forall_mem_cons.mp hlater
      exact .inr ⟨hm, later, earlier, rfl, hlater, hcreated⟩
  · rintro (⟨rfl, hcreated⟩ | ⟨hn, later, earlier, rfl, hlater, hcreated⟩)
    · exact ⟨[], notices, rfl, nofun, hcreated⟩
    · exact ⟨n :: later, earlier, rfl, List.forall_mem_cons.mpr ⟨hn, hlater⟩, hcreated⟩

/-! ### What a change writes -/

/-- The store without a role and its grants. -/
def withoutRole (store : Store) (id : RoleId) : Store :=
  { store with
    roles := store.roles.filter (·.id != id)
    grants := store.grants.filter (·.roleId != id) }

/-- What the tables are like after a change that has said something. -/
inductive Writes (store : Store) : Notice → Store → Prop
  | kept {after : Store} (roles : after.roles.map Role.id = store.roles.map Role.id)
      (grants : after.grants = store.grants) : Writes store .nothing after
  | created {role : Role} {after : Store} (inserted : RoleInserted store role after) :
      Writes store (.created role.id) after
  | removed (id : RoleId) : Writes store .nothing (withoutRole store id)
  | assigned {grant : Grant} {after : Store} (inserted : GrantInserted store grant after) :
      Writes store (.assigned grant.username grant.roleId) after
  | revoked (username : String) (id : RoleId) :
      Writes store (.revoked username id)
        { store with grants := store.grants.eraseP (Store.links username id) }

/-- A record is replaced by one with the same identifier. -/
theorem map_id_replaceRole (roles : List Role) (role : Role) :
    (Store.replaceRole roles role).map Role.id = roles.map Role.id := by
  rw [Store.replaceRole, List.map_map]
  refine List.map_congr_left fun stored _ => ?_
  show (if stored.id = role.id then role else stored).id = stored.id
  split_ifs with hid
  · exact hid.symm
  · rfl

theorem RoleReplaced.writes {old new : Role} (h : RoleReplaced store old new after) :
    Writes store .nothing after := by
  rw [h.after]
  exact .kept (map_id_replaceRole _ _) rfl

theorem setRoleStatus_writes (id : RoleId) (status : RoleStatus) (actor : String)
    (now : Timestamp) :
    (setRoleStatus id status actor now).Yields store fun _ => Writes store .nothing := by
  refine (setRoleStatus_yields id status actor now).mono ?_
  rintro _ after (⟨rfl, -⟩ | ⟨old, hreplaced, -⟩)
  · exact .kept rfl rfl
  · exact hreplaced.writes

/-- A change writes what its answer says. -/
theorem Change.perform_writes (change : Change) (store : Store) :
    change.perform.Yields store fun answer => Writes store (change.notice answer) := by
  cases change with
  | createRole draft actor now =>
    exact (createRole_yields draft actor now).mono fun _ _ h => .created h.2
  | updateRole role actor now =>
    refine (updateRole_yields role actor now).mono ?_
    rintro _ after ⟨-, -, old, hreplaced⟩
    exact hreplaced.writes
  | activateRole id actor now => exact setRoleStatus_writes id .active actor now
  | deactivateRole id actor now => exact setRoleStatus_writes id .inactive actor now
  | deleteRole id =>
    refine (deleteRole_yields id).mono ?_
    rintro _ after rfl
    exact .removed id
  | assignRole name roleId actor now =>
    refine (assignRole_yields name roleId actor now).mono ?_
    rintro grant after ⟨hprincipal, rfl, hinserted⟩
    obtain ⟨-, husername⟩ := principal_eq_ok.mp hprincipal
    show Writes store (.assigned (Username.normalize name) grant.roleId) after
    rw [← husername]
    exact .assigned hinserted
  | revokeRole name roleId =>
    refine (revokeRole_yields name roleId).mono ?_
    rintro _ after rfl
    exact .revoked _ roleId

/-! ### Tables and histories -/

/-- A role is stored under the identifier. -/
def Stored (store : Store) (id : RoleId) : Prop := ∃ role ∈ store.roles, role.id = id

/-- The principal has a grant of the role. -/
def Linked (store : Store) (username : String) (id : RoleId) : Prop :=
  ∃ grant ∈ store.grants, grant.username = username ∧ grant.roleId = id

/-- Every stored role was made at some time, and the grants are those that the history tells of,
as far as their roles are still stored. -/
structure Agrees (notices : List Notice) (store : Store) : Prop where
  created : ∀ id, Stored store id → .created id ∈ notices
  linked : ∀ username id,
    Linked store username id ↔ Stored store id ∧ Granted notices username id

theorem stored_of_linked (h : store.Sound) {username : String} {id : RoleId}
    (hlinked : Linked store username id) : Stored store id := by
  obtain ⟨grant, hgrant, -, rfl⟩ := hlinked
  exact h.granted grant hgrant

/-- At most one grant links a principal to a role, so erasing the first leaves none. -/
theorem eraseP_links (h : store.Sound) (username : String) (id : RoleId) :
    store.grants.eraseP (Store.links username id) =
      store.grants.filter fun grant => !Store.links username id grant := by
  have hgrants := h.grants
  generalize store.grants = grants at hgrants
  induction hgrants with
  | nil => rfl
  | @cons grant grants hapart _ ih =>
    by_cases hlinks : Store.links username id grant = true
    · obtain ⟨husername, hid⟩ := Store.links_eq_true.mp hlinks
      have hothers : ∀ other ∈ grants, (!Store.links username id other) = true := by
        intro other hother
        rw [Bool.not_eq_true', ← Bool.not_eq_true, Store.links_eq_true]
        rintro ⟨husername', hid'⟩
        exact hapart other hother ⟨husername.trans husername'.symm, hid.trans hid'.symm⟩
      rw [List.eraseP_cons_of_pos hlinks, List.filter_cons_of_neg (by simp [hlinks]),
        List.filter_eq_self.mpr hothers]
    · rw [List.eraseP_cons_of_neg hlinks, List.filter_cons_of_pos (by simp [hlinks]), ih]

section Agreement

variable {notices : List Notice}

/-- No change of identifiers, no change of holders. -/
theorem Agrees.kept (h : Agrees notices store)
    (hroles : after.roles.map Role.id = store.roles.map Role.id)
    (hgrants : after.grants = store.grants) : Agrees (.nothing :: notices) after := by
  have hstored : ∀ id, Stored after id ↔ Stored store id := by
    intro id
    unfold Stored
    rw [← List.mem_map, ← List.mem_map, hroles]
  constructor
  · intro id hid
    exact List.mem_cons_of_mem _ (h.created id ((hstored id).mp hid))
  · intro username id
    have hlinked : Linked after username id ↔ Linked store username id := by
      unfold Linked
      rw [hgrants]
    rw [hlinked, h.linked, hstored, granted_cons]
    simp

/-- A new role has no holders, not even when its identifier has been in use before. -/
theorem Agrees.role (h : Agrees notices store) (hsound : store.Sound) {role : Role}
    (hinserted : RoleInserted store role after) : Agrees (.created role.id :: notices) after := by
  have hnew : ¬ Stored store role.id := by
    rintro ⟨stored, hstored, hid⟩
    exact (hinserted.apart stored hstored).id hid
  have hstored : ∀ id, Stored after id ↔ Stored store id ∨ role.id = id := by
    intro id
    unfold Stored
    rw [hinserted.after]
    simp [or_and_right, exists_or]
  constructor
  · intro id hid
    rcases (hstored id).mp hid with hid | rfl
    · exact List.mem_cons_of_mem _ (h.created id hid)
    · exact List.mem_cons_self ..
  · intro username id
    have hlinked : Linked after username id ↔ Linked store username id := by
      unfold Linked
      rw [hinserted.after]
    rw [hlinked, hstored, granted_cons]
    by_cases hid : role.id = id
    · subst hid
      refine iff_of_false (fun hold => hnew (stored_of_linked hsound hold)) ?_
      simp
    · rw [h.linked]
      simp [hid]

/-- A role that is removed takes its grants along, whatever the history says of them. -/
theorem Agrees.removed (h : Agrees notices store) (removed : RoleId) :
    Agrees (.nothing :: notices) (withoutRole store removed) := by
  constructor
  · rintro id ⟨role, hrole, rfl⟩
    exact List.mem_cons_of_mem _ (h.created _ ⟨role, (List.mem_filter.mp hrole).1, rfl⟩)
  · intro username id
    rw [granted_cons]
    by_cases hid : id = removed
    · subst hid
      refine iff_of_false ?_ ?_
      · rintro ⟨grant, hgrant, -, rfl⟩
        simpa using (List.mem_filter.mp hgrant).2
      · rintro ⟨⟨role, hrole, rfl⟩, -⟩
        simpa using (List.mem_filter.mp hrole).2
    -- the grants and the role of another identifier are still there
    · have hstored : Stored (withoutRole store removed) id ↔ Stored store id := by
        constructor
        · rintro ⟨role, hrole, rfl⟩
          exact ⟨role, (List.mem_filter.mp hrole).1, rfl⟩
        · rintro ⟨role, hrole, rfl⟩
          exact ⟨role, List.mem_filter.mpr ⟨hrole, bne_iff_ne.mpr hid⟩, rfl⟩
      have hlinked : Linked (withoutRole store removed) username id ↔ Linked store username id := by
        constructor
        · rintro ⟨grant, hgrant, rfl, rfl⟩
          exact ⟨grant, (List.mem_filter.mp hgrant).1, rfl, rfl⟩
        · rintro ⟨grant, hgrant, rfl, rfl⟩
          exact ⟨grant, List.mem_filter.mpr ⟨hgrant, bne_iff_ne.mpr hid⟩, rfl, rfl⟩
      rw [hlinked, hstored, h.linked]
      simp

/-- The principal holds the role from now on. -/
theorem Agrees.assigned (h : Agrees notices store) {grant : Grant}
    (hinserted : GrantInserted store grant after) :
    Agrees (.assigned grant.username grant.roleId :: notices) after := by
  obtain ⟨role, hrole⟩ := hinserted.role
  have hgranted : Stored store grant.roleId := ⟨role, mem_of_role? hrole, id_of_role? hrole⟩
  have hstored : ∀ id, Stored after id ↔ Stored store id := by
    intro id
    unfold Stored
    rw [hinserted.after]
  constructor
  · intro id hid
    exact List.mem_cons_of_mem _ (h.created id ((hstored id).mp hid))
  · intro username id
    have hlinked : Linked after username id ↔
        Linked store username id ∨ grant.username = username ∧ grant.roleId = id := by
      unfold Linked
      rw [hinserted.after]
      simp [or_and_right, exists_or]
    rw [hlinked, hstored, granted_cons]
    by_cases hsame : grant.username = username ∧ grant.roleId = id
    · obtain ⟨rfl, rfl⟩ := hsame
      exact iff_of_true (.inr ⟨rfl, rfl⟩) ⟨hgranted, .inl ⟨rfl, h.created _ hgranted⟩⟩
    · rw [h.linked]
      simp [hsame]

/-- The principal does not hold the role any more. -/
theorem Agrees.revoked (h : Agrees notices store) (hsound : store.Sound) (username : String)
    (id : RoleId) :
    Agrees (.revoked username id :: notices)
      { store with grants := store.grants.eraseP (Store.links username id) } := by
  rw [eraseP_links hsound]
  constructor
  · exact fun id hid => List.mem_cons_of_mem _ (h.created id hid)
  · intro principal roleId
    have hlinked : Linked
        { store with grants := store.grants.filter fun g => !Store.links username id g }
        principal roleId ↔
          Linked store principal roleId ∧ ¬ (username = principal ∧ id = roleId) := by
      constructor
      · rintro ⟨grant, hgrant, rfl, rfl⟩
        obtain ⟨hmem, hnot⟩ := List.mem_filter.mp hgrant
        rw [Bool.not_eq_true', ← Bool.not_eq_true, Store.links_eq_true] at hnot
        exact ⟨⟨grant, hmem, rfl, rfl⟩, fun hsame => hnot ⟨hsame.1.symm, hsame.2.symm⟩⟩
      · rintro ⟨⟨grant, hmem, rfl, rfl⟩, hnot⟩
        refine ⟨grant, List.mem_filter.mpr ⟨hmem, ?_⟩, rfl, rfl⟩
        rw [Bool.not_eq_true', ← Bool.not_eq_true, Store.links_eq_true]
        exact fun hsame => hnot ⟨hsame.1.symm, hsame.2.symm⟩
    rw [hlinked, h.linked, granted_cons]
    by_cases hsame : username = principal ∧ id = roleId
    · simp [hsame]
    · simp [hsame, Stored]

/-- **Steps**: whatever a change writes, the tables agree with what it says. -/
theorem Agrees.write (h : Agrees notices store) (hsound : store.Sound) {notice : Notice}
    (hwrites : Writes store notice after) : Agrees (notice :: notices) after := by
  cases hwrites with
  | kept roles grants => exact h.kept roles grants
  | created inserted => exact h.role hsound inserted
  | removed id => exact h.removed id
  | assigned inserted => exact h.assigned inserted
  | revoked username id => exact h.revoked hsound username id

end Agreement

/-- **Runs**: the tables agree with the history. -/
theorem Run.agrees {events : List Event} (h : Run events store) :
    Agrees (events.map Event.notice) store := by
  induction h with
  | start => exact ⟨nofun, fun _ _ => iff_of_false nofun (by rintro ⟨⟨_, ⟨⟩, _⟩, _⟩)⟩
  | @step events store hrun change entropy ih =>
    rw [List.map_cons]
    rcases hr : change.perform.run entropy store with ⟨e | answer, rest, after⟩
    · rw [(change.perform_writes store).of_error hr]
      exact ih.kept rfl rfl
    · exact ih.write hrun.reachable.sound ((change.perform_writes store).of_ok hr)

end Identity.Authorization
