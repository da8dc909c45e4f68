/-
Identity/Proofs/Authorization/Holders.lean

A role that is removed leaves no authority behind.

Grants are of identifiers, but a principal is asked about by the name of a role,
and a name can be given again, to another role.  Whoever holds the named role in
the tables holds it by the history of the run (`Run.agrees`), and a role that is
made anew has no history.

Main result: `authority_exact`, for all runs of the service.
-/
import Identity.Proofs.Authorization.Decision
import Identity.Proofs.Authorization.History
import Mathlib.Data.List.Find

namespace Identity.Authorization

open Operation

variable {store after : Store} {events : List Event}

/-! ### Removing a role -/

/-- All other roles are still found. -/
theorem role?_withoutRole {id other : RoleId} (h : other ≠ id) :
    (withoutRole store id).role? other = store.role? other := by
  unfold withoutRole Store.role?
  rw [List.find?_filter]
  refine List.find?_congr fun role _ => ?_
  by_cases hother : role.id = other
  · simp [hother, h]
  · simp [hother]

/-- A principal keeps its other roles, in their order. -/
theorem rolesOfUser_withoutRole (store : Store) (id : RoleId) (username : String) :
    (withoutRole store id).rolesOfUser username =
      (store.rolesOfUser username).filter (·.id != id) := by
  have hgrants : (withoutRole store id).grantsOfUser username =
      (store.grantsOfUser username).filter (·.roleId != id) := by
    unfold Store.grantsOfUser withoutRole
    rw [List.filter_filter, List.filter_filter]
    exact List.filter_congr fun grant _ => Bool.and_comm _ _
  unfold Store.rolesOfUser
  rw [hgrants, List.filterMap_filter, List.filter_filterMap]
  refine List.filterMap_congr fun grant _ => ?_
  by_cases hid : grant.roleId = id
  -- what is found under the identifier is the role itself, so it is filtered out
  · rw [if_neg (by simp [hid]), eq_comm, Option.filter_eq_none_iff]
    intro role hrole
    simp [id_of_role? hrole, hid]
  · rw [if_pos (by simpa using hid), role?_withoutRole hid]
    cases hrole : store.role? grant.roleId with
    | none => rfl
    | some role => simp [Option.filter, id_of_role? hrole, hid]

/-- What is left of the authority in a store without a role: nothing refers to the role, all other
records are as they were, and principals have the permissions that their other active roles give,
each of them once, in the order of these roles. -/
structure Removed (store : Store) (id : RoleId) (after : Store) : Prop where
  unreferenced : ∀ grant ∈ after.grants, grant.roleId ≠ id
  users : after.users = store.users
  roles : after.roles = store.roles.filter (·.id ≠ id)
  grants : after.grants = store.grants.filter (·.roleId ≠ id)
  effective : ∀ name entropy, ∃ given, (permissions name).run entropy after =
      (.ok given, entropy, after) ∧
    Permission.FirstOccurrences
      (((store.rolesOfUser (Username.normalize name)).filter fun role =>
        role.status = .active ∧ role.id ≠ id).flatMap Role.permissions) given

theorem removed_withoutRole (store : Store) (id : RoleId) :
    Removed store id (withoutRole store id) where
  unreferenced grant hgrant := by simpa using (List.mem_filter.mp hgrant).2
  users := rfl
  roles := List.filter_congr fun role _ => by simp [bne, Bool.beq_eq_decide_eq]
  grants := List.filter_congr fun grant _ => by simp [bne, Bool.beq_eq_decide_eq]
  effective name entropy := by
    refine ⟨_, run_permissions entropy, ?_⟩
    rw [rolesOfUser_withoutRole, permissionsOf, List.filter_filter]
    have hremaining : ∀ role : Role, (role.isActive && role.id != id) =
        decide (role.status = .active ∧ role.id ≠ id) := by
      intro role
      simp [Role.isActive, Bool.beq_eq_decide_eq, bne]
    simp only [hremaining]
    exact Permission.firstOccurrences_dedup _

/-- Removing a stored role succeeds. -/
theorem run_deleteRole (h : store.Sound) {role : Role} (hrole : role ∈ store.roles)
    (entropy : Entropy) :
    (deleteRole role.id).run entropy store = (.ok (), entropy, withoutRole store role.id) := by
  have hdeleted : store.deleteRole role.id = .ok ((), withoutRole store role.id) :=
    Store.deleteRole_eq_ok.mpr ⟨⟨role, h.role?_eq_some.mpr ⟨hrole, rfl⟩⟩, rfl⟩
  refine run_call_of ?_
  rw [Store.respond, hdeleted]
  rfl

/-! ### Holding a role by its name -/

/-- The principal holds a role of the name, by what has happened. -/
def Holds (events : List Event) (store : Store) (name roleName : String) : Prop :=
  ∃ role ∈ store.roles, role.name = RoleName.normalize roleName ∧
    Granted (events.map Event.notice) (Username.normalize name) role.id

/-- The search through the roles of a principal decides `Holds`. -/
theorem any_rolesOfUser (h : Run events store) (name roleName : String) :
    (store.rolesOfUser (Username.normalize name)).any (·.name == RoleName.normalize roleName) =
      true ↔ Holds events store name roleName := by
  have hsound : store.Sound := h.reachable.sound
  rw [List.any_eq_true]
  simp only [mem_rolesOfUser hsound, beq_iff_eq]
  constructor
  · rintro ⟨role, ⟨grant, hgrant, husername, hrole, hid⟩, hname⟩
    have hlinked : Linked store (Username.normalize name) role.id :=
      ⟨grant, hgrant, husername, hid.symm⟩
    exact ⟨role, hrole, hname, ((h.agrees.linked _ _).mp hlinked).2⟩
  · rintro ⟨role, hrole, hname, hgranted⟩
    obtain ⟨grant, hgrant, husername, hid⟩ :=
      (h.agrees.linked _ _).mpr ⟨⟨role, hrole, rfl⟩, hgranted⟩
    exact ⟨role, ⟨grant, hgrant, husername, hrole, hid.symm⟩, hname⟩

theorem run_hasRole (name roleName : String) (entropy : Entropy) (store : Store) :
    (hasRole name roleName).run entropy store =
      (.ok ((store.rolesOfUser (Username.normalize name)).any
        (·.name == RoleName.normalize roleName)), entropy, store) := rfl

/-- A role that has just been made is held by nobody. -/
theorem run_hasRole_created (h : Run events store) {draft : RoleDraft} {actor : String}
    {now : Timestamp} {entropy rest : Entropy} {role : Role}
    (hcreated : (createRole draft actor now).run entropy store = (.ok role, rest, after))
    {roleName : String} (hname : RoleName.normalize roleName = role.name) (name : String)
    (asked : Entropy) :
    (hasRole name roleName).run asked after = (.ok false, asked, after) := by
  have hrun := h.step (.createRole draft actor now) entropy
  simp only [Change.perform, hcreated] at hrun
  have hrole : role ∈ after.roles := by
    rw [((createRole_yields draft actor now).of_ok hcreated).2.after]
    simp
  rw [run_hasRole]
  refine congrArg (fun b => (Except.ok b, asked, after)) (Bool.eq_false_iff.mpr ?_)
  rw [Ne, any_rolesOfUser hrun]
  -- the name is that of the new role, about which nothing has been said since it was made
  rintro ⟨other, hother, hothername, hgranted⟩
  obtain rfl : role = other :=
    hrun.reachable.sound.eq_of_roleName hrole hother (hname.symm.trans hothername.symm)
  rcases granted_cons.mp hgranted with ⟨⟨⟩, -⟩ | ⟨⟨-, -, hnew⟩, -⟩
  exact hnew rfl

/-! ### All runs -/

/-- What can be relied on about the authority that roles give. -/
structure AuthorityExact (events : List Event) (store : Store) : Prop where
  removed : ∀ role ∈ store.roles, ∀ entropy, ∃ after,
    (deleteRole role.id).run entropy store = (.ok (), entropy, after) ∧
      Removed store role.id after
  held : ∀ name roleName entropy, ∃ answer,
    (hasRole name roleName).run entropy store = (.ok answer, entropy, store) ∧
      (answer = true ↔ Holds events store name roleName)
  unheld : ∀ {draft actor now entropy role rest after},
    (createRole draft actor now).run entropy store = (.ok role, rest, after) →
      ∀ roleName, RoleName.normalize roleName = role.name → ∀ name entropy,
        (hasRole name roleName).run entropy after = (.ok false, entropy, after)

/-- **Removed for good.**  At every point of a run, removing a stored role succeeds and takes all
its authority away and nothing else.  A principal holds a role by a name exactly when the role that
has the name then was assigned to it last, and assigned since the role was made; so nobody holds a
role that has just been made, whoever held a role of the same name before. -/
theorem authority_exact (h : Run events store) : AuthorityExact events store where
  removed role hrole entropy :=
    ⟨_, run_deleteRole h.reachable.sound hrole entropy, removed_withoutRole store role.id⟩
  held name roleName entropy :=
    ⟨_, run_hasRole name roleName entropy store, any_rolesOfUser h name roleName⟩
  unheld hcreated _ hname name entropy := run_hasRole_created h hcreated hname name entropy

/-- The identifier that is made of one byte. -/
def roleId (byte : UInt8) : RoleId := ⟨Uuid.ofRandomBytes (List.replicate 16 byte)⟩

/-- The editor role is removed, made anew and renamed, and then made a third time.  Alice has been
assigned the first and the second one. -/
def renamedStore : Store :=
  changed .empty
    [(.createRole ⟨"Editor", "", ["users:*"]⟩ "root" .epoch, ⟨List.replicate 16 1⟩),
      (.assignRole "alice" (roleId 1) "root" .epoch, ⟨List.replicate 16 2⟩),
      (.deleteRole (roleId 1), ⟨[]⟩),
      (.createRole ⟨"editor", "", ["users:*"]⟩ "root" .epoch, ⟨List.replicate 16 3⟩),
      (.assignRole " Alice" (roleId 3) "root" .epoch, ⟨List.replicate 16 4⟩),
      (.updateRole { Role.draft "Author" "" ["texts:*"] with id := roleId 3 } "root" .epoch, ⟨[]⟩),
      (.createRole ⟨"editor", "", ["users:*"]⟩ "root" .epoch, ⟨List.replicate 16 5⟩)]

/-- She is an author, and no editor any more. -/
theorem authority_exact_renamed : ∃ events, Run events renamedStore ∧
    Holds events renamedStore "ALICE" " author" ∧ ¬ Holds events renamedStore "alice" "editor" := by
  have hreach : Reachable renamedStore := Reachable.empty.changed _
  obtain ⟨events, hrun⟩ := hreach.exists_run
  have hexact := authority_exact hrun
  obtain ⟨answer, hanswer, hauthor⟩ := hexact.held "ALICE" " author" ⟨[]⟩
  obtain ⟨answer', hanswer', heditor⟩ := hexact.held "alice" "editor" ⟨[]⟩
  have hyes : ((hasRole "ALICE" " author").run ⟨[]⟩ renamedStore).1 = .ok true := by
    decide +kernel
  have hno : ((hasRole "alice" "editor").run ⟨[]⟩ renamedStore).1 = .ok false := by
    decide +kernel
  rw [hanswer] at hyes
  rw [hanswer'] at hno
  obtain rfl := Except.ok.inj hyes
  obtain rfl := Except.ok.inj hno
  exact ⟨events, hrun, hauthor.mp rfl, fun h => Bool.false_ne_true (heditor.mpr h)⟩

end Identity.Authorization
