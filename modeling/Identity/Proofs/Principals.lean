/-
Identity/Proofs/Principals.lean

Names as the services keep them.

Users are stored by one service and grants by the other, and the two have nothing
in common but the name of a principal.  Both put it into canonical form and check
it before it is stored, and no later step writes any other name: so every
principal is one of the usernames there are, whatever has been asked of either
service, and two of them are never spellings of one name.

Main result: `names_exact`.
-/
import Identity.Proofs.Atomicity
import Identity.Proofs.Authorization.Decision
import Identity.Proofs.Identifier.Names

namespace Identity

open Operation

variable {service : Settings.Accepted} {store after : Store} {name : String}

/-! ### Principals of a store -/

/-- The name is that of a stored user, or one that a grant has been made for. -/
def Store.Principal (store : Store) (name : String) : Prop :=
  (∃ user ∈ store.users, user.username = name) ∨ ∃ grant ∈ store.grants, grant.username = name

/-- The names in both tables are as they are to be. -/
structure Store.WellNamed (store : Store) : Prop where
  users : ∀ user ∈ store.users, Authentication.Named user
  grants : ∀ grant ∈ store.grants, Username.WellFormed grant.username

theorem Store.WellNamed.wellFormed (h : store.WellNamed) (hname : store.Principal name) :
    Username.WellFormed name := by
  rcases hname with ⟨user, hu, rfl⟩ | ⟨grant, hg, rfl⟩
  · have hnamed := h.users user hu
    exact Username.wellFormed_iff.mpr ⟨hnamed.username, hnamed.validUsername⟩
  · exact h.grants grant hg

/-! ### Steps -/

namespace Authentication

/-- An account is written under names that are in order, and no grant is touched. -/
theorem Effect.wellNamed {s : Settings} {request : Request} {answer : request.Answer}
    (h : Effect s store request answer after) (hstore : store.WellNamed) : after.WellNamed := by
  have hwrite : ∀ {new : User} {after : Store}, Holds after new store → Named new →
      ∀ user ∈ after.users, Named user := by
    intro new after hholds hnew user hu
    rcases (hholds user).mp hu with rfl | ⟨hu, -⟩
    · exact hnew
    · exact hstore.users user hu
  cases h with
  | read _ _ => exact hstore
  | insert inserted fresh _ _ =>
    refine ⟨hwrite inserted.holds fresh.names, ?_⟩
    rw [inserted.after]
    exact hstore.grants
  | rewrite replaced rewrites _ =>
    have hold := hstore.users _ (mem_of_user? replaced.stored)
    refine ⟨hwrite replaced.holds (rewrites.names hold), ?_⟩
    rw [replaced.after]
    exact hstore.grants
  | update _ names replaced _ _ =>
    refine ⟨hwrite replaced.holds names, ?_⟩
    rw [replaced.after]
    exact hstore.grants

end Authentication

namespace Authorization

/-- A change leaves the users alone. -/
theorem Effect.users_eq (h : Effect store after) : after.users = store.users := by
  cases h with
  | unchanged => rfl
  | inserted _ _ inserted => rw [inserted.after]
  | replaced _ replaced => rw [replaced.after]
  | removed _ => rfl
  | granted inserted => rw [inserted.after]
  | revoked _ _ => rfl

theorem setRoleStatus_grants (id : RoleId) (status : RoleStatus) (actor : String)
    (now : Timestamp) :
    (setRoleStatus id status actor now).Yields store fun _ after =>
      after.grants = store.grants := by
  refine (setRoleStatus_yields id status actor now).mono ?_
  rintro _ after (⟨rfl, -⟩ | ⟨old, hreplaced, -⟩)
  · rfl
  · rw [hreplaced.after]

/-- A grant that is there after a change was there before, or is for a principal in canonical
form. -/
theorem Change.perform_grants (change : Change) (store : Store) :
    change.perform.Yields store fun _ after =>
      ∀ grant ∈ after.grants, grant ∈ store.grants ∨ Username.WellFormed grant.username := by
  cases change with
  | createRole draft actor now =>
    refine (createRole_yields draft actor now).mono ?_
    rintro _ after ⟨-, hinserted⟩ grant hg
    rw [hinserted.after] at hg
    exact .inl hg
  | updateRole role actor now =>
    refine (updateRole_yields role actor now).mono ?_
    rintro _ after ⟨-, -, _, hreplaced⟩ grant hg
    rw [hreplaced.after] at hg
    exact .inl hg
  | activateRole id actor now =>
    exact (setRoleStatus_grants id .active actor now).mono fun _ _ h _ hg => .inl (h ▸ hg)
  | deactivateRole id actor now =>
    exact (setRoleStatus_grants id .inactive actor now).mono fun _ _ h _ hg => .inl (h ▸ hg)
  | deleteRole id =>
    refine (deleteRole_yields id).mono ?_
    rintro _ after rfl grant hg
    exact .inl (List.mem_filter.mp hg).1
  | assignRole name roleId actor now =>
    refine (assignRole_yields name roleId actor now).mono ?_
    rintro granted after ⟨hprincipal, -, hinserted⟩ grant hg
    rw [hinserted.after] at hg
    rcases List.mem_append.mp hg with hg | hg
    · exact .inl hg
    · rw [List.mem_singleton.mp hg]
      obtain ⟨hvalid, husername⟩ := principal_eq_ok.mp hprincipal
      refine .inr (Username.wellFormed_iff.mpr ⟨?_, husername ▸ hvalid⟩)
      rw [husername, Username.normalize_normalize]
  | revokeRole name roleId =>
    refine (revokeRole_yields name roleId).mono ?_
    rintro _ after rfl grant hg
    exact .inl (List.mem_of_mem_eraseP hg)

end Authorization

/-- **One step**: an action keeps all names in order, whether it succeeds or fails. -/
theorem Action.wellNamed (action : Action) (now : Timestamp) (entropy : Entropy)
    (h : store.WellNamed) : ((action.perform service now).run entropy store).2.2.WellNamed := by
  cases action with
  | account request =>
    rcases Authentication.step_cases service now request entropy store with
      ⟨answer, -, heffect⟩ | ⟨_, -, hsame⟩
    · exact heffect.wellNamed h
    · exact hsame.symm ▸ h
  | access change =>
    rcases hr : change.perform.run entropy store with ⟨e | answer, rest, after⟩
    · have hsame := (change.perform_yields store).of_error hr
      show (change.perform.run entropy store).2.2.WellNamed
      rw [hr]
      exact hsame.symm ▸ h
    · have husers := ((change.perform_yields store).of_ok hr).users_eq
      have hgrants := (change.perform_grants store).of_ok hr
      show (change.perform.run entropy store).2.2.WellNamed
      rw [hr]
      refine ⟨fun user hu => h.users user (husers ▸ hu), fun grant hg => ?_⟩
      exact (hgrants grant hg).elim (h.grants grant) id

/-! ### Runs -/

/-- Some actions lead from the empty store to this one, each at a time and with random bytes of
its own.  Whatever records are handed in as updates, edited in whatever way. -/
inductive Action.Reachable (service : Settings.Accepted) : Store → Prop
  | empty : Reachable service .empty
  | act {store : Store} (h : Reachable service store) (action : Action) (now : Timestamp)
      (entropy : Entropy) : Reachable service ((action.perform service now).run entropy store).2.2

/-- **Runs**: all names are in order. -/
theorem Action.Reachable.wellNamed (h : Action.Reachable service store) : store.WellNamed := by
  induction h with
  | empty => exact ⟨nofun, nofun⟩
  | act _ action now entropy ih => exact action.wellNamed now entropy ih

/-- What one of the services leads to, both of them lead to. -/
theorem Authorization.Reachable.action (h : Authorization.Reachable store)
    (service : Settings.Accepted) : Action.Reachable service store := by
  induction h with
  | empty => exact .empty
  | change _ change entropy ih => exact ih.act (.access change) .epoch entropy

/-! ### All names -/

/-- The names that are canonical and accepted are those of a plain grammar, and no two principals
that the services keep are spellings of one name. -/
structure NamesExact (service : Settings.Accepted) : Prop where
  usernames : ∀ s, Username.validate (Username.normalize s) = .ok () ↔
    Username.WellFormed (Username.normalize s)
  usernamesFixed : ∀ name, Username.WellFormed name →
    Username.normalize name = name ∧ Username.validate name = .ok ()
  roleNames : ∀ s, RoleName.validate (RoleName.normalize s) = .ok () ↔
    RoleName.WellFormed (RoleName.normalize s)
  roleNamesFixed : ∀ name, RoleName.WellFormed name →
    RoleName.normalize name = name ∧ RoleName.validate name = .ok ()
  principals : ∀ store store', Action.Reachable service store → Action.Reachable service store' →
    ∀ p q, store.Principal p → store'.Principal q → Username.Alike p q → p = q

/-- **Names are exact**: what normalization and validation leave of all texts are the usernames of
3 to 32 small ASCII letters, digits and inner separators, and the role names of 2 to 64 small
letters, digits, underscores and hyphens.  So two principals of stores that the services lead to,
at one time or another, that differ at all differ in more than the case of letters and what
stands around the name. -/
theorem names_exact (service : Settings.Accepted) : NamesExact service where
  usernames s := by
    rw [Username.wellFormed_iff, and_iff_right (Username.normalize_normalize s)]
  usernamesFixed _ h := Username.wellFormed_iff.mp h
  roleNames s := by
    rw [RoleName.wellFormed_iff, and_iff_right (RoleName.normalize_normalize s)]
  roleNamesFixed _ h := RoleName.wellFormed_iff.mp h
  principals _ _ hreach hreach' _ _ hp hq halike :=
    (hreach.wellNamed.wellFormed hp).eq_of_alike (hreach'.wellNamed.wellFormed hq) halike

/-- Alice holds two roles, one under another spelling: she is one principal, and whoever is alike
is Alice. -/
theorem names_exact_editor :
    Username.WellFormed (Username.normalize "\u2003_Al.Ice-") ∧
      Username.Alike " _Alice" "ALICE." ∧
      Action.Reachable Authentication.plainService Authorization.editorStore ∧
      Authorization.editorStore.Principal "alice" ∧
      ∀ q, Authorization.editorStore.Principal q → Username.Alike "alice" q → "alice" = q := by
  have hexact := names_exact Authentication.plainService
  have hreach : Action.Reachable Authentication.plainService Authorization.editorStore :=
    (Authorization.Reachable.empty.changed _).action _
  have hprincipal : Authorization.editorStore.Principal "alice" := by
    unfold Store.Principal
    decide +kernel
  refine ⟨(hexact.usernames _).mp (by decide +kernel), ?_, hreach, hprincipal, fun q => ?_⟩
  · have hbefore : ∀ c ∈ [' ', '_'], Username.isStripped c = true :=
      List.forall_iff_forall_mem.mp (by decide +kernel)
    have hafter : ∀ c ∈ ['.'], Username.isStripped c = true :=
      List.forall_iff_forall_mem.mp (by decide +kernel)
    exact ⟨"Alice".toList, "ALICE".toList, ⟨[' ', '_'], [], by decide, hbefore, nofun⟩,
      ⟨[], ['.'], by decide, nofun, hafter⟩, by decide +kernel⟩
  · exact hexact.principals _ _ hreach hreach "alice" q hprincipal

end Identity
