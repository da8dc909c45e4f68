/-
Identity/Proofs/Authorization/Assignments.lean

Assigning a role and taking it away again.

A principal is named in any spelling, and the service, the grant that it makes
and the queries each put the name into canonical form.  All of that agrees, since
a canonical name stays as it is; so nothing depends on the spelling, which for
queries is read off their answers (`Query.run_ask`).

A new grant stands behind all others and is apart from them.  So when the role is
taken away again the first grant that is found is the new one, and what remains
is the store as it was, grant by grant.

Main result: `assignment_exact`, for every store that the service leads to.
-/
import Identity.Proofs.Authorization.Holders
import Identity.Proofs.Cost

namespace Identity.Authorization

open Operation

variable {store after : Store} {name username : String} {id : RoleId}

/-! ### Questions about a principal -/

/-- What the service can be asked about a principal. -/
inductive Query where
  | grants
  | roles
  | permissions
  | check (required : String)
  | checkAny (required : List String)
  | checkAll (required : List String)
  | require (required : String)
  | hasRole (roleName : String)
  | evaluate (permission resource : String)

namespace Query

/-- What a question is answered with. -/
abbrev Answer : Query → Type
  | grants => List Grant
  | roles => List Role
  | permissions => List String
  | check _ | checkAny _ | checkAll _ | hasRole _ | evaluate .. => Bool
  | require _ => Unit

/-- Asks about the principal of this name. -/
def ask (name : String) : (query : Query) → Operation query.Answer
  | grants => grantsOfUser name
  | roles => rolesOfUser name
  | permissions => Authorization.permissions name
  | check required => checkPermission name required
  | checkAny required => Authorization.checkAny name required
  | checkAll required => Authorization.checkAll name required
  | require required => requirePermission name required
  | hasRole roleName => Authorization.hasRole name roleName
  | evaluate permission resource => Authorization.evaluate ⟨name, permission, resource⟩

/-- What is answered about a principal who has these grants and roles. -/
def outcome (username : String) (held : List Grant) (given : List Role) :
    (query : Query) → Outcome query.Answer
  | grants => .ok held
  | roles => .ok given
  | permissions => .ok (permissionsOf given)
  | check required => .ok (Permission.anyCovers (permissionsOf given) required)
  | checkAny required => .ok (Permission.coversAny (permissionsOf given) required)
  | checkAll required => .ok (Permission.coversAll (permissionsOf given) required)
  | require required =>
    if Permission.anyCovers (permissionsOf given) required then .ok ()
    else .error (.permissionDenied (missingText username required))
  | hasRole roleName => .ok (given.any (·.name == RoleName.normalize roleName))
  | evaluate permission resource =>
    .ok (Permission.anyCovers (permissionsOf given)
      (Check.Request.required ⟨username, permission, resource⟩))

/-- An answer is made from what the tables hold of the canonical name. -/
theorem run_ask (query : Query) (name : String) (entropy : Entropy) (store : Store) :
    (query.ask name).run entropy store =
      (query.outcome (Username.normalize name) (store.grantsOfUser (Username.normalize name))
        (store.rolesOfUser (Username.normalize name)), entropy, store) := by
  cases query with
  | require required =>
    show (requirePermission name required).run entropy store = _
    rw [requirePermission, run_bind, checkPermission, run_bind, run_permissions, outcome,
      missingText, missingText, Username.normalize_normalize]
    simp only [run_pure]
    cases Permission.anyCovers
      (permissionsOf (store.rolesOfUser (Username.normalize name))) required <;> rfl
  | _ => rfl

end Query

/-! ### Assigning a role -/

section Assigning

variable {role : Role} {grant : Grant} {entropy : Entropy}

theorem respond_createGrant_of_free (hrole : ∃ role, store.role? grant.roleId = some role)
    (hfree : ¬ Linked store grant.username grant.roleId) :
    store.respond (.createGrant grant) =
      (.ok grant, { store with grants := store.grants ++ [grant] }) := by
  have hcreated : store.createGrant grant =
      .ok (grant, { store with grants := store.grants ++ [grant] }) :=
    Store.createGrant_eq_ok.mpr
      ⟨hrole, fun stored hstored hsame => hfree ⟨stored, hstored, hsame⟩, rfl, rfl⟩
  rw [Store.respond, hcreated, Store.changed]

theorem respond_createGrant_of_linked (hrole : ∃ role, store.role? grant.roleId = some role)
    (hheld : Linked store grant.username grant.roleId) :
    store.respond (.createGrant grant) = (.error .grantAlreadyExists, store) := by
  have hrefused : store.createGrant grant = .error .grantAlreadyExists :=
    Store.createGrant_eq_grantAlreadyExists.mpr ⟨hrole, hheld⟩
  rw [Store.respond, hrefused, Store.changed]

/-- The grant that is made for a principal names him as he was found. -/
theorem username_assigned (hprincipal : principal name = .ok username) (fresh : Uuid)
    (id : RoleId) (actor : String) (now : Timestamp) :
    (Grant.assigned ⟨fresh⟩ username id actor now).username = username := by
  obtain ⟨-, rfl⟩ := principal_eq_ok.mp hprincipal
  exact Username.normalize_normalize name

/-- Assigning a role hands a fresh grant to the store. -/
theorem run_assignRole (h : store.Sound) (hprincipal : principal name = .ok username)
    (hrole : role ∈ store.roles) (htape : 16 ≤ entropy.tape.length) (actor : String)
    (now : Timestamp) :
    (assignRole name role.id actor now).run entropy store =
      (call (.createGrant (.assigned ⟨Uuid.ofRandomBytes (entropy.tape.take 16)⟩ username role.id
        actor now))).run ⟨entropy.tape.drop 16⟩ store := by
  unfold assignRole
  rw [run_bind_of_ok (run_ofOutcome_of hprincipal),
    run_bind_of_ok (run_call_of (respond_getRole h hrole)),
    run_bind_of_ok (Authentication.run_freshUuid htape store)]

/-- A role that the principal does not hold can be assigned. -/
theorem run_assignRole_of_free (h : store.Sound) (hprincipal : principal name = .ok username)
    (hrole : role ∈ store.roles) (hfree : ¬ Linked store username role.id)
    (htape : 16 ≤ entropy.tape.length) (actor : String) (now : Timestamp) :
    ∃ grant rest after,
      (assignRole name role.id actor now).run entropy store = (.ok grant, rest, after) := by
  have hstored : store.role? role.id = some role := h.role?_eq_some.mpr ⟨hrole, rfl⟩
  rw [run_assignRole h hprincipal hrole htape]
  refine ⟨_, _, _, run_call_of (respond_createGrant_of_free ⟨role, hstored⟩ ?_)⟩
  rw [username_assigned hprincipal]
  exact hfree

/-- A role that the principal holds already is refused, after an identifier has been drawn. -/
theorem assignRole_costs_of_held (h : store.Sound) (hprincipal : principal name = .ok username)
    (hrole : role ∈ store.roles) (hheld : Linked store username role.id) (actor : String)
    (now : Timestamp) :
    (assignRole name role.id actor now).Costs store 16 (.error .grantAlreadyExists) := by
  have hstored : store.role? role.id = some role := h.role?_eq_some.mpr ⟨hrole, rfl⟩
  refine .free_bind (fun _ => run_ofOutcome_of hprincipal) ?_
  refine .free_bind (fun _ => run_call_of (respond_getRole h hrole)) ?_
  refine .freshUuid_bind fun fresh => ?_
  refine .free fun _ => run_call_of (respond_createGrant_of_linked ⟨role, hstored⟩ ?_)
  rw [username_assigned hprincipal]
  exact hheld

end Assigning

/-! ### Taking a role away -/

theorem run_revokeRole (hprincipal : principal name = .ok username) (id : RoleId)
    (entropy : Entropy) (store : Store) :
    (revokeRole name id).run entropy store =
      (call (.deleteGrant username id)).run entropy store := by
  unfold revokeRole
  rw [run_bind_of_ok (run_ofOutcome_of hprincipal)]

/-- A role that the principal does not hold cannot be taken away. -/
theorem run_revokeRole_of_free (hprincipal : principal name = .ok username)
    (hfree : ¬ Linked store username id) (entropy : Entropy) :
    (revokeRole name id).run entropy store = (.error .grantNotFound, entropy, store) := by
  have hmissing : store.deleteGrant username id = .error .grantNotFound :=
    Store.deleteGrant_eq_grantNotFound.mpr hfree
  rw [run_revokeRole hprincipal]
  refine run_call_of ?_
  rw [Store.respond, hmissing, Store.changed]

section Inserted

variable {grant : Grant}

/-- The new grant is the first one that links its principal to its role. -/
theorem GrantInserted.not_linked (h : GrantInserted store grant after) :
    ¬ Linked store grant.username grant.roleId := by
  rintro ⟨stored, hstored, hsame⟩
  exact h.apart stored hstored hsame

/-- Taking away what has just been assigned leaves the store as it was. -/
theorem GrantInserted.run_revokeRole (h : GrantInserted store grant after)
    (hprincipal : principal name = .ok grant.username) (entropy : Entropy) :
    (revokeRole name grant.roleId).run entropy after = (.ok (), entropy, store) := by
  have herased : (store.grants ++ [grant]).eraseP (Store.links grant.username grant.roleId) =
      store.grants := by
    have hothers : ∀ stored ∈ store.grants,
        ¬ Store.links grant.username grant.roleId stored = true :=
      fun stored hstored hlinks => h.apart stored hstored (Store.links_eq_true.mp hlinks)
    rw [List.eraseP_append_right _ hothers,
      List.eraseP_cons_of_pos (Store.links_eq_true.mpr ⟨rfl, rfl⟩), List.append_nil]
  have hdeleted : after.deleteGrant grant.username grant.roleId = .ok ((), store) := by
    rw [Store.deleteGrant_eq_ok, h.after, herased]
    exact ⟨⟨grant, by simp, rfl, rfl⟩, rfl⟩
  rw [Authorization.run_revokeRole hprincipal]
  refine run_call_of ?_
  rw [Store.respond, hdeleted, Store.changed]

/-- Nobody else is asked about with another answer than before. -/
theorem GrantInserted.run_ask_of_ne (h : GrantInserted store grant after) {other : String}
    (hother : Username.normalize other ≠ grant.username) (query : Query) (entropy : Entropy) :
    ((query.ask other).run entropy after).1 = ((query.ask other).run entropy store).1 := by
  have hgrants : after.grantsOfUser (Username.normalize other) =
      store.grantsOfUser (Username.normalize other) := by
    rw [h.after, Store.grantsOfUser, List.filter_append,
      List.filter_cons_of_neg (by simpa using hother.symm), List.filter_nil, List.append_nil]
    rfl
  have hroles : after.rolesOfUser (Username.normalize other) =
      store.rolesOfUser (Username.normalize other) := by
    unfold Store.rolesOfUser
    rw [hgrants, h.after]
    rfl
  rw [query.run_ask, query.run_ask, hgrants, hroles]

end Inserted

/-! ### All stores -/

/-- What holds after a role has been assigned to a principal, who has another name as well. -/
structure Assigned (store : Store) (name spelling : String) (id : RoleId) (after : Store) :
    Prop where
  again : ∀ actor now,
    (assignRole spelling id actor now).Costs after 16 (.error .grantAlreadyExists)
  undone : ∀ entropy, (revokeRole spelling id).run entropy after = (.ok (), entropy, store)
  undoneOnce : ∀ entropy,
    (revokeRole spelling id).run entropy store = (.error .grantNotFound, entropy, store)
  others : ∀ other, Username.normalize other ≠ Username.normalize name →
    ∀ (query : Query) entropy,
      ((query.ask other).run entropy after).1 = ((query.ask other).run entropy store).1

/-- What can be relied on about a role and a principal of two names. -/
structure AssignmentExact (store : Store) (name spelling : String) (id : RoleId) : Prop where
  assignable : Username.validate (Username.normalize name) = .ok () → Stored store id →
    ¬ Linked store (Username.normalize name) id →
      ∀ actor now entropy, 16 ≤ entropy.tape.length →
        ∃ grant rest after,
          (assignRole name id actor now).run entropy store = (.ok grant, rest, after)
  assigned : ∀ {actor now entropy grant rest after},
    (assignRole name id actor now).run entropy store = (.ok grant, rest, after) →
      Assigned store name spelling id after
  spelled : ∀ (query : Query) entropy,
    (query.ask name).run entropy store = (query.ask spelling).run entropy store

/-- **Assigning and taking away undo each other**, in whichever spelling the principal is named.
Once a role has been assigned it cannot be assigned again, and taking it away leaves the store
exactly as it was, so that it cannot be taken away twice; meanwhile nothing is answered differently
about anyone else.  And a question is answered alike for all spellings of a principal. -/
theorem assignment_exact (h : Reachable store) {name spelling : String}
    (hspelling : Username.normalize name = Username.normalize spelling) (id : RoleId) :
    AssignmentExact store name spelling id where
  assignable hvalid hstored hfree actor now entropy htape := by
    obtain ⟨role, hrole, rfl⟩ := hstored
    exact run_assignRole_of_free h.sound (principal_eq_ok.mpr ⟨hvalid, rfl⟩) hrole hfree htape
      actor now
  assigned := by
    intro actor now entropy grant rest after hrun
    obtain ⟨hprincipal, rfl, hinserted⟩ := (assignRole_yields name id actor now).of_ok hrun
    -- both spellings name the principal of the grant
    have hsecond : principal spelling = .ok grant.username := by
      rw [principal, ← hspelling]
      exact hprincipal
    obtain ⟨-, husername⟩ := principal_eq_ok.mp hprincipal
    obtain ⟨role, hrole⟩ := hinserted.role
    have hmem : role ∈ after.roles := by
      rw [hinserted.after]
      exact mem_of_role? hrole
    have hlinked : Linked after grant.username role.id := by
      rw [hinserted.after]
      exact ⟨grant, by simp, rfl, (id_of_role? hrole).symm⟩
    have hsound : after.Sound := by
      have hafter := h.change (.assignRole name grant.roleId actor now) entropy
      simp only [Change.perform, hrun] at hafter
      exact hafter.sound
    exact {
      again := fun actor now =>
        id_of_role? hrole ▸ assignRole_costs_of_held hsound hsecond hmem hlinked actor now
      undone := hinserted.run_revokeRole hsecond
      undoneOnce := run_revokeRole_of_free hsecond hinserted.not_linked
      others := fun other hother =>
        hinserted.run_ask_of_ne (fun hsame => hother (hsame.trans husername)) }
  spelled query entropy := by
    rw [query.run_ask, query.run_ask, hspelling]

/-- Bob is made an auditor and is no auditor again; Alice does not notice. -/
theorem assignment_exact_bob : ∃ grant rest after,
    (assignRole "Bob" (roleId 2) "root" .epoch).run ⟨List.replicate 16 9⟩ editorStore =
        (.ok grant, rest, after) ∧
      (assignRole " BOB." (roleId 2) "root" .epoch).run ⟨List.replicate 16 8⟩ after =
        (.error .grantAlreadyExists, ⟨[]⟩, after) ∧
      (revokeRole " BOB." (roleId 2)).run ⟨[]⟩ after = (.ok (), ⟨[]⟩, editorStore) ∧
      ((hasRole "alice" "auditor").run ⟨[]⟩ after).1 =
        ((hasRole "alice" "auditor").run ⟨[]⟩ editorStore).1 := by
  have hreach : Reachable editorStore := Reachable.empty.changed _
  have hspelling : Username.normalize "Bob" = Username.normalize " BOB." := by decide +kernel
  have hexact := assignment_exact hreach hspelling (roleId 2)
  obtain ⟨grant, rest, after, hrun⟩ := hexact.assignable (by decide +kernel)
    (by unfold Stored; decide +kernel) (by unfold Linked; decide +kernel) "root" .epoch
    ⟨List.replicate 16 9⟩ (by decide)
  have hassigned := hexact.assigned hrun
  exact ⟨grant, rest, after, hrun,
    (hassigned.again "root" .epoch).enough ⟨List.replicate 16 8⟩ (by decide),
    hassigned.undone ⟨[]⟩, hassigned.others "alice" (by decide +kernel) (.hasRole "auditor") ⟨[]⟩⟩

end Identity.Authorization
