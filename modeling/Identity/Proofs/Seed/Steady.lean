/-
Identity/Proofs/Seed/Steady.lean

Entries that are present already.

Making sure of an entry that is present changes nothing.  The attempt to add it
is refused by the store, and what it has met is then found; but it is made with
an identifier that is drawn beforehand, so it `Costs` random bytes, and fails if
there are none.
-/
import Identity.Proofs.Authorization.Assignments
import Identity.Proofs.Seed.Entries

namespace Identity

namespace Seed

open Operation Authentication Authorization

variable {service : Settings.Accepted} {store : Store} {draft : RoleDraft} {r : Registration}
variable {planned : PlannedGrant} {known : List (String × RoleId)}

/-! ### Roles -/

/-- A role that is present is refused, and then found. -/
theorem ensureRole_costs (hsound : store.Sound) (h : RolePresent store draft) (actor : String)
    (now : Timestamp) :
    ∃ role ∈ store.roles, role.name = RoleName.normalize draft.name ∧
      (ensureRole draft actor now).Costs store 16 (.ok (role, false)) := by
  obtain ⟨role, hrole, hname⟩ := h.stored
  have hrefused : ∀ fresh, store.respond (.createRole (draft.record fresh actor now)) =
      (.error .roleAlreadyExists, store) := by
    intro fresh
    have hsame : (role.name == (draft.record fresh actor now).name) = true := beq_iff_eq.mpr hname
    rw [Store.respond, Store.createRole,
      if_pos (List.any_eq_true.mpr ⟨role, hrole, Bool.or_eq_true_iff.mpr (.inr hsame)⟩),
      Store.changed]
  have hcreate : (createRole draft actor now).Costs store 16 (.error .roleAlreadyExists) := by
    refine .freshUuid_bind fun fresh => ?_
    refine .free_bind (fun _ => run_ofOutcome_of (h.valid fresh actor now)) ?_
    exact .free fun _ => run_call_of (hrefused fresh)
  refine ⟨role, hrole, hname, .attempt_bind hcreate ?_ rfl⟩
  exact .free_bind (fun _ => run_getRoleByName hsound hrole hname) (.free fun _ => rfl)

/-! ### Users -/

/-- A user whose address is stored is refused on account of it, and then found by it. -/
theorem run_ensureUser_of_email (hsound : store.Sound) (hvalid : r.normalized.validate = .ok ())
    {user : User} (hu : user ∈ store.users)
    (hlookup : user.email.lookup = lookup service.settings (Email.normalize r.email))
    (now : Timestamp) (entropy : Entropy) :
    (ensureUser service r now).run entropy store = (.ok false, entropy, store) := by
  have hsearch := respond_findUserByEmail hsound hu hlookup
  have hsignUp : (signUp service r now).run entropy store =
      (.error .userAlreadyExists, entropy, store) := by
    refine (run_bind_of_ok (run_ofOutcome_of hvalid)).trans ?_
    exact run_bind_of_error (run_ensureAbsent_of_found hsearch)
  refine (run_attempt_bind hsignUp).trans ?_
  exact run_bind_of_ok (run_bind_of_ok (run_call_of hsearch))

/-- A user whose username alone is stored is refused on account of it, and then found by it. -/
theorem run_ensureUser_of_username (hsound : store.Sound)
    (hvalid : r.normalized.validate = .ok ()) {user : User} (hu : user ∈ store.users)
    (husername : user.username = Username.normalize r.username)
    (habsent : ∀ user ∈ store.users,
      user.email.lookup ≠ lookup service.settings (Email.normalize r.email))
    (now : Timestamp) (entropy : Entropy) :
    (ensureUser service r now).run entropy store = (.ok false, entropy, store) := by
  have hsearch := respond_findUserByUsername hsound hu husername
  have hmissing : store.respond
      (.findUserByEmail (lookup service.settings (Email.normalize r.email))) =
        (.error .userNotFound, store) :=
    respond_findUserByEmail_of_absent habsent
  have hsignUp : (signUp service r now).run entropy store =
      (.error .usernameExists, entropy, store) := by
    refine (run_bind_of_ok (run_ofOutcome_of hvalid)).trans ?_
    refine (run_bind_of_ok (run_ensureAbsent_of_absent hmissing)).trans ?_
    exact run_bind_of_error (run_ensureAbsent_of_found hsearch)
  refine (run_attempt_bind hsignUp).trans ?_
  exact run_bind_of_ok (run_bind_of_ok (run_call_of hsearch))

/-- A user who is present is refused and found before anything is drawn. -/
theorem ensureUser_costs (hsound : store.Sound) (h : UserPresent service.settings store r)
    (now : Timestamp) : (ensureUser service r now).Costs store 0 (.ok false) := by
  refine .free fun entropy => ?_
  by_cases hemail : ∃ user ∈ store.users,
      user.email.lookup = lookup service.settings (Email.normalize r.email)
  · obtain ⟨user, hu, hlookup⟩ := hemail
    exact run_ensureUser_of_email hsound h.valid hu hlookup now entropy
  · obtain ⟨user, hu, hsame⟩ := h.stored
    have habsent : ∀ user ∈ store.users,
        user.email.lookup ≠ lookup service.settings (Email.normalize r.email) :=
      fun user hu hlookup => hemail ⟨user, hu, hlookup⟩
    exact run_ensureUser_of_username hsound h.valid hu (hsame.resolve_left (habsent user hu))
      habsent now entropy

/-! ### Grants -/

/-- A grant that is present is refused. -/
theorem ensureGrant_costs (hsound : store.Sound) (hknown : Known store known)
    (h : GrantPresent store planned) (actor : String) (now : Timestamp) :
    (ensureGrant known planned actor now).Costs store 16 (.ok false) := by
  obtain ⟨role, hrole, hname, grant, hgrant, husername, hid⟩ := h.held
  have hprincipal : principal planned.username = .ok (Username.normalize planned.username) :=
    principal_eq_ok.mpr ⟨h.valid, rfl⟩
  have hassign : (assignRole planned.username role.id actor now).Costs store 16
      (.error .grantAlreadyExists) :=
    assignRole_costs_of_held hsound hprincipal hrole ⟨grant, hgrant, husername, hid⟩ actor now
  refine .free_bind (fun _ => run_referredRole hsound hknown hrole hname) ?_
  exact .attempt_bind hassign (.free fun _ => rfl) rfl

end Seed

end Identity
