/-
Identity/Proofs/Authorization/Decision.lean

What the permission queries answer.

`Allowed store name required` says what a permission check is to decide, from
the tables alone: some grant names the principal in canonical spelling, its
role is stored and active, and one of the role's permissions covers the
required one.  The service decides it in another way: it joins the grants
with the roles, filters, flattens, drops repeats and then searches.

Main result: `queries_exact`, the answers of all five permission queries.
-/
import Identity.Proofs.Authorization.Reachable
import Identity.Proofs.Operation
import Identity.Proofs.Permission

namespace Identity.Authorization

/-- The principal may do what is required. -/
def Allowed (store : Store) (name required : String) : Prop :=
  ∃ grant ∈ store.grants, grant.username = Username.normalize name ∧
    ∃ role ∈ store.roles, role.id = grant.roleId ∧ role.status = .active ∧
      ∃ permission ∈ role.permissions, Permission.Covers permission required

instance (store : Store) (name required : String) : Decidable (Allowed store name required) :=
  inferInstanceAs (Decidable (∃ grant ∈ store.grants, grant.username = Username.normalize name ∧
    ∃ role ∈ store.roles, role.id = grant.roleId ∧ role.status = .active ∧
      ∃ permission ∈ role.permissions, Permission.Covers permission required))

variable {store : Store} {name required : String}

/-! ### The join of grants and roles -/

/-- The roles of a principal are the stored roles of its grants. -/
theorem mem_rolesOfUser (h : store.Sound) {username : String} {role : Role} :
    role ∈ store.rolesOfUser username ↔
      ∃ grant ∈ store.grants, grant.username = username ∧ role ∈ store.roles ∧
        role.id = grant.roleId := by
  unfold Store.rolesOfUser Store.grantsOfUser
  simp only [List.mem_filterMap, List.mem_filter, beq_iff_eq, h.role?_eq_some, and_assoc]

theorem mem_permissionsOf {roles : List Role} {permission : String} :
    permission ∈ permissionsOf roles ↔
      ∃ role ∈ roles, role.status = .active ∧ permission ∈ role.permissions := by
  unfold permissionsOf
  simp only [Permission.mem_dedup, List.mem_flatMap, List.mem_filter, Role.isActive, beq_iff_eq,
    and_assoc]

/-- The search through the permissions of a principal decides `Allowed`. -/
theorem anyCovers_permissionsOf (h : store.Sound) :
    Permission.anyCovers (permissionsOf (store.rolesOfUser (Username.normalize name))) required =
      decide (Allowed store name required) := by
  -- both sides say that something exists, with the conditions in another order
  rw [Bool.eq_iff_iff, Permission.anyCovers_eq_true, decide_eq_true_iff]
  simp only [mem_permissionsOf, mem_rolesOfUser h]
  constructor
  · rintro ⟨p, ⟨role, ⟨grant, hg, hname, hr, hid⟩, hactive, hp⟩, hcovers⟩
    exact ⟨grant, hg, hname, role, hr, hid, hactive, p, hp, hcovers⟩
  · rintro ⟨grant, hg, hname, role, hr, hid, hactive, p, hp, hcovers⟩
    exact ⟨p, ⟨role, ⟨grant, hg, hname, hr, hid⟩, hactive, hp⟩, hcovers⟩

/-! ### The queries -/

theorem run_permissions (entropy : Entropy) :
    (permissions name).run entropy store =
      (.ok (permissionsOf (store.rolesOfUser (Username.normalize name))), entropy, store) := rfl

theorem run_checkPermission (h : store.Sound) (entropy : Entropy) :
    (checkPermission name required).run entropy store =
      (.ok (decide (Allowed store name required)), entropy, store) := by
  rw [checkPermission, Operation.run_bind, run_permissions]
  exact congrArg (fun b => (Except.ok b, entropy, store)) (anyCovers_permissionsOf h)

theorem run_checkAny (h : store.Sound) (requirements : List String) (entropy : Entropy) :
    (checkAny name requirements).run entropy store =
      (.ok (decide (∃ r ∈ requirements, Allowed store name r)), entropy, store) := by
  have hany : Permission.coversAny (permissionsOf (store.rolesOfUser (Username.normalize name)))
      requirements = decide (∃ r ∈ requirements, Allowed store name r) := by
    rw [Bool.eq_iff_iff]
    simp [Permission.coversAny, anyCovers_permissionsOf h]
  rw [checkAny, Operation.run_bind, run_permissions]
  exact congrArg (fun b => (Except.ok b, entropy, store)) hany

theorem run_checkAll (h : store.Sound) (requirements : List String) (entropy : Entropy) :
    (checkAll name requirements).run entropy store =
      (.ok (decide (∀ r ∈ requirements, Allowed store name r)), entropy, store) := by
  have hall : Permission.coversAll (permissionsOf (store.rolesOfUser (Username.normalize name)))
      requirements = decide (∀ r ∈ requirements, Allowed store name r) := by
    rw [Bool.eq_iff_iff]
    simp [Permission.coversAll, anyCovers_permissionsOf h]
  rw [checkAll, Operation.run_bind, run_permissions]
  exact congrArg (fun b => (Except.ok b, entropy, store)) hall

theorem run_requirePermission (h : store.Sound) (entropy : Entropy) :
    (requirePermission name required).run entropy store =
      (if Allowed store name required then .ok ()
        else .error (.permissionDenied (missingText name required)), entropy, store) := by
  rw [requirePermission, Operation.run_bind, run_checkPermission h]
  by_cases hallowed : Allowed store name required
  · simp [hallowed]
  · simp [hallowed]

/-- In every store that the service leads to, all permission queries answer
what `Allowed` says and change nothing. -/
theorem queries_exact (h : Reachable store) (name required : String) (requirements : List String)
    (request : Check.Request) (entropy : Entropy) :
    (checkPermission name required).run entropy store =
        (.ok (decide (Allowed store name required)), entropy, store) ∧
      (checkAny name requirements).run entropy store =
        (.ok (decide (∃ r ∈ requirements, Allowed store name r)), entropy, store) ∧
      (checkAll name requirements).run entropy store =
        (.ok (decide (∀ r ∈ requirements, Allowed store name r)), entropy, store) ∧
      (requirePermission name required).run entropy store =
        (if Allowed store name required then .ok ()
          else .error (.permissionDenied (missingText name required)), entropy, store) ∧
      (evaluate request).run entropy store =
        (.ok (decide (Allowed store request.principal request.required)), entropy, store) :=
  ⟨run_checkPermission h.sound entropy, run_checkAny h.sound requirements entropy,
    run_checkAll h.sound requirements entropy, run_requirePermission h.sound entropy,
    run_checkPermission h.sound entropy⟩

/-- Alice edits users; she also audits everything, but that role is inactive. -/
def editorStore : Store :=
  changed .empty
    [(.createRole ⟨" Editor ", "", ["users:*", " users:* "]⟩ "root" .epoch, ⟨List.replicate 16 1⟩),
      (.createRole ⟨"auditor", "", ["*"]⟩ "root" .epoch, ⟨List.replicate 16 2⟩),
      (.assignRole " _Alice" ⟨Uuid.ofRandomBytes (List.replicate 16 2)⟩ "root" .epoch,
        ⟨List.replicate 16 3⟩),
      (.assignRole "alice" ⟨Uuid.ofRandomBytes (List.replicate 16 1)⟩ "root" .epoch,
        ⟨List.replicate 16 4⟩),
      (.deactivateRole ⟨Uuid.ofRandomBytes (List.replicate 16 2)⟩ "root" .epoch, ⟨[]⟩)]

theorem queries_exact_editor :
    Reachable editorStore ∧
      (checkPermission "ALICE." "users:read").run ⟨[]⟩ editorStore =
        (.ok true, ⟨[]⟩, editorStore) ∧
      (checkAny "ALICE." ["roles:read", "users:a:b"]).run ⟨[]⟩ editorStore =
        (.ok false, ⟨[]⟩, editorStore) ∧
      (evaluate ⟨"alice", "read", "users"⟩).run ⟨[]⟩ editorStore =
        (.ok true, ⟨[]⟩, editorStore) := by
  have hreach : Reachable editorStore := Reachable.empty.changed _
  obtain ⟨hcheck, hany, -, -, hevaluate⟩ := queries_exact hreach "ALICE." "users:read"
    ["roles:read", "users:a:b"] ⟨"alice", "read", "users"⟩ ⟨[]⟩
  have hread : Allowed editorStore "ALICE." "users:read" := by decide +kernel
  have hothers : ¬ ∃ r ∈ ["roles:read", "users:a:b"], Allowed editorStore "ALICE." r := by
    decide +kernel
  have hasked : Allowed editorStore "alice"
      (Check.Request.required ⟨"alice", "read", "users"⟩) := by
    decide +kernel
  rw [decide_eq_true hread] at hcheck
  rw [decide_eq_false hothers] at hany
  rw [decide_eq_true hasked] at hevaluate
  exact ⟨hreach, hcheck, hany, hevaluate⟩

end Identity.Authorization
