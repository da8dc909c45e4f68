/-
Identity/Proofs/Store/Order.lean

The order in which tables are gone through, which nobody can tell.

A table of users or roles has no order of its own: it may be gone through in any
one, and in another one the next time.  Two stores that differ in nothing else
(`Rearranged`) give the same answer to every call, and what they hold
afterwards differs in nothing else either:

    s ≈ t   →   (s.respond call).1 = (t.respond call).1   and
                (s.respond call).2 ≈ (t.respond call).2

All this needs that records are apart.  A search then finds the only record that it
can find, and a list is sorted by a key that no two records share, so that there
is one way to list a table (`Lists.unique`).

Main result: `order_immaterial`.
-/
import Identity.Proofs.Store.Invariant
import Mathlib.Data.List.Find
import Mathlib.Data.String.Basic

namespace Identity.Store

/-! ### Tables in another order -/

section Tables

variable {α : Type} {table other list list' : List α} {key : α → String}

/-- Two keys that differ are not both the one that is searched for. -/
theorem not_both_beq {κ : Type} [BEq κ] [LawfulBEq κ] {k x y : κ} (h : x ≠ y) :
    ¬ ((x == k) = true ∧ (y == k) = true) :=
  fun hboth => h ((beq_iff_eq.mp hboth.1).trans (beq_iff_eq.mp hboth.2).symm)

/-- What at most one record can be searched for by is found in every order. -/
theorem find?_eq_of_perm {wanted : α → Bool} (h : table.Perm other)
    (hunique : table.Pairwise fun a b => ¬ (wanted a = true ∧ wanted b = true)) :
    table.find? wanted = other.find? wanted := by
  refine List.find?_eq_find?_of_perm h ?_
  rintro a ⟨ha, hwanted⟩ b ⟨hb, hwanted'⟩
  by_contra hne
  have : Std.Symm fun a b => ¬ (wanted a = true ∧ wanted b = true) :=
    ⟨fun _ _ hnot hboth => hnot hboth.symm⟩
  exact hunique.forall ha hb hne ⟨hwanted, hwanted'⟩

/-- The records of a table, each once, in strictly increasing order of a key. -/
structure Lists (table : List α) (key : α → String) (list : List α) : Prop where
  perm : list.Perm table
  increasing : list.Pairwise fun a b => key a < key b

/-- A table can be listed in one way only, whatever its own order. -/
theorem Lists.unique (h : Lists table key list) (h' : Lists other key list')
    (hperm : table.Perm other) : list = list' := by
  refine List.Perm.eq_of_pairwise ?_ h.increasing h'.increasing
    (h.perm.trans (hperm.trans h'.perm.symm))
  exact fun a b _ _ hab hba => absurd hba (lt_asymm hab)

/-- Leaving out records leaves a list of the others. -/
theorem Lists.filter (h : Lists table key list) (wanted : α → Bool) :
    Lists (table.filter wanted) key (list.filter wanted) :=
  ⟨h.perm.filter wanted, h.increasing.filter wanted⟩

/-- Sorting lists a table whose records have different keys. -/
theorem lists_mergeSort (h : table.Pairwise fun a b => key a ≠ key b) :
    Lists table key (table.mergeSort fun a b => decide (key a ≤ key b)) := by
  have hperm := List.mergeSort_perm table fun a b => decide (key a ≤ key b)
  have hsorted : (table.mergeSort fun a b => decide (key a ≤ key b)).Pairwise
      fun a b => decide (key a ≤ key b) = true := by
    refine List.pairwise_mergeSort (fun a b c hab hbc => ?_) (fun a b => ?_) table
    · exact decide_eq_true (le_trans (of_decide_eq_true hab) (of_decide_eq_true hbc))
    · simpa using le_total (key a) (key b)
  have hdistinct := (hperm.pairwise_iff fun hne => hne.symm).mpr h
  refine ⟨hperm, hsorted.imp₂ ?_ hdistinct⟩
  exact fun a b hle hne => lt_of_le_of_ne (of_decide_eq_true hle) hne

end Tables

variable {s t store after : Store}

theorem Sound.lists_users (h : Sound store) (wanted : User → Bool) :
    Lists (store.users.filter wanted) User.username (store.listUsers wanted) :=
  lists_mergeSort ((h.users.imp UsersApart.username).filter wanted)

theorem Sound.lists_roles (h : Sound store) (wanted : Role → Bool) :
    Lists (store.roles.filter wanted) Role.name (store.listRoles wanted) :=
  lists_mergeSort ((h.roles.imp RolesApart.name).filter wanted)

/-! ### Stores that differ in the order alone -/

/-- The stores hold the same, with the users and the roles in any order. -/
structure Rearranged (s t : Store) : Prop where
  users : s.users.Perm t.users
  roles : s.roles.Perm t.roles
  grants : s.grants = t.grants

namespace Rearranged

theorem trans {u : Store} (h : Rearranged s t) (h' : Rearranged t u) : Rearranged s u :=
  ⟨h.users.trans h'.users, h.roles.trans h'.roles, h.grants.trans h'.grants⟩

theorem sound (h : Rearranged s t) (hs : s.Sound) : t.Sound where
  users := (h.users.pairwise_iff fun hapart => symm_of UsersApart hapart).mp hs.users
  roles := (h.roles.pairwise_iff fun hapart => symm_of RolesApart hapart).mp hs.roles
  grants := h.grants ▸ hs.grants
  granted := by
    intro grant hg
    obtain ⟨role, hrole, hid⟩ := hs.granted grant (h.grants ▸ hg)
    exact ⟨role, h.roles.mem_iff.mp hrole, hid⟩

section Answers

variable (h : Rearranged s t) (hs : s.Sound)
include h

theorem grantsOfUser_eq (username : String) : s.grantsOfUser username = t.grantsOfUser username :=
  congrArg (List.filter _) h.grants

theorem grantsOfRole_eq (roleId : RoleId) : s.grantsOfRole roleId = t.grantsOfRole roleId :=
  congrArg (List.filter _) h.grants

theorem otherUser_eq (candidate : User) (clashes : User → Bool) :
    s.otherUser candidate clashes = t.otherUser candidate clashes :=
  h.users.any_eq

theorem ensureUnique_eq (candidate : User) :
    s.ensureUnique candidate = t.ensureUnique candidate := by
  unfold ensureUnique
  simp only [h.otherUser_eq]

include hs

theorem find?_users {wanted : User → Bool}
    (hunique : ∀ {u v}, UsersApart u v → ¬ (wanted u = true ∧ wanted v = true)) :
    s.users.find? wanted = t.users.find? wanted :=
  find?_eq_of_perm h.users (hs.users.imp hunique)

theorem find?_roles {wanted : Role → Bool}
    (hunique : ∀ {a b}, RolesApart a b → ¬ (wanted a = true ∧ wanted b = true)) :
    s.roles.find? wanted = t.roles.find? wanted :=
  find?_eq_of_perm h.roles (hs.roles.imp hunique)

theorem user?_eq (id : UserId) : s.user? id = t.user? id :=
  h.find?_users hs fun hapart => not_both_beq hapart.id

theorem role?_eq (id : RoleId) : s.role? id = t.role? id :=
  h.find?_roles hs fun hapart => not_both_beq hapart.id

theorem rolesOfUser_eq (username : String) : s.rolesOfUser username = t.rolesOfUser username := by
  unfold rolesOfUser
  simp only [h.grantsOfUser_eq, h.role?_eq hs]

theorem listUsers_eq (wanted : User → Bool) : s.listUsers wanted = t.listUsers wanted :=
  (hs.lists_users wanted).unique ((h.sound hs).lists_users wanted) (h.users.filter wanted)

theorem listRoles_eq (wanted : Role → Bool) : s.listRoles wanted = t.listRoles wanted :=
  (hs.lists_roles wanted).unique ((h.sound hs).lists_roles wanted) (h.roles.filter wanted)

end Answers

end Rearranged

/-! ### Calls -/

/-- Two changes that come to the same: both fail in the same way, or both succeed with stores
that differ in the order alone. -/
inductive Agree {α : Type} : Outcome (α × Store) → Outcome (α × Store) → Prop
  | ok {a : α} {s t : Store} (h : Rearranged s t) : Agree (.ok (a, s)) (.ok (a, t))
  | error (e : Error) : Agree (.error e) (.error e)

theorem Agree.bind {α β : Type} {x : Outcome β} {f g : β → Outcome (α × Store)}
    (h : ∀ b, Agree (f b) (g b)) : Agree (x >>= f) (x >>= g) := by
  cases x with
  | error e => exact .error e
  | ok b => exact h b

/-- The stores answer a call alike. -/
structure Alike {α : Type} (x y : Outcome α × Store) : Prop where
  reply : x.1 = y.1
  after : Rearranged x.2 y.2

theorem Agree.changed {α : Type} {x y : Outcome (α × Store)} (hxy : Agree x y)
    (h : Rearranged s t) : Alike (s.changed x) (t.changed y) := by
  cases hxy with
  | ok hafter => exact ⟨rfl, hafter⟩
  | error e => exact ⟨rfl, h⟩

section Changes

variable (h : Rearranged s t)
include h

theorem createUser_agree (hs : s.Sound) (user : User) :
    Agree (s.createUser user) (t.createUser user) := by
  unfold createUser
  rw [h.user?_eq hs, h.ensureUnique_eq]
  split_ifs
  · exact .error _
  · exact .bind fun _ => .ok { h with users := h.users.append_right [user] }

theorem updateUser_agree (hs : s.Sound) (user : User) :
    Agree (s.updateUser user) (t.updateUser user) := by
  unfold updateUser
  rw [h.user?_eq hs, h.ensureUnique_eq]
  split_ifs
  · exact .error _
  · exact .bind fun _ => .ok { h with users := h.users.map _ }

theorem deleteUser_agree (hs : s.Sound) (id : UserId) (actor : String) (now : Timestamp) :
    Agree (s.deleteUser id actor now) (t.deleteUser id actor now) := by
  unfold deleteUser
  rw [h.user?_eq hs]
  exact .bind fun _ => .ok { h with users := h.users.map _ }

theorem createRole_agree (role : Role) : Agree (s.createRole role) (t.createRole role) := by
  unfold createRole
  rw [h.roles.any_eq]
  split_ifs
  · exact .error _
  · exact .ok { h with roles := h.roles.append_right [role] }

theorem updateRole_agree (hs : s.Sound) (role : Role) :
    Agree (s.updateRole role) (t.updateRole role) := by
  unfold updateRole
  rw [h.role?_eq hs, h.roles.any_eq]
  split_ifs
  · exact .error _
  · exact .error _
  · exact .ok { h with roles := h.roles.map _ }

theorem deleteRole_agree (hs : s.Sound) (id : RoleId) :
    Agree (s.deleteRole id) (t.deleteRole id) := by
  unfold deleteRole
  rw [h.role?_eq hs, h.grants]
  split_ifs
  · exact .error _
  · exact .ok ⟨h.users, h.roles.filter _, rfl⟩

theorem createGrant_agree (hs : s.Sound) (grant : Grant) :
    Agree (s.createGrant grant) (t.createGrant grant) := by
  unfold createGrant
  rw [h.role?_eq hs, h.grants]
  split_ifs
  · exact .error _
  · exact .error _
  · exact .ok ⟨h.users, h.roles, rfl⟩

theorem deleteGrant_agree (username : String) (roleId : RoleId) :
    Agree (s.deleteGrant username roleId) (t.deleteGrant username roleId) := by
  unfold deleteGrant
  rw [h.grants]
  split_ifs
  · exact .ok ⟨h.users, h.roles, rfl⟩
  · exact .error _

end Changes

/-- **One call**: the stores answer alike. -/
theorem Rearranged.respond (h : Rearranged s t) (hs : s.Sound) (call : Call) :
    Alike (s.respond call) (t.respond call) := by
  cases call with
  -- changes
  | createUser user => exact (createUser_agree h hs user).changed h
  | updateUser user => exact (updateUser_agree h hs user).changed h
  | deleteUser id actor now => exact (deleteUser_agree h hs id actor now).changed h
  | createRole role => exact (createRole_agree h role).changed h
  | updateRole role => exact (updateRole_agree h hs role).changed h
  | deleteRole id => exact (deleteRole_agree h hs id).changed h
  | createGrant grant => exact (createGrant_agree h hs grant).changed h
  | deleteGrant username roleId => exact (deleteGrant_agree h username roleId).changed h
  -- searches
  | getUser id => exact ⟨congrArg (found _) (h.user?_eq hs id), h⟩
  | findUserByEmail lookup =>
    exact ⟨congrArg (found _) (h.find?_users hs fun hapart => not_both_beq hapart.email), h⟩
  | findUserByUsername username =>
    exact ⟨congrArg (found _) (h.find?_users hs fun hapart => not_both_beq hapart.username), h⟩
  | findUserByPin lookup =>
    refine ⟨congrArg (found _) (h.find?_users hs fun hapart hboth => ?_), h⟩
    obtain ⟨p, hp, hpl⟩ := (Option.any_eq_true _ _).mp hboth.1
    obtain ⟨q, hq, hql⟩ := (Option.any_eq_true _ _).mp hboth.2
    exact not_both_beq (hapart.pin p hp q hq) ⟨hpl, hql⟩
  | getRole id => exact ⟨congrArg (found _) (h.role?_eq hs id), h⟩
  | findRoleByName name =>
    exact ⟨congrArg (found _) (h.find?_roles hs fun hapart => not_both_beq hapart.name), h⟩
  -- lists
  | listUsers => exact ⟨congrArg Except.ok (h.listUsers_eq hs _), h⟩
  | listUsersByStatus status => exact ⟨congrArg Except.ok (h.listUsers_eq hs _), h⟩
  | listRoles => exact ⟨congrArg Except.ok (h.listRoles_eq hs _), h⟩
  | listRolesByStatus status => exact ⟨congrArg Except.ok (h.listRoles_eq hs _), h⟩
  | grantsOfUser username => exact ⟨congrArg Except.ok (h.grantsOfUser_eq username), h⟩
  | grantsOfRole roleId => exact ⟨congrArg Except.ok (h.grantsOfRole_eq roleId), h⟩
  | rolesOfUser username => exact ⟨congrArg Except.ok (h.rolesOfUser_eq hs username), h⟩
  | hasRole username roleName =>
    have hroles := congrArg (List.any · (·.name == roleName)) (h.rolesOfUser_eq hs username)
    exact ⟨congrArg Except.ok hroles, h⟩

/-! ### Runs -/

/-- A program runs to a result on a store whose tables are put into another order before each
call, in any way. -/
inductive Shuffled {α : Type} : Program α → Store → α → Store → Prop
  | done (a : α) (store : Store) : Shuffled (.done a) store a store
  | call {c : Call} {next : Outcome c.Reply → Program α} {a : α} {s t after : Store}
      (h : Rearranged s t)
      (rest : Shuffled (next (t.respond c).1) (t.respond c).2 a after) :
      Shuffled (.call c next) s a after

/-- **Runs**: a program comes to the same result as in a store whose tables stay as they are. -/
theorem Shuffled.run {α : Type} {p : Program α} {a : α} (h : Shuffled p t a after)
    (hst : Rearranged s t) (hs : s.Sound) : a = (p.run s).1 ∧ Rearranged (p.run s).2 after := by
  induction h generalizing s with
  | done a store => exact ⟨rfl, hst⟩
  | @call c next a t t' _ hreorder _ ih =>
    have hst' : Rearranged s t' := hst.trans hreorder
    have halike := hst'.respond hs c
    rw [← halike.reply] at ih
    exact ih halike.after (hs.respond c)

/-- The stores that occur: one that was empty has answered calls, and its tables may have been
put into another order at any time. -/
inductive Occurs : Store → Prop
  | empty : Occurs empty
  | call {store : Store} (h : Occurs store) (c : Call) : Occurs (store.respond c).2
  | rearranged {s t : Store} (h : Occurs s) (hst : Rearranged s t) : Occurs t

theorem Occurs.sound (h : Occurs store) : store.Sound := by
  induction h with
  | empty => exact sound_empty
  | call _ c ih => exact ih.respond c
  | rearranged _ hst ih => exact hst.sound ih

/-! ### Answers in every order -/

/-- The lists that a store answers: all its users and all its roles, each once and in strictly
increasing order of their names, and the parts of these lists that have a status. -/
structure Listed (store : Store) (users : List User) (roles : List Role) : Prop where
  userTable : Lists store.users User.username users
  roleTable : Lists store.roles Role.name roles
  allUsers : store.respond .listUsers = (.ok users, store)
  allRoles : store.respond .listRoles = (.ok roles, store)
  usersByStatus : ∀ status, store.respond (.listUsersByStatus status) =
    (.ok (users.filter (·.status == status)), store)
  rolesByStatus : ∀ status, store.respond (.listRolesByStatus status) =
    (.ok (roles.filter (·.status == status)), store)

theorem Sound.listed (h : Sound store) :
    Listed store (store.listUsers fun _ => true) (store.listRoles fun _ => true) := by
  have husers := h.lists_users fun _ => true
  have hroles := h.lists_roles fun _ => true
  rw [List.filter_true] at husers hroles
  exact {
    userTable := husers
    roleTable := hroles
    allUsers := rfl
    allRoles := rfl
    usersByStatus := fun status => congrArg (fun list => (Except.ok list, store))
      ((h.lists_users _).unique (husers.filter _) (.refl _))
    rolesByStatus := fun status => congrArg (fun list => (Except.ok list, store))
      ((h.lists_roles _).unique (hroles.filter _) (.refl _)) }

/-- What a store answers does not change with the order of its tables, nor does what a program
comes to, even when the order changes from call to call. -/
structure Immaterial (store shuffled : Store) : Prop where
  alike : ∀ call, Alike (store.respond call) (shuffled.respond call)
  listed : ∃ users roles, Listed store users roles ∧ Listed shuffled users roles
  runs : ∀ {α : Type} (p : Program α) (a : α) (after : Store), Shuffled p shuffled a after →
    a = (p.run store).1 ∧ Rearranged (p.run store).2 after

/-- **The order of tables is immaterial**: whatever calls a store has answered and in whatever
order its tables are gone through, every call has the same answer, and users and roles are listed
each once, in the order of their names. -/
theorem order_immaterial {shuffled : Store} (hoccurs : Occurs store)
    (h : Rearranged store shuffled) : Immaterial store shuffled := by
  have hs := hoccurs.sound
  constructor
  -- `alike`
  · exact fun call => h.respond hs call
  -- `listed`
  · have hlisted := (h.sound hs).listed
    rw [← h.listUsers_eq hs, ← h.listRoles_eq hs] at hlisted
    exact ⟨_, _, hs.listed, hlisted⟩
  -- `runs`
  · exact fun p a after hrun => hrun.run h hs

/-- A user with a name and an address that goes by one byte. -/
def someone (byte : UInt8) (username : String) : User :=
  { User.draft username username ⟨[], [], [], [byte]⟩ ⟨[], []⟩ with
    id := ⟨Uuid.ofRandomBytes (List.replicate 16 byte)⟩ }

/-- Two users who are kept in one order or the other are listed in the order of their names. -/
theorem order_immaterial_two :
    let stored : Store := ⟨[someone 1 "zoe", someone 2 "ann"], [], []⟩
    let shuffled : Store := ⟨[someone 2 "ann", someone 1 "zoe"], [], []⟩
    Immaterial stored shuffled ∧
      (shuffled.respond .listUsers).1 = .ok [someone 2 "ann", someone 1 "zoe"] := by
  intro stored shuffled
  have hoccurs : Occurs stored :=
    (Occurs.empty.call (.createUser (someone 1 "zoe"))).call (.createUser (someone 2 "ann"))
  have hshuffled : Rearranged stored shuffled := ⟨.swap .., .nil, rfl⟩
  have h := order_immaterial hoccurs hshuffled
  refine ⟨h, ?_⟩
  obtain ⟨users, roles, hstored, hlisted⟩ := h.listed
  have hlists : Lists stored.users User.username [someone 2 "ann", someone 1 "zoe"] :=
    ⟨.swap .., List.pairwise_pair.mpr (by decide)⟩
  rw [hlisted.allUsers, hstored.userTable.unique hlists (.refl _)]

end Identity.Store
