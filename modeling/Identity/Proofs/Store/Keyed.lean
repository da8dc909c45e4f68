/-
Identity/Proofs/Store/Keyed.lean

Every record stands under its own identifier.

`KeyedStore` keeps users and roles under keys, and only says where a record is put.
What is put is put under the identifier of the record, and a user that is marked as
deleted keeps the identifier under which it was found; so all keys are own ones
(`OwnKeys`) in every store that has answered calls since it was empty.  As long as
they are, a key finds what a search for the identifier finds, and so the store does
the same as the tables without their keys:

    keyed.respond call   =   keyed.tables.respond call      (without the keys)

Main result: `answered_keyed`.
-/
import Identity.Proofs.Store.Invariant
import Identity.Store.Keyed
import Mathlib.Data.List.Find

namespace Identity

/-! ### One table -/

namespace Table

variable {κ α : Type} {key : α → κ} {table : Table κ α} {k : κ} {x : α}

/-- Every record stands under its own key. -/
def OwnKeys (key : α → κ) (table : Table κ α) : Prop :=
  ∀ entry ∈ table.entries, entry.1 = key entry.2

theorem ownKeys_empty : OwnKeys key empty := fun _ h => nomatch h

/-- Keys that are own ones are distinct when the records have distinct ones. -/
theorem OwnKeys.nodup (h : table.OwnKeys key)
    (hrecords : table.records.Pairwise fun x y => key x ≠ key y) :
    (table.entries.map Prod.fst).Nodup := by
  have hkeys : table.entries.map Prod.fst = table.records.map key := by
    rw [records, List.map_map]
    exact List.map_congr_left h
  rw [hkeys, List.nodup_iff_pairwise_ne, List.pairwise_map]
  exact hrecords

variable [DecidableEq κ]

/-- A key finds what a search through the records finds. -/
theorem OwnKeys.get?_eq (h : table.OwnKeys key) (k : κ) :
    table.get? k = table.records.find? fun y => key y == k := by
  rw [get?, records, List.find?_map]
  refine congrArg (Option.map Prod.snd) (List.find?_congr fun entry hentry => ?_)
  rw [Function.comp_apply, h entry hentry]

/-- A record is put under its own key. -/
theorem OwnKeys.put (h : table.OwnKeys key) (hx : k = key x) : (table.put k x).OwnKeys key := by
  intro entry hentry
  unfold Table.put at hentry
  split_ifs at hentry
  · obtain ⟨old, hold, rfl⟩ := List.mem_map.mp hentry
    split_ifs
    · exact hx
    · exact h old hold
  · rcases List.mem_append.mp hentry with hold | hnew
    · exact h entry hold
    · rw [List.mem_singleton.mp hnew]
      exact hx

/-- A record under a new key is added to the others. -/
theorem records_put_of_none (h : table.get? k = none) :
    (table.put k x).records = table.records ++ [x] := by
  have hnone : ¬ (table.get? k).isSome = true := by rw [h]; exact Bool.false_ne_true
  rw [put, if_neg hnone, records, List.map_append]
  rfl

/-- A record under a key that is there takes the place of the one with this key. -/
theorem OwnKeys.records_put (h : table.OwnKeys key) (hx : k = key x)
    (hsome : (table.get? k).isSome = true) :
    (table.put k x).records = table.records.map fun y => if key y = key x then x else y := by
  rw [Table.put, if_pos hsome, records, records, List.map_map, List.map_map]
  refine List.map_congr_left fun entry hentry => ?_
  rw [Function.comp_apply, Function.comp_apply, h entry hentry, hx]
  split_ifs <;> rfl

theorem OwnKeys.remove (h : table.OwnKeys key) : (table.remove k).OwnKeys key :=
  fun entry hentry => h entry (List.mem_filter.mp hentry).1

theorem OwnKeys.records_remove (h : table.OwnKeys key) :
    (table.remove k).records = table.records.filter (key · != k) := by
  rw [Table.remove, records, records, List.filter_map]
  refine congrArg (List.map Prod.snd) (List.filter_congr fun entry hentry => ?_)
  rw [h entry hentry]
  rfl

end Table

namespace KeyedStore

variable {store : KeyedStore}

/-- All records of a store stand under their own identifiers. -/
structure OwnKeys (store : KeyedStore) : Prop where
  users : store.users.OwnKeys User.id
  roles : store.roles.OwnKeys Role.id

theorem ownKeys_empty : OwnKeys empty := ⟨Table.ownKeys_empty, Table.ownKeys_empty⟩

theorem OwnKeys.get?_users (h : OwnKeys store) (id : UserId) :
    store.users.get? id = store.tables.user? id := h.users.get?_eq id

theorem OwnKeys.get?_roles (h : OwnKeys store) (id : RoleId) :
    store.roles.get? id = store.tables.role? id := h.roles.get?_eq id

/-! ### What a user or a role leaves when it is put into a store -/

theorem OwnKeys.putUser (h : OwnKeys store) (user : User) :
    OwnKeys { store with users := store.users.put user.id user } :=
  { h with users := h.users.put rfl }

theorem OwnKeys.putRole (h : OwnKeys store) (role : Role) :
    OwnKeys { store with roles := store.roles.put role.id role } :=
  { h with roles := h.roles.put rfl }

theorem OwnKeys.tables_addUser (h : OwnKeys store) (user : User)
    (hnew : store.tables.user? user.id = none) :
    tables { store with users := store.users.put user.id user } =
      { store.tables with users := store.tables.users ++ [user] } := by
  rw [← h.get?_users] at hnew
  simp only [tables, Table.records_put_of_none hnew]

theorem OwnKeys.tables_replaceUser (h : OwnKeys store) (user : User)
    (hold : (store.tables.user? user.id).isSome = true) :
    tables { store with users := store.users.put user.id user } =
      { store.tables with users := Store.replaceUser store.tables.users user } := by
  rw [← h.get?_users] at hold
  simp only [tables, h.users.records_put rfl hold, Store.replaceUser]

theorem OwnKeys.tables_addRole (h : OwnKeys store) (role : Role)
    (hnew : store.tables.role? role.id = none) :
    tables { store with roles := store.roles.put role.id role } =
      { store.tables with roles := store.tables.roles ++ [role] } := by
  rw [← h.get?_roles] at hnew
  simp only [tables, Table.records_put_of_none hnew]

theorem OwnKeys.tables_replaceRole (h : OwnKeys store) (role : Role)
    (hold : (store.tables.role? role.id).isSome = true) :
    tables { store with roles := store.roles.put role.id role } =
      { store.tables with roles := Store.replaceRole store.tables.roles role } := by
  rw [← h.get?_roles] at hold
  simp only [tables, h.roles.records_put rfl hold, Store.replaceRole]

/-! ### Changes -/

/-- A change of a store and one of its tables come out alike, and keys stay own ones. -/
inductive Agree {α : Type} : Outcome (α × KeyedStore) → Outcome (α × Store) → Prop
  | ok {a : α} {after : KeyedStore} {tables : Store} (own : OwnKeys after)
      (same : after.tables = tables) : Agree (.ok (a, after)) (.ok (a, tables))
  | error (e : Error) : Agree (.error e) (.error e)

theorem Agree.ite {α : Type} {c : Prop} [Decidable c] {x x' : Outcome (α × KeyedStore)}
    {y y' : Outcome (α × Store)} (hpos : c → Agree x y) (hneg : ¬c → Agree x' y') :
    Agree (if c then x else x') (if c then y else y') := by
  by_cases h : c
  · rw [if_pos h, if_pos h]
    exact hpos h
  · rw [if_neg h, if_neg h]
    exact hneg h

theorem createUser_agree (h : OwnKeys store) (user : User) :
    Agree (store.createUser user) (store.tables.createUser user) := by
  unfold createUser Store.createUser
  rw [h.get?_users]
  cases hid : store.tables.user? user.id with
  | some stored => exact .error _
  | none =>
    cases store.tables.ensureUnique user with
    | error e => exact .error e
    | ok _ => exact .ok (h.putUser user) (h.tables_addUser user hid)

theorem updateUser_agree (h : OwnKeys store) (user : User) :
    Agree (store.updateUser user) (store.tables.updateUser user) := by
  unfold updateUser Store.updateUser
  rw [h.get?_users]
  cases hid : store.tables.user? user.id with
  | none => exact .error _
  | some stored =>
    cases store.tables.ensureUnique user with
    | error e => exact .error e
    | ok _ => exact .ok (h.putUser user) (h.tables_replaceUser user (Option.isSome_of_eq_some hid))

/-- The user that is marked stands under its own identifier, so it goes back there. -/
theorem deleteUser_agree (h : OwnKeys store) (id : UserId) (actor : String) (now : Timestamp) :
    Agree (store.deleteUser id actor now) (store.tables.deleteUser id actor now) := by
  unfold deleteUser Store.deleteUser
  rw [h.get?_users]
  cases hid : store.tables.user? id with
  | none => exact .error _
  | some user =>
    obtain rfl : user.id = id := by simpa using List.find?_some hid
    exact .ok (h.putUser (Store.markDeleted user actor now))
      (h.tables_replaceUser (Store.markDeleted user actor now) (Option.isSome_of_eq_some hid))

theorem createRole_agree (h : OwnKeys store) (role : Role) :
    Agree (store.createRole role) (store.tables.createRole role) := by
  refine .ite (fun _ => .error _) fun hfree => .ok (h.putRole role) (h.tables_addRole role ?_)
  -- no record has the identifier, so nothing stands under it
  refine List.find?_eq_none.mpr fun stored hstored hid => hfree ?_
  exact List.any_eq_true.mpr ⟨stored, hstored, by rw [hid, Bool.true_or]⟩

theorem updateRole_agree (h : OwnKeys store) (role : Role) :
    Agree (store.updateRole role) (store.tables.updateRole role) := by
  unfold updateRole
  rw [h.get?_roles]
  refine .ite (fun _ => .error _) fun hid => .ite (fun _ => .error _) fun _ => ?_
  have hold : (store.tables.role? role.id).isSome = true := by
    simpa [Option.isSome_iff_ne_none] using hid
  exact .ok (h.putRole role) (h.tables_replaceRole role hold)

theorem deleteRole_agree (h : OwnKeys store) (id : RoleId) :
    Agree (store.deleteRole id) (store.tables.deleteRole id) := by
  unfold deleteRole
  rw [h.get?_roles]
  refine .ite (fun _ => .error _) fun _ => .ok { h with roles := h.roles.remove } ?_
  simp only [tables, h.roles.records_remove]

theorem createGrant_agree (h : OwnKeys store) (grant : Grant) :
    Agree (store.createGrant grant) (store.tables.createGrant grant) := by
  unfold createGrant
  rw [h.get?_roles]
  exact .ite (fun _ => .error _) fun _ => .ite (fun _ => .error _) fun _ => .ok { h with } rfl

theorem deleteGrant_agree (h : OwnKeys store) (username : String) (roleId : RoleId) :
    Agree (store.deleteGrant username roleId) (store.tables.deleteGrant username roleId) :=
  .ite (fun _ => .ok { h with } rfl) fun _ => .error _

theorem OwnKeys.rolesOfUser_eq (h : OwnKeys store) (username : String) :
    store.rolesOfUser username = store.tables.rolesOfUser username := by
  unfold rolesOfUser Store.rolesOfUser
  simp only [h.get?_roles]

/-! ### Calls -/

/-- A store answers as its tables do, and keys stay own ones. -/
structure Alike {α : Type} (x : Outcome α × KeyedStore) (y : Outcome α × Store) : Prop where
  answer : x.1 = y.1
  tables : x.2.tables = y.2
  own : OwnKeys x.2

theorem Agree.changed {α : Type} {x : Outcome (α × KeyedStore)} {y : Outcome (α × Store)}
    (h : Agree x y) (hown : OwnKeys store) : Alike (store.changed x) (store.tables.changed y) := by
  cases h with
  | ok own same => exact ⟨rfl, same, own⟩
  | error e => exact ⟨rfl, rfl, hown⟩

/-- **One call**, of any kind. -/
theorem OwnKeys.respond (h : OwnKeys store) (call : Call) :
    Alike (store.respond call) (store.tables.respond call) := by
  cases call with
  | createUser user => exact (createUser_agree h user).changed h
  | updateUser user => exact (updateUser_agree h user).changed h
  | deleteUser id actor now => exact (deleteUser_agree h id actor now).changed h
  | createRole role => exact (createRole_agree h role).changed h
  | updateRole role => exact (updateRole_agree h role).changed h
  | deleteRole id => exact (deleteRole_agree h id).changed h
  | createGrant grant => exact (createGrant_agree h grant).changed h
  | deleteGrant username roleId => exact (deleteGrant_agree h username roleId).changed h
  | getUser id => exact ⟨congrArg (Store.found _) (h.get?_users id), rfl, h⟩
  | getRole id => exact ⟨congrArg (Store.found _) (h.get?_roles id), rfl, h⟩
  | rolesOfUser username => exact ⟨congrArg Except.ok (h.rolesOfUser_eq username), rfl, h⟩
  | hasRole username roleName =>
    have hroles := h.rolesOfUser_eq username
    exact ⟨congrArg (fun roles : List Role => Except.ok (roles.any (·.name == roleName))) hroles,
      rfl, h⟩
  | _ => exact ⟨rfl, rfl, h⟩

/-! ### Runs of calls -/

/-- The store after it has answered some calls, first to last. -/
def answered (store : KeyedStore) (calls : List Call) : KeyedStore :=
  calls.foldl (fun store call => (store.respond call).2) store

theorem OwnKeys.answered (h : OwnKeys store) (calls : List Call) :
    OwnKeys (store.answered calls) ∧
      (store.answered calls).tables = store.tables.answered calls := by
  induction calls generalizing store with
  | nil => exact ⟨h, rfl⟩
  | cons call calls ih =>
    have hcall := h.respond call
    obtain ⟨hown, htables⟩ := ih hcall.own
    refine ⟨hown, htables.trans ?_⟩
    rw [hcall.tables]
    rfl

/-- A store keeps some tables: its entries are their records, each once and under its own
identifier, and it answers every call as they do. -/
structure Keeps (keyed : KeyedStore) (store : Store) : Prop where
  ownUsers : ∀ id user, (id, user) ∈ keyed.users.entries → user.id = id
  ownRoles : ∀ id role, (id, role) ∈ keyed.roles.entries → role.id = id
  userKeys : (keyed.users.entries.map Prod.fst).Nodup
  roleKeys : (keyed.roles.entries.map Prod.fst).Nodup
  tables : keyed.tables = store
  answers : ∀ call, (keyed.respond call).1 = (store.respond call).1

theorem OwnKeys.keeps (h : OwnKeys store) (hsound : store.tables.Sound) :
    store.Keeps store.tables where
  ownUsers _ _ hentry := (h.users _ hentry).symm
  ownRoles _ _ hentry := (h.roles _ hentry).symm
  userKeys := h.users.nodup (hsound.users.imp Store.UsersApart.id)
  roleKeys := h.roles.nodup (hsound.roles.imp Store.RolesApart.id)
  tables := rfl
  answers call := (h.respond call).answer

/-- **Whatever calls a store has answered** since it was empty, every user and every role stands
under its own identifier, and the tables keep the uniqueness rules. -/
theorem answered_keyed (calls : List Call) :
    (empty.answered calls).Keeps (Store.empty.answered calls) ∧
      (Store.empty.answered calls).WellFormed := by
  obtain ⟨hown, htables⟩ := ownKeys_empty.answered calls
  have hsame : (empty.answered calls).tables = Store.empty.answered calls := htables
  have hsound : (Store.empty.answered calls).Sound := Store.sound_empty.answered calls
  refine ⟨?_, Store.answered_wellFormed calls⟩
  rw [← hsame] at hsound ⊢
  exact hown.keeps hsound

end KeyedStore

end Identity
