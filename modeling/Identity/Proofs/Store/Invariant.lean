/-
Identity/Proofs/Store/Invariant.lean

What every store keeps to, whatever calls it has answered.

Two records that one table may hold are *apart*: users differ in identifier,
email lookup, username and PIN lookup, roles in identifier and name, grants
in principal or role.  A store is *sound* when the records of each table are
pairwise apart and every grant is of a stored role:

    Sound store  →  Sound (store.respond call).2

Each writing call checks a candidate against the *other* records only, so the
argument for a replaced record is always the same (`pairwise_replace`): the
record it replaces is the only one with its identifier.

Main result: `answered_wellFormed`, the uniqueness rules of a store that has
answered any calls.
-/
import Identity.Program
import Identity.Proofs.Outcome
import Mathlib.Data.List.Pairwise
import Mathlib.Tactic.Common

namespace Identity.Store

/-! ### Records apart -/

/-- Two users that one table may hold. -/
structure UsersApart (u v : User) : Prop where
  id : u.id ≠ v.id
  email : u.email.lookup ≠ v.email.lookup
  username : u.username ≠ v.username
  pin : ∀ p ∈ u.pin, ∀ q ∈ v.pin, p.lookup ≠ q.lookup

/-- Two roles that one table may hold. -/
structure RolesApart (a b : Role) : Prop where
  id : a.id ≠ b.id
  name : a.name ≠ b.name

/-- Two grants that one list may hold. -/
def GrantsApart (g h : Grant) : Prop := ¬ (g.username = h.username ∧ g.roleId = h.roleId)

instance : Std.Symm UsersApart where
  symm _ _ h := ⟨h.id.symm, h.email.symm, h.username.symm, fun p hp q hq => (h.pin q hq p hp).symm⟩

instance : Std.Symm RolesApart where
  symm _ _ h := ⟨h.id.symm, h.name.symm⟩

/-! ### The invariant -/

/-- The records of each table are pairwise apart, and granted roles are stored. -/
structure Sound (store : Store) : Prop where
  users : store.users.Pairwise UsersApart
  roles : store.roles.Pairwise RolesApart
  grants : store.grants.Pairwise GrantsApart
  granted : ∀ grant ∈ store.grants, ∃ role ∈ store.roles, role.id = grant.roleId

theorem sound_empty : Sound empty :=
  ⟨List.Pairwise.nil, List.Pairwise.nil, List.Pairwise.nil, by simp [empty]⟩

/-! ### Tables keyed by identifiers -/

section Tables

variable {α κ : Type} (key : α → κ) {R : α → α → Prop} {table : List α} {x : α}

/-- In a table whose records are pairwise apart a key finds its record. -/
theorem find?_key_iff [BEq κ] [LawfulBEq κ] (keys : ∀ {a b}, R a b → key a ≠ key b)
    (h : table.Pairwise R) {k : κ} :
    table.find? (fun y => key y == k) = some x ↔ x ∈ table ∧ key x = k := by
  constructor
  · intro hf
    exact ⟨List.mem_of_find?_eq_some hf, by simpa using List.find?_some hf⟩
  · rintro ⟨hx, rfl⟩
    induction h with
    | nil => cases hx
    | @cons y table hy _ ih =>
      rcases List.mem_cons.mp hx with rfl | hx
      · simp
      -- a record in front of the wanted one has another key, so the search passes it
      · have hne : key y ≠ key x := keys (hy x hx)
        rw [List.find?_cons_of_neg (by simpa using hne)]
        exact ih hx

/-- Replacing the record of a key by one that is apart from all others leaves
the table pairwise apart. -/
theorem pairwise_replace [DecidableEq κ] [Std.Symm R] (keys : ∀ {a b}, R a b → key a ≠ key b)
    (h : table.Pairwise R) (hx : ∀ y ∈ table, key y ≠ key x → R y x) :
    (table.map fun y => if key y = key x then x else y).Pairwise R := by
  rw [List.pairwise_map]
  refine h.imp_of_mem ?_
  intro a b ha hb hab
  have hne : key a ≠ key b := keys hab
  -- at most one of the two is replaced
  by_cases hax : key a = key x
  · have hbx : key b ≠ key x := fun hbx => hne (hax.trans hbx.symm)
    rw [if_pos hax, if_neg hbx]
    exact symm_of R (hx b hb hbx)
  · rw [if_neg hax]
    by_cases hbx : key b = key x
    · rw [if_pos hbx]
      exact hx a ha hax
    · rw [if_neg hbx]
      exact hab

/-- What a table holds after the record of a key has been replaced. -/
theorem mem_replace [DecidableEq κ] {y : α} :
    (y ∈ table.map fun z => if key z = key x then x else z) ↔
      (y = x ∧ ∃ z ∈ table, key z = key x) ∨ (y ∈ table ∧ key y ≠ key x) := by
  rw [List.mem_map]
  constructor
  · rintro ⟨z, hz, rfl⟩
    split_ifs with hkey
    · exact .inl ⟨rfl, z, hz, hkey⟩
    · exact .inr ⟨hz, hkey⟩
  · rintro (⟨rfl, z, hz, hkey⟩ | ⟨hy, hkey⟩)
    · exact ⟨z, hz, if_pos hkey⟩
    · exact ⟨y, hy, if_neg hkey⟩

/-- What a key finds after the record of a key has been replaced. -/
theorem find?_replace [DecidableEq κ] (k : κ) :
    (table.map fun y => if key y = key x then x else y).find? (fun y => key y == k) =
      (table.find? fun y => key y == k).map fun y => if key y = key x then x else y := by
  -- the search cannot tell the new record from the old one: they have the same key
  have hkeys : (fun y => key y == k) ∘ (fun y => if key y = key x then x else y) =
      fun y => key y == k := by
    funext y
    rw [Function.comp_apply]
    split_ifs with hkey
    · rw [hkey]
    · rfl
  rw [List.find?_map, hkeys]

/-- The key of a record that has been replaced finds the new record. -/
theorem find?_replace_self [DecidableEq κ] {old : α}
    (h : table.find? (fun y => key y == key x) = some old) :
    (table.map fun y => if key y = key x then x else y).find? (fun y => key y == key x) =
      some x := by
  have hkey : key old = key x := by simpa using List.find?_some h
  rw [find?_replace, h, Option.map_some, if_pos hkey]

/-- All other keys find what they have found before. -/
theorem find?_replace_of_ne [DecidableEq κ] {k : κ} (hne : k ≠ key x) :
    (table.map fun y => if key y = key x then x else y).find? (fun y => key y == k) =
      table.find? fun y => key y == k := by
  rw [find?_replace]
  cases h : table.find? fun y => key y == k with
  | none => rfl
  | some y =>
    have hkey : key y = k := by simpa using List.find?_some h
    rw [Option.map_some, if_neg (hkey.trans_ne hne)]

end Tables

variable {store after : Store}

theorem Sound.user?_eq_some (h : Sound store) {id : UserId} {user : User} :
    store.user? id = some user ↔ user ∈ store.users ∧ user.id = id :=
  find?_key_iff User.id UsersApart.id h.users

theorem Sound.role?_eq_some (h : Sound store) {id : RoleId} {role : Role} :
    store.role? id = some role ↔ role ∈ store.roles ∧ role.id = id :=
  find?_key_iff Role.id RolesApart.id h.roles

theorem Sound.usersApart (h : Sound store) {u v : User} (hu : u ∈ store.users)
    (hv : v ∈ store.users) (hne : u ≠ v) : UsersApart u v :=
  h.users.forall hu hv hne

theorem Sound.apart_of_id (h : Sound store) {u v : User} (hu : u ∈ store.users)
    (hv : v ∈ store.users) (hne : u.id ≠ v.id) : UsersApart u v :=
  h.usersApart hu hv (ne_of_apply_ne User.id hne)

theorem Sound.rolesApart (h : Sound store) {a b : Role} (ha : a ∈ store.roles)
    (hb : b ∈ store.roles) (hne : a ≠ b) : RolesApart a b :=
  h.roles.forall ha hb hne

theorem Sound.eq_of_roleId (h : Sound store) {a b : Role} (ha : a ∈ store.roles)
    (hb : b ∈ store.roles) (hid : a.id = b.id) : a = b := by
  by_contra hne
  exact (h.rolesApart ha hb hne).id hid

theorem Sound.eq_of_roleName (h : Sound store) {a b : Role} (ha : a ∈ store.roles)
    (hb : b ∈ store.roles) (hname : a.name = b.name) : a = b := by
  by_contra hne
  exact (h.rolesApart ha hb hne).name hname

theorem found_eq_ok {α : Type} {missing : Error} {o : Option α} {a : α} :
    found missing o = .ok a ↔ o = some a := by
  cases o with
  | none => exact iff_of_false nofun nofun
  | some b => rw [found, Except.ok.injEq, Option.some.injEq]

theorem eq_of_found_eq_error {α : Type} {missing e : Error} {o : Option α}
    (h : found missing o = .error e) : e = missing := by
  cases o with
  | none => exact (Except.error.inj h).symm
  | some a => cases h

/-- No record is stored under an identifier exactly when none has it. -/
theorem user?_eq_none {id : UserId} :
    store.user? id = none ↔ ∀ user ∈ store.users, user.id ≠ id := by
  simp [user?]

/-! ### What a call can do to the tables -/

theorem otherUser_eq_true {candidate : User} {clashes : User → Bool} :
    store.otherUser candidate clashes = true ↔
      ∃ user ∈ store.users, user.id ≠ candidate.id ∧ clashes user = true := by
  simp [otherUser]

/-- The uniqueness check accepts exactly the candidates that are apart from
every other user. -/
theorem ensureUnique_eq_ok {candidate : User} :
    store.ensureUnique candidate = .ok () ↔
      ∀ user ∈ store.users, user.id ≠ candidate.id → UsersApart user candidate := by
  unfold ensureUnique
  -- each refusal names a user that the candidate is not apart from
  split_ifs with hemail hname hpin
  · obtain ⟨user, hu, hid, he⟩ := otherUser_eq_true.mp hemail
    refine iff_of_false (by simp) fun h => ?_
    exact (h user hu hid).email (by simpa using he)
  · obtain ⟨user, hu, hid, he⟩ := otherUser_eq_true.mp hname
    refine iff_of_false (by simp) fun h => ?_
    exact (h user hu hid).username (by simpa using he)
  · obtain ⟨q, hq, hother⟩ := (Option.any_eq_true _ _).mp hpin
    obtain ⟨user, hu, hid, he⟩ := otherUser_eq_true.mp hother
    obtain ⟨p, hp, he⟩ := (Option.any_eq_true _ _).mp he
    refine iff_of_false (by simp) fun h => ?_
    exact (h user hu hid).pin p hp q hq (by simpa using he)
  · refine iff_of_true rfl fun user hu hid => ⟨hid, ?_, ?_, ?_⟩
    · intro he
      exact hemail (otherUser_eq_true.mpr ⟨user, hu, hid, by simp [he]⟩)
    · intro he
      exact hname (otherUser_eq_true.mpr ⟨user, hu, hid, by simp [he]⟩)
    · intro p hp q hq he
      refine hpin ((Option.any_eq_true _ _).mpr ⟨q, hq, otherUser_eq_true.mpr ⟨user, hu, hid, ?_⟩⟩)
      exact (Option.any_eq_true _ _).mpr ⟨p, hp, by simp [he]⟩

theorem ensureUnique_eq_error {candidate : User} {e : Error}
    (h : store.ensureUnique candidate = .error e) :
    e = .userAlreadyExists ∨ e = .usernameExists ∨ e = .pinAlreadyInUse := by
  unfold ensureUnique at h
  split_ifs at h with hemail hname hpin
  · exact .inl (Except.error.inj h).symm
  · exact .inr (.inl (Except.error.inj h).symm)
  · exact .inr (.inr (Except.error.inj h).symm)

/-- A user is added when it is apart from all that are stored. -/
theorem createUser_eq_ok {user a : User} :
    store.createUser user = .ok (a, after) ↔
      (∀ stored ∈ store.users, UsersApart stored user) ∧ a = user ∧
        after = { store with users := store.users ++ [user] } := by
  unfold createUser
  by_cases hid : (store.user? user.id).isSome = true
  -- refused here, or by the uniqueness check below, or added
  · rw [if_pos hid]
    obtain ⟨stored, hs⟩ := Option.isSome_iff_exists.mp hid
    have hfound := List.find?_some hs
    refine iff_of_false (by nofun) fun h => ?_
    exact (h.1 stored (List.mem_of_find?_eq_some hs)).id (by simpa using hfound)
  · rw [if_neg hid]
    have hnew : ∀ stored ∈ store.users, stored.id ≠ user.id :=
      user?_eq_none.mp (by simpa using hid)
    cases hu : store.ensureUnique user with
    | error e =>
      refine iff_of_false (by nofun) fun h => ?_
      have hok := ensureUnique_eq_ok.mpr fun stored hs _ => h.1 stored hs
      rw [hu] at hok
      cases hok
    | ok _ =>
      have hapart := ensureUnique_eq_ok.mp hu
      constructor
      · rintro h
        cases h
        exact ⟨fun stored hs => hapart stored hs (hnew stored hs), rfl, rfl⟩
      · rintro ⟨-, rfl, rfl⟩
        rfl

/-- A user is refused for another one. -/
theorem createUser_eq_error {user : User} {e : Error} (h : store.createUser user = .error e) :
    e = .userAlreadyExists ∨ e = .usernameExists ∨ e = .pinAlreadyInUse := by
  unfold createUser at h
  by_cases hid : (store.user? user.id).isSome = true
  · rw [if_pos hid] at h
    exact .inl (Except.error.inj h).symm
  · rw [if_neg hid] at h
    rcases Outcome.bind_eq_error.mp h with h | ⟨_, -, ⟨⟩⟩
    exact ensureUnique_eq_error h

/-- A record is replaced when it has a predecessor and is apart from all other
users. -/
theorem updateUser_eq_ok {user a : User} :
    store.updateUser user = .ok (a, after) ↔
      (∃ stored, store.user? user.id = some stored) ∧
        (∀ stored ∈ store.users, stored.id ≠ user.id → UsersApart stored user) ∧ a = user ∧
          after = { store with users := replaceUser store.users user } := by
  -- the uniqueness check passes over the predecessor by itself
  rw [← ensureUnique_eq_ok]
  unfold updateUser
  cases hid : store.user? user.id with
  | none => exact iff_of_false (by nofun) (by nofun)
  | some stored =>
    cases hu : store.ensureUnique user with
    | error e => exact iff_of_false (by nofun) (by nofun)
    | ok _ =>
      constructor
      · intro h
        cases h
        exact ⟨⟨stored, rfl⟩, rfl, rfl, rfl⟩
      · rintro ⟨-, -, rfl, rfl⟩
        rfl

/-- A record is refused for want of a predecessor, or for another user. -/
theorem updateUser_eq_error {user : User} {e : Error} (h : store.updateUser user = .error e) :
    e = .userNotFound ∨ e = .userAlreadyExists ∨ e = .usernameExists ∨ e = .pinAlreadyInUse := by
  unfold updateUser at h
  by_cases hid : (store.user? user.id).isNone = true
  · rw [if_pos hid] at h
    exact .inl (Except.error.inj h).symm
  · rw [if_neg hid] at h
    rcases Outcome.bind_eq_error.mp h with h | ⟨_, -, ⟨⟩⟩
    exact .inr (ensureUnique_eq_error h)

/-- The record that deleting a user leaves. -/
def markDeleted (user : User) (actor : String) (now : Timestamp) : User :=
  { user with status := .deleted, updatedAt := now, updatedBy := actor }

theorem deleteUser_eq_ok {id : UserId} {actor : String} {now : Timestamp} {a : Unit} :
    store.deleteUser id actor now = .ok (a, after) ↔
      ∃ user, store.user? id = some user ∧
        after = { store with users := replaceUser store.users (markDeleted user actor now) } := by
  unfold deleteUser
  cases hid : store.user? id with
  | none => exact iff_of_false (by nofun) (by nofun)
  | some user =>
    constructor
    · intro h
      cases h
      exact ⟨user, rfl, rfl⟩
    · rintro ⟨stored, hs, rfl⟩
      cases hs
      rfl

/-- A role is added when it is apart from all that are stored. -/
theorem createRole_eq_ok {role a : Role} :
    store.createRole role = .ok (a, after) ↔
      (∀ stored ∈ store.roles, RolesApart stored role) ∧ a = role ∧
        after = { store with roles := store.roles ++ [role] } := by
  unfold createRole
  split_ifs with htaken
  · obtain ⟨stored, hs, he⟩ := List.any_eq_true.mp htaken
    refine iff_of_false (by nofun) fun h => ?_
    rcases Bool.or_eq_true_iff.mp he with hid | hname
    · exact (h.1 stored hs).id (by simpa using hid)
    · exact (h.1 stored hs).name (by simpa using hname)
  · constructor
    · intro h
      cases h
      refine ⟨fun stored hs => ⟨fun hid => ?_, fun hname => ?_⟩, rfl, rfl⟩
      · exact htaken (List.any_eq_true.mpr ⟨stored, hs, by simp [hid]⟩)
      · exact htaken (List.any_eq_true.mpr ⟨stored, hs, by simp [hname]⟩)
    · rintro ⟨-, rfl, rfl⟩
      rfl

/-- A record is replaced when it has a predecessor and is apart from all other
roles. -/
theorem updateRole_eq_ok {role a : Role} :
    store.updateRole role = .ok (a, after) ↔
      (∃ stored, store.role? role.id = some stored) ∧
        (∀ stored ∈ store.roles, stored.id ≠ role.id → RolesApart stored role) ∧ a = role ∧
          after = { store with roles := replaceRole store.roles role } := by
  unfold updateRole
  split_ifs with hid htaken
  · exact iff_of_false (by nofun) fun ⟨⟨stored, hs⟩, _⟩ => by simp [hs] at hid
  -- the name is refused on account of another role only, so a role may keep its own
  · obtain ⟨stored, hs, he⟩ := List.any_eq_true.mp htaken
    obtain ⟨hne, hname⟩ := Bool.and_eq_true_iff.mp he
    refine iff_of_false (by nofun) fun h => ?_
    exact (h.2.1 stored hs (by simpa using hne)).name (by simpa using hname)
  · constructor
    · intro h
      cases h
      refine ⟨by simpa [Option.ne_none_iff_exists'] using hid, ?_, rfl, rfl⟩
      refine fun stored hs hne => ⟨hne, fun hname => ?_⟩
      exact htaken (List.any_eq_true.mpr ⟨stored, hs, by simp [hne, hname]⟩)
    · rintro ⟨-, -, rfl, rfl⟩
      rfl

/-- Removing a role takes its grants along. -/
theorem deleteRole_eq_ok {id : RoleId} {a : Unit} :
    store.deleteRole id = .ok (a, after) ↔
      (∃ stored, store.role? id = some stored) ∧
        after = { store with
          roles := store.roles.filter (·.id != id)
          grants := store.grants.filter (·.roleId != id) } := by
  unfold deleteRole
  cases hid : store.role? id with
  | none => exact iff_of_false (by nofun) (by nofun)
  | some stored =>
    constructor
    · intro h
      cases h
      exact ⟨⟨stored, rfl⟩, rfl⟩
    · rintro ⟨-, rfl⟩
      rfl

theorem links_eq_true {username : String} {roleId : RoleId} {grant : Grant} :
    links username roleId grant = true ↔ grant.username = username ∧ grant.roleId = roleId := by
  simp [links]

/-- A grant is added when its role is stored and it is apart from all grants. -/
theorem createGrant_eq_ok {grant a : Grant} :
    store.createGrant grant = .ok (a, after) ↔
      (∃ role, store.role? grant.roleId = some role) ∧
        (∀ stored ∈ store.grants, GrantsApart stored grant) ∧ a = grant ∧
          after = { store with grants := store.grants ++ [grant] } := by
  unfold createGrant
  split_ifs with hid htaken
  · exact iff_of_false (by nofun) fun ⟨⟨role, hr⟩, _⟩ => by simp [hr] at hid
  · obtain ⟨stored, hs, he⟩ := List.any_eq_true.mp htaken
    exact iff_of_false (by nofun) fun h => h.2.1 stored hs (links_eq_true.mp he)
  · constructor
    · intro h
      cases h
      refine ⟨by simpa [Option.ne_none_iff_exists'] using hid, fun stored hs he => ?_, rfl, rfl⟩
      exact htaken (List.any_eq_true.mpr ⟨stored, hs, links_eq_true.mpr he⟩)
    · rintro ⟨-, -, rfl, rfl⟩
      rfl

/-- A grant is refused for the sake of another one when its role is stored and it is not apart from
all grants. -/
theorem createGrant_eq_grantAlreadyExists {grant : Grant} :
    store.createGrant grant = .error .grantAlreadyExists ↔
      (∃ role, store.role? grant.roleId = some role) ∧
        ∃ stored ∈ store.grants, stored.username = grant.username ∧
          stored.roleId = grant.roleId := by
  unfold createGrant
  split_ifs with hid htaken
  · exact iff_of_false nofun fun ⟨⟨role, hr⟩, _⟩ => by simp [hr] at hid
  · obtain ⟨stored, hs, he⟩ := List.any_eq_true.mp htaken
    refine iff_of_true rfl ⟨by simpa [Option.ne_none_iff_exists'] using hid, stored, hs, ?_⟩
    exact links_eq_true.mp he
  · refine iff_of_false nofun fun ⟨_, stored, hs, he⟩ => htaken ?_
    exact List.any_eq_true.mpr ⟨stored, hs, links_eq_true.mpr he⟩

theorem any_links_eq_true {username : String} {roleId : RoleId} :
    store.grants.any (links username roleId) = true ↔
      ∃ grant ∈ store.grants, grant.username = username ∧ grant.roleId = roleId := by
  simp only [List.any_eq_true, links_eq_true]

theorem deleteGrant_eq_ok {username : String} {roleId : RoleId} {a : Unit} :
    store.deleteGrant username roleId = .ok (a, after) ↔
      (∃ grant ∈ store.grants, grant.username = username ∧ grant.roleId = roleId) ∧
        after = { store with grants := store.grants.eraseP (links username roleId) } := by
  unfold deleteGrant
  split_ifs with hany
  · constructor
    · intro h
      cases h
      exact ⟨any_links_eq_true.mp hany, rfl⟩
    · rintro ⟨-, rfl⟩
      rfl
  · exact iff_of_false (by nofun) fun h => hany (any_links_eq_true.mpr h.1)

theorem deleteGrant_eq_grantNotFound {username : String} {roleId : RoleId} :
    store.deleteGrant username roleId = .error .grantNotFound ↔
      ¬ ∃ grant ∈ store.grants, grant.username = username ∧ grant.roleId = roleId := by
  unfold deleteGrant
  split_ifs with hany
  · exact iff_of_false nofun fun h => h (any_links_eq_true.mp hany)
  · exact iff_of_true rfl fun h => hany (any_links_eq_true.mpr h)

/-! ### Every call keeps the invariant -/

theorem Sound.createUser {user a : User} (h : Sound store)
    (hc : store.createUser user = .ok (a, after)) : Sound after := by
  obtain ⟨hapart, -, rfl⟩ := createUser_eq_ok.mp hc
  refine { h with users := List.pairwise_append.mpr ⟨h.users, List.pairwise_singleton _ _, ?_⟩ }
  intro stored hs v hv
  rw [List.mem_singleton.mp hv]
  exact hapart stored hs

theorem Sound.updateUser {user a : User} (h : Sound store)
    (hc : store.updateUser user = .ok (a, after)) : Sound after := by
  obtain ⟨-, hapart, -, rfl⟩ := updateUser_eq_ok.mp hc
  exact { h with users := pairwise_replace User.id UsersApart.id h.users hapart }

/-- A user that is marked as deleted keeps all that is unique about it. -/
theorem Sound.deleteUser {id : UserId} {actor : String} {now : Timestamp} {a : Unit}
    (h : Sound store) (hc : store.deleteUser id actor now = .ok (a, after)) : Sound after := by
  obtain ⟨user, hu, rfl⟩ := deleteUser_eq_ok.mp hc
  obtain ⟨hmem, -⟩ := h.user?_eq_some.mp hu
  refine { h with users := pairwise_replace User.id UsersApart.id h.users ?_ }
  intro stored hs hne
  -- the record that is marked was apart from this one before
  have hapart : UsersApart stored user := h.apart_of_id hs hmem hne
  exact ⟨hapart.id, hapart.email, hapart.username, hapart.pin⟩

theorem Sound.createRole {role a : Role} (h : Sound store)
    (hc : store.createRole role = .ok (a, after)) : Sound after := by
  obtain ⟨hapart, -, rfl⟩ := createRole_eq_ok.mp hc
  refine { h with roles := ?_, granted := ?_ }
  · refine List.pairwise_append.mpr ⟨h.roles, List.pairwise_singleton _ _, ?_⟩
    intro stored hs r hr
    rw [List.mem_singleton.mp hr]
    exact hapart stored hs
  · intro grant hg
    obtain ⟨stored, hs, hid⟩ := h.granted grant hg
    exact ⟨stored, List.mem_append_left _ hs, hid⟩

theorem Sound.updateRole {role a : Role} (h : Sound store)
    (hc : store.updateRole role = .ok (a, after)) : Sound after := by
  obtain ⟨-, hapart, -, rfl⟩ := updateRole_eq_ok.mp hc
  refine { h with roles := ?_, granted := ?_ }
  · exact pairwise_replace Role.id RolesApart.id h.roles hapart
  -- a granted role may be the one that is replaced, under the same identifier
  · intro grant hg
    obtain ⟨stored, hs, hid⟩ := h.granted grant hg
    refine ⟨_, List.mem_map_of_mem hs, ?_⟩
    split
    · rename_i he
      exact he.symm.trans hid
    · exact hid

theorem Sound.deleteRole {id : RoleId} {a : Unit} (h : Sound store)
    (hc : store.deleteRole id = .ok (a, after)) : Sound after := by
  obtain ⟨-, rfl⟩ := deleteRole_eq_ok.mp hc
  refine { h with roles := h.roles.filter _, grants := h.grants.filter _, granted := ?_ }
  -- grants of the role are gone, so every other grant still has its role
  intro grant hg
  obtain ⟨hg, hne⟩ := List.mem_filter.mp hg
  obtain ⟨stored, hs, hid⟩ := h.granted grant hg
  exact ⟨stored, List.mem_filter.mpr ⟨hs, by simpa [hid] using hne⟩, hid⟩

theorem Sound.createGrant {grant a : Grant} (h : Sound store)
    (hc : store.createGrant grant = .ok (a, after)) : Sound after := by
  obtain ⟨⟨role, hr⟩, hapart, -, rfl⟩ := createGrant_eq_ok.mp hc
  refine { h with grants := ?_, granted := ?_ }
  · refine List.pairwise_append.mpr ⟨h.grants, List.pairwise_singleton _ _, ?_⟩
    intro stored hs g hg
    rw [List.mem_singleton.mp hg]
    exact hapart stored hs
  · intro g hg
    rcases List.mem_append.mp hg with hg | hg
    · exact h.granted g hg
    · rw [List.mem_singleton.mp hg]
      exact ⟨role, h.role?_eq_some.mp hr⟩

theorem Sound.deleteGrant {username : String} {roleId : RoleId} {a : Unit} (h : Sound store)
    (hc : store.deleteGrant username roleId = .ok (a, after)) : Sound after := by
  obtain ⟨-, rfl⟩ := deleteGrant_eq_ok.mp hc
  exact { h with
    grants := h.grants.sublist (List.eraseP_sublist ..)
    granted := fun grant hg => h.granted grant (List.mem_of_mem_eraseP hg) }

/-- A call that has changed the store was a change that succeeded. -/
theorem changed_eq_ok {α : Type} {outcome : Outcome (α × Store)} {a : α}
    (h : store.changed outcome = (.ok a, after)) : outcome = .ok (a, after) := by
  rcases outcome with e | ⟨b, changed⟩
  · cases h
  · cases h
    rfl

theorem respond_getUser {id : UserId} {user : User} (h : store.user? id = some user) :
    store.respond (.getUser id) = (.ok user, store) :=
  congrArg (·, store) (found_eq_ok.mpr h)

/-- A record that is apart from all other users takes the place of its predecessor. -/
theorem respond_updateUser_of_apart {old new : User} (hold : store.user? new.id = some old)
    (hapart : ∀ stored ∈ store.users, stored.id ≠ new.id → UsersApart stored new) :
    store.respond (.updateUser new) =
      (.ok new, { store with users := replaceUser store.users new }) := by
  have haccepted : store.updateUser new =
      .ok (new, { store with users := replaceUser store.users new }) :=
    updateUser_eq_ok.mpr ⟨⟨old, hold⟩, hapart, rfl, rfl⟩
  rw [respond, haccepted]
  rfl

theorem changed_eq_error {α : Type} {outcome : Outcome (α × Store)} {e : Error}
    (h : (store.changed outcome).1 = .error e) : outcome = .error e := by
  rcases outcome with e | ⟨a, changed⟩
  · exact congrArg Except.error (Except.error.inj h)
  · cases h

/-- Every refusal is a conflict, or says that something is not found. -/
theorem kind_of_refused {c : Call} {e : Error} (h : (store.respond c).1 = .error e) :
    e.kind.isConflict = true ∨ e.kind.isNotFound = true := by
  cases c with
  | createUser user =>
    rcases createUser_eq_error (changed_eq_error h) with rfl | rfl | rfl <;> exact .inl rfl
  | updateUser user =>
    rcases updateUser_eq_error (changed_eq_error h) with rfl | rfl | rfl | rfl
    · exact .inr rfl
    all_goals exact .inl rfl
  | deleteUser id actor now =>
    rcases Outcome.bind_eq_error.mp (changed_eq_error h) with h | ⟨user, -, ⟨⟩⟩
    obtain rfl := eq_of_found_eq_error h
    exact .inr rfl
  | createRole role =>
    have h := changed_eq_error h
    unfold createRole at h
    split_ifs at h
    cases h
    exact .inl rfl
  | updateRole role =>
    have h := changed_eq_error h
    unfold updateRole at h
    split_ifs at h <;> cases h
    · exact .inr rfl
    · exact .inl rfl
  | deleteRole id =>
    have h := changed_eq_error h
    unfold deleteRole at h
    split_ifs at h
    cases h
    exact .inr rfl
  | createGrant grant =>
    have h := changed_eq_error h
    unfold createGrant at h
    split_ifs at h <;> cases h
    · exact .inr rfl
    · exact .inl rfl
  | deleteGrant username roleId =>
    have h := changed_eq_error h
    unfold deleteGrant at h
    split_ifs at h
    cases h
    exact .inr rfl
  | getUser | findUserByEmail | findUserByUsername | findUserByPin | getRole | findRoleByName =>
    obtain rfl := eq_of_found_eq_error h
    exact .inr rfl
  | _ => cases h

/-- A change keeps what its success keeps: when it fails the store is the old one. -/
theorem changed_keeps {α : Type} {P : Store → Prop} {outcome : Outcome (α × Store)}
    (h : P store) (hok : ∀ {a after}, outcome = .ok (a, after) → P after) :
    P (store.changed outcome).2 := by
  rcases outcome with e | ⟨a, after⟩
  · exact h
  · exact hok rfl

theorem Sound.respond (h : Sound store) (call : Call) : Sound (store.respond call).2 := by
  cases call with
  | createUser user => exact changed_keeps h h.createUser
  | updateUser user => exact changed_keeps h h.updateUser
  | deleteUser id actor now => exact changed_keeps h h.deleteUser
  | createRole role => exact changed_keeps h h.createRole
  | updateRole role => exact changed_keeps h h.updateRole
  | deleteRole id => exact changed_keeps h h.deleteRole
  | createGrant grant => exact changed_keeps h h.createGrant
  | deleteGrant username roleId => exact changed_keeps h h.deleteGrant
  | _ => exact h

/-! ### Runs of calls -/

/-- The store after it has answered some calls, first to last. -/
def answered (store : Store) (calls : List Call) : Store :=
  calls.foldl (fun store call => (store.respond call).2) store

theorem Sound.answered (h : Sound store) (calls : List Call) : Sound (store.answered calls) := by
  induction calls generalizing store with
  | nil => exact h
  | cons call calls ih => exact ih (h.respond call)

/-- A program is a run of calls, so it keeps the invariant too. -/
theorem Sound.run {α : Type} (h : Sound store) (p : Program α) : Sound (p.run store).2 := by
  induction p generalizing store with
  | done a => exact h
  | call c next ih => exact ih _ (h.respond c)

/-- The uniqueness rules of the three tables. -/
structure WellFormed (store : Store) : Prop where
  userById : ∀ {id user}, store.user? id = some user ↔ user ∈ store.users ∧ user.id = id
  roleById : ∀ {id role}, store.role? id = some role ↔ role ∈ store.roles ∧ role.id = id
  userIds : store.users.Pairwise fun u v => u.id ≠ v.id
  emails : store.users.Pairwise fun u v => u.email.lookup ≠ v.email.lookup
  usernames : store.users.Pairwise fun u v => u.username ≠ v.username
  pins : store.users.Pairwise fun u v => ∀ p ∈ u.pin, ∀ q ∈ v.pin, p.lookup ≠ q.lookup
  roleIds : store.roles.Pairwise fun a b => a.id ≠ b.id
  roleNames : store.roles.Pairwise fun a b => a.name ≠ b.name
  grants : store.grants.Pairwise fun g h => ¬ (g.username = h.username ∧ g.roleId = h.roleId)
  granted : ∀ grant ∈ store.grants, ∃ role, store.role? grant.roleId = some role

/-- Whatever calls a store has answered since it was empty, its tables keep
the uniqueness rules, and every grant is of a stored role. -/
theorem answered_wellFormed (calls : List Call) : WellFormed (empty.answered calls) := by
  have h : Sound (empty.answered calls) := sound_empty.answered calls
  exact {
    userById := h.user?_eq_some
    roleById := h.role?_eq_some
    userIds := h.users.imp UsersApart.id
    emails := h.users.imp UsersApart.email
    usernames := h.users.imp UsersApart.username
    pins := h.users.imp UsersApart.pin
    roleIds := h.roles.imp RolesApart.id
    roleNames := h.roles.imp RolesApart.name
    grants := h.grants
    granted := fun grant hg =>
      (h.granted grant hg).imp fun _ hr => h.role?_eq_some.mpr hr }

end Identity.Store
