/-
Identity/Proofs/Database/Rows.lean

What is written of users and roles is read back, and what cannot be read is refused.

The values of a statement are bound by position and its columns are read by name.
That the two agree is computed once for users and once for roles, for values that
stay variables (`read_insertUser`, `read_insertRole`).  A row that is read as some
record is the row of this record and of no other (`toUser_eq_ok`), so what decides
whether a row can be read are the columns that are not free: the four of a PIN, and
the status.

Main result: `rows_exact`.
-/
import Identity.Database.Binding
import Identity.Database.Statement
import Identity.Proofs.Outcome

namespace Identity

/-! ### Statuses -/

/-- Values that are stored by their names: a name is read as the value that has it, and any
other text is an internal error. -/
structure StoredByName {α : Type} (all : List α) (name : α → String)
    (parse : String → Outcome α) : Prop where
  complete : ∀ a, a ∈ all
  known : ∀ a, parse (name a) = .ok a
  classified : ∀ text,
    (∃ a, name a = text ∧ parse text = .ok a) ∨ ∃ detail, parse text = .error (.internal detail)

namespace StoredByName

variable {α : Type} {all : List α} {name : α → String} {parse : String → Outcome α}

theorem eq_ok (h : StoredByName all name parse) {text : String} {a : α} :
    parse text = .ok a ↔ text = name a := by
  constructor
  · intro hok
    rcases h.classified text with ⟨b, rfl, hb⟩ | ⟨detail, herror⟩
    · rw [Except.ok.inj (hok.symm.trans hb)]
    · cases hok.symm.trans herror
  · rintro rfl
    exact h.known a

theorem exists_eq_ok (h : StoredByName all name parse) {text : String} :
    (∃ a, parse text = .ok a) ↔ text ∈ all.map name := by
  simp only [h.eq_ok, List.mem_map]
  constructor
  · rintro ⟨a, rfl⟩
    exact ⟨a, h.complete a, rfl⟩
  · rintro ⟨a, -, rfl⟩
    exact ⟨a, rfl⟩

theorem kind_of_eq_error (h : StoredByName all name parse) {text : String} {e : Error}
    (herror : parse text = .error e) : e.kind = .internal := by
  rcases h.classified text with ⟨b, -, hb⟩ | ⟨detail, hinternal⟩
  · cases herror.symm.trans hb
  · rw [Except.error.inj (herror.symm.trans hinternal)]
    rfl

end StoredByName

/-- A search by name finds what has the name. -/
theorem name_of_find?_name {α : Type} {all : List α} {name : α → String} {text : String} {a : α}
    (h : all.find? (fun a => name a == text) = some a) : name a = text := by
  have hname := List.find?_some h
  exact beq_iff_eq.mp hname

theorem UserStatus.storedByName : StoredByName all name parse where
  complete status := by cases status <;> decide
  known := parse_name
  classified text := by
    unfold parse
    split
    · next status hfound => exact .inl ⟨status, name_of_find?_name hfound, rfl⟩
    · exact .inr ⟨_, rfl⟩

theorem RoleStatus.storedByName : StoredByName all name parse where
  complete status := by cases status <;> decide
  known := parse_name
  classified text := by
    unfold parse
    split
    · next status hfound => exact .inl ⟨status, name_of_find?_name hfound, rfl⟩
    · exact .inr ⟨_, rfl⟩

namespace Database

/-! ### Users -/

namespace UserRow

variable {row : UserRow} {user : User} {e : Error}

/-- The columns of the PIN are all set, or all empty. -/
def WholePin (row : UserRow) : Prop :=
  (row.pinCiphertext.isSome ∧ row.pinNonce.isSome ∧ row.pinTag.isSome ∧ row.pinLookup.isSome) ∨
    (row.pinCiphertext = none ∧ row.pinNonce = none ∧ row.pinTag = none ∧ row.pinLookup = none)

theorem exists_pin_eq_ok : (∃ pin, row.pin = .ok pin) ↔ row.WholePin := by
  unfold pin WholePin
  rcases row.pinCiphertext with _ | ciphertext <;> rcases row.pinNonce with _ | nonce <;>
    rcases row.pinTag with _ | tag <;> rcases row.pinLookup with _ | lookup <;> simp

/-- The columns of a PIN are read as the PIN that they were written for. -/
theorem pin_eq_ok {pin : Option SealedValue} : row.pin = .ok pin ↔
    row.pinCiphertext = pin.map (·.ciphertext) ∧ row.pinNonce = pin.map (·.nonce) ∧
      row.pinTag = pin.map (·.tag) ∧ row.pinLookup = pin.map (·.lookup) := by
  unfold UserRow.pin
  rcases row.pinCiphertext with _ | ciphertext <;> rcases row.pinNonce with _ | nonce <;>
    rcases row.pinTag with _ | tag <;> rcases row.pinLookup with _ | lookup <;>
    rcases pin with _ | ⟨_, _, _, _⟩ <;> simp

theorem kind_of_pin_eq_error (h : row.pin = .error e) : e.kind = .internal := by
  unfold pin at h
  split at h
  · cases h
  · cases h
  · cases h
    rfl

/-- A row is read as a user exactly when it is the row of this user. -/
theorem toUser_eq_ok : row.toUser = .ok user ↔ row = ofUser user := by
  unfold toUser
  simp only [Outcome.bind_eq_ok, pin_eq_ok, UserStatus.storedByName.eq_ok]
  constructor
  · rintro ⟨pin, ⟨hciphertext, hnonce, htag, hlookup⟩, status, hstatus, h⟩
    cases h
    rw [ofUser, ← hciphertext, ← hnonce, ← htag, ← hlookup, ← hstatus]
  · rintro rfl
    exact ⟨user.pin, ⟨rfl, rfl, rfl, rfl⟩, user.status, rfl, rfl⟩

/-- The row can be read: its PIN is whole and its status is known. -/
structure Readable (row : UserRow) : Prop where
  pin : row.WholePin
  status : row.status ∈ ["active", "suspended", "pending", "deleted"]

theorem exists_toUser_eq_ok : (∃ user, row.toUser = .ok user) ↔ row.Readable := by
  unfold toUser
  simp only [Outcome.bind_eq_ok]
  constructor
  · rintro ⟨user, pin, hpin, status, hstatus, -⟩
    exact ⟨exists_pin_eq_ok.mp ⟨pin, hpin⟩, UserStatus.storedByName.exists_eq_ok.mp ⟨status, hstatus⟩⟩
  · rintro ⟨hpin, hstatus⟩
    obtain ⟨pin, hpin⟩ := exists_pin_eq_ok.mpr hpin
    obtain ⟨status, hstatus⟩ := UserStatus.storedByName.exists_eq_ok.mpr hstatus
    exact ⟨_, pin, hpin, status, hstatus, rfl⟩

theorem kind_of_toUser_eq_error (h : row.toUser = .error e) : e.kind = .internal := by
  unfold toUser at h
  rcases Outcome.bind_eq_error.mp h with h | ⟨pin, -, h⟩
  · exact kind_of_pin_eq_error h
  · rcases Outcome.bind_eq_error.mp h with h | ⟨status, -, ⟨⟩⟩
    exact UserStatus.storedByName.kind_of_eq_error h

end UserRow

/-- The record that is inserted for a user is read as the row of the user. -/
theorem read_insertUser (user : User) :
    (insertUser user).record?.bind UserRow.ofRecord? = some (UserRow.ofUser user) := by
  obtain ⟨id, username, name, email, password, pin, status, _⟩ := user
  cases pin with
  | none => rfl
  | some pin => rfl

/-! ### Roles -/

namespace RoleRow

variable {row : RoleRow} {role : Role} {e : Error}

/-- A row is read as a role exactly when it is the row of this role. -/
theorem toRole_eq_ok : row.toRole = .ok role ↔ row = ofRole role := by
  unfold toRole
  simp only [Outcome.bind_eq_ok, RoleStatus.storedByName.eq_ok]
  constructor
  · rintro ⟨status, hstatus, h⟩
    cases h
    rw [ofRole, ← hstatus]
  · rintro rfl
    exact ⟨role.status, rfl, rfl⟩

/-- The row can be read: its status is known. -/
def Readable (row : RoleRow) : Prop := row.status ∈ ["active", "inactive"]

theorem exists_toRole_eq_ok : (∃ role, row.toRole = .ok role) ↔ row.Readable := by
  unfold toRole
  simp only [Outcome.bind_eq_ok]
  constructor
  · rintro ⟨role, status, hstatus, -⟩
    exact RoleStatus.storedByName.exists_eq_ok.mp ⟨status, hstatus⟩
  · intro hstatus
    obtain ⟨status, hstatus⟩ := RoleStatus.storedByName.exists_eq_ok.mpr hstatus
    exact ⟨_, status, hstatus, rfl⟩

theorem kind_of_toRole_eq_error (h : row.toRole = .error e) : e.kind = .internal := by
  unfold toRole at h
  rcases Outcome.bind_eq_error.mp h with h | ⟨status, -, ⟨⟩⟩
  exact RoleStatus.storedByName.kind_of_eq_error h

end RoleRow

/-- The record that is inserted for a role is read as the row of the role. -/
theorem read_insertRole (role : Role) :
    (insertRole role).record?.bind RoleRow.ofRecord? = some (RoleRow.ofRole role) :=
  rfl

/-! ### Exact mappings -/

variable {ρ α : Type}

/-- Records stand in rows and nothing else does: what is inserted for a record is read back
as the record, a row that is read as a record is the row of this record, and the rows that
cannot be read are refused with an internal error. -/
structure MapsExactly (insert : α → Assignment) (ofRecord? : Record → Option ρ) (write : α → ρ)
    (read : ρ → Outcome α) (Readable : ρ → Prop) : Prop where
  inserted : ∀ a, ∃ row, (insert a).record?.bind ofRecord? = some row ∧ read row = .ok a
  exact : ∀ row a, read row = .ok a ↔ row = write a
  readable : ∀ row, (∃ a, read row = .ok a) ↔ Readable row
  refused : ∀ row, ¬ Readable row → ∃ detail, read row = .error (.internal detail)

/-- A sequence of rows is listed exactly when each of them can be read, in the order of the
rows, and else fails as the first that cannot. -/
structure ListsExactly (list : List ρ → Outcome (List α)) (read : ρ → Outcome α) : Prop where
  succeeds : ∀ rows, (∃ as, list rows = .ok as) ↔ ∀ row ∈ rows, ∃ a, read row = .ok a
  inOrder : ∀ rows as, list rows = .ok as ↔ rows.map read = as.map .ok
  fails : ∀ rows e, list rows = .error e ↔ ∃ before row after, rows = before ++ row :: after ∧
    (∀ row ∈ before, ∃ a, read row = .ok a) ∧ read row = .error e

/-- Whoever is not read is refused. -/
theorem exists_eq_internal {read : Outcome α} (hnot : ¬ ∃ a, read = .ok a)
    (hkind : ∀ e, read = .error e → e.kind = .internal) :
    ∃ detail, read = .error (.internal detail) := by
  cases read with
  | ok a => exact absurd ⟨a, rfl⟩ hnot
  | error e =>
    have he := hkind e rfl
    refine ⟨e.detail, congrArg Except.error ?_⟩
    rw [← Error.toError_kind e, he]
    rfl

theorem users_mapExactly : MapsExactly insertUser UserRow.ofRecord? UserRow.ofUser
    UserRow.toUser UserRow.Readable where
  inserted user := ⟨_, read_insertUser user, UserRow.toUser_eq_ok.mpr rfl⟩
  exact _ _ := UserRow.toUser_eq_ok
  readable _ := UserRow.exists_toUser_eq_ok
  refused _ h := exists_eq_internal (mt UserRow.exists_toUser_eq_ok.mp h)
    fun _ => UserRow.kind_of_toUser_eq_error

theorem roles_mapExactly : MapsExactly insertRole RoleRow.ofRecord? RoleRow.ofRole
    RoleRow.toRole RoleRow.Readable where
  inserted role := ⟨_, read_insertRole role, RoleRow.toRole_eq_ok.mpr rfl⟩
  exact _ _ := RoleRow.toRole_eq_ok
  readable _ := RoleRow.exists_toRole_eq_ok
  refused _ h := exists_eq_internal (mt RoleRow.exists_toRole_eq_ok.mp h)
    fun _ => RoleRow.kind_of_toRole_eq_error

theorem mapM_listsExactly (read : ρ → Outcome α) :
    ListsExactly (fun rows => rows.mapM read) read where
  succeeds _ := Outcome.exists_mapM_eq_ok
  inOrder _ _ := Outcome.mapM_eq_ok
  fails _ _ := Outcome.mapM_eq_error

/-- **Rows are mapped exactly**, those of users and those of roles, one by one and in lists. -/
structure RowsExact : Prop where
  users : MapsExactly insertUser UserRow.ofRecord? UserRow.ofUser UserRow.toUser UserRow.Readable
  roles : MapsExactly insertRole RoleRow.ofRecord? RoleRow.ofRole RoleRow.toRole RoleRow.Readable
  listUsers : ListsExactly (fun rows => reply .listUsers (.rows rows)) UserRow.toUser
  listUsersByStatus :
    ListsExactly (fun rows => reply .listUsersByStatus (.rows rows)) UserRow.toUser
  listRoles : ListsExactly (fun rows => reply .listRoles (.rows rows)) RoleRow.toRole
  listRolesByStatus :
    ListsExactly (fun rows => reply .listRolesByStatus (.rows rows)) RoleRow.toRole

theorem rows_exact : RowsExact where
  users := users_mapExactly
  roles := roles_mapExactly
  listUsers := mapM_listsExactly UserRow.toUser
  listUsersByStatus := mapM_listsExactly UserRow.toUser
  listRoles := mapM_listsExactly RoleRow.toRole
  listRolesByStatus := mapM_listsExactly RoleRow.toRole

/-- A row with one of the four columns of a PIN. -/
def partialPinRow : UserRow := { UserRow.ofUser default with pinLookup := some [] }

/-- One row with a part of a PIN is enough for a list to be refused. -/
theorem rows_exact_partialPin :
    ∃ detail, reply .listUsers (.rows [UserRow.ofUser default, partialPinRow]) =
      .error (.internal detail) := by
  have h := rows_exact
  have hpartial : ¬ partialPinRow.Readable := by
    rintro ⟨⟨hset, -⟩ | ⟨-, -, -, hempty⟩, -⟩
    · cases hset
    · cases hempty
  obtain ⟨detail, hrefused⟩ := h.users.refused _ hpartial
  refine ⟨detail, (h.listUsers.fails _ _).mpr ⟨[UserRow.ofUser default], _, [], rfl, ?_, hrefused⟩⟩
  intro row hrow
  exact ⟨default, (h.users.exact _ _).mpr (List.mem_singleton.mp hrow)⟩

end Database

end Identity
