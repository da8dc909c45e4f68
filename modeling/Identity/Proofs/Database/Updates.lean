/-
Identity/Proofs/Database/Updates.lean

What the statements that write records again do to a table.

Such a statement names every column but the identifier and the two that say when
the record was created and by whom.  So it does not leave the record that is
handed in, but this record *created as* its predecessor was:

    UPDATE new  :  old  ↦  new.createdAs old        where the identifiers agree

The columns are computed once for users and once for roles (`update_userRecord`,
`update_roleRecord`), for values that stay variables; what becomes of a whole
table follows from that alone (`updateTable?_map`).
-/
import Identity.Database.Binding

namespace Identity

/-- The record, created as another one was. -/
def User.createdAs (user old : User) : User :=
  { user with createdAt := old.createdAt, createdBy := old.createdBy }

@[inherit_doc User.createdAs]
def Role.createdAs (role old : Role) : Role :=
  { role with createdAt := old.createdAt, createdBy := old.createdBy }

namespace Database

/-- A statement leaves a table of records, when it is known which of them it is meant for and
what it makes of these. -/
theorem updateTable?_map {α : Type} {a : Assignment} {record : α → Record} {meant : α → Prop}
    [DecidablePred meant] {written : α → α} (assigned : Record)
    (hassigned : a.record? = some assigned)
    (hmeant : ∀ old, (record old).lookup "id" = a.value? 1 ↔ meant old)
    (hwritten : ∀ old, meant old → (record old).update assigned = record (written old))
    (table : List α) :
    a.updateTable? (table.map record) =
      some ((table.map fun old => if meant old then written old else old).map record) := by
  rw [Assignment.updateTable?, hassigned]
  refine congrArg some ?_
  rw [List.map_map, List.map_map]
  refine List.map_congr_left fun old _ => ?_
  rw [Function.comp_apply, Function.comp_apply]
  by_cases h : meant old
  · rw [if_pos ((hmeant old).mpr h), if_pos h, hwritten old h]
  · rw [if_neg (mt (hmeant old).mp h), if_neg h]

/-! ### Users -/

/-- The columns of a user, as they are inserted. -/
def userRecord (user : User) : Record := (insertUser user).record?.getD []

/-- The columns of a user that are written again. -/
def userChanges (user : User) : Record := (updateUser user).record?.getD []

/-- What is left are the columns of the new user, created as the old one was. -/
theorem update_userRecord {old new : User} (hid : old.id = new.id) :
    (userRecord old).update (userChanges new) = userRecord (new.createdAs old) := by
  have hrecord : (userRecord old).update (userChanges new) =
      userRecord { new.createdAs old with id := old.id } := rfl
  rw [hrecord, hid]
  rfl

theorem meant_updateUser (old new : User) :
    (userRecord old).lookup "id" = (updateUser new).value? 1 ↔ old.id = new.id := by
  constructor
  · intro h
    exact congrArg UserId.mk (Datum.uuid.inj (Option.some.inj h))
  · intro h
    exact congrArg (fun id : UserId => some (Datum.uuid id.uuid)) h

/-- **Updating a table of users** puts the new user, with the creation of the old one, in the
place of the old one. -/
theorem updateTable?_users (table : List User) (new : User) :
    (updateUser new).updateTable? (table.map userRecord) =
      some ((table.map fun old => if old.id = new.id then new.createdAs old else old).map
        userRecord) :=
  updateTable?_map (userChanges new) rfl (meant_updateUser · new)
    (fun _ => update_userRecord) table

/-! ### Roles -/

/-- The columns of a role, as they are inserted. -/
def roleRecord (role : Role) : Record := (insertRole role).record?.getD []

/-- The columns of a role that are written again. -/
def roleChanges (role : Role) : Record := (updateRole role).record?.getD []

/-- What is left are the columns of the new role, created as the old one was. -/
theorem update_roleRecord {old new : Role} (hid : old.id = new.id) :
    (roleRecord old).update (roleChanges new) = roleRecord (new.createdAs old) := by
  have hrecord : (roleRecord old).update (roleChanges new) =
      roleRecord { new.createdAs old with id := old.id } := rfl
  rw [hrecord, hid]
  rfl

theorem meant_updateRole (old new : Role) :
    (roleRecord old).lookup "id" = (updateRole new).value? 1 ↔ old.id = new.id := by
  constructor
  · intro h
    exact congrArg RoleId.mk (Datum.uuid.inj (Option.some.inj h))
  · intro h
    exact congrArg (fun id : RoleId => some (Datum.uuid id.uuid)) h

/-- **Updating a table of roles** puts the new role, with the creation of the old one, in the
place of the old one. -/
theorem updateTable?_roles (table : List Role) (new : Role) :
    (updateRole new).updateTable? (table.map roleRecord) =
      some ((table.map fun old => if old.id = new.id then new.createdAs old else old).map
        roleRecord) :=
  updateTable?_map (roleChanges new) rfl (meant_updateRole · new)
    (fun _ => update_roleRecord) table

end Database

end Identity
