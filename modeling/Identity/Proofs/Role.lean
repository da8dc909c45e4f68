/-
Identity/Proofs/Role.lean

Role records in canonical form.

A record is normalized every time that it is stored, but validated only when it
is new or has been edited.  That is enough: normalizing again what has been
normalized changes nothing (`normalized_normalized`), so a record that was
accepted once stays as it is.
-/
import Identity.Proofs.Identifier.Canonical
import Identity.Proofs.Outcome
import Identity.Proofs.Permission
import Identity.Role

namespace Identity

theorem Permission.check_of_parse {text : String} {permission : Permission}
    (h : parse text = .ok permission) : check text = .ok () := by
  unfold parse at h
  split at h
  · assumption
  · cases h

namespace Role

variable {role : Role}

/-- The permissions of a normalized record are trimmed, and each stands there once. -/
theorem dedup_trim_normalized (permissions : List String) :
    Permission.dedup ((Permission.dedup (permissions.map Text.trim)).map Text.trim) =
      Permission.dedup (permissions.map Text.trim) := by
  have htrim : (Permission.dedup (permissions.map Text.trim)).map Text.trim =
      Permission.dedup (permissions.map Text.trim) := by
    refine (List.map_congr_left fun p hp => ?_).trans (List.map_id _)
    obtain ⟨given, -, rfl⟩ := List.mem_map.mp (Permission.mem_dedup.mp hp)
    exact Text.trim_trim given
  rw [htrim]
  exact Permission.dedup_eq_self (Permission.firstOccurrences_dedup _).nodup

theorem normalized_normalized (role : Role) : role.normalized.normalized = role.normalized := by
  unfold normalized
  simp only [RoleName.normalize_normalize, Text.trim_trim, dedup_trim_normalized]

theorem normalized_created (role : Role) (fresh : RoleId) (actor : String) (now : Timestamp) :
    (role.created fresh actor now).normalized = role.created fresh actor now :=
  congrArg (fun record : Role =>
    { record with
      id := if role.id.isNil then fresh else role.id
      createdAt := now
      createdBy := actor
      updatedAt := now
      updatedBy := actor }) role.normalized_normalized

theorem normalized_updated (role : Role) (actor : String) (now : Timestamp) :
    (role.updated actor now).normalized = role.updated actor now :=
  congrArg (fun record : Role => { record with updatedAt := now, updatedBy := actor })
    role.normalized_normalized

/-- Storing a normalized record again, in another state, changes the state and the audit only. -/
theorem updated_of_normalized (h : role.normalized = role) (status : RoleStatus) (actor : String)
    (now : Timestamp) :
    { role with status := status }.updated actor now =
      { role with status := status, updatedAt := now, updatedBy := actor } := by
  have hname : RoleName.normalize role.name = role.name := congrArg Role.name h
  have hdescription : Text.trim role.description = role.description :=
    congrArg Role.description h
  have hpermissions : Permission.dedup (role.permissions.map Text.trim) = role.permissions :=
    congrArg Role.permissions h
  unfold updated normalized
  simp only [hname, hdescription, hpermissions]

/-- The name and the permissions of an accepted record are well formed. -/
theorem wellFormed_of_validate (h : role.validate = .ok ()) :
    RoleName.validate role.name = .ok () ∧
      ∀ permission ∈ role.permissions, Permission.check permission = .ok () := by
  obtain ⟨_, hname, hpermissions⟩ := Outcome.bind_eq_ok.mp h
  refine ⟨hname, fun permission hp => ?_⟩
  have hparse := Outcome.forM_eq_ok.mp hpermissions permission hp
  obtain ⟨parsed, hparse, -⟩ := Outcome.bind_eq_ok.mp hparse
  exact Permission.check_of_parse hparse

end Role

end Identity
