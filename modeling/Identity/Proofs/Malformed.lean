/-
Identity/Proofs/Malformed.lean

How validation fails.

Every error of a validation names a value that is not well formed, so it is not
taken for a conflict with something that is stored.
-/
import Identity.Authentication.SignUp
import Identity.Authorization.Grants
import Identity.Proofs.Outcome

namespace Identity

/-- The error of a value that is not well formed. -/
inductive Error.Malformed : Error → Prop
  | email (detail : String) : Malformed (.invalidEmail detail)
  | password (detail : String) : Malformed (.invalidPassword detail)
  | username (detail : String) : Malformed (.invalidUsername detail)
  | displayName (detail : String) : Malformed (.invalidDisplayName detail)
  | roleName (detail : String) : Malformed (.invalidRoleName detail)
  | permission (detail : String) : Malformed (.invalidPermission detail)

theorem Permission.malformed_of_parse {text : String} {e : Error}
    (h : discard (parse text) = .error e) : e.Malformed := by
  unfold parse at h
  split at h
  · cases h
  · cases h
    exact .permission _

theorem Role.malformed_of_validate {role : Role} {e : Error} (h : role.validate = .error e) :
    e.Malformed := by
  rcases Outcome.bind_eq_error.mp h with h | ⟨_, -, h⟩
  · obtain ⟨fault, -, rfl⟩ := Outcome.mapError_eq_error.mp h
    exact .roleName _
  · obtain ⟨permission, -, h⟩ := Outcome.of_forM_eq_error h
    exact Permission.malformed_of_parse h

theorem Username.malformed_of_validate {username : String} {e : Error}
    (h : validate username = .error e) : e.Malformed := by
  obtain ⟨fault, -, rfl⟩ := Outcome.mapError_eq_error.mp h
  exact .username _

theorem Authorization.malformed_of_principal {name : String} {e : Error}
    (h : principal name = .error e) : e.Malformed := by
  rcases Outcome.bind_eq_error.mp h with h | ⟨_, -, h⟩
  · exact Username.malformed_of_validate h
  · cases h

theorem Authentication.Registration.malformed_of_validate {r : Registration} {e : Error}
    (h : r.validate = .error e) : e.Malformed := by
  rcases Outcome.bind_eq_error.mp h with h | ⟨_, -, h⟩
  · obtain ⟨fault, -, rfl⟩ := Outcome.mapError_eq_error.mp h
    exact .email _
  rcases Outcome.bind_eq_error.mp h with h | ⟨_, -, h⟩
  · exact Username.malformed_of_validate h
  rcases Outcome.bind_eq_error.mp h with h | ⟨_, -, h⟩
  · obtain ⟨fault, -, rfl⟩ := Outcome.mapError_eq_error.mp h
    exact .displayName _
  · obtain ⟨fault, -, rfl⟩ := Outcome.mapError_eq_error.mp h
    exact .password _

end Identity
