/-
Identity/Proofs/Authorization/Reachable.lean

The stores that the authorization service can lead to.

A `Change` is a request that may write a role or a grant, as data.  A store
is `Reachable` when some changes lead to it from the empty store; each may
succeed or fail, and each draws random bytes of its own.
-/
import Identity.Authorization.Decision
import Identity.Authorization.Grants
import Identity.Authorization.Roles
import Identity.Proofs.Store.Invariant

namespace Identity.Authorization

/-- What the authorization service can be asked to change. -/
inductive Change where
  | createRole (draft : RoleDraft) (actor : String) (now : Timestamp)
  | updateRole (role : Role) (actor : String) (now : Timestamp)
  | activateRole (id : RoleId) (actor : String) (now : Timestamp)
  | deactivateRole (id : RoleId) (actor : String) (now : Timestamp)
  | deleteRole (id : RoleId)
  | assignRole (name : String) (roleId : RoleId) (actor : String) (now : Timestamp)
  | revokeRole (name : String) (roleId : RoleId)

namespace Change

/-- What a change answers when it does not fail. -/
abbrev Answer : Change → Type
  | createRole .. | updateRole .. | activateRole .. | deactivateRole .. => Role
  | assignRole .. => Grant
  | deleteRole .. | revokeRole .. => Unit

/-- Carries out a change. -/
def perform : (change : Change) → Operation change.Answer
  | createRole draft actor now => Authorization.createRole draft actor now
  | updateRole role actor now => Authorization.updateRole role actor now
  | activateRole id actor now => Authorization.activateRole id actor now
  | deactivateRole id actor now => Authorization.deactivateRole id actor now
  | deleteRole id => Authorization.deleteRole id
  | assignRole name roleId actor now => Authorization.assignRole name roleId actor now
  | revokeRole name roleId => Authorization.revokeRole name roleId

end Change

/-- Some changes lead from the empty store to this one. -/
inductive Reachable : Store → Prop
  | empty : Reachable .empty
  | change {store : Store} (h : Reachable store) (change : Change) (entropy : Entropy) :
      Reachable (change.perform.run entropy store).2.2

/-- The store after some changes, first to last, each with its random bytes. -/
def changed (store : Store) (changes : List (Change × Entropy)) : Store :=
  changes.foldl (fun store c => (c.1.perform.run c.2 store).2.2) store

theorem Reachable.changed {store : Store} (h : Reachable store)
    (changes : List (Change × Entropy)) : Reachable (changed store changes) := by
  induction changes generalizing store with
  | nil => exact h
  | cons c changes ih => exact ih (h.change c.1 c.2)

theorem Reachable.sound {store : Store} (h : Reachable store) : store.Sound := by
  induction h with
  | empty => exact Store.sound_empty
  | change _ change entropy ih => exact ih.run (change.perform entropy)

end Identity.Authorization
