/-
Identity/Proofs/Atomicity.lean

Requests that fail change nothing.

An operation makes several calls, and between them it checks, draws and
encrypts, so that it can fail at many places.  Its one write comes last: what
can fail comes before it, or is another attempt at it, which the store has
refused as a whole.  `Yields` says so for each operation, and here it is said
for everything that the two services can be asked.
-/
import Identity.Proofs.Authentication.Pins
import Identity.Proofs.Authorization.Specifications

namespace Identity

open Operation

/-- What can be asked of the services: something about accounts, or a change of roles and
grants. -/
inductive Action where
  | account (request : Authentication.Request)
  | access (change : Authorization.Change)

namespace Action

/-- What an action answers when it does not fail. -/
abbrev Answer : Action → Type
  | account request => request.Answer
  | access change => change.Answer

/-- Performs an action at a time. -/
def perform (service : Settings.Accepted) (now : Timestamp) :
    (action : Action) → Operation action.Answer
  | account request => request.perform service now
  | access change => change.perform

/-- **Failures change nothing**: whatever the store holds, the action asks for and the random
source gives, an action that fails leaves all users, roles and grants as they are. -/
theorem unchanged_of_failed (service : Settings.Accepted) (now : Timestamp) (action : Action)
    {entropy rest : Entropy} {store after : Store} {e : Error}
    (h : (action.perform service now).run entropy store = (.error e, rest, after)) :
    after = store := by
  cases action with
  | account request =>
    exact (Authentication.perform_yields service now request store).of_error h
  | access change => exact (change.perform_yields store).of_error h

end Action

namespace Authentication

/-! ### Five collisions -/

/-- An active user with the given name and PIN, and an address that goes by one byte. -/
def neighbour (byte : UInt8) (username : String) (pin : Option SealedValue) : User where
  id := ⟨Uuid.ofRandomBytes (List.replicate 16 byte)⟩
  username := username
  name := username
  email := ⟨[], [], [], [byte]⟩
  password := ⟨[], []⟩
  pin := pin
  status := .active
  createdAt := .epoch
  createdBy := ""
  updatedAt := .epoch
  updatedBy := ""

/-- Alice has no PIN. -/
def pinless : User := neighbour 1 "alice" none

/-- Bob has the PIN of six zeros. -/
def holder : User :=
  neighbour 2 "bob" (some ⟨[], [], [], lookup plainService.settings "000000"⟩)

/-- Alice and Bob are stored, and nothing else. -/
def crowdedStore : Store := ⟨[pinless, holder], [], []⟩

theorem sound_crowdedStore : crowdedStore.Sound where
  users := by
    refine List.pairwise_pair.mpr ⟨?_, ?_, ?_, ?_⟩
    · decide +kernel
    · decide +kernel
    · decide +kernel
    · nofun
  roles := List.Pairwise.nil
  grants := List.Pairwise.nil
  granted := nofun

theorem taken_crowdedStore : Taken plainService.settings crowdedStore pinless "000000" := by
  refine ⟨holder, by simp [crowdedStore], by decide +kernel, _, rfl, rfl⟩

/-- All five PINs that are drawn for Alice are Bob's, and she is left without one. -/
theorem unchanged_of_failed_crowded : ∃ rest after,
    ((Action.account (.generatePin pinless.id)).perform plainService .epoch).run
        ⟨List.replicate 180 0⟩ crowdedStore = (.error .pinAlreadyInUse, rest, after) ∧
      after = crowdedStore := by
  have hmem : pinless ∈ crowdedStore.users := List.mem_cons_self ..
  have hnames : Named pinless := {
    username := by decide +kernel
    validUsername := by decide +kernel
    name := by decide +kernel
    validName := by decide +kernel }
  have hdrawn : Draw.replicate (List.replicate pinAttempts "000000").length
      (drawnPin plainService.settings) ⟨List.replicate 180 0⟩ =
        .ok (List.replicate pinAttempts "000000", ⟨[]⟩) := rfl
  have htaken : ∀ pin ∈ List.replicate pinAttempts "000000",
      Taken plainService.settings crowdedStore pinless pin := by
    intro pin hpin
    rw [List.eq_of_mem_replicate hpin]
    exact taken_crowdedStore
  have hfails : ((Action.account (.generatePin pinless.id)).perform plainService .epoch).run
      ⟨List.replicate 180 0⟩ crowdedStore = (.error .pinAlreadyInUse, ⟨[]⟩, crowdedStore) := by
    show (generatePin plainService pinless.id .epoch).run _ _ = _
    rw [run_generatePin sound_crowdedStore hmem rfl]
    exact run_storeFreshPin_of_allTaken .epoch 0 sound_crowdedStore hmem hnames hdrawn htaken
  exact ⟨_, _, hfails, Action.unchanged_of_failed plainService .epoch _ hfails⟩

end Authentication

end Identity
