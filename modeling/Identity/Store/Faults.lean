/-
Identity/Store/Faults.lean

A store that counts its calls and can be told to fail some of them.

Every method has a queue of verdicts.  A call takes the first verdict of its
method: an error is answered without the store being asked, no error lets the
call through.  A call without a verdict is let through.
-/
import Identity.Program

namespace Identity

/-- A store with verdicts on its next calls and a count of the calls made. -/
structure FaultyStore where
  store : Store
  verdicts : Method → List (Option Error)
  counts : Method → Nat

namespace FaultyStore

/-- A store that lets every call through. -/
def ofStore (store : Store) : FaultyStore := ⟨store, fun _ => [], fun _ => 0⟩

/-- Replaces the verdicts on a method. -/
def setVerdicts (faulty : FaultyStore) (method : Method) (queue : List (Option Error)) :
    FaultyStore :=
  { faulty with verdicts := fun m => if m = method then queue else faulty.verdicts m }

/-- Notes that a method was called. -/
def count (faulty : FaultyStore) (method : Method) : FaultyStore :=
  { faulty with
    counts := fun m => if m = method then faulty.counts m + 1 else faulty.counts m }

/-- Forgets all counts. -/
def resetCounts (faulty : FaultyStore) : FaultyStore := { faulty with counts := fun _ => 0 }

/-- The methods that were called, and how often. -/
def called (faulty : FaultyStore) : List (Method × Nat) :=
  (Method.all.map fun m => (m, faulty.counts m)).filter (·.2 ≠ 0)

/-- Answers a call. -/
def respond (faulty : FaultyStore) (call : Call) : Outcome call.Reply × FaultyStore :=
  let counted := faulty.count call.method
  match faulty.verdicts call.method with
  | some e :: rest => (.error e, counted.setVerdicts call.method rest)
  | queue =>
    let (reply, store) := faulty.store.respond call
    (reply, { counted.setVerdicts call.method queue.tail with store := store })

/-- Answers the calls of a program. -/
def runProgram {α : Type} : Program α → FaultyStore → α × FaultyStore
  | .done a, faulty => (a, faulty)
  | .call c next, faulty =>
    let (reply, faulty) := faulty.respond c
    runProgram (next reply) faulty

/-- Runs an operation. -/
def run {α : Type} (faulty : FaultyStore) (operation : Operation α) (entropy : Entropy) :
    Outcome α × FaultyStore :=
  let ((outcome, _), faulty) := runProgram (operation entropy) faulty
  (outcome, faulty)

end FaultyStore

end Identity
