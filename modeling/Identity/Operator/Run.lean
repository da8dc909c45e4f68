/-
Identity/Operator/Run.lean

The operator program up to its database.

There is no database to connect to, so every job that can be prepared ends
with a storage error: it says what is wrong with the address of the database,
or what stands in the way to it.
-/
import Identity.Database.Address
import Identity.Operator.Environment

namespace Identity

/-- An error as it is shown to an operator: its kind, and its detail in quotes. -/
def Error.describe (e : Error) : String :=
  if e.kind.hasDetail then e.kind.name ++ "(" ++ Text.quoted e.detail ++ ")" else e.kind.name

namespace Operator

/-- What a program leaves behind. -/
structure Exit where
  code : UInt32
  output : String
  errors : String
  deriving DecidableEq, Repr

/-- The error of a connection that has failed for a reason. -/
def unconnected (reason : String) : Error :=
  .storage ("failed to connect to database: " ++ reason)

/-- Why no connection is made to the database that a text names. -/
def obstacle (databaseUrl : String) : String :=
  match Database.Address.parse databaseUrl with
  | .error fault => Database.Address.configuration ++ fault.message
  | .ok address => "error communicating with database: " ++ address.obstacle

/-- Carries out a job. -/
def Job.carryOut (job : Job) : Outcome Unit := .error (unconnected (obstacle job.databaseUrl))

/-- What arguments and environment lead to; only the first argument counts. -/
def perform (arguments : List String) (env : Environment) : Outcome Unit := do
  let command ← Command.parse arguments.head?
  (← Job.prepare command env).carryOut

/-- Runs the program. -/
def run (arguments : List String) (env : Environment) : Exit :=
  match perform arguments env with
  | .ok () => ⟨0, "", ""⟩
  | .error e => ⟨1, "", "Error: " ++ e.describe ++ "\n"⟩

end Operator

end Identity
