/-
Identity/Main.lean

The operator program.
-/
import Identity.Operator.Run

open Identity

/-- The values of the variables that the program depends on. -/
def readEnvironment : IO Operator.Environment := do
  let values ← Operator.variableNames.mapM fun name => return (name, ← IO.getEnv name)
  return ⟨fun name => (values.lookup name).join⟩

def main (arguments : List String) : IO UInt32 := do
  let exit := Operator.run arguments (← readEnvironment)
  (← IO.getStdout).putStr exit.output
  (← IO.getStderr).putStr exit.errors
  return exit.code
