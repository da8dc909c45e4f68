/-
Identity/Program.lean

Programs over a store, and the operations that the services are made of.

A *program* is a tree of calls: it is done, or it makes a call and goes on
with the reply.  It does not run by itself.  `Program.run` answers the calls
one after the other from a store; because the tree shows every call, two
programs can also be run with their calls interleaved.

An *operation* is a program that draws random bytes and may fail.
-/
import Identity.Entropy
import Identity.Store.Tables

namespace Identity

/-! ### Programs -/

/-- A computation that calls a store. -/
inductive Program (α : Type) where
  | done (a : α)
  | call (call : Call) (next : Outcome call.Reply → Program α)

namespace Program

variable {α β γ : Type}

/-- Goes on with the result of a program. -/
def bind : Program α → (α → Program β) → Program β
  | done a, f => f a
  | call c next, f => call c fun reply => (next reply).bind f

instance : Monad Program where
  pure := done
  bind := bind

/-- Binding `done` changes nothing. -/
theorem bind_done (p : Program α) : p.bind done = p := by
  induction p with
  | done a => rfl
  | call c next ih => exact congrArg (call c) (funext ih)

/-- Binding is associative. -/
theorem bind_assoc (p : Program α) (f : α → Program β) (g : β → Program γ) :
    (p.bind f).bind g = p.bind fun a => (f a).bind g := by
  induction p with
  | done a => rfl
  | call c next ih => exact congrArg (call c) (funext ih)

instance : LawfulMonad Program :=
  LawfulMonad.mk' Program bind_done (fun _ _ => rfl) bind_assoc

/-- Answers the calls of a program from a store. -/
def run : Program α → Store → α × Store
  | done a, store => (a, store)
  | call c next, store =>
    let (reply, store) := store.respond c
    (next reply).run store

/-- Running a bound program runs the one and then the other. -/
theorem run_bind (p : Program α) (f : α → Program β) (store : Store) :
    (p >>= f).run store = (f (p.run store).1).run (p.run store).2 := by
  induction p generalizing store with
  | done a => rfl
  | call c next ih => exact ih _ _

end Program

/-! ### Operations -/

/-- A program that draws random bytes and may fail. -/
abbrev Operation (α : Type) := ExceptT Error (StateT Entropy Program) α

namespace Operation

variable {α : Type}

/-- Makes a call, and fails if the call does. -/
def call (c : Call) : Operation c.Reply := fun entropy =>
  .call c fun reply => .done (reply, entropy)

/-- Draws random bytes, and puts a fault of the source into the words of an
error. -/
def draw (error : Crypto.Fault → Error) (d : Draw α) : Operation α := fun entropy =>
  match d entropy with
  | .ok (a, rest) => .done (.ok a, rest)
  | .error fault => .done (.error (error fault), entropy)

/-- Goes on with an outcome. -/
def ofOutcome (outcome : Outcome α) : Operation α := fun entropy => .done (outcome, entropy)

/-- The outcome of an operation, which is then no failure any more. -/
def attempt (operation : Operation α) : Operation (Outcome α) := fun entropy =>
  Program.bind (operation entropy) fun r => .done (.ok r.1, r.2)

/-- Runs an operation on a store. -/
def run (operation : Operation α) (entropy : Entropy) (store : Store) :
    Outcome α × Entropy × Store :=
  let ((outcome, entropy), store) := Program.run (operation entropy) store
  (outcome, entropy, store)

end Operation

end Identity
