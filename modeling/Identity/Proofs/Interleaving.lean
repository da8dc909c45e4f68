/-
Identity/Proofs/Interleaving.lean

Programs that run at the same time on one store.

A *pool* is a store with some programs, and in an *interleaving* one of them
after the other makes its next call, in any order.  The calls are atomic, and
between two calls of a program the others may have changed the store in any way
that their own calls can.

What such a program achieves is said by rely and guarantee:

    p.Meets terms result store

says that `p`, when it goes on from `store` and the others change the store only
as the terms allow, changes it only as the terms oblige it to, and ends with a
result of which `result` holds from then on.  When what each program is obliged
to is allowed to the others, all of them can be run together
(`Interleaving.meets`).
-/
import Identity.Proofs.Operation
import Identity.Proofs.Store.Invariant
import Mathlib.Data.Fintype.Basic
import Mathlib.Logic.Function.Basic

namespace Identity

/-! ### Pools -/

/-- A call and the answer to it. -/
structure Exchange where
  call : Call
  reply : Outcome call.Reply

/-- Programs and the store that they share. -/
structure Pool (ι : Type) (α : ι → Type) where
  programs : ∀ i, Program (α i)
  store : Store

variable {ι : Type} [DecidableEq ι] {α : ι → Type}

namespace Pool

/-- The pool after a call of one program, which goes on with the answer. -/
def answer (pool : Pool ι α) (i : ι) (c : Call) (next : Outcome c.Reply → Program (α i)) :
    Pool ι α where
  programs := Function.update pool.programs i (next (pool.store.respond c).1)
  store := (pool.store.respond c).2

variable (pool : Pool ι α) (c : Call)

@[simp] theorem answer_store (i : ι) (next : Outcome c.Reply → Program (α i)) :
    (pool.answer i c next).store = (pool.store.respond c).2 := rfl

@[simp] theorem answer_self (i : ι) (next : Outcome c.Reply → Program (α i)) :
    (pool.answer i c next).programs i = next (pool.store.respond c).1 :=
  Function.update_self ..

@[simp] theorem answer_of_ne {i j : ι} (h : j ≠ i) (next : Outcome c.Reply → Program (α i)) :
    (pool.answer i c next).programs j = pool.programs j :=
  Function.update_of_ne h ..

end Pool

/-! ### Interleavings -/

/-- **Interleavings** of the programs in a pool: the calls that have been answered so
far, the last one first, and the pool that they lead to. -/
inductive Interleaving (start : Pool ι α) : List (ι × Exchange) → Pool ι α → Prop
  | start : Interleaving start [] start
  | step {log : List (ι × Exchange)} {pool : Pool ι α} {i : ι} {c : Call}
      {next : Outcome c.Reply → Program (α i)} (h : Interleaving start log pool)
      (hnext : pool.programs i = .call c next) :
      Interleaving start ((i, ⟨c, (pool.store.respond c).1⟩) :: log) (pool.answer i c next)

namespace Interleaving

variable {start pool : Pool ι α} {log : List (ι × Exchange)}

/-- The next call of an interleaving, when the answer is known. -/
theorem step_of {i : ι} {c : Call} {next : Outcome c.Reply → Program (α i)}
    {reply : Outcome c.Reply} {store : Store} (h : Interleaving start log pool)
    (hnext : pool.programs i = .call c next) (hr : pool.store.respond c = (reply, store)) :
    Interleaving start ((i, ⟨c, reply⟩) :: log)
      ⟨Function.update pool.programs i (next reply), store⟩ := by
  have hstep := h.step hnext
  rw [Pool.answer, hr] at hstep
  exact hstep

/-- The calls of an interleaving are calls to the store like any others. -/
theorem exists_answered (h : Interleaving start log pool) :
    ∃ calls, pool.store = start.store.answered calls := by
  induction h with
  | start => exact ⟨[], rfl⟩
  | @step log pool i c next h hnext ih =>
    obtain ⟨calls, hcalls⟩ := ih
    refine ⟨calls ++ [c], ?_⟩
    rw [Store.answered, List.foldl_append, Pool.answer, hcalls]
    rfl

theorem sound (h : Interleaving start log pool) (hstart : start.store.Sound) :
    pool.store.Sound := by
  obtain ⟨calls, hcalls⟩ := h.exists_answered
  exact hcalls ▸ hstart.answered calls

/-- An error that a program never raises by itself does not come up in it, whatever calls the
other programs make in between, when no store replies with one. -/
theorem neverRaises {β : ι → Type} {start pool : Pool ι fun i => Outcome (β i) × Entropy}
    {kind : Error.Kind} {i : ι} (h : Interleaving start log pool)
    (hstore : ∀ (store : Store) (c : Call), Outcome.Avoids kind (store.respond c).1)
    (hstart : (start.programs i).NeverRaises kind) : (pool.programs i).NeverRaises kind := by
  induction h with
  | start => exact hstart
  | @step log pool j c next _ hnext ih =>
    by_cases hij : i = j
    · subst hij
      rw [hnext] at ih
      rw [Pool.answer_self]
      exact ih _ (hstore pool.store c)
    · rw [pool.answer_of_ne c hij]
      exact ih

/-! ### Finishing -/

/-- A program can always be run to its end, and ends no other one. -/
theorem finish (h : Interleaving start log pool) (i : ι) :
    ∃ log' pool', Interleaving start log' pool' ∧ (∃ a, pool'.programs i = .done a) ∧
      ∀ j, (∃ a, pool.programs j = .done a) → ∃ a, pool'.programs j = .done a := by
  generalize hp : pool.programs i = p
  induction p generalizing log pool with
  | done a => exact ⟨log, pool, h, ⟨a, hp⟩, fun _ => id⟩
  | call c next ih =>
    obtain ⟨log', pool', h', hdone, hkeeps⟩ := ih _ (h.step hp) (pool.answer_self c i next)
    refine ⟨log', pool', h', hdone, fun j ⟨a, hj⟩ => hkeeps j ⟨a, ?_⟩⟩
    have hne : j ≠ i := by
      rintro rfl
      cases hj.symm.trans hp
    rw [pool.answer_of_ne c hne, hj]

theorem finishAll (h : Interleaving start log pool) (programs : List ι) :
    ∃ log' pool', Interleaving start log' pool' ∧
      (∀ i ∈ programs, ∃ a, pool'.programs i = .done a) ∧
        ∀ j, (∃ a, pool.programs j = .done a) → ∃ a, pool'.programs j = .done a := by
  induction programs generalizing log pool with
  | nil => exact ⟨log, pool, h, nofun, fun _ => id⟩
  | cons i programs ih =>
    obtain ⟨log₁, pool₁, h₁, hdone₁, hkeeps₁⟩ := h.finish i
    obtain ⟨log₂, pool₂, h₂, hdone₂, hkeeps₂⟩ := ih h₁
    refine ⟨log₂, pool₂, h₂, ?_, fun j hj => hkeeps₂ j (hkeeps₁ j hj)⟩
    rw [List.forall_mem_cons]
    exact ⟨hkeeps₂ i hdone₁, hdone₂⟩

/-- Every interleaving of finitely many programs can be continued until all have ended. -/
theorem exists_done [Fintype ι] (h : Interleaving start log pool) :
    ∃ (log' : List (ι × Exchange)) (results : ∀ i, α i) (store : Store),
      Interleaving start log' ⟨fun i => .done (results i), store⟩ := by
  obtain ⟨log', ⟨programs, store⟩, h', hdone, -⟩ := h.finishAll Finset.univ.toList
  choose results hresults using fun i => hdone i (Finset.mem_toList.mpr (Finset.mem_univ i))
  exact ⟨log', results, store, funext hresults ▸ h'⟩

end Interleaving

/-! ### Rely and guarantee -/

/-- The terms on which a program shares a store: how the others may change it between two
calls of the program, and how the program may change it by a call of its own. -/
structure Terms where
  others : Store → Store → Prop
  own : Store → Store → Prop
  refl : ∀ store, others store store
  trans : ∀ {a b c}, others a b → others b c → others a c

namespace Program

variable {β : Type} {terms : Terms} {result : β → Store → Prop} {store later : Store}

/-- The program keeps to the terms when it goes on from a store, and its result holds
from then on. -/
inductive Meets (terms : Terms) (result : β → Store → Prop) : Program β → Store → Prop
  | done {a : β} {store : Store} (h : ∀ later, terms.others store later → result a later) :
      Meets terms result (done a) store
  | call {c : Call} {next : Outcome c.Reply → Program β} {store : Store}
      (own : ∀ later, terms.others store later → terms.own later (later.respond c).2)
      (rest : ∀ later, terms.others store later →
        Meets terms result (next (later.respond c).1) (later.respond c).2) :
      Meets terms result (call c next) store

/-- What the others do does not matter. -/
theorem Meets.stable {p : Program β} (h : p.Meets terms result store)
    (hlater : terms.others store later) : p.Meets terms result later := by
  cases h with
  | done h => exact .done fun after hafter => h after (terms.trans hlater hafter)
  | call own rest =>
    exact .call (fun after hafter => own after (terms.trans hlater hafter))
      fun after hafter => rest after (terms.trans hlater hafter)

/-- What the next call of a program does, and how the program goes on. -/
theorem Meets.answer {c : Call} {next : Outcome c.Reply → Program β}
    (h : (Program.call c next).Meets terms result store) :
    terms.own store (store.respond c).2 ∧
      (next (store.respond c).1).Meets terms result (store.respond c).2 := by
  cases h with
  | call own rest => exact ⟨own store (terms.refl store), rest store (terms.refl store)⟩

theorem Meets.result_of_done {a : β} (h : (Program.done a).Meets terms result store) :
    result a store := by
  cases h with
  | done h => exact h store (terms.refl store)

end Program

namespace Operation

variable {β γ : Type} {terms : Terms} {result : Outcome β → Store → Prop} {store : Store}
variable {entropy : Entropy} {c : Call}

/-- The operation, with these random bytes, keeps to the terms when it starts in a store,
and its result holds from then on. -/
structure Meets (terms : Terms) (result : Outcome β → Store → Prop) (op : Operation β)
    (entropy : Entropy) (store : Store) : Prop where
  program : (op entropy).Meets terms (fun r => result r.1) store

theorem Meets.pure {b : β} (h : ∀ later, terms.others store later → result (.ok b) later) :
    (Pure.pure b : Operation β).Meets terms result entropy store := ⟨.done h⟩

theorem Meets.ofOutcome {outcome : Outcome β}
    (h : ∀ later, terms.others store later → result outcome later) :
    (Operation.ofOutcome outcome).Meets terms result entropy store := ⟨.done h⟩

/-- An outcome that may be a failure, and what comes after it. -/
theorem Meets.ofOutcome_bind {outcome : Outcome γ} {f : γ → Operation β}
    (herror : ∀ e, outcome = .error e → ∀ later, terms.others store later →
      result (.error e) later)
    (hok : ∀ a, outcome = .ok a → (f a).Meets terms result entropy store) :
    (Operation.ofOutcome outcome >>= f).Meets terms result entropy store := by
  cases outcome with
  | error e => exact ⟨.done (herror e rfl)⟩
  | ok a => exact ⟨(hok a rfl).program⟩

/-- Past a condition that ends in an error. -/
theorem Meets.unless {p : Prop} [Decidable p] {e : Error} {f : γ → Operation β}
    {rest : Operation β} (hp : ¬ p) (h : rest.Meets terms result entropy store) :
    (if p then MonadExcept.throw e >>= f else rest).Meets terms result entropy store := by
  rw [if_neg hp]
  exact h

/-- A draw, and what comes after it. -/
theorem Meets.draws_bind {x : Operation γ} {f : γ → Operation β} {P : γ → Entropy → Prop}
    (hx : x.Draws entropy P)
    (hf : ∀ a rest, P a rest → (f a).Meets terms result rest store) :
    (x >>= f).Meets terms result entropy store := by
  obtain ⟨a, rest, hr, hP⟩ := hx
  constructor
  rw [bind_apply hr]
  exact (hf a rest hP).program

/-- A call, and what comes after its answer. -/
theorem Meets.attempt_bind {f : Outcome c.Reply → Operation β}
    (h : ∀ later, terms.others store later → terms.own later (later.respond c).2 ∧
      (f (later.respond c).1).Meets terms result entropy (later.respond c).2) :
    ((Operation.call c).attempt >>= f).Meets terms result entropy store :=
  ⟨.call (fun later hlater => (h later hlater).1) fun later hlater => (h later hlater).2.program⟩

theorem Meets.stable {op : Operation β} {later : Store}
    (h : op.Meets terms result entropy store) (hlater : terms.others store later) :
    op.Meets terms result entropy later := ⟨h.program.stable hlater⟩

/-- A call answers what an attempt at it does. -/
theorem call_eq_attempt (c : Call) :
    Operation.call c = (Operation.call c).attempt >>= Operation.ofOutcome := rfl

end Operation

namespace Interleaving

variable {start pool : Pool ι α} {log : List (ι × Exchange)} {terms : ι → Terms}
variable {result : ∀ i, α i → Store → Prop}

/-- **Programs that allow each other what they do** meet their terms together. -/
theorem meets (h : Interleaving start log pool)
    (hallowed : ∀ i j, i ≠ j → ∀ {a b}, (terms i).own a b → (terms j).others a b)
    (hstart : ∀ i, (start.programs i).Meets (terms i) (result i) start.store) (i : ι) :
    (pool.programs i).Meets (terms i) (result i) pool.store := by
  induction h generalizing i with
  | start => exact hstart i
  | @step log pool j c next h hnext ih =>
    have hmeets := ih j
    rw [hnext] at hmeets
    obtain ⟨hown, hrest⟩ := hmeets.answer
    -- the program that makes the call goes on, and the others allow it
    by_cases hij : i = j
    · subst hij
      rw [Pool.answer_self]
      exact hrest
    · rw [Pool.answer_of_ne _ _ hij]
      exact (ih i).stable (hallowed j i (Ne.symm hij) hown)

/-- What each call is obliged to, the whole interleaving does. -/
theorem changes {change : Store → Store → Prop} (hrefl : ∀ a, change a a)
    (htrans : ∀ {a b c}, change a b → change b c → change a c)
    (h : Interleaving start log pool)
    (hallowed : ∀ i j, i ≠ j → ∀ {a b}, (terms i).own a b → (terms j).others a b)
    (hstart : ∀ i, (start.programs i).Meets (terms i) (result i) start.store)
    (hown : ∀ i, ∀ {a b}, (terms i).own a b → change a b) : change start.store pool.store := by
  induction h with
  | start => exact hrefl start.store
  | @step log pool i c next h hnext ih =>
    have hmeets := h.meets hallowed hstart i
    rw [hnext] at hmeets
    exact htrans ih (hown i hmeets.answer.1)

/-- At the end all results hold. -/
theorem results {results : ∀ i, α i} {store : Store}
    (h : Interleaving start log ⟨fun i => .done (results i), store⟩)
    (hallowed : ∀ i j, i ≠ j → ∀ {a b}, (terms i).own a b → (terms j).others a b)
    (hstart : ∀ i, (start.programs i).Meets (terms i) (result i) start.store) (i : ι) :
    result i (results i) store :=
  (h.meets hallowed hstart i).result_of_done

end Interleaving

end Identity
