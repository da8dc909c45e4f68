/-
Identity/Proofs/Operation.lean

How operations run.

The first part says what a run of each building block answers.  The second
part is a small logic for what an operation does to a store.  `Yields` is a
judgment about one operation started in one store, whatever random bytes it
draws:

    op.Yields store done

says that `op` either fails and leaves the store as it is, or answers a value
and leaves a store that `done` relates.  So every `Yields` is also a statement
of atomicity.  There is one rule for each building block; a block that only
reads is chained by `Yields.bind`.

`Yields` does not say that an operation ever succeeds.  The third part does:

    op.Succeeds entropy store done

says that `op` answers a value when it is run on these random bytes, and what
`done` relates to it.  An operation that `Draws` succeeds without any call, so it
does that on every store.

The last part is about one kind of error, which an operation `FailsAs` on given
random bytes, or `Avoids` on all of them.  An operation that `NeverRaises` it avoids it
on every store that does not reply with it, also when other programs make calls in
between.
-/
import Identity.Program
import Identity.Proofs.Entropy
import Mathlib.Tactic.Common

namespace Identity

namespace Operation

variable {α β : Type}

/-! ### Runs of the building blocks -/

section Runs

variable (entropy : Entropy) (store : Store)

@[simp] theorem run_pure (a : α) :
    (pure a : Operation α).run entropy store = (.ok a, entropy, store) := rfl

@[simp] theorem run_throw (e : Error) :
    (throw e : Operation α).run entropy store = (.error e, entropy, store) := rfl

@[simp] theorem run_ofOutcome (outcome : Outcome α) :
    (ofOutcome outcome).run entropy store = (outcome, entropy, store) := rfl

@[simp] theorem run_call (c : Call) :
    (call c).run entropy store = ((store.respond c).1, entropy, (store.respond c).2) := rfl

theorem run_bind (x : Operation α) (f : α → Operation β) :
    (x >>= f).run entropy store =
      match x.run entropy store with
      | (.ok a, entropy, store) => (f a).run entropy store
      | (.error e, entropy, store) => (.error e, entropy, store) := by
  have h : Program.run ((x >>= f) entropy) store = _ := Program.run_bind (x entropy) _ store
  unfold run
  rw [h]
  rcases Program.run (x entropy) store with ⟨⟨_ | a, entropy⟩, store⟩
  · rfl
  · rfl

theorem run_attempt (x : Operation α) :
    x.attempt.run entropy store =
      (.ok (x.run entropy store).1, (x.run entropy store).2) := by
  have h : Program.run (x.attempt entropy) store = _ := Program.run_bind (x entropy) _ store
  unfold run
  rw [h]
  rfl

theorem run_draw (error : Crypto.Fault → Error) (d : Draw α) :
    (∃ a rest, d.Gives a ∧ (draw error d).run entropy store = (.ok a, rest, store)) ∨
      ∃ fault, (draw error d).run entropy store = (.error (error fault), entropy, store) := by
  unfold run draw
  rcases h : d entropy with fault | ⟨a, rest⟩
  · exact .inr ⟨fault, rfl⟩
  · exact .inl ⟨a, rest, ⟨entropy, rest, h⟩, rfl⟩

end Runs

section Steps

variable {entropy rest : Entropy} {store after : Store} {x : Operation α} {f : α → Operation β}

theorem run_ofOutcome_of {outcome : Outcome α} {a : α} (h : outcome = .ok a) :
    (ofOutcome outcome).run entropy store = (.ok a, entropy, store) := by
  rw [run_ofOutcome, h]

theorem run_call_of {c : Call} {outcome : Outcome c.Reply}
    (h : store.respond c = (outcome, after)) :
    (call c).run entropy store = (outcome, entropy, after) := by
  rw [run_call, h]

theorem run_draw_of_ok {error : Crypto.Fault → Error} {d : Draw α} {a : α}
    (h : d entropy = .ok (a, rest)) : (draw error d).run entropy store = (.ok a, rest, store) := by
  rw [run, draw, h]
  rfl

theorem run_draw_of_error {error : Crypto.Fault → Error} {d : Draw α} {fault : Crypto.Fault}
    (h : d entropy = .error fault) :
    (draw error d).run entropy store = (.error (error fault), entropy, store) := by
  rw [run, draw, h]
  rfl

/-- Past a block that answers a value. -/
theorem run_bind_of_ok {a : α} (h : x.run entropy store = (.ok a, rest, after)) :
    (x >>= f).run entropy store = (f a).run rest after := by
  rw [run_bind, h]

/-- A block that fails ends the operation. -/
theorem run_bind_of_error {e : Error} (h : x.run entropy store = (.error e, rest, after)) :
    (x >>= f).run entropy store = (.error e, rest, after) := by
  rw [run_bind, h]

/-- Past an attempt, whatever has come of it. -/
theorem run_attempt_bind {f : Outcome α → Operation β} {outcome : Outcome α}
    (h : x.run entropy store = (outcome, rest, after)) :
    (x.attempt >>= f).run entropy store = (f outcome).run rest after := by
  rw [run_bind, run_attempt, h]

end Steps

/-! ### Effects on a store -/

variable {store : Store}

/-- Started in `store`, the operation fails and leaves the store as it is, or
answers a value and leaves a store that `done` relates. -/
structure Yields (op : Operation α) (store : Store) (done : α → Store → Prop) : Prop where
  run : ∀ entropy, match op.run entropy store with
    | (.ok a, _, after) => done a after
    | (.error _, _, after) => after = store

variable {op x : Operation α} {f : α → Operation β} {done done' : α → Store → Prop}
variable {next : β → Store → Prop}

/-- What a run that answers a value has done. -/
theorem Yields.of_ok (h : op.Yields store done) {entropy rest : Entropy} {a : α} {after : Store}
    (hr : op.run entropy store = (.ok a, rest, after)) : done a after := by
  have h := h.run entropy
  rw [hr] at h
  exact h

/-- A run that fails has done nothing. -/
theorem Yields.of_error (h : op.Yields store done) {entropy rest : Entropy} {e : Error}
    {after : Store} (hr : op.run entropy store = (.error e, rest, after)) : after = store := by
  have h := h.run entropy
  rw [hr] at h
  exact h

theorem Yields.mono (h : op.Yields store done) (himp : ∀ a after, done a after → done' a after) :
    op.Yields store done' := by
  refine ⟨fun entropy => ?_⟩
  rcases hr : op.run entropy store with ⟨_ | a, rest, after⟩
  · exact h.of_error hr
  · exact himp a after (h.of_ok hr)

theorem Yields.pure {a : α} (h : done a store) : (Pure.pure a : Operation α).Yields store done :=
  ⟨fun _ => h⟩

theorem Yields.throw {e : Error} : (MonadExcept.throw e : Operation α).Yields store done :=
  ⟨fun _ => rfl⟩

theorem Yields.ofOutcome {outcome : Outcome α} (h : ∀ a, outcome = .ok a → done a store) :
    (Operation.ofOutcome outcome).Yields store done := by
  refine ⟨fun entropy => ?_⟩
  cases outcome with
  | error e => rfl
  | ok a => exact h a rfl

theorem Yields.draw {error : Crypto.Fault → Error} {d : Draw α}
    (h : ∀ a, d.Gives a → done a store) : (Operation.draw error d).Yields store done := by
  refine ⟨fun entropy => ?_⟩
  rcases run_draw entropy store error d with ⟨a, rest, ha, hr⟩ | ⟨fault, hr⟩
  · rw [hr]
    exact h a ha
  · rw [hr]

/-- A block that reads, and what comes after it. -/
theorem Yields.bind {P : α → Prop} (hx : x.Yields store fun a after => after = store ∧ P a)
    (hf : ∀ a, P a → (f a).Yields store next) : (x >>= f).Yields store next := by
  refine ⟨fun entropy => ?_⟩
  rw [run_bind]
  rcases hr : x.run entropy store with ⟨_ | a, rest, after⟩
  · exact hx.of_error hr
  -- the first block has not written, so the rest may still fail
  · obtain ⟨rfl, ha⟩ := hx.of_ok hr
    exact (hf a ha).run rest

/-- A failed call has not changed the store. -/
theorem respond_error {c : Call} {e : Error} {after : Store}
    (h : store.respond c = (.error e, after)) : after = store := by
  have hchanged : ∀ {γ : Type} {outcome : Outcome (γ × Store)},
      store.changed outcome = (.error e, after) → after = store := by
    rintro γ (e' | ⟨a, s⟩) h
    · exact (congrArg Prod.snd h).symm
    · cases congrArg Prod.fst h
  cases c
  case createUser | updateUser | deleteUser | createRole | updateRole | deleteRole | createGrant |
      deleteGrant => exact hchanged h
  all_goals exact (congrArg Prod.snd h).symm

theorem Yields.call {c : Call} {done : c.Reply → Store → Prop}
    (h : ∀ a after, store.respond c = (.ok a, after) → done a after) :
    (Operation.call c).Yields store done := by
  refine ⟨fun entropy => ?_⟩
  rw [run_call]
  rcases hr : store.respond c with ⟨_ | a, after⟩
  · exact respond_error hr
  · exact h a after hr

/-- An attempt whose success ends the operation, and what comes after a failure. -/
theorem Yields.attempt_bind {f : Outcome α → Operation β} (g : α → β)
    (hx : x.Yields store done) (hok : ∀ a, f (.ok a) = Pure.pure (g a))
    (hnext : ∀ a after, done a after → next (g a) after)
    (herror : ∀ e, (f (.error e)).Yields store next) : (x.attempt >>= f).Yields store next := by
  refine ⟨fun entropy => ?_⟩
  rw [run_bind, run_attempt]
  rcases hr : x.run entropy store with ⟨e | a, rest, after⟩
  · obtain rfl := hx.of_error hr
    exact (herror e).run rest
  -- what has been written stays, because nothing that can fail comes after it
  · have h := hnext a after (hx.of_ok hr)
    simp only [hok, run_pure]
    exact h

/-- A condition that ends in an error, and what comes after it. -/
theorem Yields.unless {c : Prop} [Decidable c] {e : Error} {rest : Operation β}
    (h : ¬ c → rest.Yields store next) :
    (if c then MonadExcept.throw e >>= f else rest).Yields store next := by
  split_ifs with hc
  · exact ⟨fun _ => rfl⟩
  · exact h hc

/-! ### Success -/

/-- Run on `entropy` in `store`, the operation answers a value; `done` relates it
to the random bytes that are left and to the store afterwards. -/
def Succeeds (op : Operation α) (entropy : Entropy) (store : Store)
    (done : α → Entropy → Store → Prop) : Prop :=
  ∃ a rest after, op.run entropy store = (.ok a, rest, after) ∧ done a rest after

section Success

variable {entropy : Entropy} {after : Store} {a : α}
variable {P done : α → Entropy → Store → Prop} {next : β → Entropy → Store → Prop}

theorem Succeeds.pure (h : done a entropy store) :
    (Pure.pure a : Operation α).Succeeds entropy store done :=
  ⟨a, entropy, store, rfl, h⟩

theorem Succeeds.ofOutcome {outcome : Outcome α} (h : outcome = .ok a)
    (hdone : done a entropy store) : (Operation.ofOutcome outcome).Succeeds entropy store done :=
  ⟨a, entropy, store, by rw [run_ofOutcome, h], hdone⟩

theorem Succeeds.call {c : Call} {a : c.Reply} {done : c.Reply → Entropy → Store → Prop}
    (h : store.respond c = (.ok a, after)) (hdone : done a entropy after) :
    (Operation.call c).Succeeds entropy store done :=
  ⟨a, entropy, after, by rw [run_call, h], hdone⟩

theorem Succeeds.bind (hx : x.Succeeds entropy store P)
    (hf : ∀ a rest after, P a rest after → (f a).Succeeds rest after next) :
    (x >>= f).Succeeds entropy store next := by
  obtain ⟨a, rest, after, hr, hP⟩ := hx
  obtain ⟨b, rest', after', hr', hnext⟩ := hf a rest after hP
  refine ⟨b, rest', after', ?_, hnext⟩
  rw [run_bind, hr]
  exact hr'

theorem Succeeds.mono {done' : α → Entropy → Store → Prop} (h : op.Succeeds entropy store done)
    (himp : ∀ a rest after, done a rest after → done' a rest after) :
    op.Succeeds entropy store done' := by
  obtain ⟨a, rest, after, hr, hdone⟩ := h
  exact ⟨a, rest, after, hr, himp a rest after hdone⟩

/-- A run that succeeds has done what the operation yields. -/
theorem Succeeds.and_yields {effect : α → Store → Prop} (hop : op.Succeeds entropy store done)
    (h : op.Yields store effect) :
    op.Succeeds entropy store fun a rest after => done a rest after ∧ effect a after := by
  obtain ⟨a, rest, after, hr, hdone⟩ := hop
  exact ⟨a, rest, after, hr, hdone, h.of_ok hr⟩

end Success

/-! ### Draws -/

/-- The operation makes no call, and answers a value on these random bytes; `done`
relates it to those that are left. -/
def Draws (op : Operation α) (entropy : Entropy) (done : α → Entropy → Prop) : Prop :=
  ∃ a rest, op entropy = .done (.ok a, rest) ∧ done a rest

section Draws

variable {entropy rest : Entropy} {a : α} {P : α → Entropy → Prop} {next : β → Entropy → Prop}

theorem Draws.pure (h : P a entropy) : (Pure.pure a : Operation α).Draws entropy P :=
  ⟨a, entropy, rfl, h⟩

theorem Draws.ofOutcome {outcome : Outcome α} (h : outcome = .ok a) (hdone : P a entropy) :
    (Operation.ofOutcome outcome).Draws entropy P :=
  ⟨a, entropy, by rw [Operation.ofOutcome, h], hdone⟩

theorem Draws.draw {error : Crypto.Fault → Error} {d : Draw α} (h : d entropy = .ok (a, rest))
    (hdone : P a rest) : (Operation.draw error d).Draws entropy P :=
  ⟨a, rest, by rw [Operation.draw, h], hdone⟩

/-- What comes after a draw goes on with its value. -/
theorem bind_apply (h : x entropy = .done (.ok a, rest)) : (x >>= f) entropy = f a rest := by
  show Program.bind (x entropy) _ = f a rest
  rw [h]
  rfl

theorem Draws.bind (hx : x.Draws entropy P) (hf : ∀ a rest, P a rest → (f a).Draws rest next) :
    (x >>= f).Draws entropy next := by
  obtain ⟨a, rest, hr, hP⟩ := hx
  obtain ⟨b, rest', hr', hnext⟩ := hf a rest hP
  exact ⟨b, rest', (bind_apply hr).trans hr', hnext⟩

/-- A draw succeeds on every store, and leaves it as it is. -/
theorem Draws.succeeds (h : op.Draws entropy P) :
    op.Succeeds entropy store fun a rest after => P a rest ∧ after = store := by
  obtain ⟨a, rest, hr, hP⟩ := h
  exact ⟨a, rest, store, by rw [run, hr]; rfl, hP, rfl⟩

/-- What a draw answers is what the operation yields. -/
theorem Draws.and_yields {Q : α → Prop} (h : op.Draws entropy P)
    (hy : op.Yields store fun a after => after = store ∧ Q a) :
    op.Draws entropy fun a rest => P a rest ∧ Q a := by
  obtain ⟨a, rest, hr, hP⟩ := h
  have hrun : op.run entropy store = (.ok a, rest, store) := by
    rw [run, hr]
    rfl
  exact ⟨a, rest, hr, hP, (hy.of_ok hrun).2⟩

end Draws

/-! ### Failures of one kind -/

/-- Run on `entropy` in `store`, the operation fails with an error of this kind. -/
def FailsAs (op : Operation α) (kind : Error.Kind) (entropy : Entropy) (store : Store) : Prop :=
  ∃ e rest after, op.run entropy store = (.error e, rest, after) ∧ e.kind = kind

/-- The operation never fails with an error of this kind. -/
def Avoids (op : Operation α) (kind : Error.Kind) : Prop :=
  ∀ entropy store, ¬ op.FailsAs kind entropy store

section Kinds

variable {entropy rest : Entropy} {after : Store} {kind : Error.Kind} {a : α} {e : Error}

theorem failsAs_of_error (h : op.run entropy store = (.error e, rest, after)) :
    op.FailsAs kind entropy store ↔ e.kind = kind := by
  constructor
  · rintro ⟨found, _, _, hfound, hkind⟩
    rw [h] at hfound
    cases hfound
    exact hkind
  · exact fun hkind => ⟨e, rest, after, h, hkind⟩

theorem not_failsAs_of_ok (h : op.run entropy store = (.ok a, rest, after)) :
    ¬ op.FailsAs kind entropy store := by
  rintro ⟨e, _, _, hfound, -⟩
  rw [h] at hfound
  cases hfound

theorem failsAs_ofOutcome {outcome : Outcome α} :
    (ofOutcome outcome).FailsAs kind entropy store ↔ ∃ e, outcome = .error e ∧ e.kind = kind := by
  cases outcome with
  | error e => simp [failsAs_of_error (run_ofOutcome entropy store _)]
  | ok a => simp [not_failsAs_of_ok (run_ofOutcome entropy store _)]

/-- Past a block that answers a value. -/
theorem failsAs_bind_of_ok (h : x.run entropy store = (.ok a, rest, after)) :
    (x >>= f).FailsAs kind entropy store ↔ (f a).FailsAs kind rest after := by
  rw [FailsAs, run_bind_of_ok h, FailsAs]

/-- A block that fails ends the operation. -/
theorem failsAs_bind_of_error (h : x.run entropy store = (.error e, rest, after)) :
    (x >>= f).FailsAs kind entropy store ↔ e.kind = kind :=
  failsAs_of_error (run_bind_of_error h)

/-- A block whose failure is all that can come of this kind. -/
theorem failsAs_bind_of_avoids (hf : ∀ a, (f a).Avoids kind) :
    (x >>= f).FailsAs kind entropy store ↔ x.FailsAs kind entropy store := by
  rcases hr : x.run entropy store with ⟨e | a, rest, after⟩
  · rw [failsAs_bind_of_error hr, failsAs_of_error hr]
  · rw [failsAs_bind_of_ok hr]
    exact iff_of_false (hf a rest after) (not_failsAs_of_ok hr)

end Kinds

/-! ### Errors that are not an operation's own -/

end Operation

/-- The outcome is no error of this kind. -/
def Outcome.Avoids {α : Type} (kind : Error.Kind) (outcome : Outcome α) : Prop :=
  ∀ e, outcome = .error e → e.kind ≠ kind

/-- The program ends in an error of this kind only if a call has been replied to with one. -/
def Program.NeverRaises {α : Type} (kind : Error.Kind) :
    Program (Outcome α × Entropy) → Prop
  | .done r => Outcome.Avoids kind r.1
  | .call c next => ∀ reply : Outcome c.Reply, Outcome.Avoids kind reply →
      NeverRaises kind (next reply)

section NeverRaises

variable {α β : Type} {kind : Error.Kind}

theorem Program.NeverRaises.bind {p : Program (Outcome α × Entropy)}
    {f : Outcome α × Entropy → Program (Outcome β × Entropy)} (hp : p.NeverRaises kind)
    (hf : ∀ r, Outcome.Avoids kind r.1 → (f r).NeverRaises kind) :
    (p.bind f).NeverRaises kind := by
  induction p with
  | done r => exact hf r hp
  | call c next ih => exact fun reply hreply => ih reply (hp reply hreply)

theorem Program.NeverRaises.run {p : Program (Outcome α × Entropy)} (hp : p.NeverRaises kind)
    (hstore : ∀ (store : Store) (c : Call), Outcome.Avoids kind (store.respond c).1)
    (store : Store) : Outcome.Avoids kind (p.run store).1.1 := by
  induction p generalizing store with
  | done r => exact hp
  | call c next ih => exact ih _ (hp _ (hstore store c)) _

namespace Operation

/-- Whatever random bytes it is run on, the operation fails with an error of this kind only
if a call has been replied to with one. -/
def NeverRaises (op : Operation α) (kind : Error.Kind) : Prop :=
  ∀ entropy, (op entropy).NeverRaises kind

variable {op x : Operation α} {f : α → Operation β} {a : α} {e : Error}

/-- No store replies with an error that the operation could only hand on. -/
theorem NeverRaises.avoids (h : op.NeverRaises kind)
    (hstore : ∀ (store : Store) (c : Call), Outcome.Avoids kind (store.respond c).1) :
    op.Avoids kind := by
  rintro entropy store ⟨e, rest, after, hr, hkind⟩
  exact (h entropy).run hstore store e (congrArg Prod.fst hr) hkind

theorem NeverRaises.bind (hx : x.NeverRaises kind) (hf : ∀ a, (f a).NeverRaises kind) :
    (x >>= f).NeverRaises kind := by
  refine fun entropy => (hx entropy).bind ?_
  rintro ⟨e | a, rest⟩ h
  · exact fun e' he' => h e' (congrArg Except.error (Except.error.inj he'))
  · exact hf a rest

theorem NeverRaises.pure : (Pure.pure a : Operation α).NeverRaises kind := fun _ => nofun

theorem NeverRaises.throw (h : e.kind ≠ kind) :
    (MonadExcept.throw e : Operation α).NeverRaises kind := by
  rintro entropy _ ⟨⟩
  exact h

theorem NeverRaises.ofOutcome {outcome : Outcome α} (h : Outcome.Avoids kind outcome) :
    (Operation.ofOutcome outcome).NeverRaises kind :=
  fun _ => h

theorem NeverRaises.call {c : Call} : (Operation.call c).NeverRaises kind := fun _ _ h => h

theorem NeverRaises.draw {error : Crypto.Fault → Error} {d : Draw α}
    (h : ∀ fault, (error fault).kind ≠ kind) : (Operation.draw error d).NeverRaises kind := by
  intro entropy
  unfold Operation.draw
  cases d entropy with
  | error fault =>
    rintro _ ⟨⟩
    exact h fault
  | ok r => exact nofun

/-- A draw, and what comes after everything that it can give. -/
theorem NeverRaises.draw_bind {error : Crypto.Fault → Error} {d : Draw α}
    (h : ∀ fault, (error fault).kind ≠ kind) (hf : ∀ a, d.Gives a → (f a).NeverRaises kind) :
    (Operation.draw error d >>= f).NeverRaises kind := by
  intro entropy
  cases hd : d entropy with
  | error fault =>
    have hrun : (Operation.draw error d >>= f) entropy = .done (.error (error fault), entropy) := by
      show Program.bind (Operation.draw error d entropy) _ = _
      rw [Operation.draw, hd]
      rfl
    rw [hrun]
    rintro _ ⟨⟩
    exact h fault
  | ok r =>
    have hdrawn : Operation.draw error d entropy = .done (.ok r.1, r.2) := by
      rw [Operation.draw, hd]
    rw [bind_apply hdrawn]
    exact hf r.1 ⟨entropy, r.2, hd⟩ r.2

/-- A condition that ends in an error, and what comes after it. -/
theorem NeverRaises.unless {c : Prop} [Decidable c] {rest : Operation β} (he : e.kind ≠ kind)
    (h : rest.NeverRaises kind) :
    (if c then MonadExcept.throw e >>= f else rest).NeverRaises kind := by
  split_ifs
  · rintro entropy _ ⟨⟩
    exact he
  · exact h

/-- An attempt, and what comes after each of its outcomes. -/
theorem NeverRaises.attempt_bind {f : Outcome α → Operation β} (hx : x.NeverRaises kind)
    (hf : ∀ outcome, Outcome.Avoids kind outcome → (f outcome).NeverRaises kind) :
    (x.attempt >>= f).NeverRaises kind := by
  intro entropy
  show ((Program.bind (x entropy) _).bind _).NeverRaises kind
  rw [Program.bind_assoc]
  exact (hx entropy).bind fun r h => hf r.1 h r.2

end Operation

end NeverRaises

end Identity
