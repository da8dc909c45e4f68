/-
Identity/Proofs/Store/Growth.lean

Operations that only add records.

`store.Extends after` says that every table of `after` starts with the one of
`store`.  An operation that is made of others may fail after some of them have
written, so it is not atomic any more; what is left of `Yields` is `Adds`:

    op.Adds store done

says that `op` extends `store`, whether it fails or not, and that `done` relates
what it answers to the store afterwards.  The judgement is about sound stores,
and keeps them sound.

`op.Fails store e` says that `op` can fail with this error.  It is peeled apart
with `Fails.bind`, to learn what the error proves.
-/
import Identity.Proofs.Operation
import Identity.Proofs.Store.Invariant

namespace Identity

/-! ### Stores that grow -/

/-- Records have been added to the tables at their ends, and none has been changed. -/
structure Store.Extends (store after : Store) : Prop where
  users : store.users <+: after.users
  roles : store.roles <+: after.roles
  grants : store.grants <+: after.grants

namespace Store.Extends

variable {store between after : Store}

theorem refl (store : Store) : store.Extends store :=
  ⟨List.prefix_rfl, List.prefix_rfl, List.prefix_rfl⟩

theorem trans (h : store.Extends between) (h' : between.Extends after) : store.Extends after :=
  ⟨h.users.trans h'.users, h.roles.trans h'.roles, h.grants.trans h'.grants⟩

theorem add_user (store : Store) (user : User) :
    store.Extends { store with users := store.users ++ [user] } :=
  ⟨List.prefix_append .., List.prefix_rfl, List.prefix_rfl⟩

theorem add_role (store : Store) (role : Role) :
    store.Extends { store with roles := store.roles ++ [role] } :=
  ⟨List.prefix_rfl, List.prefix_append .., List.prefix_rfl⟩

theorem add_grant (store : Store) (grant : Grant) :
    store.Extends { store with grants := store.grants ++ [grant] } :=
  ⟨List.prefix_rfl, List.prefix_rfl, List.prefix_append ..⟩

end Store.Extends

namespace Operation

variable {α β : Type} {store : Store} {x op : Operation α} {f : α → Operation β}
variable {done P : α → Store → Prop} {next : β → Store → Prop}

/-! ### Failures -/

/-- The operation can fail with this error when it is started in `store`. -/
def Fails (op : Operation α) (store : Store) (e : Error) : Prop :=
  ∃ entropy rest after, op.run entropy store = (.error e, rest, after)

variable {e : Error}

/-- Either a block that reads fails, or what comes after it. -/
theorem Fails.bind {P : α → Prop} (h : (x >>= f).Fails store e)
    (hx : x.Yields store fun a after => after = store ∧ P a) :
    x.Fails store e ∨ ∃ a, P a ∧ (f a).Fails store e := by
  obtain ⟨entropy, rest, after, h⟩ := h
  rw [run_bind] at h
  rcases hr : x.run entropy store with ⟨e' | a, between, mid⟩
  · rw [hr] at h
    cases h
    exact .inl ⟨entropy, rest, after, hr⟩
  · rw [hr] at h
    obtain ⟨rfl, ha⟩ := hx.of_ok hr
    exact .inr ⟨a, ha, between, rest, after, h⟩

theorem Fails.of_ofOutcome {outcome : Outcome α} (h : (ofOutcome outcome).Fails store e) :
    outcome = .error e := by
  obtain ⟨entropy, rest, after, h⟩ := h
  exact congrArg Prod.fst h

theorem Fails.of_call {c : Call} (h : (call c).Fails store e) :
    (store.respond c).1 = .error e := by
  obtain ⟨entropy, rest, after, h⟩ := h
  exact congrArg Prod.fst h

theorem Fails.of_draw {error : Crypto.Fault → Error} {d : Draw α}
    (h : (draw error d).Fails store e) : ∃ fault, error fault = e := by
  obtain ⟨entropy, rest, after, h⟩ := h
  rcases run_draw entropy store error d with ⟨a, rest, -, hr⟩ | ⟨fault, hr⟩
  · cases hr.symm.trans h
  · exact ⟨fault, Except.error.inj (congrArg Prod.fst (hr.symm.trans h))⟩

/-! ### Additions -/

/-- Started in `store`, the operation only adds records, whether it fails or not; `done` relates
what it answers to the store afterwards. -/
structure Adds (op : Operation α) (store : Store) (done : α → Store → Prop) : Prop where
  run : ∀ {entropy rest outcome after}, op.run entropy store = (outcome, rest, after) →
    after.Sound ∧ store.Extends after ∧ ∀ a, outcome = .ok a → done a after

theorem Adds.pure {a : α} (hsound : store.Sound) (h : done a store) :
    (Pure.pure a : Operation α).Adds store done := by
  constructor
  rintro entropy rest outcome after ⟨⟩
  refine ⟨hsound, .refl store, ?_⟩
  rintro _ ⟨⟩
  exact h

theorem Adds.throw (hsound : store.Sound) :
    (MonadExcept.throw e : Operation α).Adds store done := by
  constructor
  rintro entropy rest outcome after ⟨⟩
  exact ⟨hsound, .refl store, nofun⟩

/-- An operation that fails as a whole, and otherwise adds. -/
theorem Yields.adds (h : op.Yields store done) (hsound : store.Sound)
    (hextends : ∀ a after, done a after → store.Extends after) : op.Adds store done := by
  constructor
  intro entropy rest outcome after hr
  have hafter : (op.run entropy store).2.2.Sound := hsound.run (op entropy)
  rw [hr] at hafter
  refine ⟨hafter, ?_⟩
  cases outcome with
  | error e =>
    obtain rfl := h.of_error hr
    exact ⟨.refl after, nofun⟩
  | ok a =>
    refine ⟨hextends a after (h.of_ok hr), ?_⟩
    rintro _ ⟨⟩
    exact h.of_ok hr

theorem Adds.mono {done' : α → Store → Prop} (h : op.Adds store done)
    (himp : ∀ a after, store.Extends after → done a after → done' a after) :
    op.Adds store done' := by
  constructor
  intro entropy rest outcome after hr
  obtain ⟨hsound, hextends, hdone⟩ := h.run hr
  exact ⟨hsound, hextends, fun a ha => himp a after hextends (hdone a ha)⟩

/-- Additions one after the other. -/
theorem Adds.bind (hx : x.Adds store P)
    (hf : ∀ a between, between.Sound → store.Extends between → P a between →
      (f a).Adds between next) : (x >>= f).Adds store next := by
  constructor
  intro entropy rest outcome after hr
  rw [run_bind] at hr
  rcases hfirst : x.run entropy store with ⟨e | a, mid, between⟩
  · rw [hfirst] at hr
    cases hr
    obtain ⟨hsound, hextends, -⟩ := hx.run hfirst
    exact ⟨hsound, hextends, nofun⟩
  · rw [hfirst] at hr
    obtain ⟨hsound, hextends, hdone⟩ := hx.run hfirst
    obtain ⟨hsound', hextends', hdone'⟩ :=
      (hf a between hsound hextends (hdone a rfl)).run hr
    exact ⟨hsound', hextends.trans hextends', hdone'⟩

/-- A block that reads, and what comes after it. -/
theorem Adds.reads_bind {P : α → Prop} (hsound : store.Sound)
    (hx : x.Yields store fun a after => after = store ∧ P a)
    (hf : ∀ a, P a → (f a).Adds store next) : (x >>= f).Adds store next := by
  refine (hx.adds hsound ?_).bind ?_
  · rintro a after ⟨rfl, -⟩
    exact .refl after
  · rintro a between - - ⟨rfl, ha⟩
    exact hf a ha

/-- An attempt at adding one record, and what comes after its success and after its failure. -/
theorem Adds.attempt_bind {f : Outcome α → Operation β} (hsound : store.Sound)
    (hx : x.Yields store done) (hextends : ∀ a after, done a after → store.Extends after)
    (hok : ∀ a between, between.Sound → done a between → (f (.ok a)).Adds between next)
    (herror : ∀ e, x.Fails store e → (f (.error e)).Adds store next) :
    (x.attempt >>= f).Adds store next := by
  constructor
  intro entropy rest outcome after hr
  rw [run_bind, run_attempt] at hr
  rcases hfirst : x.run entropy store with ⟨e | a, mid, between⟩
  · rw [hfirst] at hr
    obtain rfl := hx.of_error hfirst
    exact (herror e ⟨entropy, mid, between, hfirst⟩).run hr
  · rw [hfirst] at hr
    have hdone := hx.of_ok hfirst
    have hbetween := ((hx.adds hsound hextends).run hfirst).1
    obtain ⟨hsound', hextends', hdone'⟩ := (hok a between hbetween hdone).run hr
    exact ⟨hsound', (hextends a between hdone).trans hextends', hdone'⟩

end Operation

end Identity
