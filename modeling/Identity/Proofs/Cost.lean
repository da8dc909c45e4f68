/-
Identity/Proofs/Cost.lean

What it costs to be refused.

An operation that asks the store for something new draws an identifier for it
beforehand.  So also when the store refuses it, it takes random bytes off the
tape, and it fails in another way if there are none.  The judgement

    op.Costs store cost outcome

says that `op` changes nothing, and that it has this outcome and takes `cost`
bytes off the tape whenever there are as many.
-/
import Identity.Authentication.Secrets
import Identity.Proofs.Operation

namespace Identity

namespace Authentication

open Operation

variable {entropy : Entropy}

/-- The error of an identifier that cannot be drawn. -/
def unidentified : Error :=
  .internal ("failed to generate id: " ++ Draw.exhausted.message)

theorem run_freshUuid (h : 16 ≤ entropy.tape.length) (store : Store) :
    freshUuid.run entropy store =
      (.ok (Uuid.ofRandomBytes (entropy.tape.take 16)), ⟨entropy.tape.drop 16⟩, store) :=
  run_draw_of_ok (Draw.uuid_eq_ok h)

theorem run_freshUuid_of_short (h : entropy.tape.length < 16) (store : Store) :
    freshUuid.run entropy store = (.error unidentified, entropy, store) :=
  run_draw_of_error (Draw.uuid_eq_error h)

end Authentication

namespace Operation

open Authentication

variable {α β : Type} {store : Store} {op x : Operation α} {f : α → Operation β} {a : α}
variable {cost more : Nat} {outcome : Outcome β}

/-- The operation changes nothing.  On enough random bytes it has this outcome, and takes `cost` of
them; on fewer it fails for want of an identifier. -/
structure Costs (op : Operation α) (store : Store) (cost : Nat) (outcome : Outcome α) : Prop where
  enough : ∀ entropy : Entropy, cost ≤ entropy.tape.length →
    op.run entropy store = (outcome, ⟨entropy.tape.drop cost⟩, store)
  short : ∀ entropy : Entropy, entropy.tape.length < cost →
    ∃ rest, op.run entropy store = (.error unidentified, rest, store)

/-- An operation that draws nothing. -/
theorem Costs.free {outcome : Outcome α}
    (h : ∀ entropy, op.run entropy store = (outcome, entropy, store)) :
    op.Costs store 0 outcome where
  enough entropy _ := h entropy
  short _ hshort := absurd hshort (Nat.not_lt_zero _)

/-- The price of two operations, one after the other. -/
theorem Costs.bind (hx : x.Costs store cost (.ok a)) (hf : (f a).Costs store more outcome) :
    (x >>= f).Costs store (cost + more) outcome where
  enough entropy h := by
    have hmore : more ≤ (entropy.tape.drop cost).length := by
      rw [List.length_drop]
      exact Nat.le_sub_of_add_le' h
    have hfirst := hx.enough entropy (Nat.le_of_add_right_le h)
    have hsecond := hf.enough ⟨entropy.tape.drop cost⟩ hmore
    rw [run_bind_of_ok hfirst, hsecond, List.drop_drop]
  short entropy h := by
    by_cases hcost : cost ≤ entropy.tape.length
    -- the bytes give out in the second operation
    · have hmore : (entropy.tape.drop cost).length < more := by
        rw [List.length_drop]
        omega
      obtain ⟨rest, hsecond⟩ := hf.short ⟨entropy.tape.drop cost⟩ hmore
      exact ⟨rest, (run_bind_of_ok (hx.enough entropy hcost)).trans hsecond⟩
    · obtain ⟨rest, hfirst⟩ := hx.short entropy (Nat.lt_of_not_le hcost)
      exact ⟨rest, run_bind_of_error hfirst⟩

/-- A block that draws nothing, and what comes after it. -/
theorem Costs.free_bind (hx : ∀ entropy, x.run entropy store = (.ok a, entropy, store))
    (hf : (f a).Costs store cost outcome) : (x >>= f).Costs store cost outcome :=
  Nat.zero_add cost ▸ (Costs.free hx).bind hf

/-- An attempt that is refused, and what comes after it. -/
theorem Costs.attempt_bind {f : Outcome α → Operation β} {e : Error}
    (hx : x.Costs store cost (.error e)) (hf : (f (.error e)).Costs store 0 outcome)
    (hthrow : f (.error unidentified) = throw unidentified) :
    (x.attempt >>= f).Costs store cost outcome where
  enough entropy h :=
    (run_attempt_bind (hx.enough entropy h)).trans (hf.enough _ (Nat.zero_le _))
  short entropy h := by
    obtain ⟨rest, hfirst⟩ := hx.short entropy h
    exact ⟨rest, (run_attempt_bind hfirst).trans (by rw [hthrow, run_throw])⟩

/-- Drawing an identifier, whatever it is needed for. -/
theorem Costs.freshUuid_bind {f : Uuid → Operation β}
    (hf : ∀ fresh, (f fresh).Costs store 0 outcome) :
    (freshUuid >>= f).Costs store 16 outcome where
  enough _ h := (run_bind_of_ok (run_freshUuid h store)).trans ((hf _).enough _ (Nat.zero_le _))
  short entropy h := ⟨entropy, run_bind_of_error (run_freshUuid_of_short h store)⟩

end Operation

end Identity
