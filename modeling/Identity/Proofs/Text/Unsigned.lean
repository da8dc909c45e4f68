/-
Identity/Proofs/Text/Unsigned.lean

What the reader of unsigned numbers accepts.

The reader gives up at the first digit with which the number is too large.
Further digits never make it smaller (`le_ofDigitChars`), so it gives up exactly
on the texts whose number is too large.
-/
import Identity.Proofs.Outcome
import Identity.Text.Unsigned
import Mathlib.Tactic.Common

namespace Identity.Unsigned

variable {bound n m : Nat} {cs : List Char}

theorem le_ofDigitChars (cs : List Char) (n : Nat) : n ≤ Nat.ofDigitChars 10 cs n := by
  induction cs generalizing n with
  | nil => exact Nat.le_refl n
  | cons c cs ih =>
    rw [Nat.ofDigitChars_cons]
    exact Nat.le_trans (by omega) (ih _)

/-- Digits are read as their number when it is below the bound. -/
theorem digits_eq_ok (hn : n < bound) : digits bound n cs = .ok m ↔
    (∀ c ∈ cs, c.isDigit = true) ∧ Nat.ofDigitChars 10 cs n = m ∧ m < bound := by
  induction cs generalizing n with
  | nil =>
    rw [digits, Nat.ofDigitChars_nil, Except.ok.injEq]
    constructor
    · rintro rfl
      exact ⟨nofun, rfl, hn⟩
    · exact fun h => h.2.1
  | cons c cs ih =>
    have hnext : 10 * n + (c.toNat - '0'.toNat) = n * 10 + (c.toNat - 48) := by
      rw [Nat.mul_comm]
      rfl
    rw [digits, Nat.ofDigitChars_cons, hnext, List.forall_mem_cons]
    split_ifs with hdigit hlarge
    · exact iff_of_false nofun fun h => by simp [h.1.1] at hdigit
    -- the number has already become too large
    · refine iff_of_false nofun ?_
      rintro ⟨-, rfl, hlt⟩
      exact absurd (Nat.le_trans hlarge (le_ofDigitChars cs _)) (Nat.not_le.mpr hlt)
    · have hc : c.isDigit = true := by simpa using hdigit
      rw [ih (Nat.not_le.mp hlarge), and_iff_right hc]

/-- The characters are some decimal digits, perhaps after a plus sign, and `n` is their
number. -/
def Denotes (cs : List Char) (n : Nat) : Prop :=
  ∃ ds : List Char, (cs = ds ∨ cs = '+' :: ds) ∧ ds ≠ [] ∧ (∀ c ∈ ds, c.isDigit = true) ∧
    Nat.ofDigitChars 10 ds 0 = n

/-- **What is read as a number** denotes it, and the number is below the bound. -/
theorem parseChars_eq_ok (hbound : 0 < bound) :
    parseChars bound cs = .ok n ↔ Denotes cs n ∧ n < bound := by
  unfold parseChars
  split
  · refine iff_of_false nofun ?_
    rintro ⟨⟨ds, rfl | h, hne, -⟩, -⟩
    · exact hne rfl
    · cases h
  · refine iff_of_false nofun ?_
    rintro ⟨⟨ds, rfl | h, hne, hdigits, -⟩, -⟩
    · exact absurd (hdigits '+' (List.mem_singleton_self _)) (by decide)
    · cases h
      exact hne rfl
  · next cs hne =>
    rw [digits_eq_ok hbound]
    constructor
    · rintro ⟨hdigits, rfl, hlt⟩
      exact ⟨⟨cs, .inr rfl, hne, hdigits, rfl⟩, hlt⟩
    · rintro ⟨⟨ds, rfl | h, -, hdigits, hn⟩, hlt⟩
      · exact absurd (hdigits '+' (List.mem_cons_self ..)) (by decide)
      · cases h
        exact ⟨hdigits, hn, hlt⟩
  · next hempty _ hplus =>
    rw [digits_eq_ok hbound]
    constructor
    · rintro ⟨hdigits, rfl, hlt⟩
      exact ⟨⟨cs, .inl rfl, hempty, hdigits, rfl⟩, hlt⟩
    · rintro ⟨⟨ds, rfl | h, -, hdigits, hn⟩, hlt⟩
      · exact ⟨hdigits, hn, hlt⟩
      · exact absurd h (hplus ds)

theorem parse_eq_ok {text : String} :
    parse text = .ok n ↔ Denotes text.toList n ∧ n < UInt64.size :=
  parseChars_eq_ok (by decide)

end Identity.Unsigned
