/-
Identity/Proofs/Json/Numbers.lean

Decimal numbers are read back as they were written.

A number has no end of its own: what follows it must not go on with it
(`Delimited`).  Then its digits are taken as a whole, and since no positive
number is written with a leading zero, all of them belong to the integer part.
-/
import Identity.Json.Reader
import Mathlib.Tactic.Common

namespace Identity.Json

variable {n : Nat} {ds rest : List Char} {c : Char}

/-- No number goes on with the first character. -/
def Delimited (rest : List Char) : Prop :=
  ∀ c cs, rest = c :: cs → c.isDigit = false ∧ c ≠ '.' ∧ c ≠ 'e' ∧ c ≠ 'E'

theorem delimited_nil : Delimited [] := by
  rintro c cs ⟨⟩

theorem delimited_comma : Delimited (',' :: rest) := by
  rintro c cs ⟨⟩
  decide

theorem delimited_brace : Delimited ('\x7d' :: rest) := by
  rintro c cs ⟨⟩
  decide

/-! ### Digits -/

theorem isDigit_of_mem_toDigits (h : c ∈ Nat.toDigits 10 n) : c.isDigit = true :=
  Nat.isDigit_of_mem_toDigits (by decide) (by decide) h

/-- The digits of a positive number begin with a digit that is no zero. -/
theorem toDigits_eq_cons (h : 0 < n) : ∃ c cs, Nat.toDigits 10 n = c :: cs ∧ c ≠ '0' := by
  induction n using Nat.base_induction 10 (by decide) with
  | single m hm =>
    refine ⟨m.digitChar, [], Nat.toDigits_of_lt_base hm, ?_⟩
    rw [ne_eq, Nat.digitChar_eq_zero]
    omega
  | digit m k hk hm ih =>
    obtain ⟨c, cs, hcs, hc⟩ := ih hm
    exact ⟨c, cs ++ Nat.toDigits 10 k, by
      rw [← Nat.toDigits_append_toDigits (by decide) hm hk, hcs, List.cons_append], hc⟩

/-- Digits are taken up to where they end. -/
theorem digits?_append (hne : ds ≠ []) (hds : ∀ c ∈ ds, c.isDigit = true)
    (hrest : Delimited rest) : digits? (ds ++ rest) = some (ds, rest) := by
  have hstop : rest.takeWhile Char.isDigit = [] ∧ rest.dropWhile Char.isDigit = rest := by
    cases rest with
    | nil => exact ⟨rfl, rfl⟩
    | cons c cs => simp [(hrest c cs rfl).1]
  obtain ⟨d, ds, rfl⟩ := List.exists_cons_of_ne_nil hne
  rw [digits?, List.takeWhile_append_of_pos hds, List.dropWhile_append_of_pos hds, hstop.1,
    hstop.2, List.append_nil]

/-! ### Numbers -/

theorem integerPart?_toDigits (hrest : Delimited rest) :
    integerPart? (Nat.toDigits 10 n ++ rest) = some (Nat.toDigits 10 n, rest) := by
  rcases Nat.eq_zero_or_pos n with rfl | hpos
  · rfl
  · obtain ⟨c, cs, hcs, hc⟩ := toDigits_eq_cons hpos
    have hdigits : digits? (Nat.toDigits 10 n ++ rest) = some (Nat.toDigits 10 n, rest) :=
      digits?_append Nat.toDigits_ne_nil (fun _ => isDigit_of_mem_toDigits) hrest
    rw [hcs, List.cons_append] at hdigits ⊢
    unfold integerPart?
    split
    · next heq => exact absurd (List.cons.inj heq).1 hc
    · exact hdigits

theorem fraction?_delimited (hrest : Delimited rest) : fraction? rest = some ([], rest) := by
  unfold fraction?
  split
  · exact absurd rfl (hrest _ _ rfl).2.1
  · rfl

theorem exponent?_delimited (hrest : Delimited rest) : exponent? rest = some ([], rest) := by
  unfold exponent?
  split
  · have hstart := (hrest _ _ rfl).2.2
    exact if_neg (not_or.mpr hstart)
  · rfl

theorem magnitude?_toDigits (hrest : Delimited rest) :
    magnitude? (Nat.toDigits 10 n ++ rest) = some (Nat.toDigits 10 n, rest) := by
  simp [magnitude?, integerPart?_toDigits hrest, fraction?_delimited hrest,
    exponent?_delimited hrest]

/-- The first character of a number without a sign. -/
theorem exists_digit (n : Nat) :
    ∃ c cs, Nat.toDigits 10 n = c :: cs ∧ c.isDigit = true ∧ c ≠ '-' := by
  obtain ⟨c, cs, hcs⟩ := List.exists_cons_of_ne_nil (@Nat.toDigits_ne_nil n 10)
  have hc : c.isDigit = true := isDigit_of_mem_toDigits (hcs ▸ List.mem_cons_self)
  exact ⟨c, cs, hcs, hc, by rintro rfl; cases hc⟩

theorem number?_toDigits (hrest : Delimited rest) :
    number? (Nat.toDigits 10 n ++ rest) = some (Nat.toDigits 10 n, rest) := by
  have hread := @magnitude?_toDigits n rest hrest
  obtain ⟨c, cs, hcs, -, hc⟩ := exists_digit n
  rw [hcs, List.cons_append] at hread ⊢
  unfold number?
  split
  · next heq => exact absurd (List.cons.inj heq).1 hc
  · exact hread

theorem number?_neg_toDigits (hrest : Delimited rest) :
    number? ('-' :: Nat.toDigits 10 n ++ rest) = some ('-' :: Nat.toDigits 10 n, rest) := by
  simp [number?, magnitude?_toDigits hrest]

/-! ### Integers -/

theorem all_isDigit_toDigits (n : Nat) : (Nat.toDigits 10 n).all Char.isDigit = true :=
  List.all_eq_true.mpr fun _ => isDigit_of_mem_toDigits

theorem integer?_toDigits (n : Nat) :
    (Value.number (Nat.toDigits 10 n)).integer? = some (n : Int) := by
  have hvalue : Nat.ofDigitChars 10 (Nat.toDigits 10 n) 0 = n := Nat.ofDigitChars_ten_toDigits
  have hdigits := all_isDigit_toDigits n
  obtain ⟨c, cs, hcs, -, hc⟩ := exists_digit n
  rw [hcs] at hvalue hdigits ⊢
  unfold Value.integer?
  split
  · next heq => exact absurd (List.cons.inj (Value.number.inj heq)).1 hc
  · next heq =>
    obtain rfl := Value.number.inj heq
    rw [if_pos hdigits, hvalue]
  · next _ hne => exact absurd rfl (hne _)

theorem integer?_neg_toDigits (h : 0 < n) :
    (Value.number ('-' :: Nat.toDigits 10 n)).integer? = some (-(n : Int)) := by
  simp [Value.integer?, all_isDigit_toDigits n, Nat.ne_of_gt h]

end Identity.Json
