/-
Identity/Proofs/Text/Surroundings.lean

What stands around a text and does not belong to it.

Whether a sigma ends its word depends on the whole text around it, so in general
a part of a text is not lower-cased like the text.  But white space and the like
is neither cased nor changed by lower-casing (`Uncased`), and between such
characters a text is lower-cased as if it stood alone (`lowerChars_surrounded`).
Trimming them off before or after lower-casing leads to the same text.
-/
import Identity.Proofs.Text.LowerCase
import Identity.Proofs.Text.Trim

namespace Identity.Text

open Unicode

variable {p : Char → Bool} {cs xs ys before after : List Char}

/-! ### Trimming -/

theorem dropEndWhile_append (hys : ∀ c ∈ ys, p c = true) :
    dropEndWhile p (cs ++ ys) = dropEndWhile p cs := by
  unfold dropEndWhile
  rw [List.reverse_append, List.dropWhile_append_of_pos]
  intro c hc
  exact hys c (List.mem_reverse.mp hc)

/-- Characters that are dropped do not matter at either end. -/
theorem trimBy_surrounded (hxs : ∀ c ∈ xs, p c = true) (hys : ∀ c ∈ ys, p c = true) :
    trimBy p (xs ++ cs ++ ys) = trimBy p cs := by
  rw [List.append_assoc, trimBy, List.dropWhile_append_of_pos hxs, List.dropWhile_append]
  split_ifs with hempty
  -- nothing remains of the text itself, and then nothing at all
  · have hnone : ys.dropWhile p = [] := List.dropWhile_eq_nil_iff.mpr hys
    rw [hnone, trimBy, List.isEmpty_iff.mp hempty]
  · exact dropEndWhile_append hys

/-! ### Lower-casing -/

/-- The character is no part of a word, and its own lower-case form. -/
structure Uncased (c : Char) : Prop where
  isCased : isCased c = false
  lowered : Lowered c

instance (c : Char) : Decidable (Uncased c) :=
  decidable_of_iff (isCased c = false ∧ Lowered c) ⟨fun h => ⟨h.1, h.2⟩, fun h => ⟨h.1, h.2⟩⟩

/-- A sigma does not look past the end of the text for a cased character that is not there. -/
theorem startsCased_append (hys : ∀ c ∈ ys, Uncased c) :
    startsCased (cs ++ ys) = startsCased cs := by
  unfold startsCased
  rw [List.dropWhile_append]
  cases hcs : cs.dropWhile isCaseIgnorable with
  | cons c rest => rfl
  | nil =>
    rw [List.isEmpty_nil, if_pos rfl]
    cases hys' : ys.dropWhile isCaseIgnorable with
    | nil => rfl
    | cons c rest =>
      have hmem : c ∈ ys :=
        (List.dropWhile_sublist isCaseIgnorable).subset (hys' ▸ List.mem_cons_self ..)
      exact (hys c hmem).isCased

theorem lowerCharIn_append (hxs : ∀ c ∈ xs, Uncased c) (hys : ∀ c ∈ ys, Uncased c) (c : Char) :
    lowerCharIn (before ++ xs) (after ++ ys) c = lowerCharIn before after c := by
  rw [lowerCharIn, endsWord, startsCased_append hxs, startsCased_append hys]
  rfl

/-- What comes before a text and what comes after it is left as it is. -/
theorem lowerAfter_append (hxs : ∀ c ∈ xs, Uncased c) (hys : ∀ c ∈ ys, Uncased c) :
    lowerAfter (before ++ xs) (cs ++ ys) = lowerAfter before cs ++ ys := by
  induction cs generalizing before with
  | nil => exact lowerAfter_eq_self fun c hc => (hys c hc).lowered
  | cons c cs ih =>
    rw [List.cons_append, lowerAfter, lowerCharIn_append hxs hys, ← List.cons_append, ih,
      lowerAfter, List.append_assoc]

theorem lowerAfter_append_of_lowered (hxs : ∀ c ∈ xs, Lowered c) :
    lowerAfter before (xs ++ cs) = xs ++ lowerAfter (xs.reverse ++ before) cs := by
  induction xs generalizing before with
  | nil => rfl
  | cons c xs ih =>
    obtain ⟨hc, hxs⟩ := List.forall_mem_cons.mp hxs
    rw [List.cons_append, lowerAfter, lowerCharIn, if_neg hc.noSigma, hc.alone, ih hxs,
      List.reverse_cons, List.append_assoc]
    rfl

/-- **Between uncased characters** a text is lower-cased as if it stood alone. -/
theorem lowerChars_surrounded (hxs : ∀ c ∈ xs, Uncased c) (hys : ∀ c ∈ ys, Uncased c) :
    lowerChars (xs ++ cs ++ ys) = xs ++ lowerChars cs ++ ys := by
  have hbefore : ∀ c ∈ xs.reverse, Uncased c := fun c hc => hxs c (List.mem_reverse.mp hc)
  unfold lowerChars
  rw [List.append_assoc, lowerAfter_append_of_lowered fun c hc => (hxs c hc).lowered,
    List.append_nil, ← List.nil_append xs.reverse, lowerAfter_append hbefore hys,
    List.append_assoc]

theorem uncased_whiteSpace {c : Char} (h : isWhiteSpace c = true) : Uncased c := by
  have htable : ∀ range ∈ whiteSpace.ranges,
      ∀ n ∈ List.range' range.1 (range.2 - range.1 + 1), Uncased (Char.ofNat n) := by
    decide +kernel
  have hrange : ∃ range ∈ whiteSpace.ranges, range.1 ≤ c.toNat ∧ c.toNat ≤ range.2 := by
    simpa [isWhiteSpace, CharSet.contains, CharSet.holds, CharSet.inRange, whiteSpace] using h
  obtain ⟨range, hmem, hlow, hhigh⟩ := hrange
  have hc := htable range hmem c.toNat (List.mem_range'_1.mpr ⟨hlow, by omega⟩)
  rwa [Char.ofNat_toNat] at hc

end Identity.Text
