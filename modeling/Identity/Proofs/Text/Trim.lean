/-
Identity/Proofs/Text/Trim.lean

Trimmed texts: the ones that trimming leaves as they are.

A text is trimmed when neither its first nor its last character would be
dropped.  Trimming answers a trimmed text and keeps a trimmed one, so it is
idempotent.
-/
import Identity.Text.Trim
import Mathlib.Data.List.DropRight
import Mathlib.Tactic.Common

namespace Identity.Text

variable {p : Char → Bool} {cs : List Char}

/-- Trimming has nothing to drop at either end. -/
structure Trimmed (p : Char → Bool) (cs : List Char) : Prop where
  head : ∀ c ∈ cs.head?, p c = false
  last : ∀ c ∈ cs.getLast?, p c = false

theorem trimmed_of_forall (h : ∀ c ∈ cs, p c = false) : Trimmed p cs where
  head c hc := h c (List.mem_of_mem_head? hc)
  last c hc := h c (List.mem_of_mem_getLast? hc)

theorem dropEndWhile_prefix_self (p : Char → Bool) (cs : List Char) : dropEndWhile p cs <+: cs :=
  List.rdropWhile_prefix p cs

theorem trimmed_trimBy (p : Char → Bool) (cs : List Char) : Trimmed p (trimBy p cs) where
  head := by
    intro c hc
    -- the first character that remains is the first one that is not dropped
    have hfirst : c ∈ (cs.dropWhile p).head? := by
      obtain ⟨rest, hrest⟩ := List.head?_eq_some_iff.mp (Option.mem_def.mp hc)
      obtain ⟨dropped, hdropped⟩ := dropEndWhile_prefix_self p (cs.dropWhile p)
      rw [← hdropped, show dropEndWhile p (cs.dropWhile p) = _ from hrest]
      rfl
    have hnot := List.head?_dropWhile_not p cs
    rw [Option.mem_def.mp hfirst] at hnot
    exact hnot
  last := by
    intro c hc
    obtain ⟨hne, hlast⟩ := List.mem_getLast?_eq_getLast hc
    rw [hlast]
    exact Bool.not_eq_true _ ▸ List.rdropWhile_last_not p (cs.dropWhile p) hne

theorem Trimmed.trimBy_eq (h : Trimmed p cs) : trimBy p cs = cs := by
  have hstart : cs.dropWhile p = cs := by
    cases cs with
    | nil => rfl
    | cons c cs => exact List.dropWhile_cons_of_neg (by simp [h.head c rfl])
  have hend : dropEndWhile p cs = cs := by
    refine (List.rdropWhile_eq_self_iff (p := p)).mpr fun hne => ?_
    rw [h.last _ (List.getLast_mem_getLast? hne)]
    exact Bool.false_ne_true
  rw [trimBy, hstart, hend]

theorem trimBy_trimBy (p : Char → Bool) (cs : List Char) :
    trimBy p (trimBy p cs) = trimBy p cs :=
  (trimmed_trimBy p cs).trimBy_eq

theorem mem_of_mem_trimBy {c : Char} (h : c ∈ trimBy p cs) : c ∈ cs :=
  (List.dropWhile_sublist p).subset ((dropEndWhile_prefix_self p _).subset h)

theorem trim_trim (s : String) : trim (trim s) = trim s := by
  rw [trim, trim, String.toList_ofList, trimChars, trimChars, trimBy_trimBy]

end Identity.Text
