/-
Identity/Proofs/Text/LowerCase.lean

Lower-case texts: the ones that lower-casing leaves as they are.

The one-to-one mappings are a table of runs.  No run covers a code point that
another run, or the run itself, maps to: two checks over the table say so
(`images_uncovered`, `images_ordinary`), and everything about single code
points follows from them by arithmetic.  So the lower-case form of a character
consists of characters that are their own lower-case form (`Lowered`), and a
text of such characters is not changed any more, whatever stands around a
sigma: a lower-case text has no capital sigma left.

Lower-casing neither makes nor removes white space, so it keeps a text trimmed.
-/
import Identity.Proofs.Text.Trim
import Identity.Text.LowerCase
import Mathlib.Tactic.Common

namespace Identity.Unicode

/-! ### The table of runs -/

/-- The first code point that a run maps to. -/
def CaseRun.imageFirst (r : CaseRun) : Nat := (r.first + r.offset).toNat

/-- A bound on the code points that a run maps to. -/
def CaseRun.imageLast (r : CaseRun) : Nat := (r.last + r.offset).toNat

/-- The code points that `r` maps to are apart from those that `q` covers: they
lie before or after them, or they have the other parity. -/
def CaseRun.imageApart (r q : CaseRun) : Bool :=
  r.imageLast.blt q.first || q.last.blt r.imageFirst ||
    (r.stride == 2 || r.first == r.last) && q.stride == 2 && (r.imageFirst + q.first) % 2 == 1

/-- The code points that `r` maps to do not meet a closed range. -/
def CaseRun.avoids (r : CaseRun) (range : Nat × Nat) : Bool :=
  r.imageLast.blt range.1 || range.2.blt r.imageFirst

/-- What no character is mapped to: surrogates, code points past the last
character, the capital I with a dot above, and white space. -/
def notImages : List (Nat × Nat) :=
  [(0xD800, 0xDFFF), (0x110000, 0x110000), (0x130, 0x130)] ++ whiteSpace.ranges

theorem images_uncovered :
    (lowercaseRuns.all fun r => lowercaseRuns.all (r.imageApart ·)) = true := by
  decide +kernel

theorem images_ordinary :
    ∀ r ∈ lowercaseRuns, 0 < r.imageFirst ∧ r.imageLast < 0x110000 ∧
      notImages.all (r.avoids ·) = true := by
  decide +kernel

theorem whiteSpace_uncovered :
    ∀ r ∈ lowercaseRuns, ∀ range ∈ whiteSpace.ranges, r.last < range.1 ∨ range.2 < r.first := by
  decide +kernel

theorem CaseRun.covers_eq_true {r : CaseRun} {n : Nat} :
    r.covers n = true ↔ r.first ≤ n ∧ n ≤ r.last ∧ (n - r.first) % r.stride = 0 := by
  simp [covers, and_assoc]

theorem CaseRun.imageApart_sound {r q : CaseRun} {n m : Nat} (h : r.imageApart q = true)
    (hpos : 0 < r.imageFirst) (hn : r.covers n = true) (hm : (m : Int) = n + r.offset) :
    q.covers m = false := by
  obtain ⟨hfirst, hlast, hstride⟩ := covers_eq_true.mp hn
  rw [← Bool.not_eq_true, covers_eq_true]
  rintro ⟨hfirst', hlast', hstride'⟩
  simp only [imageApart, Bool.or_eq_true, Bool.and_eq_true, Nat.blt_eq, beq_iff_eq, and_assoc] at h
  unfold imageFirst at h hpos
  unfold imageLast at h
  rcases h with (hbefore | hafter) | ⟨hr | hr, hq, hparity⟩
  · omega
  · omega
  -- two runs of every other code point, or a single code point inside such a run
  · rw [hr] at hstride
    rw [hq] at hstride'
    omega
  · rw [hq] at hstride'
    omega

/-- A code point that no run covers. -/
def Uncovered (n : Nat) : Prop := ∀ r ∈ lowercaseRuns, r.covers n = false

theorem simpleLowercase_of_uncovered {n : Nat} (h : Uncovered n) : simpleLowercase n = n := by
  have hnone : lowercaseRuns.find? (·.covers n) = none :=
    List.find?_eq_none.mpr fun r hr => by simp [h r hr]
  rw [simpleLowercase, hnone]

/-- A code point either is not covered and maps to itself, or is covered by a
run and maps to a code point of its image. -/
theorem simpleLowercase_cases (n : Nat) :
    Uncovered n ∧ simpleLowercase n = n ∨
      ∃ r ∈ lowercaseRuns, r.covers n = true ∧ (simpleLowercase n : Int) = n + r.offset := by
  rcases hfind : lowercaseRuns.find? (·.covers n) with - | r
  · have h : Uncovered n := by simpa [Uncovered] using hfind
    exact .inl ⟨h, simpleLowercase_of_uncovered h⟩
  · have hr : r ∈ lowercaseRuns := List.mem_of_find?_eq_some hfind
    have hcovers : r.covers n = true := by simpa using List.find?_some hfind
    obtain ⟨hpositive, -, -⟩ := images_ordinary r hr
    obtain ⟨hfirst, -, -⟩ := CaseRun.covers_eq_true.mp hcovers
    refine .inr ⟨r, hr, hcovers, ?_⟩
    rw [simpleLowercase, hfind]
    unfold CaseRun.imageFirst at hpositive
    show ((n + r.offset).toNat : Int) = n + r.offset
    omega

theorem uncovered_simpleLowercase (n : Nat) : Uncovered (simpleLowercase n) := by
  rcases simpleLowercase_cases n with ⟨h, heq⟩ | ⟨r, hr, hcovers, heq⟩
  · rw [heq]
    exact h
  · intro q hq
    have hall := List.all_eq_true.mp images_uncovered r hr
    have hapart := List.all_eq_true.mp hall q hq
    exact CaseRun.imageApart_sound hapart (images_ordinary r hr).1 hcovers heq

/-- A code point is mapped into a range of `notImages` only by staying there. -/
theorem simpleLowercase_eq_of_mem {n : Nat} (range : Nat × Nat) (hrange : range ∈ notImages)
    (hlow : range.1 ≤ simpleLowercase n) (hhigh : simpleLowercase n ≤ range.2) :
    simpleLowercase n = n := by
  rcases simpleLowercase_cases n with ⟨-, heq⟩ | ⟨r, hr, hcovers, heq⟩
  · exact heq
  · obtain ⟨-, -, havoids⟩ := images_ordinary r hr
    obtain ⟨hfirst, hlast, -⟩ := CaseRun.covers_eq_true.mp hcovers
    have h := List.all_eq_true.mp havoids range hrange
    simp only [CaseRun.avoids, Bool.or_eq_true, Nat.blt_eq] at h
    unfold CaseRun.imageFirst CaseRun.imageLast at h
    omega

/-- The lower-case form of a character is a character. -/
theorem isValidChar_simpleLowercase (c : Char) : (simpleLowercase c.toNat).isValidChar := by
  have hself : c.toNat.isValidChar := c.valid
  rcases simpleLowercase_cases c.toNat with ⟨-, heq⟩ | ⟨r, hr, hcovers, heq⟩
  · rw [heq]
    exact hself
  · obtain ⟨-, hbound, -⟩ := images_ordinary r hr
    obtain ⟨-, hlast, -⟩ := CaseRun.covers_eq_true.mp hcovers
    unfold CaseRun.imageLast at hbound
    -- no surrogate is reached from outside, and a character is none
    have hsurrogate : ¬ (0xD800 ≤ simpleLowercase c.toNat ∧ simpleLowercase c.toNat ≤ 0xDFFF) := by
      rintro ⟨hlow, hhigh⟩
      have hstays := simpleLowercase_eq_of_mem (0xD800, 0xDFFF) (by decide) hlow hhigh
      rw [hstays] at hlow hhigh
      unfold Nat.isValidChar at hself
      omega
    unfold Nat.isValidChar
    omega

theorem toNat_ofNat_simpleLowercase (c : Char) :
    (Char.ofNat (simpleLowercase c.toNat)).toNat = simpleLowercase c.toNat := by
  have hvalid := isValidChar_simpleLowercase c
  rw [Char.ofNat, dif_pos hvalid]
  show (UInt32.ofNatLT _ _).toNat = _
  exact UInt32.toNat_ofNatLT

/-- A character becomes white space only if it is, and then stays the same. -/
theorem isWhiteSpace_simpleLowercase (c : Char) :
    isWhiteSpace (Char.ofNat (simpleLowercase c.toNat)) = isWhiteSpace c := by
  have hspace : ∀ d : Char, isWhiteSpace d = true ↔
      ∃ range ∈ whiteSpace.ranges, range.1 ≤ d.toNat ∧ d.toNat ≤ range.2 := by
    intro d
    simp [isWhiteSpace, CharSet.contains, CharSet.holds, CharSet.inRange, whiteSpace]
  -- white space is not reached from outside, and not left either
  rw [Bool.eq_iff_iff, hspace, hspace, toNat_ofNat_simpleLowercase]
  constructor
  · rintro ⟨range, hrange, hlow, hhigh⟩
    have hmem : range ∈ notImages := List.mem_append_right _ hrange
    have hstays := simpleLowercase_eq_of_mem range hmem hlow hhigh
    rw [hstays] at hlow hhigh
    exact ⟨range, hrange, hlow, hhigh⟩
  · rintro ⟨range, hrange, hlow, hhigh⟩
    have huncovered : Uncovered c.toNat := by
      intro r hr
      rw [← Bool.not_eq_true, CaseRun.covers_eq_true]
      rintro ⟨hfirst, hlast, -⟩
      have h := whiteSpace_uncovered r hr range hrange
      omega
    rw [simpleLowercase_of_uncovered huncovered]
    exact ⟨range, hrange, hlow, hhigh⟩

end Identity.Unicode

namespace Identity.Text

open Unicode

/-! ### Lower-case characters -/

/-- The character is its own lower-case form, wherever it stands. -/
structure Lowered (c : Char) : Prop where
  alone : lowerChar c = [c]
  noSigma : c ≠ capitalSigma

instance (c : Char) : Decidable (Lowered c) :=
  decidable_of_iff (lowerChar c = [c] ∧ c ≠ capitalSigma)
    ⟨fun h => ⟨h.1, h.2⟩, fun h => ⟨h.1, h.2⟩⟩

theorem lowered_simpleLowercase {c : Char} (hc : c ≠ dottedCapitalI) :
    Lowered (Char.ofNat (simpleLowercase c.toNat)) := by
  have huncovered := uncovered_simpleLowercase c.toNat
  have hto := toNat_ofNat_simpleLowercase c
  constructor
  -- nothing but itself is mapped to the dotted capital I
  · have hne : Char.ofNat (simpleLowercase c.toNat) ≠ dottedCapitalI := by
      intro heq
      rw [heq] at hto
      have hstays := simpleLowercase_eq_of_mem (0x130, 0x130) (by decide)
        hto.le hto.ge
      exact hc (Char.toNat_inj.mp (hstays.symm.trans hto.symm))
    rw [lowerChar, if_neg hne, hto, simpleLowercase_of_uncovered huncovered]
  -- the capital sigma is covered, and what is mapped to is not
  · intro heq
    rw [heq] at hto
    rw [← hto] at huncovered
    have hsigma : ¬ Uncovered capitalSigma.toNat := by
      unfold Uncovered
      decide +kernel
    exact hsigma huncovered

theorem lowered_of_mem_lowerCharIn {before after : List Char} {c d : Char}
    (hd : d ∈ lowerCharIn before after c) : Lowered d := by
  -- the two small sigmas, the pair that the dotted capital I becomes, and the table
  unfold lowerCharIn lowerChar at hd
  split_ifs at hd with hsigma hend hdotted
  · rw [List.mem_singleton.mp hd]
    decide +kernel
  · rw [List.mem_singleton.mp hd]
    decide +kernel
  · rcases List.mem_pair.mp hd with rfl | rfl
    · decide +kernel
    · decide +kernel
  · rw [List.mem_singleton.mp hd]
    exact lowered_simpleLowercase hdotted

/-! ### Lower-case texts -/

variable {before cs : List Char}

/-- Lower-casing answers lower-case characters only. -/
theorem lowered_of_mem_lowerAfter {d : Char} (hd : d ∈ lowerAfter before cs) : Lowered d := by
  induction cs generalizing before with
  | nil => cases hd
  | cons c cs ih =>
    rcases List.mem_append.mp hd with hd | hd
    · exact lowered_of_mem_lowerCharIn hd
    · exact ih hd

/-- A text of lower-case characters stays the same. -/
theorem lowerAfter_eq_self (h : ∀ c ∈ cs, Lowered c) : lowerAfter before cs = cs := by
  induction cs generalizing before with
  | nil => rfl
  | cons c cs ih =>
    obtain ⟨hc, hcs⟩ := List.forall_mem_cons.mp h
    rw [lowerAfter, lowerCharIn, if_neg hc.noSigma, hc.alone, ih hcs]
    rfl

theorem lowerChars_eq_self (h : ∀ c ∈ cs, Lowered c) : lowerChars cs = cs :=
  lowerAfter_eq_self h

/-! ### Lower-casing a trimmed text -/

/-- The lower-case form of a character is white space at neither end unless the
character is. -/
theorem trimmed_lowerCharIn (before after : List Char) {c : Char} (hc : isWhiteSpace c = false) :
    Trimmed isWhiteSpace (lowerCharIn before after c) := by
  apply trimmed_of_forall
  unfold lowerCharIn lowerChar
  split_ifs
  · exact List.forall_mem_singleton.mpr (by decide)
  · exact List.forall_mem_singleton.mpr (by decide)
  · exact List.forall_mem_cons.mpr ⟨by decide, List.forall_mem_singleton.mpr (by decide)⟩
  · exact List.forall_mem_singleton.mpr ((isWhiteSpace_simpleLowercase c).trans hc)

theorem lowerCharIn_ne_nil (before after : List Char) (c : Char) :
    lowerCharIn before after c ≠ [] := by
  unfold lowerCharIn lowerChar
  split_ifs <;> simp

/-- Lower-casing keeps a text trimmed. -/
theorem Trimmed.lowerAfter (h : Trimmed isWhiteSpace cs) :
    Trimmed isWhiteSpace (lowerAfter before cs) where
  head := by
    cases cs with
    | nil => simp [Text.lowerAfter]
    | cons c cs =>
      have hc := (trimmed_lowerCharIn before cs (h.head c rfl)).head
      rwa [Text.lowerAfter, List.head?_append_of_ne_nil _ (lowerCharIn_ne_nil before cs c)]
  last := by
    have hlast := h.last
    -- the last character of the text gives the last one of its lower-case form
    clear h
    induction cs generalizing before with
    | nil => simp [Text.lowerAfter]
    | cons c cs ih =>
      rw [Text.lowerAfter]
      -- only the last character decides, and each one leaves something behind
      cases cs with
      | nil =>
        rw [Text.lowerAfter, List.append_nil]
        exact (trimmed_lowerCharIn before [] (hlast c rfl)).last
      | cons d cs =>
        have hne : Text.lowerAfter (c :: before) (d :: cs) ≠ [] := by
          rw [Text.lowerAfter]
          simp [lowerCharIn_ne_nil]
        rw [List.getLast?_append_of_ne_nil _ hne]
        exact ih (by simpa using hlast)

end Identity.Text
