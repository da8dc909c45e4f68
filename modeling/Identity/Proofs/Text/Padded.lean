/-
Identity/Proofs/Text/Padded.lean

Which texts are canonical padded base 64.

`Canonical` says it without the functions that write and read: there are symbols
of the standard alphabet, each for six bits, then at most two padding characters
that fill up a group of four, and the bits that the last symbol has too many, two
for each padding character, are zero.

Main result: these are the texts that can be read (`canonical_iff`), and so the
texts that are written for some bytes.
-/
import Identity.Proofs.Text.Base64
import Mathlib.Algebra.Group.Nat.Defs

namespace Identity.Base64

variable {sextets : List Nat} {a b c d fill : Nat}

/-! ### Symbols and padding -/

/-- Six-bit numbers that make up groups of four together with the padding after them, and have
zeros for the bits that it leaves over. -/
structure Grouped (sextets : List Nat) (fill : Nat) : Prop where
  below : ∀ n ∈ sextets, n < 64
  whole : 4 ∣ sextets.length + fill
  fill_le : fill ≤ 2
  unused : ∀ n ∈ sextets.getLast?, 4 ^ fill ∣ n

/-- The symbols of some numbers, and padding. -/
def filled (sextets : List Nat) (fill : Nat) : List Char :=
  sextets.map (symbol standard) ++ List.replicate fill pad

/-- The text is canonical padded base 64. -/
def Canonical (text : String) : Prop :=
  ∃ sextets fill, Grouped sextets fill ∧ text.toList = filled sextets fill

/-- There is as much padding as the last group has room for. -/
theorem Grouped.fill_eq (h : Grouped sextets fill) : fill = (4 - sextets.length % 4) % 4 := by
  have hwhole := h.whole
  have hle := h.fill_le
  omega

theorem Grouped.cons₄ (ha : a < 64) (hb : b < 64) (hc : c < 64) (hd : d < 64)
    (h : Grouped sextets fill) : Grouped (a :: b :: c :: d :: sextets) fill where
  below := by simpa [ha, hb, hc, hd] using h.below
  whole := by
    have hwhole := h.whole
    simp only [List.length_cons]
    omega
  fill_le := h.fill_le
  unused := by
    cases sextets with
    | nil =>
      have hnone : fill = 0 := h.fill_eq
      simp [hnone]
    | cons n sextets =>
      simpa [List.getLast?_cons_cons] using h.unused

theorem Grouped.tail₄ (h : Grouped (a :: b :: c :: d :: sextets) fill) :
    (a < 64 ∧ b < 64 ∧ c < 64 ∧ d < 64) ∧ Grouped sextets fill := by
  obtain ⟨hbelow, hwhole, hle, hunused⟩ := h
  simp only [List.forall_mem_cons] at hbelow
  obtain ⟨ha, hb, hc, hd, hbelow⟩ := hbelow
  refine ⟨⟨ha, hb, hc, hd⟩, hbelow, ?_, hle, ?_⟩
  · simp only [List.length_cons] at hwhole
    omega
  · intro n hn
    cases sextets with
    | nil => simp at hn
    | cons m sextets =>
      apply hunused
      simpa [List.getLast?_cons_cons] using hn

/-! ### What is written is canonical -/

theorem grouped_encodeChars (bytes : Bytes) :
    ∃ sextets fill, Grouped sextets fill ∧ encodeChars bytes = filled sextets fill := by
  induction bytes using encodeChars.induct with
  | case1 => exact ⟨[], 0, ⟨by simp, by simp, by simp, by simp⟩, rfl⟩
  | case2 a =>
    have ha := a.toNat_lt
    refine ⟨[a.toNat / 4, a.toNat % 4 * 16], 2, ⟨?_, by simp, by simp, ?_⟩, rfl⟩
    · simp only [List.forall_mem_cons]
      exact ⟨by omega, by omega, by simp⟩
    · rintro n ⟨⟩
      exact Nat.dvd_mul_left 16 _
  | case3 a b =>
    have ha := a.toNat_lt
    have hb := b.toNat_lt
    refine ⟨[a.toNat / 4, a.toNat % 4 * 16 + b.toNat / 16, b.toNat % 16 * 4], 1,
      ⟨?_, by simp, by simp, ?_⟩, rfl⟩
    · simp only [List.forall_mem_cons]
      exact ⟨by omega, by omega, by omega, by simp⟩
    · rintro n ⟨⟩
      exact Nat.dvd_mul_left 4 _
  | case4 a b c rest ih =>
    have ha := a.toNat_lt
    have hb := b.toNat_lt
    have hc := c.toNat_lt
    obtain ⟨sextets, fill, hgrouped, hrest⟩ := ih
    refine ⟨a.toNat / 4 :: (a.toNat % 4 * 16 + b.toNat / 16) ::
      (b.toNat % 16 * 4 + c.toNat / 64) :: c.toNat % 64 :: sextets, fill,
      hgrouped.cons₄ (by omega) (by omega) (by omega) (by omega), ?_⟩
    rw [encodeChars, hrest]
    rfl

/-! ### What is canonical can be read -/

theorem exists_ungroup₁ (ha : a < 64) (hb : b < 64) (hunused : 16 ∣ b) :
    ∃ bytes, ungroup₁ standard (symbol standard a) (symbol standard b) = some bytes := by
  simp only [ungroup₁, distinct_standard a ha, distinct_standard b hb, Option.bind_eq_bind,
    Option.bind_some]
  exact ⟨_, if_pos (Nat.mod_eq_zero_of_dvd hunused)⟩

theorem exists_ungroup₂ (ha : a < 64) (hb : b < 64) (hc : c < 64) (hunused : 4 ∣ c) :
    ∃ bytes, ungroup₂ standard (symbol standard a) (symbol standard b) (symbol standard c) =
      some bytes := by
  simp only [ungroup₂, distinct_standard a ha, distinct_standard b hb, distinct_standard c hc,
    Option.bind_eq_bind, Option.bind_some]
  exact ⟨_, if_pos (Nat.mod_eq_zero_of_dvd hunused)⟩

theorem exists_ungroup₃ (ha : a < 64) (hb : b < 64) (hc : c < 64) (hd : d < 64) :
    ∃ bytes, ungroup₃ standard (symbol standard a) (symbol standard b) (symbol standard c)
      (symbol standard d) = some bytes := by
  simp only [ungroup₃, distinct_standard a ha, distinct_standard b hb, distinct_standard c hc,
    distinct_standard d hd, Option.bind_eq_bind, Option.bind_some]
  exact ⟨_, rfl⟩

/-- Symbols and padding that make up groups are read.  The induction takes one group at a time;
padding can only stand in the last one. -/
theorem exists_decodeChars_filled : ∀ {sextets : List Nat}, Grouped sextets fill →
    ∃ bytes, decodeChars (filled sextets fill) = some bytes
  | [], h => by
    obtain rfl : fill = 0 := h.fill_eq
    exact ⟨[], rfl⟩
  | [a], h => by
    have hthree : fill = 3 := h.fill_eq
    exact absurd h.fill_le (by simp [hthree])
  | [a, b], h => by
    obtain rfl : fill = 2 := h.fill_eq
    obtain ⟨bytes, hbytes⟩ :=
      exists_ungroup₁ (h.below a (by simp)) (h.below b (by simp)) (h.unused b rfl)
    exact ⟨bytes, (if_pos ⟨rfl, rfl⟩).trans hbytes⟩
  | [a, b, c], h => by
    obtain rfl : fill = 1 := h.fill_eq
    obtain ⟨bytes, hbytes⟩ := exists_ungroup₂ (h.below a (by simp)) (h.below b (by simp))
      (h.below c (by simp)) (h.unused c rfl)
    have hpad : ¬ (symbol standard c = pad ∧ pad = pad) := fun h => symbol_standard_ne_pad c h.1
    exact ⟨bytes, (if_neg hpad).trans ((if_pos rfl).trans hbytes)⟩
  | a :: b :: c :: d :: sextets, h => by
    obtain ⟨⟨ha, hb, hc, hd⟩, hrest⟩ := h.tail₄
    obtain ⟨bytes, hbytes⟩ := exists_decodeChars_filled hrest
    obtain ⟨first, hfirst⟩ := exists_ungroup₃ ha hb hc hd
    refine ⟨first ++ bytes, ?_⟩
    show decodeChars (_ :: _ :: _ :: _ :: filled sextets fill) = _
    rw [decodeChars_group₃ hfirst, hbytes]
    rfl

/-- **What can be read** as padded base 64 are the canonical texts. -/
theorem canonical_iff {text : String} :
    Canonical text ↔ ∃ bytes, decode text = some bytes := by
  constructor
  · rintro ⟨sextets, fill, hgrouped, htext⟩
    rw [decode, htext]
    exact exists_decodeChars_filled hgrouped
  · rintro ⟨bytes, h⟩
    rw [decode_eq_some] at h
    rw [Canonical, h, encode, String.toList_ofList]
    exact grouped_encodeChars bytes

end Identity.Base64
