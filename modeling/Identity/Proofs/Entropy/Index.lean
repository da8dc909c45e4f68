/-
Identity/Proofs/Entropy/Index.lean

Drawing an index is fair.

The words that are accepted for a bound are those below a multiple of it, so that
each index stands for equally many of them: itself and the words that lie whole
multiples of the bound beyond it (`wordsOf_eq`).  A draw takes one word after the
other off the tape (`index_of_none`), so it answers what the first accepted one
stands for, and it fails only where the tape ends before.

Main result: `index_unbiased`.
-/
import Identity.Entropy
import Identity.Proofs.Bytes
import Mathlib.Data.Finset.Card
import Mathlib.Data.Set.Function

namespace Identity.Draw

variable {bound i k w : Nat} {a b c d : UInt8} {tape : Bytes}

/-! ### Words and indices -/

/-- The index that a word stands for, if the word is accepted. -/
def indexOf? (bound w : Nat) : Option Nat :=
  if w < zone bound then some (w % bound) else none

/-- The 32-bit words that stand for an index. -/
def wordsOf (bound i : Nat) : Finset Nat :=
  (Finset.range UInt32.size).filter fun w => indexOf? bound w = some i

theorem indexOf?_eq_some : indexOf? bound w = some i ↔ w < zone bound ∧ w % bound = i := by
  rw [indexOf?, Option.ite_none_right_eq_some, Option.some.injEq]

theorem indexOf?_eq_none : indexOf? bound w = none ↔ zone bound ≤ w := by
  simp [indexOf?]

/-- The zone of a bound ends with the last multiple of it. -/
theorem zone_eq (bound : Nat) : zone bound = bound * (maxWord / bound) := by
  have hdiv := Nat.div_add_mod maxWord bound
  unfold zone
  omega

theorem le_zone (hpos : 0 < bound) (hword : bound ≤ maxWord) : bound ≤ zone bound := by
  rw [zone_eq]
  exact Nat.le_mul_of_pos_right _ (Nat.div_pos hword hpos)

theorem lt_size_of_lt_zone (h : w < zone bound) : w < UInt32.size := by
  have hle : zone bound ≤ maxWord := Nat.sub_le _ _
  have hmax : maxWord < UInt32.size := by decide
  omega

theorem indexOf?_lt (hpos : 0 < bound) (h : indexOf? bound w = some i) : i < bound := by
  rw [indexOf?_eq_some] at h
  rw [← h.2]
  exact Nat.mod_lt w hpos

/-- Small words stand for themselves. -/
theorem indexOf?_self (hword : bound ≤ maxWord) (hi : i < bound) : indexOf? bound i = some i := by
  rw [indexOf?_eq_some]
  exact ⟨Nat.lt_of_lt_of_le hi (le_zone (Nat.zero_lt_of_lt hi) hword), Nat.mod_eq_of_lt hi⟩

/-! ### Equally many words -/

/-- An index stands for itself and for the words that lie multiples of the bound beyond it. -/
theorem wordsOf_eq (hi : i < bound) :
    wordsOf bound i = (Finset.range (maxWord / bound)).image fun k => i + bound * k := by
  have hpos : 0 < bound := Nat.zero_lt_of_lt hi
  ext w
  simp only [wordsOf, Finset.mem_filter, Finset.mem_image, Finset.mem_range, indexOf?_eq_some]
  constructor
  · rintro ⟨-, hzone, rfl⟩
    rw [zone_eq] at hzone
    exact ⟨w / bound, Nat.div_lt_of_lt_mul hzone, Nat.mod_add_div w bound⟩
  · rintro ⟨k, hk, rfl⟩
    have hzone : i + bound * k < zone bound := by
      calc i + bound * k < bound + bound * k := Nat.add_lt_add_right hi _
        _ = bound * (k + 1) := by rw [Nat.mul_succ, Nat.add_comm]
        _ ≤ bound * (maxWord / bound) := Nat.mul_le_mul_left bound hk
        _ = zone bound := (zone_eq bound).symm
    refine ⟨lt_size_of_lt_zone hzone, hzone, ?_⟩
    rw [Nat.add_mul_mod_self_left, Nat.mod_eq_of_lt hi]

theorem card_wordsOf (hi : i < bound) : (wordsOf bound i).card = maxWord / bound := by
  have hpos : 0 < bound := Nat.zero_lt_of_lt hi
  rw [wordsOf_eq hi, Finset.card_image_of_injective, Finset.card_range]
  intro k k' h
  exact Nat.eq_of_mul_eq_mul_left hpos (Nat.add_left_cancel h)

/-! ### Words on a tape -/

/-- The word that the four bytes after the first `k` words of a tape make, low byte first. -/
def wordAt (tape : Bytes) (k : Nat) : Nat := Bytes.toNatLE ((tape.drop (4 * k)).take 4)

/-- The word after the first `k` of a tape is the first one that is accepted, and it stands for
`i`. -/
structure FirstAccepted (bound : Nat) (tape : Bytes) (k i : Nat) : Prop where
  whole : 4 * (k + 1) ≤ tape.length
  accepted : indexOf? bound (wordAt tape k) = some i
  rejected : ∀ j < k, indexOf? bound (wordAt tape j) = none

/-- No word of a tape is accepted. -/
def NoneAccepted (bound : Nat) (tape : Bytes) : Prop :=
  ∀ k, 4 * (k + 1) ≤ tape.length → indexOf? bound (wordAt tape k) = none

@[simp] theorem wordAt_zero : wordAt (a :: b :: c :: d :: tape) 0 = word a b c d := rfl

@[simp] theorem wordAt_succ : wordAt (a :: b :: c :: d :: tape) (k + 1) = wordAt tape k := rfl

theorem firstAccepted_zero :
    FirstAccepted bound (a :: b :: c :: d :: tape) 0 i ↔
      indexOf? bound (word a b c d) = some i := by
  constructor
  · intro h
    simpa using h.accepted
  · intro h
    refine ⟨by simp, by simpa using h, ?_⟩
    intro j hj
    exact absurd hj (Nat.not_lt_zero j)

theorem firstAccepted_succ :
    FirstAccepted bound (a :: b :: c :: d :: tape) (k + 1) i ↔
      indexOf? bound (word a b c d) = none ∧ FirstAccepted bound tape k i := by
  constructor
  · rintro ⟨hwhole, haccepted, hrejected⟩
    rw [wordAt_succ] at haccepted
    refine ⟨by simpa using hrejected 0 (Nat.succ_pos k), ?_, haccepted, ?_⟩
    · simp only [List.length_cons] at hwhole
      omega
    · intro j hj
      simpa using hrejected (j + 1) (Nat.succ_lt_succ hj)
  · rintro ⟨hfirst, hwhole, haccepted, hrejected⟩
    refine ⟨?_, by simpa using haccepted, ?_⟩
    · simp only [List.length_cons]
      omega
    · intro j hj
      cases j with
      | zero => simpa using hfirst
      | succ j => simpa using hrejected j (Nat.lt_of_succ_lt_succ hj)

theorem noneAccepted_cons :
    NoneAccepted bound (a :: b :: c :: d :: tape) ↔
      indexOf? bound (word a b c d) = none ∧ NoneAccepted bound tape := by
  constructor
  · intro h
    refine ⟨by simpa using h 0 (by simp), ?_⟩
    intro k hk
    rw [← wordAt_succ]
    apply h (k + 1)
    simp only [List.length_cons]
    omega
  · rintro ⟨hfirst, hrest⟩ k hk
    cases k with
    | zero => simpa using hfirst
    | succ k =>
      rw [wordAt_succ]
      apply hrest k
      simp only [List.length_cons] at hk
      omega

/-- Every word is that of four bytes in one way. -/
theorem bijOn_toNatLE :
    Set.BijOn Bytes.toNatLE {block | block.length = 4} (Set.Iio UInt32.size) := by
  have hsize : 256 ^ 4 = UInt32.size := rfl
  refine ⟨?_, ?_, ?_⟩
  · intro block (hblock : block.length = 4)
    have hlt := Bytes.toNatLE_lt block
    rwa [hblock, hsize] at hlt
  · intro block (hblock : block.length = 4) block' (hblock' : block'.length = 4) h
    rw [← Bytes.ofNatLE_toNatLE block, ← Bytes.ofNatLE_toNatLE block', hblock, hblock', h]
  · intro w (hw : w < UInt32.size)
    exact ⟨Bytes.ofNatLE 4 w, Bytes.length_ofNatLE 4 w, Bytes.toNatLE_ofNatLE (hsize ▸ hw)⟩

/-! ### One word of the loop -/

section Loop

variable {rest : Bytes} {fault : Crypto.Fault}

/-- The loop that draws an index, for a bound that is a word and not zero. -/
theorem index_eq (hpos : 0 < bound) (hword : bound ≤ maxWord) (tape : Bytes) :
    index bound ⟨tape⟩ = match firstBelow? (zone bound) tape with
      | some (w, rest) => .ok (w % bound, ⟨rest⟩)
      | none => .error exhausted :=
  (if_neg (Nat.not_lt.mpr hword)).trans (if_neg (Nat.ne_of_gt hpos))

theorem index_of_some (hpos : 0 < bound) (hword : bound ≤ maxWord)
    (h : indexOf? bound (word a b c d) = some i) :
    index bound ⟨a :: b :: c :: d :: tape⟩ = .ok (i, ⟨tape⟩) := by
  obtain ⟨hlt, rfl⟩ := indexOf?_eq_some.mp h
  rw [index_eq hpos hword, firstBelow?, if_pos hlt]

theorem index_of_none (h : indexOf? bound (word a b c d) = none) :
    index bound ⟨a :: b :: c :: d :: tape⟩ = index bound ⟨tape⟩ := by
  rw [index, firstBelow?, if_neg (Nat.not_lt.mpr (indexOf?_eq_none.mp h))]
  rfl

theorem index_of_short (hpos : 0 < bound) (hword : bound ≤ maxWord)
    (h : ∀ a b c d rest, tape ≠ a :: b :: c :: d :: rest) :
    index bound ⟨tape⟩ = .error exhausted := by
  rw [index_eq hpos hword, firstBelow?.eq_2 _ _ h]

/-- A tape without a whole word has no accepted one. -/
theorem noneAccepted_of_short (h : ∀ a b c d rest, tape ≠ a :: b :: c :: d :: rest) :
    NoneAccepted bound tape := by
  intro k hk
  match tape with
  | a :: b :: c :: d :: rest => exact absurd rfl (h a b c d rest)
  | [] | [_] | [_, _] | [_, _, _] =>
    simp only [List.length_cons, List.length_nil] at hk
    omega

theorem FirstAccepted.not_none (h : FirstAccepted bound tape k i) : ¬ NoneAccepted bound tape := by
  intro hnone
  have haccepted := h.accepted
  rw [hnone k h.whole] at haccepted
  cases haccepted

/-! ### The whole loop -/

/-- A draw answers what the first accepted word stands for, and leaves what comes after it. -/
theorem index_eq_ok (hpos : 0 < bound) (hword : bound ≤ maxWord) :
    index bound ⟨tape⟩ = .ok (i, ⟨rest⟩) ↔
      ∃ k, FirstAccepted bound tape k i ∧ rest = tape.drop (4 * (k + 1)) := by
  induction tape using firstBelow?.induct (zone bound) with
  | case1 a b c d tape hlt =>
    have hfirst : indexOf? bound (word a b c d) = some (word a b c d % bound) :=
      indexOf?_eq_some.mpr ⟨hlt, rfl⟩
    rw [index_of_some hpos hword hfirst]
    constructor
    · intro h
      cases h
      exact ⟨0, firstAccepted_zero.mpr hfirst, rfl⟩
    · rintro ⟨k, hk, hrest⟩
      cases k with
      | zero =>
        rw [firstAccepted_zero, hfirst, Option.some.injEq] at hk
        rw [hk, hrest]
        rfl
      | succ k =>
        rw [firstAccepted_succ, hfirst] at hk
        cases hk.1
  | case2 a b c d tape hge ih =>
    have hfirst : indexOf? bound (word a b c d) = none :=
      indexOf?_eq_none.mpr (Nat.not_lt.mp hge)
    rw [index_of_none hfirst, ih]
    constructor
    · rintro ⟨k, hk, hrest⟩
      exact ⟨k + 1, firstAccepted_succ.mpr ⟨hfirst, hk⟩, hrest⟩
    · rintro ⟨k, hk, hrest⟩
      cases k with
      | zero =>
        rw [firstAccepted_zero, hfirst] at hk
        cases hk
      | succ k => exact ⟨k, (firstAccepted_succ.mp hk).2, hrest⟩
  | case3 tape hshort =>
    rw [index_of_short hpos hword hshort]
    refine iff_of_false nofun ?_
    rintro ⟨k, hk, -⟩
    exact hk.not_none (noneAccepted_of_short hshort)

/-- A draw fails for want of a word that is accepted, and for nothing else. -/
theorem index_eq_error (hpos : 0 < bound) (hword : bound ≤ maxWord) :
    index bound ⟨tape⟩ = .error fault ↔ fault = exhausted ∧ NoneAccepted bound tape := by
  induction tape using firstBelow?.induct (zone bound) with
  | case1 a b c d tape hlt =>
    have hfirst : indexOf? bound (word a b c d) = some (word a b c d % bound) :=
      indexOf?_eq_some.mpr ⟨hlt, rfl⟩
    rw [index_of_some hpos hword hfirst, noneAccepted_cons, hfirst]
    exact iff_of_false nofun nofun
  | case2 a b c d tape hge ih =>
    have hfirst : indexOf? bound (word a b c d) = none :=
      indexOf?_eq_none.mpr (Nat.not_lt.mp hge)
    rw [index_of_none hfirst, noneAccepted_cons, ih, and_iff_right hfirst]
  | case3 tape hshort =>
    rw [index_of_short hpos hword hshort, Except.error.injEq, eq_comm]
    exact (and_iff_left (noneAccepted_of_short hshort)).symm

/-- Every index is drawn from some bytes, whatever comes after them. -/
theorem exists_index_eq_ok (hword : bound ≤ maxWord) (hi : i < bound) (rest : Bytes) :
    ∃ tape, index bound ⟨tape⟩ = .ok (i, ⟨rest⟩) := by
  have hself := indexOf?_self hword hi
  obtain ⟨block, hblock, hi'⟩ :=
    bijOn_toNatLE.surjOn (lt_size_of_lt_zone (indexOf?_eq_some.mp hself).1)
  match block, hblock with
  | [a, b, c, d], _ =>
    have hfirst : indexOf? bound (word a b c d) = some i := by
      rw [word, hi', hself]
    exact ⟨_, index_of_some (Nat.zero_lt_of_lt hi) hword hfirst⟩

end Loop

/-! ### Fair draws -/

/-- What it means that indices below a bound are drawn fairly. -/
structure Unbiased (bound : Nat) : Prop where
  accepts : ∃ w < UInt32.size, (indexOf? bound w).isSome
  inRange : ∀ w i, indexOf? bound w = some i → i < bound
  fair : ∀ i < bound, ∀ j < bound, (wordsOf bound i).card = (wordsOf bound j).card
  blocks : Set.BijOn Bytes.toNatLE {block | block.length = 4} (Set.Iio UInt32.size)
  draws : ∀ (tape rest : Bytes) (i : Nat), index bound ⟨tape⟩ = .ok (i, ⟨rest⟩) ↔
    ∃ k, FirstAccepted bound tape k i ∧ rest = tape.drop (4 * (k + 1))
  exhausts : ∀ (tape : Bytes) (fault : Crypto.Fault),
    index bound ⟨tape⟩ = .error fault ↔ fault = exhausted ∧ NoneAccepted bound tape

/-- **Indices are drawn fairly**, for every bound that is a 32-bit word and not zero: some words
are accepted, each index below the bound stands for as many of them as any other, and from any
bytes the index of the first accepted word is drawn. -/
theorem index_unbiased (hpos : 1 ≤ bound) (hword : bound < UInt32.size) : Unbiased bound where
  accepts := by
    have hzero := indexOf?_self (Nat.le_pred_of_lt hword) hpos
    exact ⟨0, Nat.zero_lt_of_lt hword, by rw [hzero]; rfl⟩
  inRange _ _ := indexOf?_lt hpos
  fair i hi j hj := by rw [card_wordsOf hi, card_wordsOf hj]
  blocks := bijOn_toNatLE
  draws _ _ _ := index_eq_ok hpos (Nat.le_pred_of_lt hword)
  exhausts _ _ := index_eq_error hpos (Nat.le_pred_of_lt hword)

/-- The six greatest words would give some digits more often than others.  They are not accepted,
so the next word is taken. -/
theorem index_unbiased_digits :
    index 10 ⟨[255, 255, 255, 255, 7, 0, 0, 0, 1]⟩ = .ok (7, ⟨[1]⟩) ∧
      index 10 ⟨[250, 255, 255, 255]⟩ = .error exhausted ∧
        (wordsOf 10 0).card = (wordsOf 10 9).card := by
  have h : Unbiased 10 := index_unbiased (by decide) (by decide)
  refine ⟨?_, ?_, h.fair 0 (by decide) 9 (by decide)⟩
  · rw [h.draws]
    refine ⟨1, ⟨by decide, by decide, ?_⟩, rfl⟩
    intro j hj
    rw [Nat.lt_one_iff.mp hj]
    decide
  · rw [h.exhausts]
    refine ⟨rfl, ?_⟩
    intro k hk
    obtain rfl : k = 0 := by
      simp only [List.length_cons, List.length_nil] at hk
      omega
    decide

end Identity.Draw
