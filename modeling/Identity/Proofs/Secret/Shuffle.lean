/-
Identity/Proofs/Secret/Shuffle.lean

Shuffling is fair.

An exchange only moves items (`exchange_perm`).  Going down, each one settles a
position for good, because those after it do not reach above their own
(`getElem?_rearrangeFrom`).  So the item that an arrangement has at the highest
position says which position has to be drawn first, if the items are distinct, and
the induction goes on below it (`existsUnique_drawn`).

Main result: `shuffle_fair`.
-/
import Identity.Proofs.Entropy
import Identity.Secret.Shuffle
import Mathlib.Data.List.Permutation
import Mathlib.Data.Set.Card

namespace Identity.Shuffle

variable {α : Type} {items arrangement : List α} {i j k upper : Nat} {drawn : List Nat}

/-! ### Exchanges -/

theorem exchange_perm (i j : Nat) (items : List α) : (exchange i j items).Perm items := by
  unfold exchange
  split
  · next x y hx hy =>
    obtain ⟨hi, rfl⟩ := List.getElem?_eq_some_iff.mp hx
    obtain ⟨hj, rfl⟩ := List.getElem?_eq_some_iff.mp hy
    exact List.set_set_perm hi hj
  · exact .refl items

theorem exchange_eq (hi : i < items.length) (hj : j < items.length) :
    exchange i j items = (items.set i items[j]).set j items[i] := by
  simp only [exchange, List.getElem?_eq_getElem hi, List.getElem?_eq_getElem hj]

theorem getElem?_exchange_left (hi : i < items.length) (hj : j < items.length) :
    (exchange i j items)[i]? = items[j]? := by
  rw [exchange_eq hi hj, List.getElem?_eq_getElem hj]
  by_cases hji : j = i
  · subst hji
    exact List.getElem?_set_self (by simpa using hj)
  · rw [List.getElem?_set_ne hji]
    exact List.getElem?_set_self hi

theorem getElem?_exchange_of_ne (hi : k ≠ i) (hj : k ≠ j) :
    (exchange i j items)[k]? = items[k]? := by
  unfold exchange
  split
  · rw [List.getElem?_set_ne hj.symm, List.getElem?_set_ne hi.symm]
  · rfl

/-! ### Sequences of draws -/

/-- One position is drawn for each of `upper`, …, 2, 1, and none of them lies above it. -/
structure Admissible (upper : Nat) (drawn : List Nat) : Prop where
  length_eq : drawn.length = upper
  le : ∀ t (h : t < drawn.length), drawn[t] ≤ upper - t

theorem admissible_zero : Admissible 0 drawn ↔ drawn = [] := by
  constructor
  · intro h
    exact List.length_eq_zero_iff.mp h.length_eq
  · rintro rfl
    exact ⟨rfl, fun t h => absurd h (Nat.not_lt_zero t)⟩

theorem admissible_cons :
    Admissible (upper + 1) (j :: drawn) ↔ j ≤ upper + 1 ∧ Admissible upper drawn := by
  constructor
  · rintro ⟨hlength, hle⟩
    refine ⟨hle 0 (Nat.succ_pos _), Nat.succ.inj hlength, ?_⟩
    intro t ht
    have hnext := hle (t + 1) (Nat.succ_lt_succ ht)
    rwa [Nat.add_sub_add_right] at hnext
  · rintro ⟨hj, hlength, hle⟩
    refine ⟨congrArg Nat.succ hlength, ?_⟩
    intro t ht
    cases t with
    | zero => exact hj
    | succ t =>
      rw [Nat.add_sub_add_right]
      exact hle t (Nat.lt_of_succ_lt_succ ht)

theorem Admissible.exists_cons (h : Admissible (upper + 1) drawn) :
    ∃ j js, drawn = j :: js ∧ j ≤ upper + 1 ∧ Admissible upper js := by
  cases drawn with
  | nil => cases h.length_eq
  | cons j js => exact ⟨j, js, rfl, admissible_cons.mp h⟩

/-- Every admissible sequence can be drawn, when its positions are words. -/
theorem exists_draws_eq_ok (hword : upper < Draw.maxWord) (h : Admissible upper drawn)
    (rest : Bytes) : ∃ tape, draws upper ⟨tape⟩ = .ok (drawn, ⟨rest⟩) := by
  induction upper generalizing drawn with
  | zero =>
    rw [admissible_zero.mp h]
    exact ⟨rest, rfl⟩
  | succ upper ih =>
    obtain ⟨j, js, rfl, hj, hjs⟩ := h.exists_cons
    obtain ⟨between, hbetween⟩ := ih (Nat.lt_of_succ_lt hword) hjs
    obtain ⟨tape, htape⟩ := Draw.exists_index_eq_ok hword (Nat.lt_succ_of_le hj) between
    refine ⟨tape, ?_⟩
    rw [draws, Draw.bind_eq_ok]
    refine ⟨j, ⟨between⟩, htape, ?_⟩
    rw [Draw.bind_eq_ok]
    exact ⟨js, ⟨rest⟩, hbetween, rfl⟩

theorem admissible_of_gives (h : (draws upper).Gives drawn) : Admissible upper drawn := by
  induction upper generalizing drawn with
  | zero => rw [admissible_zero, Draw.gives_pure h]
  | succ upper ih =>
    obtain ⟨j, hj, h⟩ := Draw.gives_bind h
    obtain ⟨js, hjs, h⟩ := Draw.gives_bind h
    rw [Draw.gives_pure h, admissible_cons]
    exact ⟨Nat.le_of_lt_succ (Draw.lt_of_gives_index hj), ih hjs⟩

/-- What can be drawn are the admissible sequences. -/
theorem gives_draws_iff (hword : upper < Draw.maxWord) :
    (draws upper).Gives drawn ↔ Admissible upper drawn := by
  constructor
  · exact admissible_of_gives
  · intro h
    obtain ⟨tape, htape⟩ := exists_draws_eq_ok hword h []
    exact ⟨⟨tape⟩, ⟨[]⟩, htape⟩

/-! ### Rearranging -/

theorem rearrangeFrom_cons (upper j : Nat) (js : List Nat) (items : List α) :
    rearrangeFrom (upper + 1) (j :: js) items =
      rearrangeFrom upper js (exchange (upper + 1) j items) := rfl

theorem rearrangeFrom_perm (upper : Nat) (drawn : List Nat) (items : List α) :
    (rearrangeFrom upper drawn items).Perm items := by
  induction upper generalizing drawn items with
  | zero => exact .refl items
  | succ upper ih =>
    cases drawn with
    | nil => exact .refl items
    | cons j drawn => exact (ih drawn _).trans (exchange_perm (upper + 1) j items)

/-- Rearranging neither loses an item nor adds one. -/
theorem rearrange_perm (drawn : List Nat) (items : List α) : (rearrange drawn items).Perm items :=
  rearrangeFrom_perm _ drawn items

/-- What stands above is not touched any more. -/
theorem getElem?_rearrangeFrom (h : Admissible upper drawn) (hk : upper < k) :
    (rearrangeFrom upper drawn items)[k]? = items[k]? := by
  induction upper generalizing drawn items with
  | zero => rfl
  | succ upper ih =>
    obtain ⟨j, js, rfl, hj, hjs⟩ := h.exists_cons
    rw [rearrangeFrom_cons, ih hjs (Nat.lt_of_succ_lt hk)]
    exact getElem?_exchange_of_ne (Nat.ne_of_gt hk) (Nat.ne_of_gt (Nat.lt_of_le_of_lt hj hk))

/-- What the first exchange puts in its place stays there. -/
theorem getElem?_rearrangeFrom_succ {js : List Nat} (hupper : upper + 1 < items.length)
    (hj : j ≤ upper + 1) (hjs : Admissible upper js) :
    (rearrangeFrom (upper + 1) (j :: js) items)[upper + 1]? = items[j]? := by
  rw [rearrangeFrom_cons, getElem?_rearrangeFrom hjs (Nat.lt_succ_self upper)]
  exact getElem?_exchange_left hupper (Nat.lt_of_le_of_lt hj hupper)

/-- The item that an arrangement has at a position is not yet above it, if everything above is in
its place. -/
theorem exists_position (hnodup : items.Nodup) (hperm : arrangement.Perm items)
    (hupper : upper < items.length) (habove : ∀ k, upper < k → arrangement[k]? = items[k]?) :
    ∃ j ≤ upper, items[j]? = arrangement[upper]? := by
  have hlt : upper < arrangement.length := hperm.length_eq ▸ hupper
  have hmem : arrangement[upper] ∈ items := hperm.mem_iff.mp (List.getElem_mem hlt)
  obtain ⟨j, hj⟩ := List.mem_iff_getElem?.mp hmem
  rw [← List.getElem?_eq_getElem hlt] at hj
  refine ⟨j, Nat.le_of_not_lt ?_, hj⟩
  intro hbeyond
  rw [← habove j hbeyond] at hj
  have hsame : upper = j := (List.getElem?_inj hlt (hperm.nodup_iff.mpr hnodup)).mp hj.symm
  exact absurd hbeyond (hsame ▸ Nat.lt_irrefl upper)

/-- **An arrangement arises in one way.**  The induction goes down with the positions; everything
above them is in its place. -/
theorem existsUnique_drawn (hnodup : items.Nodup) (hperm : arrangement.Perm items)
    (hupper : upper < items.length) (habove : ∀ k, upper < k → arrangement[k]? = items[k]?) :
    ∃! drawn, Admissible upper drawn ∧ rearrangeFrom upper drawn items = arrangement := by
  induction upper generalizing items with
  | zero =>
    obtain ⟨j, hj, hposition⟩ := exists_position hnodup hperm hupper habove
    obtain rfl : j = 0 := Nat.le_zero.mp hj
    have heq : items = arrangement := by
      apply List.ext_getElem?
      intro k
      cases k with
      | zero => exact hposition
      | succ k => exact (habove (k + 1) (Nat.succ_pos k)).symm
    refine ⟨[], ⟨admissible_zero.mpr rfl, heq⟩, ?_⟩
    rintro drawn ⟨hdrawn, -⟩
    exact admissible_zero.mp hdrawn
  | succ upper ih =>
    obtain ⟨j, hj, hposition⟩ := exists_position hnodup hperm hupper habove
    have hexchange := exchange_perm (upper + 1) j items
    have hsettled : ∀ k, upper < k → arrangement[k]? = (exchange (upper + 1) j items)[k]? := by
      intro k hk
      rcases Nat.eq_or_lt_of_le (Nat.succ_le_of_lt hk) with rfl | hbeyond
      · rw [getElem?_exchange_left hupper (Nat.lt_of_le_of_lt hj hupper)]
        exact hposition.symm
      · rw [habove k hbeyond]
        exact (getElem?_exchange_of_ne (Nat.ne_of_gt hbeyond)
          (Nat.ne_of_gt (Nat.lt_of_le_of_lt hj hbeyond))).symm
    obtain ⟨js, ⟨hjs, hresult⟩, hunique⟩ := ih (hexchange.nodup_iff.mpr hnodup)
      (hperm.trans hexchange.symm) (hexchange.length_eq ▸ Nat.lt_of_succ_lt hupper) hsettled
    refine ⟨j :: js, ⟨admissible_cons.mpr ⟨hj, hjs⟩, hresult⟩, ?_⟩
    rintro drawn ⟨hdrawn, hresult'⟩
    obtain ⟨j', js', rfl, hj', hjs'⟩ := hdrawn.exists_cons
    -- the first draw is the position of the item that the arrangement ends with
    have hfirst : items[j']? = items[j]? := by
      rw [hposition, ← hresult']
      exact (getElem?_rearrangeFrom_succ hupper hj' hjs').symm
    obtain rfl : j' = j :=
      (List.getElem?_inj (Nat.lt_of_le_of_lt hj' hupper) hnodup).mp hfirst
    rw [hunique js' ⟨hjs', hresult'⟩]

theorem existsUnique_rearrange (hnodup : items.Nodup) (hperm : arrangement.Perm items) :
    ∃! drawn, Admissible (items.length - 1) drawn ∧ rearrange drawn items = arrangement := by
  cases items with
  | nil =>
    rw [List.perm_nil.mp hperm]
    refine ⟨[], ⟨admissible_zero.mpr rfl, rfl⟩, ?_⟩
    rintro drawn ⟨hdrawn, -⟩
    exact admissible_zero.mp hdrawn
  | cons x items =>
    refine existsUnique_drawn hnodup hperm (Nat.lt_succ_self _) ?_
    intro k hk
    have hlong : (x :: items).length ≤ k := hk
    rw [List.getElem?_eq_none hlong, List.getElem?_eq_none (hperm.length_eq ▸ hlong)]

/-- Shuffling neither loses an item nor adds one. -/
theorem shuffle_perm {items shuffled : List α} (h : (shuffle items).Gives shuffled) :
    shuffled.Perm items := by
  obtain ⟨drawn, -, h⟩ := Draw.gives_bind h
  rw [Draw.gives_pure h]
  exact rearrange_perm drawn items

/-! ### Fair shuffles -/

/-- The arrangements of a list. -/
def arrangements (items : List α) : Set (List α) := {arrangement | arrangement.Perm items}

theorem bijOn_rearrange (hnodup : items.Nodup) :
    Set.BijOn (fun drawn => rearrange drawn items)
      {drawn | Admissible (items.length - 1) drawn} (arrangements items) := by
  refine ⟨?_, ?_, ?_⟩
  · intro drawn _
    exact rearrange_perm drawn items
  · intro drawn hdrawn drawn' hdrawn' h
    have hunique := existsUnique_rearrange hnodup (rearrange_perm drawn' items)
    exact hunique.unique ⟨hdrawn, h⟩ ⟨hdrawn', rfl⟩
  · intro arrangement hperm
    exact (existsUnique_rearrange hnodup hperm).exists

theorem ncard_arrangements (hnodup : items.Nodup) :
    (arrangements items).ncard = items.length.factorial := by
  classical
  have hset : arrangements items = (items.permutations.toFinset : Set (List α)) := by
    ext arrangement
    simp [arrangements]
  rw [hset, Set.ncard_coe_finset, List.toFinset_card_of_nodup (items.nodup_permutations hnodup),
    List.length_permutations]

/-- What it means that a list is shuffled fairly. -/
structure Fair (items : List α) : Prop where
  carriesOut : ∀ (entropy rest : Entropy) (arrangement : List α),
    shuffle items entropy = .ok (arrangement, rest) ↔
      ∃ drawn, draws (items.length - 1) entropy = .ok (drawn, rest) ∧
        rearrange drawn items = arrangement
  draws : items.length < UInt32.size → ∀ drawn,
    (draws (items.length - 1)).Gives drawn ↔ Admissible (items.length - 1) drawn
  keeps : ∀ drawn, (rearrange drawn items).Perm items
  bijective : Set.BijOn (fun drawn => rearrange drawn items)
    {drawn | Admissible (items.length - 1) drawn} (arrangements items)
  sequences : {drawn | Admissible (items.length - 1) drawn}.ncard = items.length.factorial
  orders : (arrangements items).ncard = items.length.factorial

/-- **Shuffling is fair.**  The sequences of draws lead to the arrangements of distinct items, each
to another one, and all of them are reached.  Whatever is drawn, no item is lost or doubled. -/
theorem shuffle_fair (hnodup : items.Nodup) : Fair items where
  carriesOut entropy rest arrangement := by
    rw [shuffle, Draw.bind_eq_ok]
    constructor
    · rintro ⟨drawn, between, hdrawn, h⟩
      cases h
      exact ⟨drawn, hdrawn, rfl⟩
    · rintro ⟨drawn, hdrawn, rfl⟩
      exact ⟨drawn, rest, hdrawn, rfl⟩
  draws hword drawn := by
    have hpos : 0 < Draw.maxWord := by decide
    have hmax : UInt32.size = Draw.maxWord + 1 := rfl
    exact gives_draws_iff (by omega)
  keeps drawn := rearrange_perm drawn items
  bijective := bijOn_rearrange hnodup
  sequences := by
    rw [← ncard_arrangements hnodup, ← (bijOn_rearrange hnodup).image_eq]
    exact (bijOn_rearrange hnodup).injOn.ncard_image.symm
  orders := ncard_arrangements hnodup

/-- Three characters in each of the six orders. -/
theorem shuffle_fair_three :
    {drawn | Admissible 2 drawn}.ncard = 6 ∧
      ∃ drawn, Admissible 2 drawn ∧ rearrange drawn ['A', 'b', '3'] = ['3', 'A', 'b'] := by
  have h : Fair ['A', 'b', '3'] := shuffle_fair (by decide)
  refine ⟨h.sequences, ?_⟩
  have hperm : ['3', 'A', 'b'].Perm ['A', 'b', '3'] := by decide
  exact h.bijective.surjOn hperm

/-! ### Faults -/

theorem eq_exhausted_of_faults_draws {upper : Nat} {fault : Crypto.Fault}
    (hword : upper < Draw.maxWord) (h : (draws upper).Faults fault) : fault = Draw.exhausted := by
  induction upper with
  | zero => exact absurd h Draw.not_faults_pure
  | succ upper ih =>
    rcases Draw.faults_bind h with h | ⟨j, -, h⟩
    · exact Draw.eq_exhausted_of_faults_index (Nat.succ_ne_zero _) hword h
    · rcases Draw.faults_bind h with h | ⟨js, -, h⟩
      · exact ih (Nat.lt_of_succ_lt hword) h
      · exact absurd h Draw.not_faults_pure

/-- Shuffling fails only for want of bytes, when positions are words. -/
theorem eq_exhausted_of_faults_shuffle {items : List α} {fault : Crypto.Fault}
    (hword : items.length ≤ Draw.maxWord) (h : (shuffle items).Faults fault) :
    fault = Draw.exhausted := by
  have hlast : items.length - 1 < Draw.maxWord := by
    have hpos : 0 < Draw.maxWord := by decide
    omega
  rcases Draw.faults_bind h with h | ⟨drawn, -, h⟩
  · exact eq_exhausted_of_faults_draws hlast h
  · exact absurd h Draw.not_faults_pure

end Identity.Shuffle
