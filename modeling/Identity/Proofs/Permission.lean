/-
Identity/Proofs/Permission.lean

Coverage of permissions, said without the functions that decide it.

`Covers granted required` compares two texts position by position: either the
granted one is the wildcard, or both have the same number of segments and
each granted segment is the wildcard or equal to the required one.  The
decision takes a shortcut for equal texts, which the comparison by positions
makes superfluous (`covers_eq_true`).

Dropping repeats changes no membership (`mem_dedup`), so it changes no
decision either; and what is left stands in the order of first occurrences
(`firstOccurrences_dedup`).
-/
import Identity.Permission
import Mathlib.Data.List.Forall2
import Mathlib.Tactic.Common

namespace Identity.Permission

/-! ### Coverage by positions -/

/-- The granted permission covers the required one. -/
def Covers (granted required : String) : Prop :=
  granted = "*" ∨
    (segments granted).length = (segments required).length ∧
      ∀ i (hg : i < (segments granted).length) (hr : i < (segments required).length),
        (segments granted)[i] = ['*'] ∨ (segments granted)[i] = (segments required)[i]

theorem segmentCovers_eq_true {granted required : List Char} :
    segmentCovers granted required = true ↔ granted = wildcard ∨ granted = required := by
  simp [segmentCovers]

theorem segmentsCover_eq_true {granted required : List (List Char)} :
    segmentsCover granted required = true ↔
      List.Forall₂ (fun g r => g = wildcard ∨ g = r) granted required := by
  induction granted generalizing required with
  | nil => cases required <;> simp [segmentsCover]
  | cons g gs ih =>
    cases required with
    | nil => simp [segmentsCover]
    | cons r rs => simp [segmentsCover, segmentCovers_eq_true, ih]

theorem toList_eq_wildcard {permission : String} :
    permission.toList = wildcard ↔ permission = "*" := by
  rw [← String.toList_inj]
  rfl

/-- The decision is coverage by positions. -/
theorem covers_eq_true {granted required : String} :
    covers granted required = true ↔ Covers granted required := by
  unfold covers Covers
  rw [Bool.or_eq_true, Bool.or_eq_true, beq_iff_eq, beq_iff_eq, segmentsCover_eq_true,
    List.forall₂_iff_get, toList_eq_wildcard]
  constructor
  · rintro ((hall | rfl) | hsegments)
    · exact .inl hall
    -- the shortcut: equal texts agree at every position
    · exact .inr ⟨rfl, fun _ _ _ => .inr rfl⟩
    · exact .inr hsegments
  · rintro (hall | hsegments)
    · exact .inl (.inl hall)
    · exact .inr hsegments

instance (granted required : String) : Decidable (Covers granted required) :=
  decidable_of_iff _ covers_eq_true

theorem anyCovers_eq_true {granted : List String} {required : String} :
    anyCovers granted required = true ↔ ∃ p ∈ granted, Covers p required := by
  simp [anyCovers, covers_eq_true]

/-! ### Lists without repeats -/

theorem mem_dedupAfter {p : String} {seen permissions : List String} :
    p ∈ dedupAfter seen permissions ↔ p ∈ permissions ∧ p ∉ seen := by
  induction permissions generalizing seen with
  | nil => simp [dedupAfter]
  | cons q qs ih =>
    by_cases hq : q ∈ seen
    -- a repeat is dropped, so it can only be reached as one that was seen
    · rw [dedupAfter, if_pos hq, ih, List.mem_cons]
      constructor
      · rintro ⟨hp, hseen⟩
        exact ⟨.inr hp, hseen⟩
      · rintro ⟨rfl | hp, hseen⟩
        · exact absurd hq hseen
        · exact ⟨hp, hseen⟩
    · rw [dedupAfter, if_neg hq, List.mem_cons, ih, List.mem_cons, List.mem_cons]
      constructor
      · rintro (rfl | ⟨hp, hseen⟩)
        · exact ⟨.inl rfl, hq⟩
        · exact ⟨.inr hp, fun h => hseen (.inr h)⟩
      · rintro ⟨rfl | hp, hseen⟩
        · exact .inl rfl
        · by_cases hpq : p = q
          · exact .inl hpq
          · exact .inr ⟨hp, by simp [hpq, hseen]⟩

@[simp] theorem mem_dedup {p : String} {permissions : List String} :
    p ∈ dedup permissions ↔ p ∈ permissions := by
  simp [dedup, mem_dedupAfter]

/-- A list is another one without later repeats: it has the same elements, each of them once, in
the order in which they occur first. -/
structure FirstOccurrences (given kept : List String) : Prop where
  mem : ∀ p, p ∈ kept ↔ p ∈ given
  order : kept.Pairwise fun p q => given.idxOf p < given.idxOf q

theorem pairwise_dedupAfter (seen permissions : List String) :
    (dedupAfter seen permissions).Pairwise fun p q =>
      permissions.idxOf p < permissions.idxOf q := by
  induction permissions generalizing seen with
  | nil => exact List.Pairwise.nil
  | cons q qs ih =>
    -- what is kept of the rest is not `q`, so it stands one place further back
    have hshift : ∀ seen, q ∈ seen → (dedupAfter seen qs).Pairwise fun p r =>
        (q :: qs).idxOf p < (q :: qs).idxOf r := by
      intro seen hq
      refine (ih seen).imp_of_mem fun {p r} hp hr hlt => ?_
      have hpq : q ≠ p := fun h => (mem_dedupAfter.mp hp).2 (h ▸ hq)
      have hrq : q ≠ r := fun h => (mem_dedupAfter.mp hr).2 (h ▸ hq)
      rw [List.idxOf_cons_ne qs hpq, List.idxOf_cons_ne qs hrq]
      exact Nat.succ_lt_succ hlt
    by_cases hq : q ∈ seen
    · rw [dedupAfter, if_pos hq]
      exact hshift seen hq
    · rw [dedupAfter, if_neg hq]
      refine List.Pairwise.cons (fun p hp => ?_) (hshift (q :: seen) (List.mem_cons_self ..))
      have hpq : q ≠ p := fun h => (mem_dedupAfter.mp hp).2 (h ▸ List.mem_cons_self ..)
      rw [List.idxOf_cons_self, List.idxOf_cons_ne qs hpq]
      exact Nat.succ_pos _

theorem firstOccurrences_dedup (permissions : List String) :
    FirstOccurrences permissions (dedup permissions) where
  mem _ := mem_dedup
  order := pairwise_dedupAfter [] permissions

theorem FirstOccurrences.nodup {given kept : List String} (h : FirstOccurrences given kept) :
    kept.Nodup :=
  List.nodup_iff_pairwise_ne.mpr <| h.order.imp fun hlt heq =>
    Nat.ne_of_lt hlt (congrArg given.idxOf heq)

/-- A list without repeats is left as it is. -/
theorem dedup_eq_self {permissions : List String} (h : permissions.Nodup) :
    dedup permissions = permissions := by
  have hkept : ∀ (seen permissions : List String), permissions.Nodup →
      (∀ p ∈ permissions, p ∉ seen) → dedupAfter seen permissions = permissions := by
    intro seen permissions h
    induction permissions generalizing seen with
    | nil => exact fun _ => rfl
    | cons q qs ih =>
      intro hseen
      obtain ⟨hq, hqs⟩ := List.nodup_cons.mp h
      rw [dedupAfter, if_neg (hseen q (List.mem_cons_self ..))]
      refine congrArg (q :: ·) (ih (q :: seen) hqs fun p hp hmem => ?_)
      rcases List.mem_cons.mp hmem with rfl | hmem
      · exact hq hp
      · exact hseen p (List.mem_cons_of_mem q hp) hmem
  exact hkept [] permissions h fun _ _ => List.not_mem_nil

/-! ### Well-formed permissions -/

/-- The permission is a sequence of segments with separators in between.  There is at least one
segment, and none is empty or contains a separator or white space. -/
def Segmented (permission : String) : Prop :=
  ∃ parts : List (List Char), parts ≠ [] ∧ permission.toList = [':'].intercalate parts ∧
    ∀ part ∈ parts, part ≠ [] ∧ ∀ c ∈ part, c ≠ ':' ∧ Unicode.isWhiteSpace c = false

/-- What stands between two separators is part of the text and holds no separator. -/
theorem of_mem_splitOn {c sep : Char} {text part : List Char} (hpart : part ∈ text.splitOn sep)
    (hc : c ∈ part) : c ≠ sep ∧ c ∈ text := by
  induction text generalizing part with
  | nil =>
    rw [List.splitOn_nil, List.mem_singleton] at hpart
    rw [hpart] at hc
    cases hc
  | cons d text ih =>
    rw [List.splitOn_cons_eq_if_modifyHead] at hpart
    split_ifs at hpart with hd
    · rcases List.mem_cons.mp hpart with rfl | hpart
      · cases hc
      · obtain ⟨hne, hmem⟩ := ih hpart hc
        exact ⟨hne, List.mem_cons_of_mem d hmem⟩
    -- the character goes in front of the first part
    · obtain ⟨first, parts, hparts⟩ := List.exists_cons_of_ne_nil (List.splitOn_ne_nil sep text)
      rw [hparts, List.modifyHead_cons] at hpart
      rw [hparts] at ih
      rcases List.mem_cons.mp hpart with rfl | hpart
      · rcases List.mem_cons.mp hc with rfl | hc
        · exact ⟨by simpa using hd, List.mem_cons_self ..⟩
        · obtain ⟨hne, hmem⟩ := ih (List.mem_cons_self ..) hc
          exact ⟨hne, List.mem_cons_of_mem d hmem⟩
      · obtain ⟨hne, hmem⟩ := ih (List.mem_cons_of_mem first hpart) hc
        exact ⟨hne, List.mem_cons_of_mem d hmem⟩

theorem segmented_of_check {permission : String} (h : check permission = .ok ()) :
    Segmented permission := by
  unfold check at h
  split_ifs at h with hempty hblank hsegments
  refine ⟨segments permission, List.splitOn_ne_nil _ _, (List.intercalate_splitOn _).symm, ?_⟩
  intro part hpart
  constructor
  · rintro rfl
    exact hsegments (List.any_eq_true.mpr ⟨[], hpart, rfl⟩)
  · intro c hc
    obtain ⟨hsep, hmem⟩ := of_mem_splitOn hpart hc
    refine ⟨hsep, Bool.eq_false_iff.mpr fun hspace => ?_⟩
    exact hblank (List.any_eq_true.mpr ⟨c, hmem, hspace⟩)

end Identity.Permission
