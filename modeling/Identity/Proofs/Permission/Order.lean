/-
Identity/Proofs/Permission/Order.lean

Coverage orders permissions.

As a whole permission the wildcard covers texts of any number of segments; as a
segment it stands for one segment.  Both are written the same, and both may occur
in what is required as well; so most steps begin by asking whether a permission is
the wildcard as a whole.  Where none is, segments are compared position by
position.

What makes the order antisymmetric is that a permission can be told from its
segments (`segments_injective`).

Main result: `coverage_ordered`, with the consequence that it makes no difference
whether a permission is granted that another granted one covers.
-/
import Identity.Proofs.Permission

namespace Identity.Permission

variable {p q r : String}

/-! ### Segments -/

theorem segments_injective : Function.Injective segments := by
  intro p q h
  have hjoined := congrArg [separator].intercalate h
  unfold segments at hjoined
  rw [List.intercalate_splitOn, List.intercalate_splitOn] at hjoined
  exact String.toList_inj.mp hjoined

/-- The wildcard as a whole is the permission whose only segment is the wildcard. -/
theorem segments_eq_wildcard : segments p = [wildcard] ↔ p = "*" := by
  have hall : segments "*" = [wildcard] := by decide
  rw [← hall]
  exact segments_injective.eq_iff

/-! ### Laws of coverage -/

theorem Covers.refl (p : String) : Covers p p :=
  .inr ⟨rfl, fun _ _ _ => .inr rfl⟩

theorem covers_all (p : String) : Covers "*" p := .inl rfl

/-- Only the wildcard covers the wildcard. -/
theorem Covers.eq_wildcard (h : Covers p "*") : p = "*" := by
  rcases h with hall | ⟨hlength, hcovers⟩
  · exact hall
  · have hsegments : segments "*" = [wildcard] := segments_eq_wildcard.mpr rfl
    rw [hsegments] at hlength
    simp only [hsegments] at hcovers
    obtain ⟨segment, hsegment⟩ := List.length_eq_one_iff.mp hlength
    -- the only segment is the wildcard or equal to it
    have hfirst : segment = wildcard := by
      have hcovered := hcovers 0 (by simp [hsegment]) (by simp)
      simp only [hsegment, List.getElem_cons_zero] at hcovered
      exact hcovered.elim id id
    exact segments_eq_wildcard.mp (by rw [hsegment, hfirst])

theorem Covers.trans (h : Covers p q) (h' : Covers q r) : Covers p r := by
  rcases h with rfl | ⟨hlength, hcovers⟩
  · exact covers_all r
  · rcases h' with rfl | ⟨hlength', hcovers'⟩
    · exact .inl (Covers.eq_wildcard (.inr ⟨hlength, hcovers⟩))
    · refine .inr ⟨hlength.trans hlength', fun i hp hr => ?_⟩
      have hq : i < (segments q).length := hlength ▸ hp
      rcases hcovers i hp hq with hall | heq
      · exact .inl hall
      · rw [heq]
        exact hcovers' i hq hr

theorem Covers.antisymm (h : Covers p q) (h' : Covers q p) : p = q := by
  rcases h with rfl | ⟨hlength, hcovers⟩
  · exact h'.eq_wildcard.symm
  · rcases h' with rfl | ⟨-, hcovers'⟩
    · exact Covers.eq_wildcard (.inr ⟨hlength, hcovers⟩)
    -- where one of two segments is the wildcard, the other one has to cover it
    · refine segments_injective (List.ext_getElem hlength fun i hp hq => ?_)
      rcases hcovers i hp hq with hall | heq
      · rcases hcovers' i hq hp with hall' | heq'
        · exact hall.trans hall'.symm
        · exact heq'.symm
      · exact heq

instance : IsPartialOrder String Covers where
  refl := Covers.refl
  trans _ _ _ := Covers.trans
  antisymm _ _ := Covers.antisymm

/-! ### Lists of permissions -/

/-- Whoever has been granted a permission gains nothing from one that it covers. -/
theorem anyCovers_insert {before after : List String} (hp : p ∈ before ++ after)
    (h : Covers p q) (r : String) :
    anyCovers (before ++ q :: after) r = anyCovers (before ++ after) r := by
  rw [Bool.eq_iff_iff, anyCovers_eq_true, anyCovers_eq_true]
  constructor
  · rintro ⟨granted, hgranted, hcovers⟩
    rw [List.mem_append, List.mem_cons, or_left_comm, ← List.mem_append] at hgranted
    rcases hgranted with rfl | hgranted
    · exact ⟨p, hp, h.trans hcovers⟩
    · exact ⟨granted, hgranted, hcovers⟩
  · rintro ⟨granted, hgranted, hcovers⟩
    refine ⟨granted, ?_, hcovers⟩
    rw [List.mem_append, List.mem_cons, or_left_comm, ← List.mem_append]
    exact .inr hgranted

/-- **Coverage is a partial order** of all texts, well-formed or not, in which the wildcard is the
greatest; and in a list of granted permissions those that another one covers decide nothing,
wherever they stand. -/
theorem coverage_ordered :
    IsPartialOrder String (fun p q => covers p q = true) ∧
      (∀ p, covers "*" p = true) ∧ (∀ p, covers p "*" = true → p = "*") ∧
        ∀ (before after : List String) (p q : String), p ∈ before ++ after → covers p q = true →
          ∀ r, anyCovers (before ++ q :: after) r = anyCovers (before ++ after) r := by
  simp only [covers_eq_true]
  exact ⟨inferInstance, covers_all, fun _ => Covers.eq_wildcard,
    fun _ _ _ _ => anyCovers_insert⟩

/-- Whoever may do anything to users may also read them, and not the other way round. -/
theorem coverage_ordered_users :
    covers "users:*" "users:read" = true ∧ covers "users:read" "users:*" = false ∧
      covers "*:*" "*" = false ∧
        ∀ r, anyCovers ["users:*", "users:read", "roles:"] r = anyCovers ["users:*", "roles:"] r := by
  obtain ⟨horder, -, htop, hredundant⟩ := coverage_ordered
  have hread : covers "users:*" "users:read" = true := by decide +kernel
  refine ⟨hread, ?_, ?_, hredundant ["users:*"] ["roles:"] _ _ (by simp) hread⟩
  · rw [Bool.eq_false_iff]
    exact fun h => absurd (horder.antisymm _ _ hread h) (by decide)
  · rw [Bool.eq_false_iff]
    exact fun h => absurd (htop _ h) (by decide)

end Identity.Permission
