/-
Identity/Proofs/Check/Key.lean

Keys of requests can be read back.

A key has at least two separators.  The permission may bring more of them, even
at its ends, and any part may be empty; as long as principal and resource bring
none, the first separator ends the principal and the last one begins the
resource.  Conversely, every text with two separators can be taken apart in this
way.  So what a request that is not let through would be remembered under is
always the key of one that is.

Main result: `keys_exact`.
-/
import Identity.Check.Checker
import Mathlib.Data.List.Basic
import Mathlib.Data.Set.Function
import Mathlib.Tactic.Common

namespace Identity.Check

/-! ### Parts around a separator -/

variable {α : Type}

/-- The first separator of two equal lists stands at the same place. -/
theorem append_cons_inj_of_notMem_left {x : α} {a b c d : List α} (ha : x ∉ a) (hc : x ∉ c)
    (h : a ++ x :: b = c ++ x :: d) : a = c ∧ b = d := by
  induction a generalizing c with
  | nil =>
    cases c with
    | nil => exact ⟨rfl, (List.cons.inj h).2⟩
    | cons y c => exact absurd ((List.cons.inj h).1 ▸ List.mem_cons_self) hc
  | cons z a ih =>
    cases c with
    | nil => exact absurd ((List.cons.inj h).1 ▸ List.mem_cons_self) ha
    | cons y c =>
      obtain ⟨hhead, htail⟩ := List.cons.inj h
      obtain ⟨hac, hbd⟩ := ih (fun hx => ha (List.mem_cons_of_mem z hx))
        (fun hx => hc (List.mem_cons_of_mem y hx)) htail
      exact ⟨by rw [hhead, hac], hbd⟩

/-- So does the last one. -/
theorem append_cons_inj_of_notMem_right {x : α} {a b c d : List α} (hb : x ∉ b) (hd : x ∉ d)
    (h : a ++ x :: b = c ++ x :: d) : a = c ∧ b = d := by
  have hreverse : b.reverse ++ x :: a.reverse = d.reverse ++ x :: c.reverse := by
    simpa using congrArg List.reverse h
  obtain ⟨hbd, hac⟩ :=
    append_cons_inj_of_notMem_left (by simpa using hb) (by simpa using hd) hreverse
  exact ⟨List.reverse_inj.mp hac, List.reverse_inj.mp hbd⟩

/-- The last occurrence of an element of a list. -/
theorem exists_append_cons_of_mem {x : α} {l : List α} (h : x ∈ l) :
    ∃ a b, l = a ++ x :: b ∧ x ∉ b := by
  obtain ⟨b, a, hreverse, hb⟩ := List.eq_append_cons_of_mem (List.mem_reverse.mpr h)
  refine ⟨a.reverse, b.reverse, ?_, by simpa using hb⟩
  simpa using congrArg List.reverse hreverse

/-! ### Requests and their keys -/

namespace Request

variable {request other : Request}

/-- Neither the principal nor the resource contains a separator. -/
def Separable (request : Request) : Prop :=
  ':' ∉ request.principal.toList ∧ ':' ∉ request.resource.toList

theorem isAmbiguous_eq_false : request.isAmbiguous = false ↔ request.Separable := by
  simp [isAmbiguous, keySeparator, Separable]

/-- Separable requests have keys of their own. -/
theorem eq_of_key_eq (hrequest : request.Separable) (hother : other.Separable)
    (h : request.key = other.key) : request = other := by
  obtain ⟨hprincipal, hresource⟩ := hrequest
  obtain ⟨hprincipal', hresource'⟩ := hother
  have hkey := String.ofList_injective h
  rw [List.append_assoc, List.append_assoc, List.cons_append, List.cons_append] at hkey
  obtain ⟨hp, hrest⟩ := append_cons_inj_of_notMem_left hprincipal hprincipal' hkey
  obtain ⟨hm, hr⟩ := append_cons_inj_of_notMem_right hresource hresource' hrest
  cases request
  cases other
  simp_all [String.toList_inj]

theorem two_le_count_key (request : Request) : 2 ≤ request.key.toList.count ':' := by
  simp only [key, keySeparator, String.toList_ofList, List.append_assoc, List.cons_append,
    List.count_append, List.count_cons_self]
  omega

/-- A text with two separators is the key of a separable request. -/
theorem exists_key_eq {text : String} (h : 2 ≤ text.toList.count ':') :
    ∃ request : Request, request.Separable ∧ request.key = text := by
  have hmem : ':' ∈ text.toList := List.count_pos_iff.mp (by omega)
  obtain ⟨principal, rest, htext, hprincipal⟩ := List.eq_append_cons_of_mem hmem
  -- the principal takes none of the separators, so there is one left
  have hcount : text.toList.count ':' = rest.count ':' + 1 := by
    rw [htext, List.count_append, List.count_eq_zero.mpr hprincipal, List.count_cons_self,
      Nat.zero_add]
  have hrest : ':' ∈ rest := List.count_pos_iff.mp (by omega)
  obtain ⟨permission, resource, rfl, hresource⟩ := exists_append_cons_of_mem hrest
  refine ⟨⟨String.ofList principal, String.ofList permission, String.ofList resource⟩, ?_, ?_⟩
  · simp only [Separable, String.toList_ofList]
    exact ⟨hprincipal, hresource⟩
  · apply String.toList_injective
    simp [key, keySeparator, htext]

theorem existsUnique_key_eq {text : String} (h : 2 ≤ text.toList.count ':') :
    ∃! request : Request, request.Separable ∧ request.key = text := by
  obtain ⟨request, hrequest, hkey⟩ := exists_key_eq h
  refine ⟨request, ⟨hrequest, hkey⟩, ?_⟩
  rintro other ⟨hother, hkey'⟩
  exact eq_of_key_eq hother hrequest (hkey'.trans hkey.symm)

/-- How keys and the requests that are let through belong together. -/
structure KeysExact : Prop where
  injective : ∀ principal permission resource principal' permission' resource' : String,
    ':' ∉ principal.toList → ':' ∉ resource.toList → ':' ∉ principal'.toList →
      ':' ∉ resource'.toList →
        key ⟨principal, permission, resource⟩ = key ⟨principal', permission', resource'⟩ →
          principal = principal' ∧ permission = permission' ∧ resource = resource'
  letThrough : Set.InjOn key {request : Request | request.isAmbiguous = false}
  readable : ∀ text : String, 2 ≤ text.toList.count ':' ↔
    ∃! request : Request, request.isAmbiguous = false ∧ request.key = text
  ambiguous : ∀ request : Request, request.isAmbiguous = true →
    ∃ other : Request, other.isAmbiguous = false ∧ other ≠ request ∧ other.key = request.key

/-- **Requests that are let through have keys of their own**, whatever their permissions are.  Any
text with two separators is the key of exactly one of them; so a request that is not let through
would always share its key with one that is. -/
theorem keys_exact : KeysExact where
  injective principal permission resource principal' permission' resource' hp hr hp' hr' h := by
    have heq : (⟨principal, permission, resource⟩ : Request) =
        ⟨principal', permission', resource'⟩ := eq_of_key_eq ⟨hp, hr⟩ ⟨hp', hr'⟩ h
    exact Request.mk.inj heq
  letThrough request hrequest other hother h :=
    eq_of_key_eq (isAmbiguous_eq_false.mp hrequest) (isAmbiguous_eq_false.mp hother) h
  readable text := by
    simp only [isAmbiguous_eq_false]
    constructor
    · exact existsUnique_key_eq
    · rintro ⟨request, ⟨-, rfl⟩, -⟩
      exact two_le_count_key request
  ambiguous request h := by
    obtain ⟨other, hother, hkey⟩ := exists_key_eq (two_le_count_key request)
    refine ⟨other, isAmbiguous_eq_false.mpr hother, ?_, hkey⟩
    rintro rfl
    rw [isAmbiguous_eq_false.mpr hother] at h
    cases h

/-- Permissions that begin and end with separators, around nothing, are told apart; a principal
with a separator would be taken for another one. -/
theorem keys_exact_separators :
    key ⟨"", ":", ""⟩ ≠ key ⟨"", "::", ""⟩ ∧
      ∃ other : Request, other.isAmbiguous = false ∧ other ≠ ⟨"alice:docs", "read", ""⟩ ∧
        other.key = key ⟨"alice:docs", "read", ""⟩ := by
  have h := keys_exact
  refine ⟨?_, h.ambiguous _ (by decide)⟩
  intro hkey
  obtain ⟨-, hpermission, -⟩ := h.injective "" ":" "" "" "::" "" (by decide) (by decide)
    (by decide) (by decide) hkey
  exact absurd hpermission (by decide)

end Request

end Identity.Check
