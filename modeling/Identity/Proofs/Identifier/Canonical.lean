/-
Identity/Proofs/Identifier/Canonical.lean

Canonical identifiers: normalizing them again changes nothing.

So a record that is stored again, and thereby normalized again, keeps the names
that it was stored with.

A text that is trimmed and then lower-cased is still trimmed, and one that is
lower-cased and then trimmed still in lower case, although a character may become
two and a sigma depends on what surrounds it.  So either order leads to texts that
are both, and such texts are left as they are (`Normalizes`).
-/
import Identity.Identifier.DisplayName
import Identity.Identifier.Email
import Identity.Identifier.RoleName
import Identity.Identifier.Username
import Identity.Proofs.Text.LowerCase

namespace Identity

open Text Unicode

/-- Normalization brings every text into canonical form, and leaves those that are in it already as
they are. -/
structure Normalizes (normalize : String → String) (IsCanonical : String → Prop) : Prop where
  canonical : ∀ s, IsCanonical (normalize s)
  fixed : ∀ s, IsCanonical s → normalize s = s

section

variable {normalize : String → String} {IsCanonical : String → Prop} {s : String}

theorem Normalizes.idempotent (h : Normalizes normalize IsCanonical) (s : String) :
    normalize (normalize s) = normalize s :=
  h.fixed _ (h.canonical s)

theorem Normalizes.eq_self_iff (h : Normalizes normalize IsCanonical) :
    normalize s = s ↔ IsCanonical s :=
  ⟨fun hs => hs ▸ h.canonical s, h.fixed s⟩

end

/-- The text is in lower case, and `p` holds of neither its first nor its last character. -/
structure IsCanonical (p : Char → Bool) (s : String) : Prop where
  trimmed : Trimmed p s.toList
  lowered : ∀ c ∈ s.toList, Lowered c

/-! ### The two orders -/

theorem normalizes_trim_lower :
    Normalizes (fun s => String.ofList (lowerChars (trimChars s.toList)))
      (IsCanonical isWhiteSpace) where
  canonical s := by
    constructor
    · rw [String.toList_ofList]
      exact (trimmed_trimBy isWhiteSpace s.toList).lowerAfter
    · rw [String.toList_ofList]
      exact fun _ => lowered_of_mem_lowerAfter
  fixed s h := by
    show String.ofList (lowerChars (trimBy isWhiteSpace s.toList)) = s
    rw [h.trimmed.trimBy_eq, lowerChars_eq_self h.lowered, String.ofList_toList]

theorem normalizes_lower_trim (p : Char → Bool) :
    Normalizes (fun s => String.ofList (trimBy p (lowerChars s.toList))) (IsCanonical p) where
  canonical s := by
    constructor
    · rw [String.toList_ofList]
      exact trimmed_trimBy p _
    · rw [String.toList_ofList]
      exact fun c hc => lowered_of_mem_lowerAfter (mem_of_mem_trimBy hc)
  fixed s h := by
    show String.ofList (trimBy p (lowerChars s.toList)) = s
    rw [lowerChars_eq_self h.lowered, h.trimmed.trimBy_eq, String.ofList_toList]

/-! ### Identifiers -/

theorem Email.normalizes : Normalizes normalize (IsCanonical isWhiteSpace) :=
  normalizes_trim_lower

theorem RoleName.normalizes : Normalizes normalize (IsCanonical isWhiteSpace) :=
  normalizes_trim_lower

theorem Username.normalizes :
    Normalizes normalize (IsCanonical fun c => isWhiteSpace c || isSeparator c) :=
  normalizes_lower_trim _

theorem DisplayName.normalizes :
    Normalizes normalize fun name => Trimmed isWhiteSpace name.toList where
  canonical name := by
    show Trimmed isWhiteSpace (String.ofList (trimChars name.toList)).toList
    rw [String.toList_ofList]
    exact trimmed_trimBy isWhiteSpace name.toList
  fixed name h := by
    show String.ofList (trimBy isWhiteSpace name.toList) = name
    rw [h.trimBy_eq, String.ofList_toList]

theorem Email.normalize_normalize (email : String) :
    normalize (normalize email) = normalize email :=
  normalizes.idempotent email

theorem RoleName.normalize_normalize (name : String) :
    normalize (normalize name) = normalize name :=
  normalizes.idempotent name

theorem Username.normalize_normalize (username : String) :
    normalize (normalize username) = normalize username :=
  normalizes.idempotent username

theorem DisplayName.normalize_normalize (name : String) :
    normalize (normalize name) = normalize name :=
  normalizes.idempotent name

/-- **Normalizing is idempotent** for identifiers of every kind and on every text: what results is
trimmed and, unless it is a display name, in lower case, and such texts are left as they are. -/
theorem normalization_idempotent (s : String) :
    (Email.normalize (Email.normalize s) = Email.normalize s ∧
        (Email.normalize s = s ↔ IsCanonical isWhiteSpace s)) ∧
      (Username.normalize (Username.normalize s) = Username.normalize s ∧
        (Username.normalize s = s ↔
          IsCanonical (fun c => isWhiteSpace c || Username.isSeparator c) s)) ∧
      (DisplayName.normalize (DisplayName.normalize s) = DisplayName.normalize s ∧
        (DisplayName.normalize s = s ↔ Trimmed isWhiteSpace s.toList)) ∧
      (RoleName.normalize (RoleName.normalize s) = RoleName.normalize s ∧
        (RoleName.normalize s = s ↔ IsCanonical isWhiteSpace s)) :=
  ⟨⟨Email.normalizes.idempotent s, Email.normalizes.eq_self_iff⟩,
    ⟨Username.normalizes.idempotent s, Username.normalizes.eq_self_iff⟩,
    ⟨DisplayName.normalizes.idempotent s, DisplayName.normalizes.eq_self_iff⟩,
    ⟨RoleName.normalizes.idempotent s, RoleName.normalizes.eq_self_iff⟩⟩

/-- A dotted capital I becomes two characters, and a sigma a final one where its word ends. -/
example : Username.normalize " _\u0130\u03a3\u03a3. " = "i\u0307\u03c3\u03c2" := by decide +kernel

end Identity
