/-
Identity/Proofs/Identifier/Address.lean

Which email addresses there are.

The rules are checked one after the other, some on bytes, some on characters and
some on what is left when the text is cut at its `@` and then at its points.
Here the grammar is said in one piece: an address is put together from a local
part and labels (`Address.text`).  Cutting takes it apart again, since neither
the `@` nor the point occurs in the wrong place; so a text has at most one
decomposition, and it is accepted when it has one.

Main result: `validate_exact`.
-/
import Identity.Identifier.Email
import Identity.Proofs.Outcome
import Identity.Proofs.Permission

namespace Identity.Email

open Text Unicode

/-! ### Addresses and their parts -/

/-- The parts of an address: what stands before the `@`, and the labels of the domain. -/
structure Address where
  localPart : List Char
  labels : List (List Char)

namespace Address

variable {a b : Address}

/-- The labels with points between them. -/
def domain (a : Address) : List Char := ['.'].intercalate a.labels

/-- The address in full. -/
def text (a : Address) : List Char := a.localPart ++ '@' :: a.domain

/-- The parts are as they are to be: the local part is not empty, there are at least two labels,
none of them empty, the last one has at least two characters, and `@` and points stand only where
parts are joined. -/
structure WellFormed (a : Address) : Prop where
  localPart : a.localPart ≠ []
  localPart_at : '@' ∉ a.localPart
  labels : 2 ≤ a.labels.length
  label : ∀ d ∈ a.labels, d ≠ [] ∧ '@' ∉ d ∧ '.' ∉ d
  topLevel : ∀ d ∈ a.labels.getLast?, 2 ≤ d.length

/-- What is joined contains nothing but the parts and what stands between them. -/
theorem mem_intercalate {c sep : Char} {parts : List (List Char)}
    (h : c ∈ [sep].intercalate parts) : c = sep ∨ ∃ part ∈ parts, c ∈ part := by
  induction parts with
  | nil => cases h
  | cons part parts ih =>
    cases parts with
    | nil =>
      rw [List.intercalate_singleton] at h
      exact .inr ⟨part, List.mem_cons_self .., h⟩
    | cons next parts =>
      rw [List.intercalate_cons_cons, List.append_assoc, List.mem_append, List.mem_append] at h
      rcases h with h | h | h
      · exact .inr ⟨part, List.mem_cons_self .., h⟩
      · exact .inl (List.mem_singleton.mp h)
      · refine (ih h).imp_right ?_
        rintro ⟨other, hother, hc⟩
        exact ⟨other, List.mem_cons_of_mem part hother, hc⟩

theorem WellFormed.domain_at (h : a.WellFormed) : '@' ∉ a.domain := by
  intro hat
  rcases mem_intercalate hat with heq | ⟨d, hd, hmem⟩
  · exact absurd heq (by decide)
  · exact (h.label d hd).2.1 hmem

/-- Cut at the `@`, an address falls into the local part and the domain. -/
theorem WellFormed.splitOn_text (h : a.WellFormed) :
    a.text.splitOn '@' = [a.localPart, a.domain] := by
  rw [text, List.splitOn_append_cons_self, List.splitOn_eq_singleton h.localPart_at,
    List.splitOn_eq_singleton h.domain_at]
  rfl

/-- Cut at its points, the domain falls into the labels. -/
theorem WellFormed.splitOn_domain (h : a.WellFormed) : a.domain.splitOn '.' = a.labels := by
  refine List.splitOn_intercalate '.' (fun d hd => (h.label d hd).2.2) ?_
  exact List.ne_nil_of_length_pos (Nat.lt_of_lt_of_le Nat.zero_lt_two h.labels)

/-- An address can be taken apart in one way only. -/
theorem WellFormed.eq_of_text_eq (ha : a.WellFormed) (hb : b.WellFormed)
    (h : a.text = b.text) : a = b := by
  have hparts : [a.localPart, a.domain] = [b.localPart, b.domain] := by
    rw [← ha.splitOn_text, ← hb.splitOn_text, h]
  obtain ⟨hlocal, hdomains⟩ := List.cons.inj hparts
  obtain ⟨hdomain, -⟩ := List.cons.inj hdomains
  have hlabels : a.labels = b.labels := by
    rw [← ha.splitOn_domain, ← hb.splitOn_domain, hdomain]
  cases a
  cases b
  exact congrArg₂ Address.mk hlocal hlabels

end Address

/-! ### What the rules accept -/

variable {email : String}

theorem checkLabels_eq_ok {labels : List (List Char)} : checkLabels labels = .ok () ↔
    2 ≤ labels.length ∧ (∀ d ∈ labels, d ≠ []) ∧ ∀ d ∈ labels.getLast?, 2 ≤ d.length := by
  have hlast : (labels.getLastD []).length = (labels.getLast?.getD []).length := by
    rw [List.getLastD_eq_getLast?]
  unfold checkLabels
  split_ifs with hlabels htop
  · refine iff_of_false nofun fun ⟨hlength, hall, _⟩ => ?_
    rcases Bool.or_eq_true_iff.mp hlabels with hshort | hempty
    · exact absurd hlength (Nat.not_le_of_lt (of_decide_eq_true hshort))
    · obtain ⟨d, hd, hnil⟩ := List.any_eq_true.mp hempty
      exact hall d hd (List.isEmpty_iff.mp hnil)
  · refine iff_of_false nofun fun ⟨hlength, _, hlong⟩ => ?_
    cases hd : labels.getLast? with
    | none => simp [List.getLast?_eq_none_iff.mp hd] at hlength
    | some d =>
      rw [hlast, hd] at htop
      exact absurd (hlong d hd) (Nat.not_le_of_lt htop)
  · refine iff_of_true rfl ?_
    simp only [Bool.or_eq_true, decide_eq_true_eq, List.any_eq_true, List.isEmpty_iff,
      not_or, not_exists, not_and, Nat.not_lt] at hlabels
    refine ⟨hlabels.1, hlabels.2, fun d hd => ?_⟩
    rw [hlast, Option.mem_def.mp hd] at htop
    exact Nat.not_lt.mp htop

/-- The local part and the domain of a text that is accepted, cut at the points of the domain. -/
theorem wellFormed_of_splitOn {localPart domain : List Char}
    (hsplit : email.toList.splitOn '@' = [localPart, domain]) (hlocal : localPart ≠ [])
    (hlabels : checkLabels (domain.splitOn '.') = .ok ()) :
    ∃ a : Address, a.WellFormed ∧ a.text = email.toList := by
  have hno : ∀ part ∈ [localPart, domain], '@' ∉ part := by
    intro part hpart hat
    rw [← hsplit] at hpart
    exact (Permission.of_mem_splitOn hpart hat).1 rfl
  obtain ⟨hlength, hne, htop⟩ := checkLabels_eq_ok.mp hlabels
  refine ⟨⟨localPart, domain.splitOn '.'⟩, ?_, ?_⟩
  · refine ⟨hlocal, hno localPart (by simp), hlength, fun d hd => ⟨hne d hd, ?_, ?_⟩, htop⟩
    · exact fun hat => hno domain (by simp) (Permission.of_mem_splitOn hd hat).2
    · exact fun hpoint => (Permission.of_mem_splitOn hd hpoint).1 rfl
  · calc
      localPart ++ '@' :: ['.'].intercalate (domain.splitOn '.')
        = ['@'].intercalate [localPart, domain] := by
          rw [List.intercalate_splitOn]
          simp [List.intercalate]
      _ = email.toList := by rw [← hsplit, List.intercalate_splitOn]

theorem check_eq_ok : check email = .ok () ↔
    email.utf8ByteSize ≤ maxLength ∧ (∀ c ∈ email.toList, isWhiteSpace c = false) ∧
      ∃ a : Address, a.WellFormed ∧ a.text = email.toList := by
  unfold check
  constructor
  · intro h
    split_ifs at h with hempty hlong hspace
    refine ⟨Nat.not_lt.mp hlong, by simpa using hspace, ?_⟩
    split at h
    · rename_i localPart domain hsplit
      split_ifs at h with hlocal
      exact wellFormed_of_splitOn hsplit (mt List.isEmpty_iff.mpr hlocal) h
    · cases h
  · rintro ⟨hlong, hspace, a, ha, htext⟩
    have hempty : ¬ email.isEmpty = true := by
      intro h
      rw [String.isEmpty_iff.mp h] at htext
      simp [Address.text] at htext
    have hno : ¬ email.toList.any isWhiteSpace = true := by simpa using hspace
    have hlocal : ¬ a.localPart.isEmpty = true := mt List.isEmpty_iff.mp ha.localPart
    rw [if_neg hempty, if_neg (Nat.not_lt.mpr hlong), if_neg hno, ← htext, ha.splitOn_text]
    show (if a.localPart.isEmpty then _ else checkLabels (a.domain.splitOn '.')) = _
    rw [if_neg hlocal, ha.splitOn_domain]
    exact checkLabels_eq_ok.mpr ⟨ha.labels, fun d hd => (ha.label d hd).1, ha.topLevel⟩

/-- **Addresses are exact**: a text is accepted when it has at most 254 bytes and no white space and
is put together from a local part and labels.  It is then so in one way only; and whatever is
rejected is rejected as a malformed address, for the first rule that it breaks. -/
theorem validate_exact (email : String) :
    (validate email = .ok () ↔
      email.utf8ByteSize ≤ 254 ∧ (∀ c ∈ email.toList, isWhiteSpace c = false) ∧
        ∃ a : Address, a.WellFormed ∧ a.text = email.toList) ∧
      (∀ a b : Address, a.WellFormed → b.WellFormed → a.text = email.toList →
        b.text = email.toList → a = b) ∧
      ∀ e, validate email = .error e →
        ∃ fault, check email = .error fault ∧ e = .invalidEmail fault.message := by
  refine ⟨?_, ?_, ?_⟩
  · rw [validate, Outcome.mapError_eq_ok]
    exact check_eq_ok
  · intro a b ha hb htext htext'
    exact ha.eq_of_text_eq hb (htext.trans htext'.symm)
  · intro e he
    obtain ⟨fault, hfault, rfl⟩ := Outcome.mapError_eq_error.mp he
    exact ⟨fault, hfault, rfl⟩

/-- The parts of an address with points in the local part and three labels. -/
def sample : Address where
  localPart := "a.b".toList
  labels := ["mail".toList, "example".toList, "org".toList]

/-- It is accepted and has these parts only; with a last label of one character it is rejected. -/
theorem validate_exact_sample :
    validate "a.b@mail.example.org" = .ok () ∧
      (∀ a : Address, a.WellFormed → a.text = "a.b@mail.example.org".toList → a = sample) ∧
      ∃ fault, check "a.b@mail.example.o" = .error fault ∧
        validate "a.b@mail.example.o" = .error (.invalidEmail fault.message) := by
  have hparts : sample.WellFormed :=
    ⟨by decide, by decide, by decide, by decide, by decide⟩
  have htext : sample.text = "a.b@mail.example.org".toList := by decide
  obtain ⟨haccepted, hunique, -⟩ := validate_exact "a.b@mail.example.org"
  obtain ⟨-, -, hrejected⟩ := validate_exact "a.b@mail.example.o"
  have hshort : validate "a.b@mail.example.o" =
      .error (.invalidEmail Fault.shortTopLevel.message) := by decide +kernel
  have hspace : ∀ c ∈ "a.b@mail.example.org".toList, isWhiteSpace c = false :=
    List.forall_iff_forall_mem.mp (by decide +kernel)
  obtain ⟨fault, hfault, hmessage⟩ := hrejected _ hshort
  exact ⟨haccepted.mpr ⟨by decide, hspace, sample, hparts, htext⟩,
    fun a ha h => hunique a sample ha hparts h htext, fault, hfault, hmessage ▸ hshort⟩

end Identity.Email
