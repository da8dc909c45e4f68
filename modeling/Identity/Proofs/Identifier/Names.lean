/-
Identity/Proofs/Identifier/Names.lean

Which usernames and role names there are.

Neither half of the treatment of a name tells.  The rules alone let capital
letters pass, and usernames that begin or end with a separator; canonical form
alone lets letters of every script pass.  A name that is in canonical form *and*
accepted is made of small ASCII letters, digits and some other characters, and
every such name is one (`Username.wellFormed_iff`, `RoleName.wellFormed_iff`).

Spellings of a username that differ in the case of letters, or in what stands
around the name (`Alike`), have one canonical form.
-/
import Identity.Proofs.Identifier.Canonical
import Identity.Proofs.Outcome
import Identity.Proofs.Text.Surroundings

namespace Identity

open Text Unicode

/-! ### Characters -/

/-- A small ASCII letter or a digit. -/
def IsSmall (c : Char) : Prop := 'a' ≤ c ∧ c ≤ 'z' ∨ '0' ≤ c ∧ c ≤ '9'

instance : DecidablePred IsSmall := fun c => by
  unfold IsSmall
  infer_instance

/-- What is said of the code points below 128 by a check holds of ASCII characters. -/
theorem forall_ascii (P : Char → Prop) (h : ∀ n < 128, P (Char.ofNat n)) {c : Char}
    (hc : c.toNat < 128) : P c := by
  have hn := h c.toNat hc
  rwa [Char.ofNat_toNat] at hn

theorem ascii_of_isAlphanum {c : Char} (h : c.isAlphanum = true) : c.toNat < 128 := by
  have hcases : ((c.isUpper || c.isLower) || c.isDigit) = true := h
  rcases Bool.or_eq_true_iff.mp hcases with hletter | hdigit
  · rcases Bool.or_eq_true_iff.mp hletter with hupper | hlower
    · have hbounds : c.val ≥ 'A'.val ∧ c.val ≤ 'Z'.val := of_decide_eq_true hupper
      exact Nat.lt_of_le_of_lt (UInt32.le_iff_toNat_le.mp hbounds.2) (by decide)
    · have hbound : c.val ≤ 'z'.val := of_decide_eq_true (Bool.and_eq_true_iff.mp hlower).2
      exact Nat.lt_of_le_of_lt (UInt32.le_iff_toNat_le.mp hbound) (by decide)
  · exact Nat.lt_of_le_of_lt (Char.isDigit_iff_toNat.mp hdigit).2 (by decide)

theorem ascii_of_isSmall {c : Char} (h : IsSmall c) : c.toNat < 128 := by
  have hletters : 97 ≤ c.toNat ∧ c.toNat ≤ 122 ∨ 48 ≤ c.toNat ∧ c.toNat ≤ 57 := by
    simpa [IsSmall, Char.le_def, UInt32.le_iff_toNat_le] using h
  omega

/-- The letters and digits that lower-casing leaves alone. -/
theorem isSmall_iff {c : Char} : IsSmall c ↔ c.isAlphanum = true ∧ Lowered c := by
  have hascii : ∀ {d : Char}, d.toNat < 128 → (IsSmall d ↔ d.isAlphanum = true ∧ Lowered d) :=
    forall_ascii (fun d => IsSmall d ↔ d.isAlphanum = true ∧ Lowered d) (by decide +kernel)
  constructor
  · exact fun h => (hascii (ascii_of_isSmall h)).mp h
  · exact fun h => (hascii (ascii_of_isAlphanum h.1)).mpr h

theorem isWhiteSpace_of_isSmall {c : Char} (h : IsSmall c) : isWhiteSpace c = false := by
  have hascii : IsSmall c → isWhiteSpace c = false :=
    forall_ascii (fun d => IsSmall d → isWhiteSpace d = false) (by decide +kernel)
      (ascii_of_isSmall h)
  exact hascii h

/-! ### Names -/

/-- A name of at least `least` and at most `most` characters, each of which is small or one of the
`others`. -/
structure NameOf (least most : Nat) (others : List Char) (name : String) : Prop where
  least : least ≤ name.length
  most : name.length ≤ most
  characters : ∀ c ∈ name.toList, IsSmall c ∨ c ∈ others

section NameOf

variable {least most : Nat} {others : List Char} {name : String} {isAllowed : Char → Bool}

/-- A name passes when its length is in range and all of its characters are allowed. -/
theorem checked_eq_ok {ε : Type} {length characters : ε} :
    (if name.length < least || most < name.length then Except.error length
      else if !name.toList.all isAllowed then .error characters else .ok ()) = .ok () ↔
      least ≤ name.length ∧ name.length ≤ most ∧ ∀ c ∈ name.toList, isAllowed c = true := by
  rw [← List.all_eq_true]
  split_ifs with hlength hcharacters
  · refine iff_of_false nofun fun h => ?_
    have hout : name.length < least ∨ most < name.length := by simpa using hlength
    omega
  · refine iff_of_false nofun fun h => ?_
    rw [h.2.2] at hcharacters
    cases hcharacters
  · refine iff_of_true rfl ?_
    have hin : ¬ (name.length < least ∨ most < name.length) := by simpa using hlength
    exact ⟨by omega, by omega, by simpa using hcharacters⟩

/-- Of the letters that are allowed in a name, only the small ones are left in canonical form. -/
theorem nameOf_iff (hallowed : ∀ c, isAllowed c = true ↔ c.isAlphanum = true ∨ c ∈ others)
    (hothers : ∀ c ∈ others, Lowered c) :
    NameOf least most others name ↔
      (least ≤ name.length ∧ name.length ≤ most ∧ ∀ c ∈ name.toList, isAllowed c = true) ∧
        ∀ c ∈ name.toList, Lowered c := by
  constructor
  · intro h
    refine ⟨⟨h.least, h.most, fun c hc => (hallowed c).mpr ?_⟩, fun c hc => ?_⟩
    · exact (h.characters c hc).imp_left fun hsmall => (isSmall_iff.mp hsmall).1
    · rcases h.characters c hc with hsmall | hother
      · exact (isSmall_iff.mp hsmall).2
      · exact hothers c hother
  · rintro ⟨⟨hleast, hmost, hall⟩, hlowered⟩
    refine ⟨hleast, hmost, fun c hc => ?_⟩
    exact ((hallowed c).mp (hall c hc)).imp_left fun halnum =>
      isSmall_iff.mpr ⟨halnum, hlowered c hc⟩

end NameOf

/-! ### Role names -/

namespace RoleName

variable {name : String}

/-- The role names in canonical form: 2 to 64 small ASCII letters, digits, underscores and
hyphens. -/
def WellFormed (name : String) : Prop := NameOf 2 64 ['_', '-'] name

theorem validate_eq_ok : validate name = .ok () ↔
    minLength ≤ name.length ∧ name.length ≤ maxLength ∧
      ∀ c ∈ name.toList, isAllowed c = true := by
  rw [validate, Outcome.mapError_eq_ok]
  exact checked_eq_ok

theorem isAllowed_iff (c : Char) :
    isAllowed c = true ↔ c.isAlphanum = true ∨ c ∈ ['_', '-'] := by
  simp [isAllowed, or_assoc]

/-- **The role names there are**: those that are canonical and accepted. -/
theorem wellFormed_iff :
    WellFormed name ↔ normalize name = name ∧ validate name = .ok () := by
  have hothers : ∀ d ∈ ['_', '-'], Lowered d := List.forall_iff_forall_mem.mp (by decide +kernel)
  rw [WellFormed, nameOf_iff isAllowed_iff hothers, validate_eq_ok, normalizes.eq_self_iff,
    and_comm]
  refine and_congr_left fun hvalid => ⟨fun hlowered => ⟨?_, hlowered⟩, IsCanonical.lowered⟩
  -- white space is not allowed anywhere, so there is none at the ends either
  refine trimmed_of_forall fun c hc => ?_
  have hspaces : ∀ d ∈ ['_', '-'], isWhiteSpace d = false :=
    List.forall_iff_forall_mem.mp (by decide)
  rcases (isAllowed_iff c).mp (hvalid.2.2 c hc) with halnum | hmem
  · exact isWhiteSpace_of_isSmall (isSmall_iff.mpr ⟨halnum, hlowered c hc⟩)
  · exact hspaces c hmem

end RoleName

/-! ### Usernames -/

namespace Username

variable {name s t : String} {core : List Char}

/-- The usernames in canonical form: 3 to 32 small ASCII letters, digits, points, underscores and
hyphens, with a letter or a digit at both ends. -/
structure WellFormed (name : String) : Prop extends NameOf 3 32 ['.', '_', '-'] name where
  first : ∀ c ∈ name.toList.head?, IsSmall c
  last : ∀ c ∈ name.toList.getLast?, IsSmall c

theorem validate_eq_ok : validate name = .ok () ↔
    minLength ≤ name.length ∧ name.length ≤ maxLength ∧
      ∀ c ∈ name.toList, isAllowed c = true := by
  rw [validate, Outcome.mapError_eq_ok]
  exact checked_eq_ok

theorem isSeparator_eq_true {c : Char} : isSeparator c = true ↔ c ∈ ['.', '_', '-'] := by
  simp [isSeparator, or_assoc]

theorem isAllowed_iff (c : Char) :
    isAllowed c = true ↔ c.isAlphanum = true ∨ c ∈ ['.', '_', '-'] := by
  rw [isAllowed, Bool.or_eq_true, isSeparator_eq_true]

/-- White space or a separator: what a username is stripped of at both ends. -/
def isStripped (c : Char) : Bool := isWhiteSpace c || isSeparator c

theorem isStripped_of_isSmall {c : Char} (h : IsSmall c) : isStripped c = false := by
  have hseparator : IsSmall c → isSeparator c = false :=
    forall_ascii (fun d => IsSmall d → isSeparator d = false) (by decide +kernel)
      (ascii_of_isSmall h)
  rw [isStripped, isWhiteSpace_of_isSmall h, hseparator h]
  rfl

theorem uncased_of_isStripped {c : Char} (h : isStripped c = true) : Uncased c := by
  have hseparators : ∀ c ∈ ['.', '_', '-'], Uncased c :=
    List.forall_iff_forall_mem.mp (by decide +kernel)
  rcases Bool.or_eq_true_iff.mp h with hspace | hseparator
  · exact uncased_whiteSpace hspace
  · exact hseparators c (isSeparator_eq_true.mp hseparator)

/-- What is allowed in a username and is not stripped from it is small in canonical form. -/
theorem isSmall_of_isAllowed {c : Char} (hallowed : isAllowed c = true) (hlowered : Lowered c)
    (hkept : isStripped c = false) : IsSmall c := by
  refine isSmall_iff.mpr ⟨?_, hlowered⟩
  have hseparator : isSeparator c = false := (Bool.or_eq_false_iff.mp hkept).2
  rwa [isAllowed, hseparator, Bool.or_false] at hallowed

/-- **The usernames there are**: those that are canonical and accepted. -/
theorem wellFormed_iff :
    WellFormed name ↔ normalize name = name ∧ validate name = .ok () := by
  have hothers : ∀ d ∈ ['.', '_', '-'], Lowered d :=
    List.forall_iff_forall_mem.mp (by decide +kernel)
  have hnames : NameOf 3 32 ['.', '_', '-'] name ↔ _ := nameOf_iff isAllowed_iff hothers
  rw [validate_eq_ok, normalizes.eq_self_iff]
  constructor
  · intro h
    obtain ⟨hvalid, hlowered⟩ := hnames.mp h.toNameOf
    refine ⟨⟨⟨fun c hc => ?_, fun c hc => ?_⟩, hlowered⟩, hvalid⟩
    · exact isStripped_of_isSmall (h.first c hc)
    · exact isStripped_of_isSmall (h.last c hc)
  · rintro ⟨⟨htrimmed, hlowered⟩, hvalid⟩
    have hsmall : ∀ c ∈ name.toList, isStripped c = false → IsSmall c := fun c hc =>
      isSmall_of_isAllowed (hvalid.2.2 c hc) (hlowered c hc)
    refine ⟨hnames.mpr ⟨hvalid, hlowered⟩, fun c hc => ?_, fun c hc => ?_⟩
    · exact hsmall c (List.mem_of_mem_head? hc) (htrimmed.head c hc)
    · exact hsmall c (List.mem_of_mem_getLast? hc) (htrimmed.last c hc)

/-! ### Spellings -/

/-- The text is `core` between characters that a username is stripped of. -/
def Wraps (core : List Char) (s : String) : Prop :=
  ∃ before after, s.toList = before ++ core ++ after ∧
    (∀ c ∈ before, isStripped c = true) ∧ ∀ c ∈ after, isStripped c = true

/-- The texts differ only in the case of letters, and in white space and separators around them. -/
def Alike (s t : String) : Prop :=
  ∃ core core', Wraps core s ∧ Wraps core' t ∧ lowerChars core = lowerChars core'

theorem normalize_of_wraps (h : Wraps core s) :
    normalize s = String.ofList (trimBy isStripped (lowerChars core)) := by
  obtain ⟨before, after, htext, hbefore, hafter⟩ := h
  have hlower : lowerChars s.toList = before ++ lowerChars core ++ after := by
    rw [htext]
    exact lowerChars_surrounded (fun c hc => uncased_of_isStripped (hbefore c hc))
      fun c hc => uncased_of_isStripped (hafter c hc)
  show String.ofList (trimBy isStripped (lowerChars s.toList)) = _
  rw [hlower, trimBy_surrounded hbefore hafter]

/-- **Spellings that are alike** have one canonical form. -/
theorem normalize_eq_of_alike (h : Alike s t) : normalize s = normalize t := by
  obtain ⟨core, core', hs, ht, hcase⟩ := h
  rw [normalize_of_wraps hs, normalize_of_wraps ht, hcase]

theorem WellFormed.eq_of_alike (hs : WellFormed s) (ht : WellFormed t) (h : Alike s t) : s = t :=
  calc
    s = normalize s := (wellFormed_iff.mp hs).1.symm
    _ = normalize t := normalize_eq_of_alike h
    _ = t := (wellFormed_iff.mp ht).1

end Username

end Identity
