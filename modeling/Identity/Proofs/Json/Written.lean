/-
Identity/Proofs/Json/Written.lean

Values together with a text that is read as them.

A `Written` carries the proof that its text is read as its value in front of
anything that delimits it, so that larger values are written from smaller ones
without looking at the reader again.
-/
import Identity.Proofs.Json.Numbers
import Identity.Proofs.Json.Strings

namespace Identity.Json

variable {bound : Nat} {cs rest text : List Char} {c : Char}

/-! ### Texts of values -/

/-- The text is read as the value, in front of anything that delimits it. -/
def Reads (text : List Char) (value : Value) : Prop :=
  ∀ bound rest, 2 * (spelled text).length ≤ bound → Delimited rest →
    value? (bound + 1) (spelled text ++ rest) = some (value, rest)

/-- A value and a text for it. -/
structure Written where
  text : List Char
  value : Value
  reads : Reads text value

/-! ### Blanks -/

theorem skipBlanks_cons (h : isBlank c = false) : skipBlanks (c :: cs) = c :: cs := by
  rw [skipBlanks, List.dropWhile_cons_of_neg (by rw [h]; exact Bool.false_ne_true)]

theorem isBlank_of_isDigit (h : c.isDigit = true) : isBlank c = false := by
  have hne : c ≠ ' ' ∧ c ≠ '\t' ∧ c ≠ '\n' ∧ c ≠ '\r' := by
    refine ⟨?_, ?_, ?_, ?_⟩ <;> (rintro rfl; cases h)
  simp [isBlank, hne]

/-! ### Strings and numbers -/

theorem value?_quote :
    value? (bound + 1) ('"' :: cs) = (string? cs).map fun r => (.string r.1, r.2) := by
  rw [value?, skipBlanks_cons (by decide)]
  rfl

theorem reads_stringText (s : String) : Reads (stringText s) (.string (some s)) := by
  intro bound rest _ _
  obtain ⟨cs, htext, hread⟩ := string?_stringText s rest
  rw [htext, value?_quote, hread]
  rfl

/-- A text that starts like a number is read as one. -/
theorem value?_number (h : c = '-' ∨ c.isDigit = true) :
    value? (bound + 1) (c :: cs) = (number? (c :: cs)).map fun r => (.number r.1, r.2) := by
  have hblank : isBlank c = false := by
    rcases h with rfl | h
    · rfl
    · exact isBlank_of_isDigit h
  rw [value?, skipBlanks_cons hblank]
  -- no other kind of value starts with such a character
  split <;> first | rfl | (rename_i heq; obtain ⟨rfl, -⟩ := List.cons.inj heq; simp at h)

theorem spelled_toDigits (n : Nat) : spelled (Nat.toDigits 10 n) = Nat.toDigits 10 n := by
  apply spelled_of_ascii
  intro c hc
  have hdigit := Char.isDigit_iff_toNat.mp (isDigit_of_mem_toDigits hc)
  exact Nat.lt_of_le_of_lt hdigit.2 (by decide)

theorem reads_toDigits (n : Nat) : Reads (Nat.toDigits 10 n) (.number (Nat.toDigits 10 n)) := by
  intro bound rest _ hrest
  rw [spelled_toDigits]
  have hread := @number?_toDigits n rest hrest
  obtain ⟨c, cs, hcs, hc, -⟩ := exists_digit n
  rw [hcs, List.cons_append] at hread ⊢
  rw [value?_number (.inr hc), hread]
  rfl

theorem reads_neg_toDigits (n : Nat) :
    Reads ('-' :: Nat.toDigits 10 n) (.number ('-' :: Nat.toDigits 10 n)) := by
  intro bound rest _ hrest
  rw [spelled_cons (by decide), spelled_toDigits]
  have hread := @number?_neg_toDigits n rest hrest
  rw [List.cons_append] at hread ⊢
  rw [value?_number (.inl rfl), hread]
  rfl

/-- A string. -/
def Written.string (s : String) : Written := ⟨stringText s, .string (some s), reads_stringText s⟩

/-! ### Objects -/

/-- The text of a member. -/
def memberText (member : String × Written) : List Char :=
  stringText member.1 ++ ':' :: member.2.text

theorem spelled_memberText (member : String × Written) :
    spelled (memberText member) = spelled (stringText member.1) ++ ':' :: spelled member.2.text := by
  rw [memberText, spelled_append, spelled_cons (by decide)]

/-- The member that is read from its text. -/
def memberValue (member : String × Written) : Option String × Value :=
  (some member.1, member.2.value)

/-- A member in front of a delimiter, which decides what comes next. -/
theorem members?_memberText (member : String × Written)
    (hbound : 2 * (spelled (memberText member)).length ≤ bound) (hrest : Delimited rest) :
    members? (bound + 1) (spelled (memberText member) ++ rest) =
      match skipBlanks rest with
      | ',' :: cs => (members? bound cs).map fun r => (memberValue member :: r.1, r.2)
      | '\x7d' :: cs => some ([memberValue member], cs)
      | _ => none := by
  obtain ⟨key, value⟩ := member
  obtain ⟨cs, htext, hread⟩ := string?_stringText key (':' :: spelled value.text ++ rest)
  simp only [spelled_memberText, List.length_append, List.length_cons, List.append_assoc,
    List.cons_append] at hbound htext ⊢
  obtain ⟨bound, rfl⟩ : ∃ b, bound = b + 1 := ⟨bound - 1, by omega⟩
  have hvalue := value.reads bound rest (by omega) hrest
  rw [htext, members?, skipBlanks_cons (by decide)]
  simp only [hread, Option.bind_eq_bind, Option.bind_some]
  rw [List.cons_append, skipBlanks_cons (by decide)]
  simp only [hvalue, Option.bind_some]
  rfl

/-- Members with commas between them, up to the end of their object. -/
theorem members?_commaSeparated (member : String × Written) (members : List (String × Written)) :
    ∀ bound, 2 * (spelled (commaSeparated ((member :: members).map memberText))).length < bound →
      members? bound
          (spelled (commaSeparated ((member :: members).map memberText)) ++ '\x7d' :: rest) =
        some ((member :: members).map memberValue, rest) := by
  induction members generalizing member with
  | nil =>
    intro bound hbound
    simp only [List.map_cons, List.map_nil, commaSeparated] at hbound ⊢
    obtain ⟨bound, rfl⟩ : ∃ b, bound = b + 1 := ⟨bound - 1, by omega⟩
    rw [members?_memberText member (by omega) delimited_brace, skipBlanks_cons (by decide)]
    rfl
  | cons next members ih =>
    intro bound hbound
    rw [List.map_cons, List.map_cons, commaSeparated.eq_3 _ _ (by simp), ← List.map_cons,
      spelled_append, spelled_cons (by decide), List.append_assoc, List.cons_append]
    rw [List.map_cons, List.map_cons, commaSeparated.eq_3 _ _ (by simp), ← List.map_cons,
      spelled_append, spelled_cons (by decide), List.length_append, List.length_cons] at hbound
    obtain ⟨bound, rfl⟩ : ∃ b, bound = b + 1 := ⟨bound - 1, by omega⟩
    rw [members?_memberText member (by omega) delimited_comma, skipBlanks_cons (by decide)]
    simp only [ih next bound (by omega), Option.map_some]
    rfl

theorem value?_emptyObject :
    value? (bound + 1) ('\x7b' :: '\x7d' :: cs) = some (.object [], cs) := by
  rw [value?, skipBlanks_cons (by decide)]
  rfl

theorem value?_object :
    value? (bound + 1) ('\x7b' :: '"' :: cs) =
      (members? bound ('"' :: cs)).map fun r => (.object r.1, r.2) := by
  rw [value?, skipBlanks_cons (by decide)]
  rfl

theorem reads_objectText (members : List (String × Written)) :
    Reads (objectText (members.map fun m => (m.1, m.2.text)))
      (.object (members.map memberValue)) := by
  intro bound rest hbound _
  have htexts : (members.map fun m => (m.1, m.2.text)).map
      (fun m => stringText m.1 ++ ':' :: m.2) = members.map memberText := by
    rw [List.map_map]
    rfl
  have hspelled : spelled (objectText (members.map fun m => (m.1, m.2.text))) =
      '\x7b' :: (spelled (commaSeparated (members.map memberText)) ++ ['\x7d']) := by
    rw [objectText, htexts, List.cons_append, spelled_cons (by decide), spelled_append,
      spelled_cons (by decide), spelled_nil]
  rw [hspelled, List.length_cons, List.length_append, List.length_singleton] at hbound
  rw [hspelled, List.cons_append, List.append_assoc, List.cons_append, List.nil_append]
  cases members with
  | nil => exact value?_emptyObject
  | cons member members =>
    have hread := @members?_commaSeparated rest member members bound (by omega)
    -- the first character is the quote of a key, so the object is not empty
    obtain ⟨cs, hcs⟩ : ∃ cs, commaSeparated ((member :: members).map memberText) = '"' :: cs := by
      cases members <;> simp [commaSeparated, memberText, stringText]
    rw [hcs, spelled_cons (by decide), List.cons_append] at hread ⊢
    rw [value?_object, hread]
    rfl

/-- An object with the given keys and values. -/
def Written.object (members : List (String × Written)) : Written :=
  ⟨objectText (members.map fun m => (m.1, m.2.text)), .object (members.map memberValue),
    reads_objectText members⟩

/-! ### Documents -/

/-- A document is read as the value that it was written for. -/
theorem Written.parse? (written : Written) :
    Json.parse? (String.ofList written.text) = some written.value := by
  have hread := written.reads (2 * (spelled written.text).length + 1) [] (by omega) delimited_nil
  rw [List.append_nil] at hread
  simp only [Json.parse?, ofBytes?, units_ofText, String.toList_ofList, hread]
  rfl

/-- The keys of a written object are texts. -/
theorem Written.members?_object (members : List (String × Written)) :
    (Written.object members).value.members? = some (members.map fun m => (m.1, m.2.value)) := by
  simp only [Written.object, Value.members?, List.mapM_map]
  exact List.mapM_pure ..

end Identity.Json
