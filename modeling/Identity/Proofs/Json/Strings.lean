/-
Identity/Proofs/Json/Strings.lean

Strings are read back as they were written.

Reading goes over the bytes of what was written (`spelled`).  Writing escapes one
character at a time, and reading undoes it one character at a time
(`stringBody?_escapeChar`); a character that is not escaped is read byte by byte,
because none of its bytes has a meaning of its own (`plain_of_mem`).  The reader
looks two escapes ahead, because two of them may be halves of a surrogate pair; an
escape that is no half leaves the next one alone (`stringBody?_unicode`).
-/
import Identity.Json.Reader
import Identity.Json.Writer
import Identity.Proofs.Bytes
import Identity.Proofs.Text.Hex

namespace Identity.Json

variable {a b c d : Char} {cs rest : List Char} {unit : Nat}

/-! ### Texts as they are read -/

/-- A text as the readers see it: its bytes, each as the character of its number. -/
def spelled (cs : List Char) : List Char := units (cs.flatMap String.utf8EncodeChar)

theorem units_ofText (s : String) : units (Bytes.ofText s) = spelled s.toList := by
  rw [Bytes.ofText_eq_flatMap, spelled]

@[simp] theorem spelled_nil : spelled [] = [] := rfl

@[simp] theorem spelled_append (cs ds : List Char) : spelled (cs ++ ds) = spelled cs ++ spelled ds := by
  simp only [spelled, units, List.flatMap_append, List.map_append]

theorem ofUInt8_ofNat (h : c.toNat < 128) : Char.ofUInt8 (UInt8.ofNat c.toNat) = c := by
  apply Char.ext
  apply UInt32.toNat_inj.mp
  show (UInt8.ofNat c.toNat).toNat = c.toNat
  rw [UInt8.toNat_ofNat']
  omega

/-- ASCII characters are seen as themselves. -/
theorem spelled_cons (h : c.toNat < 128) (cs : List Char) : spelled (c :: cs) = c :: spelled cs := by
  simp only [spelled, units, List.flatMap_cons, Bytes.utf8EncodeChar_of_ascii h, List.cons_append,
    List.nil_append, List.map_cons, ofUInt8_ofNat h]

theorem spelled_of_ascii (h : ∀ c ∈ cs, c.toNat < 128) : spelled cs = cs := by
  induction cs with
  | nil => rfl
  | cons c cs ih =>
    obtain ⟨hc, hcs⟩ := List.forall_mem_cons.mp h
    rw [spelled_cons hc, ih hcs]

/-! ### Hexadecimal escapes -/

theorem hexDigit?_digit : ∀ n < 16, hexDigit? (Hex.digit n) = some n := by decide

/-- The two digits of a control character, after two zeros. -/
theorem hex4?_digits {n : Nat} (h : n < 0x20) :
    hex4? '0' '0' (Hex.digit (n / 16)) (Hex.digit (n % 16)) = some n := by
  have hzero : hexDigit? '0' = some 0 := by decide
  unfold hex4?
  rw [hzero, hexDigit?_digit _ (by omega), hexDigit?_digit _ (by omega)]
  simp only [Option.bind_eq_bind, Option.bind_some, Option.pure_def, Option.some.injEq]
  omega

/-- The text goes on with another escape. -/
def StartsEscape (cs : List Char) : Prop :=
  ∃ e f g h rest, cs = '\\' :: 'u' :: e :: f :: g :: h :: rest

/-- What is read after some bytes, with these in front. -/
def preceded (bytes : Bytes) (read : Option (Option Bytes × List Char)) :
    Option (Option Bytes × List Char) :=
  read.map fun r => (r.1.map (bytes ++ ·), r.2)

/-- An escape that is no number makes a text unreadable. -/
theorem stringBody?_unicode_none (h : hex4? a b c d = none) :
    stringBody? ('\\' :: 'u' :: a :: b :: c :: d :: rest) = none := by
  by_cases hnext : StartsEscape rest
  · obtain ⟨e, f, g, h, cs, rfl⟩ := hnext
    rw [stringBody?.eq_2, ‹hex4? a b c d = none›]
    rfl
  · rw [stringBody?.eq_3 _ _ _ _ _ fun e f g h cs heq => hnext ⟨e, f, g, h, cs, heq⟩, h]
    rfl

/-- An escape that is no half of a surrogate pair stands for a character. -/
theorem stringBody?_unicode (hunit : hex4? a b c d = some unit)
    (hhigh : isHighSurrogate unit = false) (hlow : isLowSurrogate unit = false) :
    stringBody? ('\\' :: 'u' :: a :: b :: c :: d :: rest) =
      preceded (String.utf8EncodeChar (Char.ofNat unit)) (stringBody? rest) := by
  by_cases hnext : StartsEscape rest
  · obtain ⟨e, f, g, h, cs, rfl⟩ := hnext
    rw [stringBody?.eq_2, hunit]
    cases hsecond : hex4? e f g h with
    | none => rw [stringBody?_unicode_none hsecond]; rfl
    | some second =>
      cases hrest : stringBody? ('\\' :: 'u' :: e :: f :: g :: h :: cs) <;>
        simp [preceded, hhigh, hlow]
  · rw [stringBody?.eq_3 _ _ _ _ _ fun e f g h cs heq => hnext ⟨e, f, g, h, cs, heq⟩, hunit]
    cases stringBody? rest <;> simp [preceded, hhigh, hlow]

/-! ### Characters -/

/-- A letter after a backslash that announces no number. -/
theorem stringBody?_short {x y : Char} (hx : escaped? x = some y) :
    stringBody? ('\\' :: x :: rest) = preceded (String.utf8EncodeChar y) (stringBody? rest) := by
  have hne : x ≠ 'u' := by
    rintro rfl
    simp [escaped?] at hx
  rw [stringBody?.eq_4 _ _ (by simp [hne]) (by simp [hne]), hx]
  cases stringBody? rest <;> rfl

/-- The byte stands for itself in a string: it is neither a quote nor a backslash nor a control
character. -/
def Plain (byte : UInt8) : Prop := 0x20 ≤ byte.toNat ∧ byte.toNat ≠ 0x22 ∧ byte.toNat ≠ 0x5c

theorem stringBody?_plain {byte : UInt8} (h : Plain byte) :
    stringBody? (Char.ofUInt8 byte :: rest) = preceded [byte] (stringBody? rest) := by
  have hne {x : Char} (hx : byte.toNat ≠ x.toNat) : Char.ofUInt8 byte ≠ x := fun heq =>
    hx (congrArg Char.toNat heq)
  have hcontrol : ¬(Char.ofUInt8 byte).toNat < 0x20 := Nat.not_lt.mpr h.1
  have hquote : Char.ofUInt8 byte ≠ '"' := hne h.2.1
  have hbackslash : Char.ofUInt8 byte ≠ '\\' := hne h.2.2
  have hself : (Char.ofUInt8 byte).toUInt8 = byte := UInt8.toUInt8_toUInt32 byte
  rw [stringBody?.eq_5 _ _ hquote (by simp [hbackslash]) (by simp [hbackslash])
    (by simp [hbackslash]), if_neg hcontrol, hself]
  cases stringBody? rest <;> rfl

theorem stringBody?_units {bytes : Bytes} (h : ∀ byte ∈ bytes, Plain byte) :
    stringBody? (units bytes ++ rest) = preceded bytes (stringBody? rest) := by
  induction bytes with
  | nil =>
    show stringBody? rest = preceded [] (stringBody? rest)
    rcases stringBody? rest with - | ⟨- | bytes, rest⟩ <;> rfl
  | cons byte bytes ih =>
    obtain ⟨hbyte, hbytes⟩ := List.forall_mem_cons.mp h
    show stringBody? (Char.ofUInt8 byte :: (units bytes ++ rest)) = _
    rw [stringBody?_plain hbyte, ih hbytes]
    rcases stringBody? rest with - | ⟨- | bytes, rest⟩ <;> rfl

/-- The bytes of a character that is not escaped are plain. -/
theorem plain_of_mem (hquote : c ≠ '"') (hbackslash : c ≠ '\\') (hcontrol : ¬c.toNat < 0x20) :
    ∀ byte ∈ String.utf8EncodeChar c, Plain byte := by
  intro byte hbyte
  by_cases hascii : c.toNat < 128
  · rw [Bytes.utf8EncodeChar_of_ascii hascii, List.mem_singleton] at hbyte
    have hnat : byte.toNat = c.toNat := by
      rw [hbyte, UInt8.toNat_ofNat']
      omega
    rw [Plain, hnat]
    refine ⟨Nat.not_lt.mp hcontrol, ?_, ?_⟩
    · exact fun h => hquote (Char.toNat_inj.mp h)
    · exact fun h => hbackslash (Char.toNat_inj.mp h)
  · have hlarge := Bytes.le_of_mem_utf8EncodeChar (Nat.not_lt.mp hascii) hbyte
    refine ⟨?_, ?_, ?_⟩ <;> omega

/-- What is written for a character is read as that character. -/
theorem stringBody?_escapeChar (c : Char) (rest : List Char) :
    stringBody? (spelled (escapeChar c) ++ rest) =
      preceded (String.utf8EncodeChar c) (stringBody? rest) := by
  have hshort : ∀ x, x.toNat < 128 → escaped? x = some c →
      stringBody? (spelled ['\\', x] ++ rest) =
        preceded (String.utf8EncodeChar c) (stringBody? rest) := by
    intro x hascii hx
    rw [spelled_cons (by decide), spelled_cons hascii, spelled_nil]
    exact stringBody?_short hx
  unfold escapeChar
  split
  · next h => exact hshort '"' (by decide) (by rw [h]; rfl)
  split
  · next h => exact hshort '\\' (by decide) (by rw [h]; rfl)
  split
  · next h => exact hshort 'b' (by decide) (by rw [h]; rfl)
  split
  · next h => exact hshort 'f' (by decide) (by rw [h]; rfl)
  split
  · next h => exact hshort 'n' (by decide) (by rw [h]; rfl)
  split
  · next h => exact hshort 'r' (by decide) (by rw [h]; rfl)
  split
  · next h => exact hshort 't' (by decide) (by rw [h]; rfl)
  split
  · next hcontrol =>
    have hhigh : isHighSurrogate c.toNat = false := by simp [isHighSurrogate]; omega
    have hlow : isLowSurrogate c.toNat = false := by simp [isLowSurrogate]; omega
    have hread := @stringBody?_unicode _ _ _ _ rest _ (hex4?_digits hcontrol) hhigh hlow
    rw [Char.ofNat_toNat c] at hread
    rw [spelled_of_ascii]
    · exact hread
    · simp only [List.forall_mem_cons]
      exact ⟨by decide, by decide, by decide, by decide, Hex.ascii_digit _ (by omega),
        Hex.ascii_digit _ (by omega), by simp⟩
  · next hquote hbackslash _ _ _ _ _ hcontrol =>
    rw [spelled, List.flatMap_cons, List.flatMap_nil, List.append_nil]
    exact stringBody?_units (plain_of_mem hquote hbackslash hcontrol)

/-! ### Strings -/

theorem stringBody?_flatMap (cs rest : List Char) :
    stringBody? (spelled (cs.flatMap escapeChar) ++ '"' :: rest) =
      some (some (cs.flatMap String.utf8EncodeChar), rest) := by
  induction cs with
  | nil => rw [List.flatMap_nil, spelled_nil, List.nil_append, stringBody?.eq_1]; rfl
  | cons c cs ih =>
    rw [List.flatMap_cons, spelled_append, List.append_assoc, stringBody?_escapeChar, ih]
    rfl

/-- A string is read back as it was written. -/
theorem string?_stringText (s : String) (rest : List Char) :
    ∃ cs, spelled (stringText s) ++ rest = '"' :: cs ∧ string? cs = some (some s, rest) := by
  refine ⟨spelled (s.toList.flatMap escapeChar) ++ '"' :: rest, ?_, ?_⟩
  · rw [stringText, spelled_append, spelled_cons (by decide), spelled_cons (by decide), spelled_nil]
    simp
  · rw [string?, stringBody?_flatMap, ← Bytes.ofText_eq_flatMap]
    simp

end Identity.Json
