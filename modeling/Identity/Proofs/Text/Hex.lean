/-
Identity/Proofs/Text/Hex.lean

What the reader of hexadecimal texts accepts.

Bytes are written with small digits, and a text is read as some bytes exactly
when it is what is written for them, in any case of its letters (`Spells`).  The
reader works on the bytes of a text.  It takes no byte beyond ASCII, so that
they stand for the characters of the text one by one.
-/
import Identity.Proofs.Bytes
import Identity.Proofs.Outcome
import Identity.Text.Hex

namespace Identity.Hex

/-! ### Digits -/

/-- The character of a byte as a small letter. -/
def lowered (b : UInt8) : Char := (Char.ofNat b.toNat).toLower

theorem digitValue?_ofNat : ∀ n < 256, ∀ m < 16,
    digitValue? (UInt8.ofNat n) = some (UInt8.ofNat m) ↔
      n < 128 ∧ (Char.ofNat n).toLower = digit m := by
  decide +kernel

theorem lt_of_digitValue?_ofNat : ∀ n < 256, ∀ v ∈ digitValue? (UInt8.ofNat n), v.toNat < 16 := by
  decide +kernel

/-- A byte stands for a number below 16 when it is the digit of this number in some case. -/
theorem digitValue?_eq_some {b v : UInt8} :
    digitValue? b = some v ↔ v.toNat < 16 ∧ b.toNat < 128 ∧ lowered b = digit v.toNat := by
  have hb : UInt8.ofNat b.toNat = b := UInt8.ofNat_toNat
  have hv : UInt8.ofNat v.toNat = v := UInt8.ofNat_toNat
  constructor
  · intro h
    have hlt : v.toNat < 16 := lt_of_digitValue?_ofNat b.toNat b.toNat_lt v (by rw [hb, h]; rfl)
    refine ⟨hlt, (digitValue?_ofNat b.toNat b.toNat_lt v.toNat hlt).mp ?_⟩
    rw [hb, hv, h]
  · rintro ⟨hlt, h⟩
    rw [← hb, ← hv]
    exact (digitValue?_ofNat b.toNat b.toNat_lt v.toNat hlt).mpr h

theorem digitAt_eq_ok {position : Nat} {b v : UInt8} :
    digitAt position b = .ok v ↔ digitValue? b = some v := by
  unfold digitAt
  cases digitValue? b with
  | none => exact iff_of_false nofun nofun
  | some w => rw [Except.ok.injEq, Option.some.injEq]

theorem ascii_digit : ∀ n < 16, (digit n).toNat < 128 := by decide

theorem ascii_of_toLower {c : Char} (h : c.toLower.toNat < 128) : c.toNat < 128 := by
  unfold Char.toLower at h
  split_ifs at h with hupper
  · have hlast := hupper.2
    rw [UInt32.le_iff_toNat_le] at hlast
    exact Nat.lt_of_le_of_lt hlast (by decide)
  · exact h

/-! ### Pairs of digits -/

theorem toNat_pair {h l : UInt8} (hh : h.toNat < 16) (hl : l.toNat < 16) :
    (h * 16 + l).toNat = 16 * h.toNat + l.toNat := by
  rw [UInt8.toNat_add, UInt8.toNat_mul, show (16 : UInt8).toNat = 16 from rfl]
  omega

/-- A byte is written as the digits that it is made of. -/
theorem encodeByte_pair {h l : UInt8} (hh : h.toNat < 16) (hl : l.toNat < 16) :
    encodeByte (h * 16 + l) = [digit h.toNat, digit l.toNat] := by
  rw [encodeByte, toNat_pair hh hl, Nat.mul_add_div (by decide), Nat.div_eq_of_lt hl, Nat.add_zero,
    Nat.mul_add_mod, Nat.mod_eq_of_lt hl]

/-- A byte is made of two digits. -/
theorem exists_pair (b : UInt8) : ∃ h l : UInt8,
    h.toNat = b.toNat / 16 ∧ l.toNat = b.toNat % 16 ∧ h * 16 + l = b := by
  have hb := b.toNat_lt
  have hhigh : (UInt8.ofNat (b.toNat / 16)).toNat = b.toNat / 16 :=
    UInt8.toNat_ofNat_of_lt' (by unfold UInt8.size; omega)
  have hlow : (UInt8.ofNat (b.toNat % 16)).toNat = b.toNat % 16 :=
    UInt8.toNat_ofNat_of_lt' (by unfold UInt8.size; omega)
  refine ⟨_, _, hhigh, hlow, UInt8.toNat_inj.mp ?_⟩
  rw [toNat_pair (by omega) (by omega), hhigh, hlow]
  exact Nat.div_add_mod _ _

theorem length_flatMap_encodeByte (bytes : Bytes) :
    (bytes.flatMap encodeByte).length = 2 * bytes.length := by
  induction bytes with
  | nil => rfl
  | cons b bytes ih =>
    rw [List.flatMap_cons, List.length_append, ih, List.length_cons, Nat.mul_succ, Nat.add_comm]
    rfl

theorem ascii_of_mem_flatMap {bytes : Bytes} {c : Char} (h : c ∈ bytes.flatMap encodeByte) :
    c.toNat < 128 := by
  obtain ⟨b, -, hc⟩ := List.mem_flatMap.mp h
  have hb := b.toNat_lt
  rcases List.mem_pair.mp hc with rfl | rfl
  · exact ascii_digit _ (by omega)
  · exact ascii_digit _ (by omega)

/-- Pairs of digits are read as the bytes that they are written for. -/
theorem decodePairs_eq_ok {position : Nat} {text bytes : Bytes} (heven : text.length % 2 = 0) :
    decodePairs position text = .ok bytes ↔
      (∀ b ∈ text, b.toNat < 128) ∧ text.map lowered = bytes.flatMap encodeByte := by
  induction position, text using decodePairs.induct generalizing bytes with
  | case1 position high low rest ih =>
    have hrest : rest.length % 2 = 0 := by
      simp only [List.length_cons] at heven
      omega
    rw [decodePairs]
    simp only [Outcome.bind_eq_ok, digitAt_eq_ok, digitValue?_eq_some, ih hrest,
      List.forall_mem_cons, List.map_cons]
    constructor
    · rintro ⟨h, ⟨hh, hhigh, hdigit⟩, l, ⟨hl, hlow, hdigit'⟩, tail, ⟨hascii, htail⟩, ⟨⟩⟩
      refine ⟨⟨hhigh, hlow, hascii⟩, ?_⟩
      rw [List.flatMap_cons, encodeByte_pair hh hl, hdigit, hdigit', htail]
      rfl
    · rintro ⟨⟨hhigh, hlow, hascii⟩, heq⟩
      cases bytes with
      | nil => cases heq
      | cons b tail =>
        obtain ⟨h, l, hh, hl, rfl⟩ := exists_pair b
        have hb := (h * 16 + l).toNat_lt
        rw [List.flatMap_cons, encodeByte_pair (by omega) (by omega)] at heq
        obtain ⟨hdigit, heq⟩ := List.cons.inj heq
        obtain ⟨hdigit', htail⟩ := List.cons.inj heq
        exact ⟨h, ⟨by omega, hhigh, hdigit⟩, l, ⟨by omega, hlow, hdigit'⟩, tail,
          ⟨hascii, htail⟩, rfl⟩
  | case2 text position hshort =>
    have hnil : text = [] := by
      match text, hshort, heven with
      | [], _, _ => rfl
      | [b], _, heven => cases heven
      | high :: low :: rest, hshort, _ => exact absurd rfl (hshort high low rest)
    subst hnil
    cases bytes with
    | nil => exact iff_of_true rfl ⟨nofun, rfl⟩
    | cons b tail => exact iff_of_false nofun fun h => by cases h.2

/-! ### Texts -/

/-- The text is what is written for some bytes, in any case of its letters. -/
def Spells (text : String) (bytes : Bytes) : Prop :=
  text.toList.map Char.toLower = (encode bytes).toList

instance (text : String) (bytes : Bytes) : Decidable (Spells text bytes) :=
  inferInstanceAs (Decidable (_ = _))

theorem lowered_of_ascii {c : Char} (h : c.toNat < 128) :
    lowered (UInt8.ofNat c.toNat) = c.toLower := by
  rw [lowered, UInt8.toNat_ofNat_of_lt' (by unfold UInt8.size; omega), Char.ofNat_toNat]

/-- **What is read as some bytes** is what is written for them, in any case of its letters. -/
theorem decode_eq_ok {text : String} {bytes : Bytes} :
    decode text = .ok bytes ↔ Spells text bytes := by
  rw [Spells, encode, String.toList_ofList]
  constructor
  · intro h
    dsimp only [decode] at h
    split_ifs at h with hodd
    obtain ⟨hbytes, heq⟩ := (decodePairs_eq_ok (not_not.mp hodd)).mp h
    have hascii := Bytes.ascii_of_ofText hbytes
    rw [← heq, Bytes.ofText_of_ascii hascii, List.map_map]
    exact (List.map_congr_left fun c hc => lowered_of_ascii (hascii c hc)).symm
  · intro h
    have hascii : ∀ c ∈ text.toList, c.toNat < 128 := fun c hc =>
      ascii_of_toLower (ascii_of_mem_flatMap (h ▸ List.mem_map_of_mem hc))
    have htext := Bytes.ofText_of_ascii hascii
    have heven : (Bytes.ofText text).length % 2 = 0 := by
      rw [htext, List.length_map, ← List.length_map Char.toLower, h, length_flatMap_encodeByte]
      exact Nat.mul_mod_right 2 _
    dsimp only [decode]
    rw [if_neg (not_not.mpr heven), decodePairs_eq_ok heven, htext, ← h]
    constructor
    · intro b hb
      obtain ⟨c, hc, rfl⟩ := List.mem_map.mp hb
      have hlt := hascii c hc
      rw [UInt8.toNat_ofNat_of_lt' (by unfold UInt8.size; omega)]
      exact hlt
    · rw [List.map_map]
      exact List.map_congr_left fun c hc => lowered_of_ascii (hascii c hc)

end Identity.Hex
