/-
Identity/Proofs/Text/Base64.lean

Bytes are read back from their padded and from their compact form, and nothing
else is read as them.

Groups are read back in any alphabet that tells its 64 symbols apart
(`Distinct`); the forms differ only in how they end.  Reading is strict: what is
read in a group is what is written for the bytes that it answers
(`group₁_of_ungroup₁` and so on), because it takes no bits that do not count.
-/
import Identity.Text.Base64
import Mathlib.Tactic.Common

namespace Identity.Base64

variable {alphabet : List Char} {a b c : UInt8} {n : Nat}

/-! ### Symbols -/

/-- Every symbol of the alphabet stands for its own six bits. -/
def Distinct (alphabet : List Char) : Prop :=
  ∀ n < 64, value? alphabet (symbol alphabet n) = some n

theorem distinct_urlSafe : Distinct urlSafe := by
  unfold Distinct
  decide

theorem distinct_standard : Distinct standard := by
  unfold Distinct
  decide

theorem symbol_mem (h : 'A' ∈ alphabet) (n : Nat) : symbol alphabet n ∈ alphabet := by
  rw [symbol, List.getD_eq_getElem?_getD]
  cases hn : alphabet[n]? with
  | none => exact h
  | some c => exact List.mem_of_getElem? hn

/-! ### Groups -/

theorem ofNat_eq (a : UInt8) (h : n = a.toNat) : UInt8.ofNat n = a := by
  rw [h, UInt8.ofNat_toNat]

theorem ungroup₁_group₁ (h : Distinct alphabet) (a : UInt8) :
    ungroup₁ alphabet (symbol alphabet (a.toNat / 4)) (symbol alphabet (a.toNat % 4 * 16)) =
      some [a] := by
  have ha := a.toNat_lt
  simp only [ungroup₁, h (a.toNat / 4) (by omega), h (a.toNat % 4 * 16) (by omega),
    Option.bind_eq_bind, Option.bind_some]
  rw [if_pos (by omega), ofNat_eq a (by omega)]

theorem ungroup₂_group₂ (h : Distinct alphabet) (a b : UInt8) :
    ungroup₂ alphabet (symbol alphabet (a.toNat / 4))
      (symbol alphabet (a.toNat % 4 * 16 + b.toNat / 16)) (symbol alphabet (b.toNat % 16 * 4)) =
      some [a, b] := by
  have ha := a.toNat_lt
  have hb := b.toNat_lt
  simp only [ungroup₂, h (a.toNat / 4) (by omega), h (a.toNat % 4 * 16 + b.toNat / 16) (by omega),
    h (b.toNat % 16 * 4) (by omega), Option.bind_eq_bind, Option.bind_some]
  rw [if_pos (by omega), ofNat_eq a (by omega), ofNat_eq b (by omega)]

theorem ungroup₃_group₃ (h : Distinct alphabet) (a b c : UInt8) :
    ungroup₃ alphabet (symbol alphabet (a.toNat / 4))
      (symbol alphabet (a.toNat % 4 * 16 + b.toNat / 16))
      (symbol alphabet (b.toNat % 16 * 4 + c.toNat / 64)) (symbol alphabet (c.toNat % 64)) =
      some [a, b, c] := by
  have ha := a.toNat_lt
  have hb := b.toNat_lt
  have hc := c.toNat_lt
  simp only [ungroup₃, h (a.toNat / 4) (by omega), h (a.toNat % 4 * 16 + b.toNat / 16) (by omega),
    h (b.toNat % 16 * 4 + c.toNat / 64) (by omega), h (c.toNat % 64) (by omega),
    Option.bind_eq_bind, Option.bind_some]
  rw [ofNat_eq a (by omega), ofNat_eq b (by omega), ofNat_eq c (by omega)]

/-! ### Strict reading -/

section Strict

variable {w x y z : Char} {bytes : Bytes}

theorem symbol_of_value? (h : value? alphabet w = some n) :
    n < alphabet.length ∧ symbol alphabet n = w := by
  obtain ⟨hn, hw, -⟩ := List.idxOf?_eq_some_iff.mp h
  refine ⟨hn, ?_⟩
  rw [symbol, List.getD_eq_getElem?_getD, List.getElem?_eq_getElem hn, Option.getD_some, hw]

theorem toNat_ofNat (h : n < 256) : (UInt8.ofNat n).toNat = n := UInt8.toNat_ofNat_of_lt' h

theorem group₁_of_ungroup₁ (hlength : alphabet.length = 64)
    (h : ungroup₁ alphabet w x = some bytes) :
    ∃ a, bytes = [a] ∧ group₁ alphabet a = [w, x] := by
  simp only [ungroup₁, Option.bind_eq_bind, Option.bind_eq_some_iff] at h
  obtain ⟨p, hp, q, hq, h⟩ := h
  split_ifs at h with hrest
  obtain ⟨hp, rfl⟩ := symbol_of_value? hp
  obtain ⟨hq, rfl⟩ := symbol_of_value? hq
  refine ⟨_, (Option.some.inj h).symm, ?_⟩
  rw [group₁, toNat_ofNat (by omega), show (p * 4 + q / 16) / 4 = p by omega,
    show (p * 4 + q / 16) % 4 * 16 = q by omega]

theorem group₂_of_ungroup₂ (hlength : alphabet.length = 64)
    (h : ungroup₂ alphabet w x y = some bytes) :
    ∃ a b, bytes = [a, b] ∧ group₂ alphabet a b = [w, x, y] := by
  simp only [ungroup₂, Option.bind_eq_bind, Option.bind_eq_some_iff] at h
  obtain ⟨p, hp, q, hq, r, hr, h⟩ := h
  split_ifs at h with hrest
  obtain ⟨hp, rfl⟩ := symbol_of_value? hp
  obtain ⟨hq, rfl⟩ := symbol_of_value? hq
  obtain ⟨hr, rfl⟩ := symbol_of_value? hr
  refine ⟨_, _, (Option.some.inj h).symm, ?_⟩
  rw [group₂, toNat_ofNat (by omega), toNat_ofNat (by omega),
    show (p * 4 + q / 16) / 4 = p by omega,
    show (p * 4 + q / 16) % 4 * 16 + (q % 16 * 16 + r / 4) / 16 = q by omega,
    show (q % 16 * 16 + r / 4) % 16 * 4 = r by omega]

theorem group₃_of_ungroup₃ (hlength : alphabet.length = 64)
    (h : ungroup₃ alphabet w x y z = some bytes) :
    ∃ a b c, bytes = [a, b, c] ∧ group₃ alphabet a b c = [w, x, y, z] := by
  simp only [ungroup₃, Option.bind_eq_bind, Option.bind_eq_some_iff] at h
  obtain ⟨p, hp, q, hq, r, hr, t, ht, h⟩ := h
  obtain ⟨hp, rfl⟩ := symbol_of_value? hp
  obtain ⟨hq, rfl⟩ := symbol_of_value? hq
  obtain ⟨hr, rfl⟩ := symbol_of_value? hr
  obtain ⟨ht, rfl⟩ := symbol_of_value? ht
  refine ⟨_, _, _, (Option.some.inj h).symm, ?_⟩
  rw [group₃, toNat_ofNat (by omega), toNat_ofNat (by omega), toNat_ofNat (by omega),
    show (p * 4 + q / 16) / 4 = p by omega,
    show (p * 4 + q / 16) % 4 * 16 + (q % 16 * 16 + r / 4) / 16 = q by omega,
    show (q % 16 * 16 + r / 4) % 16 * 4 + (r % 4 * 64 + t) / 64 = r by omega,
    show (r % 4 * 64 + t) % 64 = t by omega]

end Strict

/-! ### Padded form -/

/-- Padding is told apart from every symbol. -/
theorem symbol_standard_ne_pad (n : Nat) : symbol standard n ≠ pad := by
  have hpad : pad ∉ standard := by decide
  exact fun h => hpad (h ▸ symbol_mem (by decide) n)

theorem ne_pad_of_ungroup₃ {w x y z : Char} {bytes : Bytes}
    (h : ungroup₃ standard w x y z = some bytes) : z ≠ pad := by
  simp only [ungroup₃, Option.bind_eq_bind, Option.bind_eq_some_iff] at h
  obtain ⟨p, -, q, -, r, -, t, ht, -⟩ := h
  rw [← (symbol_of_value? ht).2]
  exact symbol_standard_ne_pad t

/-- A full group is read on its own, whatever comes after it. -/
theorem decodeChars_group₃ {w x y z : Char} {bytes : Bytes}
    (h : ungroup₃ standard w x y z = some bytes) (text : List Char) :
    decodeChars (w :: x :: y :: z :: text) = (decodeChars text).map (bytes ++ ·) := by
  have hz : z ≠ pad := ne_pad_of_ungroup₃ h
  cases text with
  | nil =>
    simp only [decodeChars, hz, and_false, if_false, h, Option.map_some, List.append_nil]
  | cons c text =>
    simp only [decodeChars, h, Option.bind_eq_bind, Option.bind_some, Option.map_eq_bind]
    rfl

/-- Bytes are read back from their padded form. -/
theorem decodeChars_encodeChars (bytes : Bytes) :
    decodeChars (encodeChars bytes) = some bytes := by
  induction bytes using encodeChars.induct with
  | case1 => rfl
  | case2 a => exact (if_pos ⟨rfl, rfl⟩).trans (ungroup₁_group₁ distinct_standard a)
  | case3 a b =>
    refine (if_neg ?_).trans ((if_pos rfl).trans (ungroup₂_group₂ distinct_standard a b))
    exact fun h => symbol_standard_ne_pad _ h.1
  | case4 a b c rest ih =>
    show decodeChars (_ :: _ :: _ :: _ :: encodeChars rest) = _
    rw [decodeChars_group₃ (ungroup₃_group₃ distinct_standard a b c), ih]
    rfl

theorem decode_encode (bytes : Bytes) : decode (encode bytes) = some bytes := by
  rw [decode, encode, String.toList_ofList, decodeChars_encodeChars]

/-- Only the padded form of some bytes is read as them. -/
theorem encodeChars_of_decodeChars {text : List Char} {bytes : Bytes}
    (h : decodeChars text = some bytes) : encodeChars bytes = text := by
  have hlength : standard.length = 64 := by decide
  induction text using decodeChars.induct generalizing bytes with
  | case1 =>
    obtain rfl := Option.some.inj h
    rfl
  | case2 w x y z hpad =>
    rw [decodeChars, if_pos hpad] at h
    obtain ⟨a, rfl, hgroup⟩ := group₁_of_ungroup₁ hlength h
    show group₁ standard a ++ [pad, pad] = _
    rw [hgroup, hpad.1, hpad.2]
    rfl
  | case3 w x y hy =>
    rw [decodeChars, if_neg hy, if_pos rfl] at h
    obtain ⟨a, b, rfl, hgroup⟩ := group₂_of_ungroup₂ hlength h
    show group₂ standard a b ++ [pad] = _
    rw [hgroup]
    rfl
  | case4 w x y z hpad hz =>
    rw [decodeChars, if_neg hpad, if_neg hz] at h
    obtain ⟨a, b, c, rfl, hgroup⟩ := group₃_of_ungroup₃ hlength h
    show group₃ standard a b c ++ [] = _
    rw [hgroup]
    rfl
  | case5 w x y z rest hrest ih =>
    rw [decodeChars.eq_3 w x y z rest hrest] at h
    simp only [Option.bind_eq_bind, Option.bind_eq_some_iff] at h
    obtain ⟨first, hfirst, others, hothers, h⟩ := h
    obtain rfl := Option.some.inj h
    obtain ⟨a, b, c, rfl, hgroup⟩ := group₃_of_ungroup₃ hlength hfirst
    show group₃ standard a b c ++ encodeChars others = _
    rw [hgroup, ih hothers]
    rfl
  | case6 text hnil hfour hmore =>
    rw [decodeChars.eq_4 text hnil hfour hmore] at h
    cases h

/-- **A padded text** is read as the bytes that it is the text of. -/
theorem decode_eq_some {text : String} {bytes : Bytes} :
    decode text = some bytes ↔ text = encode bytes := by
  constructor
  · intro h
    rw [encode, encodeChars_of_decodeChars h, String.ofList_toList]
  · rintro rfl
    exact decode_encode bytes

/-! ### Compact form -/

/-- Bytes are read back from their compact form. -/
theorem decodeCompactChars_encodeCompactChars (bytes : Bytes) :
    decodeCompactChars (encodeCompactChars bytes) = some bytes := by
  induction bytes using encodeCompactChars.induct with
  | case1 => rfl
  | case2 a => exact ungroup₁_group₁ distinct_urlSafe a
  | case3 a b => exact ungroup₂_group₂ distinct_urlSafe a b
  | case4 a b c rest ih =>
    simp only [encodeCompactChars, group₃, List.cons_append, List.nil_append, decodeCompactChars,
      ungroup₃_group₃ distinct_urlSafe, ih, Option.bind_eq_bind, Option.bind_some]

/-- Only the compact form of some bytes is read as them. -/
theorem encodeCompactChars_of_decodeCompactChars {text : List Char} {bytes : Bytes}
    (h : decodeCompactChars text = some bytes) : encodeCompactChars bytes = text := by
  have hlength : urlSafe.length = 64 := by decide
  induction text using decodeCompactChars.induct generalizing bytes with
  | case1 =>
    obtain rfl := Option.some.inj h
    rfl
  | case2 w => cases h
  | case3 w x =>
    obtain ⟨a, rfl, hgroup⟩ := group₁_of_ungroup₁ hlength h
    exact hgroup
  | case4 w x y =>
    obtain ⟨a, b, rfl, hgroup⟩ := group₂_of_ungroup₂ hlength h
    exact hgroup
  | case5 w x y z rest ih =>
    simp only [decodeCompactChars, Option.bind_eq_bind, Option.bind_eq_some_iff] at h
    obtain ⟨first, hfirst, others, hothers, h⟩ := h
    obtain rfl := Option.some.inj h
    obtain ⟨a, b, c, rfl, hgroup⟩ := group₃_of_ungroup₃ hlength hfirst
    show group₃ urlSafe a b c ++ encodeCompactChars others = _
    rw [hgroup, ih hothers]
    rfl

/-- **A compact text** is read as the bytes that it is the text of. -/
theorem decodeCompact_eq_some {text : String} {bytes : Bytes} :
    decodeCompact text = some bytes ↔ text = encodeCompact bytes := by
  unfold decodeCompact encodeCompact
  constructor
  · intro h
    rw [encodeCompactChars_of_decodeCompactChars h, String.ofList_toList]
  · rintro rfl
    rw [String.toList_ofList]
    exact decodeCompactChars_encodeCompactChars bytes

/-- The compact form consists of symbols. -/
theorem forall_mem_urlSafe (bytes : Bytes) : ∀ c ∈ encodeCompactChars bytes, c ∈ urlSafe := by
  have hsymbol : ∀ n, symbol urlSafe n ∈ urlSafe := symbol_mem (by decide)
  induction bytes using encodeCompactChars.induct with
  | case1 => nofun
  | case2 a => simp [encodeCompactChars, group₁, hsymbol]
  | case3 a b => simp [encodeCompactChars, group₂, hsymbol]
  | case4 a b c rest ih =>
    rw [encodeCompactChars, List.forall_mem_append]
    exact ⟨by simp [group₃, hsymbol], ih⟩

end Identity.Base64
