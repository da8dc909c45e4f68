/-
Identity/Proofs/Bytes.lean

Lengths of byte strings, the numbers that they stand for, cutting them into
pieces, and texts as bytes.
-/
import Identity.Bytes
import Mathlib.Algebra.Group.Nat.Defs
import Mathlib.Data.List.Basic
import Mathlib.Tactic.Common

namespace Identity.Bytes

variable {a b x y : Bytes} {size : Nat}

/-! ### Lengths -/

@[simp] theorem length_xor (a b : Bytes) : (xor a b).length = min a.length b.length :=
  List.length_zipWith

@[simp] theorem length_ofNatLE (count n : Nat) : (ofNatLE count n).length = count := by
  induction count generalizing n with
  | zero => rfl
  | succ count ih => rw [ofNatLE, List.length_cons, ih]

@[simp] theorem length_ofNatBE (count n : Nat) : (ofNatBE count n).length = count := by
  rw [ofNatBE, List.length_reverse, length_ofNatLE]

/-- Exclusive or with the same bytes undoes itself. -/
theorem xor_xor_cancel (h : a.length ≤ b.length) : xor (xor a b) b = a := by
  induction a generalizing b with
  | nil => rfl
  | cons u a ih =>
    cases b with
    | nil => simp at h
    | cons v b =>
      have hrest : xor (xor a b) b = a := ih (by simpa using h)
      have hfirst : u ^^^ v ^^^ v = u := by rw [UInt8.xor_assoc, UInt8.xor_self, UInt8.xor_zero]
      show (u ^^^ v ^^^ v) :: xor (xor a b) b = u :: a
      rw [hfirst, hrest]

/-! ### Numbers -/

theorem toNatLE_cons (b : UInt8) (x : Bytes) : toNatLE (b :: x) = b.toNat + 256 * toNatLE x := rfl

theorem toNatLE_lt (x : Bytes) : toNatLE x < 256 ^ x.length := by
  induction x with
  | nil => simp [toNatLE]
  | cons b x ih =>
    have hb := b.toNat_lt
    rw [toNatLE_cons, List.length_cons, Nat.pow_succ]
    omega

/-- A number is read back from its digits, when there are enough of them. -/
theorem toNatLE_ofNatLE {count n : Nat} (h : n < 256 ^ count) : toNatLE (ofNatLE count n) = n := by
  induction count generalizing n with
  | zero =>
    rw [Nat.pow_zero, Nat.lt_one_iff] at h
    rw [h]
    rfl
  | succ count ih =>
    rw [Nat.pow_succ] at h
    have hrest : n / 256 < 256 ^ count := Nat.div_lt_of_lt_mul (by omega)
    rw [ofNatLE, toNatLE_cons, ih hrest, UInt8.toNat_ofNat_of_lt' (by simp [UInt8.size]; omega)]
    omega

/-- Bytes are the digits of the number that they stand for. -/
theorem ofNatLE_toNatLE (x : Bytes) : ofNatLE x.length (toNatLE x) = x := by
  induction x with
  | nil => rfl
  | cons b x ih =>
    have hb := b.toNat_lt
    have hlow : (b.toNat + 256 * toNatLE x) % 256 = b.toNat := by omega
    have hhigh : (b.toNat + 256 * toNatLE x) / 256 = toNatLE x := by omega
    rw [toNatLE_cons, List.length_cons, ofNatLE, hlow, hhigh, ih, UInt8.ofNat_toNat]

/-! ### Pieces -/

@[simp] theorem chunks_nil (size : Nat) : chunks size [] = [] := by
  rw [chunks]

/-- A piece of full length, or a last one that is shorter, is cut off. -/
theorem chunks_append (hx : x ≠ [])
    (h : x.length = size ∨ x.length ≤ size ∧ y = []) :
    chunks size (x ++ y) = x :: chunks size y := by
  obtain ⟨u, xs, rfl⟩ := List.exists_cons_of_ne_nil hx
  rw [List.cons_append, chunks]
  -- the first byte is taken apart by the recursion, hence one less than the size
  rcases h with hfull | ⟨hlast, rfl⟩
  · have hxs : xs.length = size - 1 := by
      rw [List.length_cons] at hfull
      omega
    rw [List.take_left' hxs, List.drop_left' hxs]
  · have hxs : xs.length ≤ size - 1 := by
      rw [List.length_cons] at hlast
      omega
    rw [List.append_nil, List.take_of_length_le hxs, List.drop_of_length_le hxs]

/-- A text that is not empty is a first piece followed by the rest, and only a
piece that is the last one can be short. -/
theorem exists_piece (size : Nat) (hsize : 0 < size) (hx : x ≠ []) :
    ∃ piece rest, x = piece ++ rest ∧ piece ≠ [] ∧
      (piece.length = size ∨ piece.length ≤ size ∧ rest = []) := by
  refine ⟨x.take size, x.drop size, (List.take_append_drop size x).symm, ?_, ?_⟩
  · simp [hx, Nat.ne_of_gt hsize]
  · by_cases hlong : size ≤ x.length
    · exact .inl (List.length_take_of_le hlong)
    · exact .inr ⟨List.length_take_le size x, List.drop_of_length_le (by omega)⟩

/-- Bytes that make whole pieces are cut into such pieces. -/
theorem chunks_full (size count : Nat) (hsize : 0 < size) (h : x.length = count * size) :
    (chunks size x).length = count ∧ ∀ piece ∈ chunks size x, piece.length = size := by
  induction count generalizing x with
  | zero =>
    obtain rfl : x = [] := List.length_eq_zero_iff.mp (by simpa using h)
    simp
  | succ count ih =>
    have hmul : (count + 1) * size = count * size + size := Nat.succ_mul count size
    have htake : (x.take size).length = size := List.length_take_of_le (by omega)
    have hrest : (x.drop size).length = count * size := by
      rw [List.length_drop]
      omega
    have hne : x.take size ≠ [] := by
      rw [← List.length_pos_iff, htake]
      exact hsize
    obtain ⟨hcount, hall⟩ := ih hrest
    rw [← List.take_append_drop size x, chunks_append hne (.inl htake)]
    refine ⟨by rw [List.length_cons, hcount], ?_⟩
    rw [List.forall_mem_cons]
    exact ⟨htake, hall⟩

/-- Pieces have at most the length that was asked for, and together they are the text. -/
theorem chunks_spec (size : Nat) (hsize : 0 < size) (x : Bytes) :
    (chunks size x).flatten = x ∧ ∀ piece ∈ chunks size x, piece.length ≤ size := by
  induction hlength : x.length using Nat.strongRecOn generalizing x with
  | ind length ih =>
    by_cases hempty : x = []
    · simp [hempty]
    · obtain ⟨piece, rest, rfl, hne, hpiece⟩ := exists_piece size hsize hempty
      have hpos : 0 < piece.length := List.length_pos_iff.mpr hne
      obtain ⟨hflatten, hall⟩ :=
        ih rest.length (by rw [← hlength, List.length_append]; omega) rest rfl
      rw [chunks_append hne hpiece, List.flatten_cons, hflatten, List.forall_mem_cons]
      exact ⟨rfl, hpiece.elim Nat.le_of_eq And.left, hall⟩

theorem length_flatten {pieces : List Bytes} (h : ∀ piece ∈ pieces, piece.length = size) :
    pieces.flatten.length = pieces.length * size := by
  rw [List.length_flatten, List.map_congr_left h, List.map_const', List.sum_replicate_nat]

/-! ### Texts -/

/-- A text is read back from its bytes. -/
@[simp] theorem toText?_ofText (s : String) : toText? (ofText s) = some s := by
  show String.fromUTF8? ⟨s.toByteArray.data.toList.toArray⟩ = some s
  rw [Array.toArray_toList, String.fromUTF8?, dif_pos s.isValidUTF8]
  rfl

/-- Only the bytes of a text are read as it. -/
theorem eq_ofText_of_toText? {s : String} (h : toText? x = some s) : x = ofText s := by
  unfold toText? String.fromUTF8? at h
  split_ifs at h with hvalid
  obtain rfl := Option.some.inj h
  rfl

theorem ofText_eq_flatMap (s : String) : ofText s = s.toList.flatMap String.utf8EncodeChar := by
  rw [ofText, ← String.utf8Encode_toList, List.utf8Encode]
  simp

/-- An ASCII character is written as its own number. -/
theorem utf8EncodeChar_of_ascii {c : Char} (h : c.toNat < 128) :
    String.utf8EncodeChar c = [UInt8.ofNat c.toNat] := by
  rw [String.utf8EncodeChar]
  exact if_pos (Nat.le_of_lt_succ h)

/-- The bytes of all other characters lie beyond ASCII. -/
theorem le_of_mem_utf8EncodeChar {c : Char} {b : UInt8} (h : 128 ≤ c.toNat)
    (hb : b ∈ String.utf8EncodeChar c) : 128 ≤ b.toNat := by
  rw [String.utf8EncodeChar] at hb
  split_ifs at hb with hone htwo hthree
  · exact absurd hone (Nat.not_le.mpr h)
  all_goals
    simp only [List.mem_cons, List.not_mem_nil, or_false] at hb
    rcases hb with rfl | rfl | rfl | rfl
    all_goals
      rw [UInt8.toNat_ofNat']
      omega

/-- A character without bytes beyond ASCII is an ASCII character. -/
theorem ascii_of_utf8EncodeChar {c : Char}
    (h : ∀ b ∈ String.utf8EncodeChar c, b.toNat < 128) : c.toNat < 128 := by
  by_contra hlarge
  obtain ⟨b, hb⟩ := List.exists_mem_of_ne_nil _ (String.utf8EncodeChar_ne_nil)
  exact absurd (h b hb) (Nat.not_lt.mpr (le_of_mem_utf8EncodeChar (Nat.not_lt.mp hlarge) hb))

/-- A text of ASCII characters has their numbers as its bytes. -/
theorem ofText_of_ascii {s : String} (h : ∀ c ∈ s.toList, c.toNat < 128) :
    ofText s = s.toList.map fun c => UInt8.ofNat c.toNat := by
  rw [ofText_eq_flatMap, List.flatMap_congr fun c hc => utf8EncodeChar_of_ascii (h c hc)]
  exact List.flatMap_pure_eq_map _ _

/-- A text without bytes beyond ASCII has no other characters either. -/
theorem ascii_of_ofText {s : String} (h : ∀ b ∈ ofText s, b.toNat < 128) :
    ∀ c ∈ s.toList, c.toNat < 128 := by
  intro c hc
  refine ascii_of_utf8EncodeChar fun b hb => h b ?_
  rw [ofText_eq_flatMap]
  exact List.mem_flatMap.mpr ⟨c, hc, hb⟩

end Identity.Bytes
