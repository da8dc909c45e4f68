/-
Identity/Proofs/Entropy.lean

What draws can answer.

`d.Gives a` says that the draw `d` answers `a` for some random bytes.  A draw
that is put together gives what its parts give (`gives_bind`), so each draw has
one lemma about everything that it can give.  In the same way `d.Faults fault`
says that `d` ends in a fault for some random bytes, which is a fault of one of its
parts (`faults_bind`).
-/
import Identity.Proofs.Entropy.Index
import Identity.Proofs.Outcome
import Identity.Secret.Generated
import Identity.Secret.Pin
import Mathlib.Tactic.Common

namespace Identity

/-- The draw answers `a` for some random bytes. -/
def Draw.Gives {α : Type} (d : Draw α) (a : α) : Prop :=
  ∃ entropy rest, d entropy = .ok (a, rest)

/-- The draw ends in a fault for some random bytes. -/
def Draw.Faults {α : Type} (d : Draw α) (fault : Crypto.Fault) : Prop :=
  ∃ entropy, d entropy = .error fault

namespace Draw

variable {α β : Type}

theorem gives_pure {a b : α} (h : (pure a : Draw α).Gives b) : b = a := by
  obtain ⟨entropy, rest, h⟩ := h
  cases h
  rfl

theorem gives_bind {d : Draw α} {f : α → Draw β} {b : β} (h : (d >>= f).Gives b) :
    ∃ a, d.Gives a ∧ (f a).Gives b := by
  obtain ⟨entropy, rest, h⟩ := h
  change (d entropy >>= fun r => f r.1 r.2) = _ at h
  rcases hd : d entropy with fault | ⟨a, between⟩
  · rw [hd] at h
    cases h
  · rw [hd] at h
    exact ⟨a, ⟨entropy, between, hd⟩, between, rest, h⟩

theorem gives_map {d : Draw α} {f : α → β} {b : β} (h : (f <$> d).Gives b) :
    ∃ a, d.Gives a ∧ b = f a := by
  rw [map_eq_pure_bind] at h
  obtain ⟨a, ha, hb⟩ := gives_bind h
  exact ⟨a, ha, gives_pure hb⟩

/-! ### Runs of draws -/

/-- A draw that is put together answers when its parts do, one on what the other leaves. -/
theorem bind_eq_ok {d : Draw α} {f : α → Draw β} {entropy rest : Entropy} {b : β} :
    (d >>= f) entropy = .ok (b, rest) ↔
      ∃ a between, d entropy = .ok (a, between) ∧ f a between = .ok (b, rest) := by
  show (d entropy >>= fun r => f r.1 r.2) = _ ↔ _
  rw [Outcome.bind_eq_ok, Prod.exists]

theorem replicate_succ_eq_ok {d : Draw α} {count : Nat} {entropy rest : Entropy} {a : α}
    {as : List α} : replicate (count + 1) d entropy = .ok (a :: as, rest) ↔
      ∃ between, d entropy = .ok (a, between) ∧ replicate count d between = .ok (as, rest) := by
  rw [replicate, bind_eq_ok]
  simp only [bind_eq_ok]
  constructor
  · rintro ⟨_, between, ha, _, _, has, h⟩
    cases h
    exact ⟨between, ha, has⟩
  · rintro ⟨between, ha, has⟩
    exact ⟨a, between, ha, as, rest, has, rfl⟩

/-! ### Bytes and identifiers -/

theorem length_of_split? {count : Nat} {tape drawn rest : Bytes}
    (h : split? count tape = some (drawn, rest)) : drawn.length = count := by
  induction count generalizing tape drawn rest with
  | zero =>
    cases h
    rfl
  | succ count ih =>
    cases tape with
    | nil => cases h
    | cons b tape =>
      obtain ⟨⟨drawn', rest'⟩, hsplit, heq⟩ := Option.map_eq_some_iff.mp h
      cases heq
      rw [List.length_cons, ih hsplit]

theorem split?_eq_some {count : Nat} {tape : Bytes} (h : count ≤ tape.length) :
    split? count tape = some (tape.take count, tape.drop count) := by
  induction count generalizing tape with
  | zero => rfl
  | succ count ih =>
    cases tape with
    | nil => simp at h
    | cons b tape =>
      rw [split?, ih (by simpa using h)]
      rfl

/-- Drawing bytes succeeds as long as the tape has as many. -/
theorem bytes_eq_ok {count : Nat} {entropy : Entropy} (h : count ≤ entropy.tape.length) :
    bytes count entropy = .ok (entropy.tape.take count, ⟨entropy.tape.drop count⟩) := by
  unfold bytes
  rw [split?_eq_some h]

theorem le_length_of_split? {count : Nat} {tape drawn rest : Bytes}
    (h : split? count tape = some (drawn, rest)) :
    count ≤ tape.length ∧ rest = tape.drop count := by
  induction count generalizing tape drawn rest with
  | zero =>
    cases h
    exact ⟨Nat.zero_le _, rfl⟩
  | succ count ih =>
    cases tape with
    | nil => cases h
    | cons b tape =>
      obtain ⟨⟨drawn', rest'⟩, hsplit, heq⟩ := Option.map_eq_some_iff.mp h
      cases heq
      obtain ⟨hle, hrest⟩ := ih hsplit
      exact ⟨Nat.succ_le_succ hle, hrest⟩

/-- Whoever has drawn bytes has taken them off a tape that had as many. -/
theorem le_length_of_bytes {count : Nat} {entropy rest : Entropy} {drawn : Bytes}
    (h : bytes count entropy = .ok (drawn, rest)) :
    count ≤ entropy.tape.length ∧ rest = ⟨entropy.tape.drop count⟩ := by
  unfold bytes at h
  split at h
  · rename_i hsplit
    cases h
    obtain ⟨hle, hrest⟩ := le_length_of_split? hsplit
    exact ⟨hle, by rw [hrest]⟩
  · cases h

/-- Drawing bytes fails on a tape that is too short. -/
theorem bytes_eq_error {count : Nat} {entropy : Entropy} (h : entropy.tape.length < count) :
    bytes count entropy = .error exhausted := by
  unfold bytes
  split
  · rename_i hsplit
    exact absurd (le_length_of_split? hsplit).1 (Nat.not_le_of_lt h)
  · rfl

theorem uuid_eq_ok {entropy : Entropy} (h : 16 ≤ entropy.tape.length) :
    uuid entropy = .ok (Uuid.ofRandomBytes (entropy.tape.take 16), ⟨entropy.tape.drop 16⟩) := by
  show (bytes 16 entropy >>= _) = _
  rw [bytes_eq_ok h]
  rfl

theorem uuid_eq_error {entropy : Entropy} (h : entropy.tape.length < 16) :
    uuid entropy = .error exhausted := by
  show (bytes 16 entropy >>= _) = _
  rw [bytes_eq_error h]
  rfl

theorem length_of_gives_bytes {count : Nat} {drawn : Bytes} (h : (bytes count).Gives drawn) :
    drawn.length = count := by
  obtain ⟨entropy, rest, h⟩ := h
  unfold bytes at h
  split at h
  · rename_i hsplit
    cases h
    exact length_of_split? hsplit
  · cases h

/-- A drawn identifier is not `nil`. -/
theorem isNil_of_gives_uuid {u : Uuid} (h : uuid.Gives u) : u.isNil = false := by
  obtain ⟨drawn, -, rfl⟩ := gives_map h
  exact Uuid.isNil_ofRandomBits _

/-! ### Elements -/

theorem lt_of_gives_index {bound i : Nat} (h : (index bound).Gives i) : i < bound := by
  obtain ⟨entropy, rest, h⟩ := h
  unfold index at h
  split_ifs at h with hlarge hzero
  split at h
  · cases h
    exact Nat.mod_lt _ (Nat.pos_of_ne_zero hzero)
  · cases h

theorem mem_of_gives_element [Inhabited α] {items : List α} {a : α}
    (h : (element items).Gives a) : a ∈ items := by
  obtain ⟨i, hi, ha⟩ := gives_bind h
  have hlt : i < items.length := lt_of_gives_index hi
  rw [gives_pure ha, List.getD_eq_getElem?_getD, List.getElem?_eq_getElem hlt, Option.getD_some]
  exact List.getElem_mem hlt

theorem gives_replicate {count : Nat} {d : Draw α} {as : List α}
    (h : (replicate count d).Gives as) : as.length = count ∧ ∀ a ∈ as, d.Gives a := by
  induction count generalizing as with
  | zero =>
    rw [gives_pure h]
    simp
  | succ count ih =>
    obtain ⟨a, ha, h⟩ := gives_bind h
    obtain ⟨rest, hrest, h⟩ := gives_bind h
    obtain ⟨hlength, hall⟩ := ih hrest
    rw [gives_pure h]
    refine ⟨by rw [List.length_cons, hlength], ?_⟩
    rw [List.forall_mem_cons]
    exact ⟨ha, hall⟩

/-! ### Faults -/

variable {fault : Crypto.Fault}

theorem not_faults_pure {a : α} : ¬ (pure a : Draw α).Faults fault := nofun

theorem faults_bind {d : Draw α} {f : α → Draw β} (h : (d >>= f).Faults fault) :
    d.Faults fault ∨ ∃ a, d.Gives a ∧ (f a).Faults fault := by
  obtain ⟨entropy, h⟩ := h
  change (d entropy >>= fun r => f r.1 r.2) = _ at h
  rcases Outcome.bind_eq_error.mp h with h | ⟨⟨a, rest⟩, ha, h⟩
  · exact .inl ⟨entropy, h⟩
  · exact .inr ⟨a, ⟨entropy, rest, ha⟩, rest, h⟩

/-- Drawing a number below a bound fails only for want of bytes, when the bound is a word and
not zero. -/
theorem eq_exhausted_of_faults_index {bound : Nat} (hpos : bound ≠ 0) (hword : bound ≤ maxWord)
    (h : (index bound).Faults fault) : fault = exhausted := by
  obtain ⟨entropy, h⟩ := h
  exact ((index_eq_error (Nat.pos_of_ne_zero hpos) hword).mp h).1

theorem eq_exhausted_of_faults_element [Inhabited α] {items : List α} (hne : items ≠ [])
    (hword : items.length ≤ maxWord) (h : (element items).Faults fault) : fault = exhausted := by
  rcases faults_bind h with h | ⟨i, -, h⟩
  · exact eq_exhausted_of_faults_index (mt List.length_eq_zero_iff.mp hne) hword h
  · exact absurd h not_faults_pure

theorem faults_replicate {count : Nat} {d : Draw α} (h : (replicate count d).Faults fault) :
    d.Faults fault := by
  induction count with
  | zero => exact absurd h not_faults_pure
  | succ count ih =>
    rcases faults_bind h with h | ⟨a, -, h⟩
    · exact h
    · rcases faults_bind h with h | ⟨as, -, h⟩
      · exact ih h
      · exact absurd h not_faults_pure

end Draw

/-! ### Generated PINs -/

/-- A text of digits has as many bytes as digits. -/
theorem Pin.utf8ByteSize_digits {cs : List Char} (h : ∀ c ∈ cs, c.isDigit = true) :
    (String.ofList cs).utf8ByteSize = cs.length := by
  induction cs with
  | nil => rfl
  | cons c cs ih =>
    obtain ⟨hc, hcs⟩ := List.forall_mem_cons.mp h
    have hone : c.utf8Size = 1 := by
      rw [Char.utf8Size_eq_one_iff]
      have hle := (Char.isDigit_iff_toNat.mp hc).2
      rw [UInt32.le_iff_toNat_le]
      exact Nat.le_trans hle (by decide)
    rw [String.ofList_cons, String.utf8ByteSize_append, String.utf8ByteSize_singleton, hone,
      ih hcs, List.length_cons, Nat.add_comm]

/-- A PIN that is drawn with an accepted length is well formed. -/
theorem Generated.validate_of_gives_pin {length : Nat} {pin : String}
    (hmin : Pin.minLength ≤ length) (hmax : length ≤ Pin.maxLength)
    (h : (Generated.pin length).Gives pin) : Pin.validate pin = .ok () := by
  obtain ⟨cs, hcs, rfl⟩ := Draw.gives_map h
  obtain ⟨hlength, hall⟩ := Draw.gives_replicate hcs
  -- each character is drawn from the alphabet of digits, and the length is counted in bytes
  have halphabet : decimalDigits.all (·.isDigit) = true := by decide
  have hdigits : ∀ c ∈ cs, c.isDigit = true := fun c hc =>
    List.all_eq_true.mp halphabet c (Draw.mem_of_gives_element (hall c hc))
  have hsize := Pin.utf8ByteSize_digits hdigits
  rw [hlength] at hsize
  have hcheck : Pin.check (String.ofList cs) = .ok () := by
    unfold Pin.check
    rw [hsize, String.toList_ofList, List.all_eq_true.mpr hdigits, if_neg, if_neg]
    · simp
    · simp [hmin, hmax]
  rw [Pin.validate, hcheck]
  rfl

end Identity
