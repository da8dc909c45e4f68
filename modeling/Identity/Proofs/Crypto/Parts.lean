/-
Identity/Proofs/Crypto/Parts.lean

The parts of a sealed text, as bytes and as texts.

Reading a part is reading padded base 64, so that it answers the bytes whose text
the part is and nothing else.  The parts are read one after the other (`fields`),
and the first that is not canonical gives its name to the fault.

Main result: `parts_exact`.
-/
import Identity.Proofs.Crypto.Opening
import Identity.Proofs.Outcome
import Identity.Proofs.Text.Padded
import Mathlib.Data.Set.Function

namespace Identity.Crypto

/-! ### One part -/

section Part

variable {fault e : Fault} {text : String} {bytes : Bytes}

theorem decodePart_eq_ok : decodePart fault text = .ok bytes ↔ text = Base64.encode bytes := by
  rw [← Base64.decode_eq_some, decodePart]
  cases Base64.decode text with
  | none => simp
  | some found => simp

theorem exists_decodePart_eq_ok :
    (∃ bytes, decodePart fault text = .ok bytes) ↔ Base64.Canonical text := by
  simp only [decodePart_eq_ok, Base64.canonical_iff, Base64.decode_eq_some]

theorem decodePart_eq_error :
    decodePart fault text = .error e ↔ e = fault ∧ ¬ Base64.Canonical text := by
  rw [Base64.canonical_iff, decodePart]
  cases Base64.decode text with
  | none => simp [eq_comm]
  | some found => simp

end Part

/-! ### Three parts in their order -/

namespace SealedParts

variable {parts : SealedParts} {raw : RawParts} {fault : Fault}

/-- The parts in the order in which they are read, each with the fault that names it. -/
def fields (parts : SealedParts) : List (Fault × String) :=
  [(.invalidCiphertext, parts.ciphertext), (.invalidNonce, parts.nonce), (.invalidTag, parts.tag)]

/-- All parts are canonical padded base 64. -/
def Readable (parts : SealedParts) : Prop :=
  ∀ field ∈ parts.fields, Base64.Canonical field.2

/-- The fault names the first part that is not canonical padded base 64. -/
def FirstUnreadable (parts : SealedParts) (fault : Fault) : Prop :=
  ∃ before text after, parts.fields = before ++ (fault, text) :: after ∧
    (∀ field ∈ before, Base64.Canonical field.2) ∧ ¬ Base64.Canonical text

/-- Reading is going through the parts. -/
theorem mapM_fields : (parts.fields.mapM fun field => decodePart field.1 field.2) =
    (parts.decode >>= fun raw => .ok [raw.ciphertext, raw.nonce, raw.tag]) := by
  simp only [fields, decode, List.mapM_cons, List.mapM_nil]
  cases decodePart .invalidCiphertext parts.ciphertext with
  | error e => rfl
  | ok ciphertext =>
    cases decodePart .invalidNonce parts.nonce with
    | error e => rfl
    | ok nonce =>
      cases decodePart .invalidTag parts.tag with
      | error e => rfl
      | ok tag => rfl

/-- Only the texts of some parts are read as them. -/
theorem ofRaw_of_decode (h : parts.decode = .ok raw) : ofRaw raw = parts := by
  simp only [decode, Outcome.bind_eq_ok, decodePart_eq_ok] at h
  obtain ⟨ciphertext, hciphertext, nonce, hnonce, tag, htag, h⟩ := h
  obtain rfl := Except.ok.inj h
  rw [ofRaw, ← hciphertext, ← hnonce, ← htag]

theorem exists_decode_eq_ok : (∃ raw, parts.decode = .ok raw) ↔ parts.Readable := by
  have hread : (∃ read, (parts.fields.mapM fun field => decodePart field.1 field.2) = .ok read) ↔
      parts.Readable := by
    simp only [Outcome.exists_mapM_eq_ok, exists_decodePart_eq_ok, Readable]
  rw [← hread, mapM_fields]
  cases parts.decode with
  | error e => exact iff_of_false nofun nofun
  | ok raw => exact iff_of_true ⟨raw, rfl⟩ ⟨_, rfl⟩

/-- Reading fails as the first part that cannot be read. -/
theorem decode_eq_error : parts.decode = .error fault ↔ parts.FirstUnreadable fault := by
  have hread : (parts.fields.mapM fun field => decodePart field.1 field.2) = .error fault ↔
      parts.decode = .error fault := by
    rw [mapM_fields]
    cases parts.decode with
    | error e => simp [bind, Except.bind]
    | ok raw => exact iff_of_false nofun nofun
  rw [← hread, Outcome.mapM_eq_error]
  simp only [exists_decodePart_eq_ok, decodePart_eq_error]
  constructor
  · rintro ⟨before, ⟨_, text⟩, after, hfields, hbefore, rfl, htext⟩
    exact ⟨before, text, after, hfields, hbefore, htext⟩
  · rintro ⟨before, text, after, hfields, hbefore, htext⟩
    exact ⟨before, (fault, text), after, hfields, hbefore, rfl, htext⟩

/-! ### Writing and reading -/

/-- How parts as bytes and parts as texts belong together. -/
structure ExactlyWritten : Prop where
  reads : ∀ ciphertext nonce tag : Bytes,
    (ofRaw ⟨ciphertext, nonce, tag⟩).decode = .ok ⟨ciphertext, nonce, tag⟩
  writes : ∀ (parts : SealedParts) (raw : RawParts), parts.decode = .ok raw → ofRaw raw = parts
  bijective : Set.BijOn ofRaw Set.univ {parts : SealedParts | ∃ raw, parts.decode = .ok raw}
  accepts : ∀ parts : SealedParts, (∃ raw, parts.decode = .ok raw) ↔ parts.Readable
  names : ∀ (parts : SealedParts) (fault : Fault), parts.decode = .error fault ↔ parts.FirstUnreadable fault

/-- **Writing and reading of parts are exact inverses**, for bytes of all lengths and for all
texts.  Three texts are read when each is canonical padded base 64; otherwise the fault names the
first one that is not. -/
theorem parts_exact : ExactlyWritten where
  reads _ _ _ := Sealing.decode_ofRaw _
  writes _ _ := ofRaw_of_decode
  bijective := by
    refine ⟨?_, ?_, ?_⟩
    · intro raw _
      exact ⟨raw, Sealing.decode_ofRaw raw⟩
    · intro raw _ raw' _ h
      exact Sealing.ofRaw_inj.mp h
    · rintro parts ⟨raw, h⟩
      exact ⟨raw, Set.mem_univ raw, ofRaw_of_decode h⟩
  accepts _ := exists_decode_eq_ok
  names _ _ := decode_eq_error

/-- A tag whose last symbol has a bit too many is refused, as is a nonce without its padding before
it; with both mended the parts are read, and written as they were. -/
theorem parts_exact_mended :
    (SealedParts.mk "AQID" "AA=" "AB==").decode = .error .invalidNonce ∧
      (SealedParts.mk "AQID" "AA==" "AB==").decode = .error .invalidTag ∧
        ofRaw ⟨[1, 2, 3], [0], [0]⟩ = ⟨"AQID", "AA==", "AA=="⟩ := by
  have h := parts_exact
  have hciphertext : Base64.Canonical "AQID" := Base64.canonical_iff.mpr ⟨[1, 2, 3], by decide⟩
  have hnonce : Base64.Canonical "AA==" := Base64.canonical_iff.mpr ⟨[0], by decide⟩
  have hshort : ¬ Base64.Canonical "AA=" := by
    rw [Base64.canonical_iff]
    rintro ⟨bytes, h⟩
    cases h
  have htag : ¬ Base64.Canonical "AB==" := by
    rw [Base64.canonical_iff]
    rintro ⟨bytes, h⟩
    cases h
  refine ⟨?_, ?_, ?_⟩
  · rw [h.names]
    exact ⟨[(.invalidCiphertext, "AQID")], "AA=", _, rfl, by simpa using hciphertext, hshort⟩
  · rw [h.names]
    refine ⟨[(.invalidCiphertext, "AQID"), (.invalidNonce, "AA==")], "AB==", [], rfl, ?_, htag⟩
    simpa using ⟨hciphertext, hnonce⟩
  · exact h.writes ⟨"AQID", "AA==", "AA=="⟩ _ (by decide)

end SealedParts

end Identity.Crypto
