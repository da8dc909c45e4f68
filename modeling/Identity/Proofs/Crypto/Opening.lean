/-
Identity/Proofs/Crypto/Opening.lean

What opens was sealed.

Sealing draws a nonce and writes its parts as texts; opening reads them again.
So this file puts the reading of texts (`decode_ofRaw`) and the drawing of a
nonce (`encrypt_drawn`) around the equivalence between opening and sealing of
parts.

Main result: `sealing_exact`, for keys and parts of all lengths.
-/
import Identity.Proofs.Crypto.Sealing
import Identity.Proofs.Text.Base64

namespace Identity.Crypto.Sealing

variable {key nonce : Bytes} {raw : RawParts}

/-! ### Texts -/

/-- The texts of some parts are read as these parts. -/
theorem decode_ofRaw (raw : RawParts) : (SealedParts.ofRaw raw).decode = .ok raw := by
  simp only [SealedParts.decode, SealedParts.ofRaw, decodePart, Base64.decode_encode]
  rfl

theorem ofRaw_inj {raw' : RawParts} : SealedParts.ofRaw raw = SealedParts.ofRaw raw' ↔
    raw = raw' := by
  refine ⟨fun h => ?_, congrArg _⟩
  have hdecode := congrArg SealedParts.decode h
  rw [decode_ofRaw, decode_ofRaw] at hdecode
  exact Except.ok.inj hdecode

theorem decrypt_ofRaw (raw : RawParts) (key : Bytes) :
    decrypt (SealedParts.ofRaw raw) key = decryptRaw raw key := by
  rw [decrypt, decode_ofRaw]
  rfl

/-! ### Nonces -/

/-- Sealing takes its nonce off the front of the tape. -/
theorem encrypt_drawn (hkey : key.length = Gcm.keyLength)
    (hnonce : nonce.length = Gcm.nonceLength) (plaintext rest : Bytes) :
    encrypt plaintext key ⟨nonce ++ rest⟩ =
      .ok (SealedParts.ofRaw (sealWith key nonce plaintext), ⟨rest⟩) := by
  have hlong : Gcm.nonceLength ≤ (nonce ++ rest).length := by
    rw [List.length_append, hnonce]
    exact Nat.le_add_right ..
  have hraw : encryptRaw plaintext key ⟨nonce ++ rest⟩ =
      .ok (sealWith key nonce plaintext, ⟨rest⟩) := by
    rw [encryptRaw_eq_ok hkey hlong, List.take_left' hnonce, List.drop_left' hnonce]
  show (encryptRaw plaintext key ⟨nonce ++ rest⟩ >>= _) = _
  rw [hraw]
  rfl

/-! ### Sealing and opening -/

/-- What sealing and opening under one key have to do with each other. -/
structure ExactlyInverse (key : Bytes) : Prop where
  opens : key.length = 32 → ∀ plaintext nonce rest : Bytes, nonce.length = 12 →
    ∃ parts raw, encrypt plaintext key ⟨nonce ++ rest⟩ = .ok (parts, ⟨rest⟩) ∧
      parts.decode = .ok raw ∧ raw.ciphertext.length = plaintext.length ∧ raw.nonce = nonce ∧
        raw.tag.length = 16 ∧ decrypt parts key = .ok plaintext
  accepts : ∀ raw plaintext, decryptRaw raw key = .ok plaintext ↔
    key.length = 32 ∧ raw.nonce.length = 12 ∧ raw.tag.length = 16 ∧
      ∀ rest, encrypt plaintext key ⟨raw.nonce ++ rest⟩ = .ok (SealedParts.ofRaw raw, ⟨rest⟩)
  unique : ∀ ciphertext nonce tag tag' plaintext plaintext',
    decryptRaw ⟨ciphertext, nonce, tag⟩ key = .ok plaintext →
      decryptRaw ⟨ciphertext, nonce, tag'⟩ key = .ok plaintext' → tag = tag'

/-- **Sealing and opening are exact inverses.**  Whatever is sealed under a key of the right length
opens to its plaintext, whichever nonce is drawn.  And what opens, under a key and with parts of
any lengths, is what sealing the plaintext with that nonce gives; so no second tag is accepted for
the same ciphertext. -/
theorem sealing_exact (key : Bytes) : ExactlyInverse key where
  opens hkey plaintext nonce rest hnonce := by
    refine ⟨_, sealWith key nonce plaintext, encrypt_drawn hkey hnonce plaintext rest,
      decode_ofRaw _, length_ciphertext_sealWith hkey hnonce plaintext, rfl,
      length_tag_sealWith hkey hnonce plaintext, ?_⟩
    rw [decrypt_ofRaw, decryptRaw_sealWith hkey hnonce]
  accepts raw plaintext := by
    rw [decryptRaw_eq_ok]
    refine and_congr_right fun hkey => and_congr_right fun hnonce => and_congr_right fun _ => ?_
    constructor
    · intro h rest
      rw [encrypt_drawn hkey hnonce, h]
    · intro h
      have hsealed := h []
      rw [encrypt_drawn hkey hnonce] at hsealed
      exact ofRaw_inj.mp (congrArg Prod.fst (Except.ok.inj hsealed))
  unique ciphertext nonce tag tag' plaintext plaintext' h h' := by
    obtain ⟨hkey, hnonce, -, hsealed⟩ := decryptRaw_eq_ok.mp h
    obtain ⟨-, -, -, hsealed'⟩ := decryptRaw_eq_ok.mp h'
    -- the tag is made of the ciphertext, whatever the plaintext may be
    have htag : ∀ {plaintext tag}, sealWith key nonce plaintext = ⟨ciphertext, nonce, tag⟩ →
        Gcm.authenticate (Aes.roundKeys key) nonce ciphertext = tag := by
      intro plaintext tag h
      rw [sealWith_eq_mk hkey hnonce] at h
      obtain ⟨hciphertext, -, htag⟩ := RawParts.mk.inj h
      rw [← hciphertext]
      exact htag
    exact (htag hsealed).symm.trans (htag hsealed')

/-- Three bytes sealed under the key of zeros: they come back, and only with the tag that they got. -/
theorem sealing_exact_zeroKey : ∃ parts raw,
    encrypt [1, 2, 3] (List.replicate 32 0) ⟨List.replicate 12 0 ++ [7]⟩ = .ok (parts, ⟨[7]⟩) ∧
      parts.decode = .ok raw ∧ raw.ciphertext.length = 3 ∧
        decryptRaw raw (List.replicate 32 0) = .ok [1, 2, 3] ∧
          ∀ tag plaintext,
            decryptRaw ⟨raw.ciphertext, raw.nonce, tag⟩ (List.replicate 32 0) = .ok plaintext →
              tag = raw.tag := by
  have hexact := sealing_exact (List.replicate 32 0)
  obtain ⟨parts, raw, hsealed, hdecode, hlength, -, -, hopen⟩ :=
    hexact.opens (by decide) [1, 2, 3] (List.replicate 12 0) [7] (by decide)
  have hraw : decryptRaw raw (List.replicate 32 0) = .ok [1, 2, 3] := by
    rw [decrypt, hdecode] at hopen
    exact hopen
  exact ⟨parts, raw, hsealed, hdecode, hlength, hraw, fun tag plaintext h =>
    hexact.unique _ _ _ _ _ _ h hraw⟩

end Identity.Crypto.Sealing
