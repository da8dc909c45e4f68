/-
Identity/Proofs/Crypto/Sealing.lean

What is sealed can be opened again under the same key, and nothing else can.

The key stream is taken off by putting it on a second time (`mask_mask`), as
long as each of its blocks covers the piece of text that it is combined with.
So most of this file is about lengths: round keys and cipher blocks have
sixteen bytes, and so does a tag, which is therefore cut off where it was put
on (`splitTag_eq`).
-/
import Identity.Crypto.Sealing
import Identity.Proofs.Bytes
import Identity.Proofs.Entropy

namespace Identity.Crypto

/-! ### The block cipher -/

namespace Aes

theorem length_shiftRows (block : Bytes) : (shiftRows block).length = 16 := by
  simp [shiftRows]

theorem length_mixColumns {block : Bytes} (h : block.length = 16) :
    (mixColumns block).length = 16 := by
  obtain ⟨hcount, -⟩ := Bytes.chunks_full 4 4 (by decide) h
  have hcolumn : ∀ column : Bytes, (mixColumn column).length = 4 := fun column => by
    simp [mixColumn]
  simp [mixColumns, List.length_flatMap, hcolumn, hcount]

theorem length_rounds {block : Bytes} {keys : List Bytes} (h : block.length = 16)
    (hkeys : ∀ key ∈ keys, key.length = 16) : (rounds block keys).length = 16 := by
  induction keys generalizing block with
  | nil => exact h
  | cons key keys ih =>
    obtain ⟨hkey, hrest⟩ := List.forall_mem_cons.mp hkeys
    cases keys with
    | nil => simp [rounds, length_shiftRows, hkey]
    | cons next keys =>
      refine ih ?_ hrest
      rw [Bytes.length_xor, length_mixColumns (length_shiftRows _), hkey]
      rfl

/-- Round keys that can encrypt a block: there are some, of sixteen bytes each. -/
def Usable (keys : List Bytes) : Prop := keys ≠ [] ∧ ∀ key ∈ keys, key.length = 16

theorem length_encryptBlock {keys : List Bytes} {block : Bytes} (hkeys : Usable keys)
    (h : block.length = 16) : (encryptBlock keys block).length = 16 := by
  obtain ⟨hne, hall⟩ := hkeys
  obtain ⟨key, keys, rfl⟩ := List.exists_cons_of_ne_nil hne
  obtain ⟨hkey, hrest⟩ := List.forall_mem_cons.mp hall
  refine length_rounds ?_ hrest
  rw [Bytes.length_xor, h, List.headD_cons, hkey]
  rfl

/-! ### The key schedule -/

theorem length_nextWord {i : Nat} {c : UInt8} {window : List Bytes} (hne : window ≠ [])
    (h : ∀ word ∈ window, word.length = 4) : (nextWord i c window).length = 4 := by
  have hhead : (window.headD []).length = 4 := by
    obtain ⟨word, rest, rfl⟩ := List.exists_cons_of_ne_nil hne
    exact h word List.mem_cons_self
  have hlast : (window.getLastD []).length = 4 := by
    rw [List.getLastD_eq_getLast?, List.getLast?_eq_some_getLast hne]
    exact h _ (List.getLast_mem hne)
  rw [nextWord, Bytes.length_xor, hhead]
  split_ifs
  · rw [Bytes.length_xor, List.length_map, List.length_append, List.length_drop,
      List.length_take, hlast]
    rfl
  · rw [List.length_map, hlast]
    rfl
  · rw [hlast]
    rfl

theorem expand_words (count i : Nat) (c : UInt8) {window : List Bytes} (hne : window ≠ [])
    (h : ∀ word ∈ window, word.length = 4) :
    (expand count i c window).length = count ∧
      ∀ word ∈ expand count i c window, word.length = 4 := by
  induction count generalizing i c window with
  | zero => simp [expand]
  | succ count ih =>
    have hword : (nextWord i c window).length = 4 := length_nextWord hne h
    have hwindow : ∀ word ∈ window.drop 1 ++ [nextWord i c window], word.length = 4 := by
      intro word hmem
      rcases List.mem_append.mp hmem with hmem | hmem
      · exact h word (List.mem_of_mem_drop hmem)
      · rw [List.mem_singleton.mp hmem]
        exact hword
    obtain ⟨hcount, hall⟩ := ih (i + 1) (if i % 8 = 0 then double c else c)
      (by simp) hwindow
    rw [expand]
    refine ⟨by rw [List.length_cons, hcount], ?_⟩
    rw [List.forall_mem_cons]
    exact ⟨hword, hall⟩

theorem usable_roundKeys {key : Bytes} (h : key.length = 32) : Usable (roundKeys key) := by
  obtain ⟨hcount, hwords⟩ := Bytes.chunks_full 4 8 (by decide) h
  have hne : Bytes.chunks 4 key ≠ [] := by
    rw [← List.length_pos_iff, hcount]
    decide
  obtain ⟨hcount', hwords'⟩ := expand_words 52 8 1 hne hwords
  have hall : ∀ word ∈ Bytes.chunks 4 key ++ expand 52 8 1 (Bytes.chunks 4 key),
      word.length = 4 := by
    intro word hmem
    rcases List.mem_append.mp hmem with hmem | hmem
    · exact hwords word hmem
    · exact hwords' word hmem
  have htotal := Bytes.length_flatten hall
  rw [List.length_append, hcount, hcount'] at htotal
  -- sixty words of four bytes are fifteen keys of sixteen
  obtain ⟨hkeys, hfull⟩ := Bytes.chunks_full 16 15 (by decide) htotal
  refine ⟨?_, hfull⟩
  rw [← List.length_pos_iff]
  exact hkeys ▸ (by decide : 0 < 15)

end Aes

/-! ### Counter mode -/

namespace Gcm

variable {keys : List Bytes} {nonce text : Bytes}

theorem length_counterBlock (h : nonce.length = nonceLength) (n : Nat) :
    (counterBlock nonce n).length = 16 := by
  rw [counterBlock, List.length_append, Bytes.length_ofNatBE, h]
  rfl

/-- The same key stream twice changes nothing. -/
theorem stream_stream (hkeys : Aes.Usable keys) (hnonce : nonce.length = nonceLength) (n : Nat)
    (text : Bytes) :
    stream keys nonce n (Bytes.chunks 16 (stream keys nonce n (Bytes.chunks 16 text))) = text := by
  -- the induction goes along the pieces, and a piece can be short at the end only
  induction hlength : text.length using Nat.strongRecOn generalizing n text with
  | ind length ih =>
    by_cases hempty : text = []
    · simp [hempty, stream]
    · obtain ⟨piece, rest, rfl, hne, hsize⟩ := Bytes.exists_piece 16 (by decide) hempty
      have hcover : piece.length ≤ (Aes.encryptBlock keys (counterBlock nonce n)).length := by
        rw [Aes.length_encryptBlock hkeys (length_counterBlock hnonce n)]
        rcases hsize with hfull | ⟨hshort, -⟩
        · exact Nat.le_of_eq hfull
        · exact hshort
      have hmasked :
          (Bytes.xor piece (Aes.encryptBlock keys (counterBlock nonce n))).length =
            piece.length := by
        rw [Bytes.length_xor, Nat.min_eq_left hcover]
      have hmaskedNe : Bytes.xor piece (Aes.encryptBlock keys (counterBlock nonce n)) ≠ [] := by
        rw [← List.length_pos_iff, hmasked]
        exact List.length_pos_iff.mpr hne
      -- the masked piece is cut off again at the same place
      have hpos : 0 < piece.length := List.length_pos_iff.mpr hne
      have hrest := ih rest.length (by rw [← hlength, List.length_append]; omega) (n + 1) rest rfl
      rw [Bytes.chunks_append hne hsize, stream, Bytes.chunks_append hmaskedNe, stream,
        Bytes.xor_xor_cancel hcover, hrest]
      rcases hsize with hfull | ⟨hshort, rfl⟩
      · exact .inl (hmasked.trans hfull)
      · exact .inr ⟨hmasked ▸ hshort, by rw [Bytes.chunks_nil]; rfl⟩

theorem mask_mask (hkeys : Aes.Usable keys) (hnonce : nonce.length = nonceLength)
    (text : Bytes) : mask keys nonce (mask keys nonce text) = text :=
  stream_stream hkeys hnonce 2 text

theorem length_stream (hkeys : Aes.Usable keys) (hnonce : nonce.length = nonceLength) (n : Nat)
    {pieces : List Bytes} (h : ∀ piece ∈ pieces, piece.length ≤ 16) :
    (stream keys nonce n pieces).length = pieces.flatten.length := by
  induction pieces generalizing n with
  | nil => rfl
  | cons piece pieces ih =>
    obtain ⟨hpiece, hpieces⟩ := List.forall_mem_cons.mp h
    rw [stream, List.length_append, ih (n + 1) hpieces, Bytes.length_xor,
      Aes.length_encryptBlock hkeys (length_counterBlock hnonce n), Nat.min_eq_left hpiece,
      List.flatten_cons, List.length_append]

/-- A text keeps its length under the key stream. -/
theorem length_mask (hkeys : Aes.Usable keys) (hnonce : nonce.length = nonceLength)
    (text : Bytes) : (mask keys nonce text).length = text.length := by
  obtain ⟨hflatten, hpieces⟩ := Bytes.chunks_spec 16 (by decide) text
  rw [mask, length_stream hkeys hnonce 2 hpieces, hflatten]

theorem length_authenticate (hkeys : Aes.Usable keys) (hnonce : nonce.length = nonceLength)
    (ciphertext : Bytes) : (authenticate keys nonce ciphertext).length = tagLength := by
  have hblock := Aes.length_encryptBlock hkeys (length_counterBlock hnonce 1)
  simp [authenticate, hblock, tagLength]

/-! ### Encryption and decryption -/

section Tags

variable {key ciphertext tag plaintext : Bytes}

/-- A tag is cut off where it was put on, and nowhere else. -/
theorem splitTag_eq (h : tag.length = tagLength) :
    splitTag text = (ciphertext, tag) ↔ text = ciphertext ++ tag := by
  rw [splitTag, List.splitAt_eq, Prod.mk.injEq]
  constructor
  · rintro ⟨rfl, rfl⟩
    exact (List.take_append_drop _ text).symm
  · rintro rfl
    have hcut : (ciphertext ++ tag).length - tagLength = ciphertext.length := by
      rw [List.length_append, h, Nat.add_sub_cancel]
    rw [hcut]
    exact ⟨List.take_left, List.drop_left⟩

/-- **What is accepted is what was encrypted**: the text that decryption answers is the one that
encryption makes the ciphertext and the tag of. -/
theorem decrypt?_eq_some (hkey : key.length = keyLength) (hnonce : nonce.length = nonceLength)
    (htag : tag.length = tagLength) :
    decrypt? key nonce (ciphertext ++ tag) = some plaintext ↔
      encrypt key nonce plaintext = ciphertext ++ tag := by
  have hkeys : Aes.Usable (Aes.roundKeys key) := Aes.usable_roundKeys hkey
  have hlong : ¬ (ciphertext ++ tag).length < tagLength := by
    rw [List.length_append, htag]
    omega
  rw [decrypt?, if_neg hlong, (splitTag_eq htag).mpr rfl]
  show (if authenticate _ nonce ciphertext = tag then some (mask _ nonce ciphertext) else none) =
    some plaintext ↔ mask _ nonce plaintext ++ authenticate _ nonce (mask _ nonce plaintext) = _
  rw [Option.ite_none_right_eq_some, Option.some.injEq]
  constructor
  · rintro ⟨rfl, rfl⟩
    rw [mask_mask hkeys hnonce]
  · intro h
    -- both texts end with as many bytes as a tag has
    obtain ⟨rfl, hauthentic⟩ := List.append_inj' h ((length_authenticate hkeys hnonce _).trans
      htag.symm)
    exact ⟨hauthentic, mask_mask hkeys hnonce plaintext⟩

end Tags

end Gcm

/-! ### Sealing -/

namespace Sealing

variable {key nonce plaintext : Bytes} {raw : RawParts}

/-- The parts that a plaintext is sealed as, by the functions that make them. -/
theorem sealWith_eq_mk (hkey : key.length = Gcm.keyLength)
    (hnonce : nonce.length = Gcm.nonceLength) (plaintext : Bytes) :
    sealWith key nonce plaintext =
      ⟨Gcm.mask (Aes.roundKeys key) nonce plaintext, nonce,
        Gcm.authenticate (Aes.roundKeys key) nonce
          (Gcm.mask (Aes.roundKeys key) nonce plaintext)⟩ := by
  have htag := Gcm.length_authenticate (Aes.usable_roundKeys hkey) hnonce
    (Gcm.mask (Aes.roundKeys key) nonce plaintext)
  rw [sealWith, Gcm.encrypt, (Gcm.splitTag_eq htag).mpr rfl]

theorem length_ciphertext_sealWith (hkey : key.length = Gcm.keyLength)
    (hnonce : nonce.length = Gcm.nonceLength) (plaintext : Bytes) :
    (sealWith key nonce plaintext).ciphertext.length = plaintext.length := by
  rw [sealWith_eq_mk hkey hnonce]
  exact Gcm.length_mask (Aes.usable_roundKeys hkey) hnonce plaintext

theorem length_tag_sealWith (hkey : key.length = Gcm.keyLength)
    (hnonce : nonce.length = Gcm.nonceLength) (plaintext : Bytes) :
    (sealWith key nonce plaintext).tag.length = Gcm.tagLength := by
  rw [sealWith_eq_mk hkey hnonce]
  exact Gcm.length_authenticate (Aes.usable_roundKeys hkey) hnonce _

/-- A plaintext is sealed as these parts when they make up what it is encrypted to. -/
theorem sealWith_eq (htag : raw.tag.length = Gcm.tagLength) :
    sealWith key raw.nonce plaintext = raw ↔
      Gcm.encrypt key raw.nonce plaintext = raw.ciphertext ++ raw.tag := by
  obtain ⟨ciphertext, nonce, tag⟩ := raw
  rw [← Gcm.splitTag_eq htag, Prod.ext_iff, sealWith, RawParts.mk.injEq]
  exact and_congr_right fun _ => and_iff_right rfl

theorem exists_checkKey : (∃ u, checkKey key = .ok u) ↔ key.length = Gcm.keyLength := by
  unfold checkKey
  split_ifs with h
  · exact iff_of_true ⟨(), rfl⟩ h
  · exact iff_of_false nofun h

/-- **A sealed text opens** under the key that sealed it, and nothing else opens: the parts have
the right lengths, and they are what the plaintext is sealed as. -/
theorem decryptRaw_eq_ok : decryptRaw raw key = .ok plaintext ↔
    key.length = Gcm.keyLength ∧ raw.nonce.length = Gcm.nonceLength ∧
      raw.tag.length = Gcm.tagLength ∧ sealWith key raw.nonce plaintext = raw := by
  unfold decryptRaw
  simp only [Outcome.bind_eq_ok, Outcome.unless_eq_ok, not_not, exists_and_right, exists_checkKey]
  refine and_congr_right fun hkey => and_congr_right fun hnonce => and_congr_right fun htag => ?_
  rw [sealWith_eq htag, ← Gcm.decrypt?_eq_some hkey hnonce htag]
  cases Gcm.decrypt? key raw.nonce (raw.ciphertext ++ raw.tag) with
  | none => exact iff_of_false nofun nofun
  | some text => exact ⟨fun h => congrArg some (Except.ok.inj h), fun h => h ▸ rfl⟩

section Drawing

variable {entropy : Entropy}

/-- Sealing under a key of the right length draws a nonce. -/
theorem encryptRaw_eq (hkey : key.length = Gcm.keyLength) (plaintext : Bytes)
    (entropy : Entropy) : encryptRaw plaintext key entropy =
      (Draw.bytes Gcm.nonceLength >>= fun nonce => pure (sealWith key nonce plaintext))
        entropy := by
  rw [encryptRaw, checkKey, if_pos hkey]
  rfl

theorem encryptRaw_eq_ok (hkey : key.length = Gcm.keyLength)
    (h : Gcm.nonceLength ≤ entropy.tape.length) (plaintext : Bytes) :
    encryptRaw plaintext key entropy =
      .ok (sealWith key (entropy.tape.take Gcm.nonceLength) plaintext,
        ⟨entropy.tape.drop Gcm.nonceLength⟩) := by
  rw [encryptRaw_eq hkey, Draw.bind_eq_ok]
  exact ⟨_, _, Draw.bytes_eq_ok h, rfl⟩

theorem encryptRaw_eq_error (hkey : key.length = Gcm.keyLength)
    (h : entropy.tape.length < Gcm.nonceLength) (plaintext : Bytes) :
    encryptRaw plaintext key entropy = .error Draw.exhausted := by
  rw [encryptRaw_eq hkey]
  show (Draw.bytes Gcm.nonceLength entropy >>= _) = _
  rw [Draw.bytes_eq_error h]
  rfl

end Drawing

/-- What is sealed under a key, with any nonce of the right length, opens to its plaintext. -/
theorem decryptRaw_sealWith {key nonce : Bytes} (hkey : key.length = Gcm.keyLength)
    (hnonce : nonce.length = Gcm.nonceLength) (plaintext : Bytes) :
    decryptRaw (sealWith key nonce plaintext) key = .ok plaintext :=
  decryptRaw_eq_ok.mpr ⟨hkey, hnonce, length_tag_sealWith hkey hnonce plaintext, rfl⟩

end Sealing

end Identity.Crypto
