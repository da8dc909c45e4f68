/-
Identity/Proofs/Token/Canonical.lean

Which texts are accepted as tokens.

Reading base 64 is strict, so that an envelope has one text for each way to end:
after the body, or with a footer after another point (`Envelope.written`).  The
two ways meet where the footer is empty.  What is signed is the footer, not
whether there is one, and verification does not ask for it either.  So every
token can be lengthened by a point.

Main result: `texts_exact`.
-/
import Identity.Proofs.Token.Genuine

namespace Identity.Token

open Crypto

variable {token : String} {key payload signature : Bytes} {claims : Claims} {now : Int}

/-! ### The texts of an envelope -/

/-- The text of a token that ends after its body, or with a footer. -/
def Envelope.written (payload signature : Bytes) : Option Bytes → String
  | none => text payload signature
  | some footer => text payload signature ++ "." ++ Base64.encodeCompact footer

/-- What stands after the third point of a text. -/
def footerPart (token : String) : Option (List Char) := (token.toList.splitOn '.')[3]?

theorem splitOn_written (payload signature : Bytes) (footer : Option Bytes) :
    (Envelope.written payload signature footer).toList.splitOn '.' =
      headerParts ++ [Base64.encodeCompactChars (payload ++ signature)] ++
        (footer.map Base64.encodeCompactChars).toList := by
  cases footer with
  | none =>
    rw [Option.map_none, Option.toList_none, List.append_nil]
    exact Envelope.splitOn_text payload signature
  | some footer =>
    have hfooter : '.' ∉ Base64.encodeCompactChars footer := fun hmem =>
      absurd (Base64.forall_mem_urlSafe _ _ hmem) (by decide)
    have htext : (Envelope.written payload signature (some footer)).toList =
        (Envelope.text payload signature).toList ++ '.' :: Base64.encodeCompactChars footer := by
      simp [Envelope.written, Base64.encodeCompact]
    rw [htext, List.splitOn_append_cons_self, Envelope.splitOn_text,
      List.splitOn_eq_singleton hfooter]
    rfl

/-- An empty footer is a point and nothing else. -/
theorem written_nil (payload signature : Bytes) :
    Envelope.written payload signature (some []) = Envelope.text payload signature ++ "." := by
  rw [Envelope.written, Base64.encodeCompact, Base64.encodeCompactChars, String.ofList_nil,
    String.append_empty]

theorem footerPart_written (payload signature : Bytes) (footer : Option Bytes) :
    footerPart (Envelope.written payload signature footer) =
      footer.map Base64.encodeCompactChars := by
  rw [footerPart, splitOn_written]
  cases footer <;> rfl

theorem encodeCompactChars_injective {a b : Bytes}
    (h : Base64.encodeCompactChars a = Base64.encodeCompactChars b) : a = b := by
  have hread := Base64.decodeCompactChars_encodeCompactChars a
  rw [h, Base64.decodeCompactChars_encodeCompactChars] at hread
  exact (Option.some.inj hread).symm

/-- An envelope is read from its own texts and from nothing else. -/
theorem parse_eq_ok_iff {footer : Bytes} :
    Envelope.parse token = .ok ⟨payload, signature, footer⟩ ↔
      payload ≠ [] ∧ signature.length = signatureLength ∧
        ∃ ending : Option Bytes, ending.getD [] = footer ∧
          token = Envelope.written payload signature ending := by
  constructor
  · intro h
    obtain ⟨body, hencloses, hbody, hpayload, hsignature⟩ := parse_eq_ok h
    obtain rfl := Base64.decodeCompact_eq_some.mp hbody
    refine ⟨hpayload, hsignature, ?_⟩
    cases hencloses with
    | bare => exact ⟨none, rfl, rfl⟩
    | footed _ text hfooter =>
      obtain rfl := Base64.decodeCompact_eq_some.mp hfooter
      exact ⟨some footer, rfl, rfl⟩
  · rintro ⟨hpayload, hsignature, ending, rfl, rfl⟩
    rw [Envelope.parse, splitOn_written]
    cases ending with
    | none => exact Envelope.ofParts_encodeCompactChars hpayload hsignature []
    | some footer => exact Envelope.ofParts_encodeCompactChars hpayload hsignature footer

/-! ### Accepted texts -/

/-- The parts of a token that is accepted now. -/
structure Good (key : Bytes) (now : Int) (claims : Claims) (payload signature : Bytes)
    (ending : Option Bytes) : Prop where
  keyLength : key.length = publicKeyLength
  nonempty : payload ≠ []
  length : signature.length = signatureLength
  signed : Ed25519.verify key (signedBytes payload (ending.getD [])) signature = true
  content : claimsOf payload = .ok claims
  before : now < claims.expiresAt

theorem verify_eq_ok : verify token key now = .ok claims ↔
    authenticate token key = .ok claims ∧ now < claims.expiresAt := by
  constructor
  · intro h
    unfold verify at h
    simp only [Outcome.bind_eq_ok, Outcome.unless_eq_ok] at h
    obtain ⟨found, hfound, hbefore, h⟩ := h
    obtain rfl := Except.ok.inj h
    exact ⟨hfound, Int.not_le.mp hbefore⟩
  · rintro ⟨hauthentic, hbefore⟩
    exact (verify_of_authenticate hauthentic now).trans (if_pos hbefore)

theorem checkLength_publicKey_iff :
    checkLength publicKeyLength key = .ok () ↔ key.length = publicKeyLength := by
  rw [checkLength_eq_ok]
  refine and_iff_right_of_imp fun hlength => ?_
  rw [← List.length_pos_iff, hlength]
  decide

/-- **What is accepted** is written for good parts. -/
theorem verify_eq_ok_iff : verify token key now = .ok claims ↔
    ∃ payload signature ending, token = Envelope.written payload signature ending ∧
      Good key now claims payload signature ending := by
  rw [verify_eq_ok, authenticate_eq_ok, checkLength_publicKey_iff]
  constructor
  · rintro ⟨⟨hkey, ⟨payload, signature, footer⟩, hparse, hverify, hclaims⟩, hbefore⟩
    obtain ⟨hpayload, hsignature, ending, rfl, htoken⟩ := parse_eq_ok_iff.mp hparse
    exact ⟨payload, signature, ending, htoken,
      ⟨hkey, hpayload, hsignature, hverify, hclaims, hbefore⟩⟩
  · rintro ⟨payload, signature, ending, htoken, h⟩
    refine ⟨⟨h.keyLength, ⟨payload, signature, ending.getD []⟩, ?_, h.signed, h.content⟩, h.before⟩
    exact parse_eq_ok_iff.mpr ⟨h.nonempty, h.length, ending, rfl, htoken⟩

/-- The text carries a payload and a signature. -/
def Carries (token : String) (payload signature : Bytes) : Prop :=
  ∃ footer, Envelope.parse token = .ok ⟨payload, signature, footer⟩

theorem carries_iff : Carries token payload signature ↔
    payload ≠ [] ∧ signature.length = signatureLength ∧
      ∃ ending, token = Envelope.written payload signature ending := by
  unfold Carries
  simp only [parse_eq_ok_iff]
  constructor
  · rintro ⟨_, hpayload, hsignature, ending, -, htoken⟩
    exact ⟨hpayload, hsignature, ending, htoken⟩
  · rintro ⟨hpayload, hsignature, ending, htoken⟩
    exact ⟨_, hpayload, hsignature, ending, rfl, htoken⟩

/-- Texts that carry the same differ in what stands after the third point, if at all. -/
theorem eq_iff_of_carries {token' : String} (h : Carries token payload signature)
    (h' : Carries token' payload signature) :
    token = token' ↔ footerPart token = footerPart token' := by
  obtain ⟨-, -, ending, rfl⟩ := carries_iff.mp h
  obtain ⟨-, -, ending', rfl⟩ := carries_iff.mp h'
  refine ⟨congrArg footerPart, fun hparts => ?_⟩
  rw [footerPart_written, footerPart_written] at hparts
  rw [Option.map_injective (fun _ _ => encodeCompactChars_injective) hparts]

/-- A text without a third point ends after its body. -/
theorem eq_none_of_footerPart {ending : Option Bytes}
    (h : footerPart (Envelope.written payload signature ending) = none) : ending = none := by
  rw [footerPart_written] at h
  exact Option.map_eq_none_iff.mp h

/-- What is signed is written without a footer. -/
theorem exists_text_of_sign {privateKey : Bytes} {issuedAt : Int}
    (h : sign claims privateKey issuedAt = .ok token) : ∃ payload signature,
      token = Envelope.text payload signature ∧ Carries token payload signature := by
  have hkey : checkPrivateKey privateKey = .ok () := by
    unfold sign at h
    obtain ⟨_, hkey, -⟩ := Outcome.bind_eq_ok.mp h
    exact hkey
  obtain ⟨document, -, rfl⟩ := (sign_eq_ok hkey).mp h
  refine ⟨_, _, rfl, carries_iff.mpr ?_⟩
  exact ⟨ofText_encode_ne_nil document, length_sign _ _, none, rfl⟩

/-- A token that is accepted is accepted with a point at its end. -/
theorem verify_append_point (h : verify token key now = .ok claims)
    (hbare : footerPart token = none) : verify (token ++ ".") key now = .ok claims := by
  obtain ⟨payload, signature, ending, rfl, hgood⟩ := verify_eq_ok_iff.mp h
  obtain rfl := eq_none_of_footerPart hbare
  exact verify_eq_ok_iff.mpr ⟨payload, signature, some [], (written_nil _ _).symm,
    { hgood with signed := hgood.signed }⟩

/-- **Which texts are accepted.**  They are the canonical texts of a payload and its
signature, without a footer or with one that has been signed along.  The texts that carry
the same payload and the same signature differ in their footers only, so that there is just
one without a footer.  Signing makes no other, but verification takes it with a point at its
end as well. -/
structure TextsExact (key : Bytes) (now : Int) : Prop where
  accepted : ∀ token claims, verify token key now = .ok claims ↔
    ∃ payload signature ending, token = Envelope.written payload signature ending ∧
      Good key now claims payload signature ending
  same : ∀ token token' payload signature, Carries token payload signature →
    Carries token' payload signature → (token = token' ↔ footerPart token = footerPart token')
  bare : ∀ token claims, verify token key now = .ok claims → footerPart token = none →
    ∃ payload signature, token = header ++ Base64.encodeCompact (payload ++ signature) ∧
      Good key now claims payload signature none
  signed : ∀ claims privateKey issuedAt token, sign claims privateKey issuedAt = .ok token →
    ∃ payload signature, token = header ++ Base64.encodeCompact (payload ++ signature) ∧
      Carries token payload signature
  lengthened : ∀ token claims, verify token key now = .ok claims → footerPart token = none →
    verify (token ++ ".") key now = .ok claims

theorem texts_exact (key : Bytes) (now : Int) : TextsExact key now where
  accepted _ _ := verify_eq_ok_iff
  same _ _ _ _ h h' := eq_iff_of_carries h h'
  bare := by
    intro token claims h hbare
    obtain ⟨payload, signature, ending, rfl, hgood⟩ := verify_eq_ok_iff.mp h
    obtain rfl := eq_none_of_footerPart hbare
    exact ⟨payload, signature, rfl, hgood⟩
  signed _ _ _ _ h := exists_text_of_sign h
  lengthened _ _ h hbare := verify_append_point h hbare

/-- The token of the sample claims. -/
def sampleToken : String := signedText sampleKey (Bytes.ofText sampleDocument.encode)

/-- The sample token is good in the last second before its expiry. -/
theorem verify_sampleToken :
    verify sampleToken (sampleKey.drop Ed25519.halfLength) 1699999999 = .ok sampleClaims := by
  have hdocument : sampleClaims.document 1699996400 = .ok sampleDocument := by decide +kernel
  have hyear : Rfc3339.FourDigitYear sampleClaims.expiresAt := by decide +kernel
  have hkey := (publicKey_eq_ok publicKey_sampleKey).2
  refine (verify_signedText hkey hdocument accepts_sampleDocument 1699999999).trans ?_
  rw [if_pos hyear]
  exact if_pos (by decide)

theorem carries_sampleToken : Carries sampleToken (Bytes.ofText sampleDocument.encode)
    (Ed25519.sign sampleKey (signedBytes (Bytes.ofText sampleDocument.encode) [])) :=
  carries_iff.mpr ⟨ofText_encode_ne_nil sampleDocument, length_sign _ _, none, rfl⟩

theorem footerPart_sampleToken : footerPart sampleToken = none := footerPart_written _ _ none

theorem texts_exact_sample :
    verify (sampleToken ++ ".") (sampleKey.drop Ed25519.halfLength) 1699999999 =
        .ok sampleClaims ∧
      ∀ token, Carries token (Bytes.ofText sampleDocument.encode)
          (Ed25519.sign sampleKey (signedBytes (Bytes.ofText sampleDocument.encode) [])) →
        footerPart token = none → token = sampleToken := by
  have h := texts_exact (sampleKey.drop Ed25519.halfLength) 1699999999
  refine ⟨h.lengthened _ _ verify_sampleToken footerPart_sampleToken, fun token htoken hbare => ?_⟩
  rw [h.same _ _ _ _ htoken carries_sampleToken, hbare, footerPart_sampleToken]

/-- Two texts that carry the same payload and the same signature are both accepted. -/
theorem sampleToken_malleable : ∃ payload signature,
    Carries sampleToken payload signature ∧ Carries (sampleToken ++ ".") payload signature ∧
      verify sampleToken (sampleKey.drop Ed25519.halfLength) 1699999999 = .ok sampleClaims ∧
        verify (sampleToken ++ ".") (sampleKey.drop Ed25519.halfLength) 1699999999 =
            .ok sampleClaims ∧
          sampleToken ≠ sampleToken ++ "." := by
  refine ⟨_, _, carries_sampleToken, ?_, verify_sampleToken,
    verify_append_point verify_sampleToken footerPart_sampleToken, ?_⟩
  · refine carries_iff.mpr ⟨ofText_encode_ne_nil sampleDocument, length_sign _ _, some [], ?_⟩
    exact (written_nil _ _).symm
  · intro heq
    have hlength := congrArg String.length heq
    rw [String.length_append, show ".".length = 1 from rfl] at hlength
    omega

end Identity.Token
