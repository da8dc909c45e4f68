/-
Identity/Proofs/Token/Signed.lean

A token is verified back into the claims that it was signed for, before their
expiry, and is refused from then on.

All that is needed of the signature scheme is that it accepts the one signature
in the token (`Accepts`).  Everything else is a round trip: the envelope, the
document, and the expiry as a text.
-/
import Identity.Proofs.Bytes
import Identity.Proofs.Crypto.Ed25519
import Identity.Proofs.Outcome
import Identity.Proofs.Token.Claims
import Identity.Proofs.Token.Envelope
import Identity.Token.Signed

namespace Identity.Token

open Crypto

variable {claims : Claims} {privateKey key payload : Bytes} {issuedAt now : Int} {token : String}

/-! ### Keys -/

theorem checkLength_eq_ok {expected : Nat} :
    checkLength expected key = .ok () ↔ key ≠ [] ∧ key.length = expected := by
  unfold checkLength
  split_ifs with hempty hlength
  · exact iff_of_false nofun fun h => h.1 (List.isEmpty_iff.mp hempty)
  · exact iff_of_false nofun fun h => hlength h.2
  · exact iff_of_true rfl ⟨fun h => hempty (List.isEmpty_iff.mpr h), not_not.mp hlength⟩

/-- A private key has the right length, and its halves belong together. -/
theorem checkPrivateKey_eq_ok : checkPrivateKey privateKey = .ok () ↔
    privateKey.length = privateKeyLength ∧ Ed25519.isPrivateKey privateKey = true := by
  unfold checkPrivateKey
  rw [Outcome.bind_eq_ok]
  split_ifs with hhalves
  · refine iff_of_false ?_ fun h => by simp [h.2] at hhalves
    rintro ⟨_, -, ⟨⟩⟩
  · have hprivate : Ed25519.isPrivateKey privateKey = true := by simpa using hhalves
    constructor
    · rintro ⟨_, hlength, -⟩
      exact ⟨(checkLength_eq_ok.mp hlength).2, hprivate⟩
    · rintro ⟨hlength, -⟩
      refine ⟨(), checkLength_eq_ok.mpr ⟨?_, hlength⟩, rfl⟩
      rw [← List.length_pos_iff, hlength]
      decide

/-- A private key is long enough to be cut into halves. -/
theorem length_of_checkPrivateKey (h : checkPrivateKey privateKey = .ok ()) :
    privateKey.length = privateKeyLength :=
  (checkPrivateKey_eq_ok.mp h).1

/-- Only a private key that is accepted has a public key, and that one is accepted too. -/
theorem publicKey_eq_ok (h : publicKey privateKey = .ok key) :
    checkPrivateKey privateKey = .ok () ∧ checkLength publicKeyLength key = .ok () := by
  cases hcheck : checkPrivateKey privateKey with
  | error fault =>
    rw [publicKey, hcheck] at h
    cases h
  | ok _ =>
    rw [publicKey, hcheck] at h
    obtain rfl : privateKey.drop Ed25519.halfLength = key := Except.ok.inj h
    have hlength : (privateKey.drop Ed25519.halfLength).length = publicKeyLength := by
      rw [List.length_drop, length_of_checkPrivateKey hcheck]
      rfl
    refine ⟨rfl, checkLength_eq_ok.mpr ⟨?_, hlength⟩⟩
    rw [← List.length_pos_iff, hlength]
    decide

/-- The private keys are the ones that have a public key. -/
theorem exists_publicKey_iff : (∃ key, publicKey privateKey = .ok key) ↔
    privateKey.length = privateKeyLength ∧ Ed25519.isPrivateKey privateKey = true := by
  rw [← checkPrivateKey_eq_ok]
  constructor
  · rintro ⟨key, h⟩
    exact (publicKey_eq_ok h).1
  · intro h
    rw [publicKey, h]
    exact ⟨_, rfl⟩

/-! ### Signing -/

/-- The signature that a private key makes for a payload is accepted under a public key. -/
def Accepts (key privateKey payload : Bytes) : Prop :=
  Ed25519.verify key (signedBytes payload [])
    (Ed25519.sign privateKey (signedBytes payload [])) = true

/-- The text of a token with the signature that a private key makes for its payload. -/
def signedText (privateKey payload : Bytes) : String :=
  Envelope.text payload (Ed25519.sign privateKey (signedBytes payload []))

theorem length_sign (privateKey message : Bytes) :
    (Ed25519.sign privateKey message).length = signatureLength := by
  simp [Ed25519.sign, Ed25519.Point.toBytes, signatureLength]

/-- Signing succeeds where the claims have a document. -/
theorem sign_eq_ok (hkey : checkPrivateKey privateKey = .ok ()) :
    sign claims privateKey issuedAt = .ok token ↔
      ∃ document, claims.document issuedAt = .ok document ∧
        token = signedText privateKey (Bytes.ofText document.encode) := by
  rw [sign, hkey]
  cases claims.document issuedAt with
  | error instant => exact iff_of_false nofun nofun
  | ok document =>
    constructor
    · exact fun h => ⟨document, rfl, (Except.ok.inj h).symm⟩
    · rintro ⟨_, ⟨⟩, rfl⟩
      rfl

/-! ### Authentication -/

/-- A document is never written as nothing. -/
theorem ofText_encode_ne_nil (document : Document) : Bytes.ofText document.encode ≠ [] := by
  intro hempty
  have htext : Bytes.toText? [] = some document.encode := by
    rw [← hempty, Bytes.toText?_ofText]
  have hnone : document.encode = "" := Option.some.inj (htext.symm.trans rfl)
  have hchars := congrArg String.toList hnone
  rw [Document.encode, String.toList_ofList, Json.objectText, List.cons_append] at hchars
  exact List.cons_ne_nil _ _ hchars

/-- A token is authenticated in three steps, of which only the last looks at the claims. -/
theorem authenticate_of_parse {envelope : Envelope}
    (hkey : checkLength publicKeyLength key = .ok ()) (hparse : Envelope.parse token = .ok envelope)
    (hsigned : envelope.signedPayload key = .ok payload) :
    authenticate token key = claimsOf payload := by
  simp only [authenticate, hkey, hparse, Except.mapError, hsigned, bind, Except.bind]

/-- The claims of a signed token are those of its payload, when its signature is accepted. -/
theorem authenticate_signedText (hkey : checkLength publicKeyLength key = .ok ())
    (hpayload : payload ≠ []) (haccepts : Accepts key privateKey payload) :
    authenticate (signedText privateKey payload) key = claimsOf payload := by
  refine authenticate_of_parse hkey (Envelope.parse_text hpayload (length_sign _ _)) ?_
  unfold Accepts at haccepts
  simp only [Envelope.signedPayload, haccepts, if_true]

/-- Reading the payload of a signed token fails at nothing but the expiry. -/
theorem claimsOf_encode {document : Document} (h : claims.document issuedAt = .ok document) :
    claimsOf (Bytes.ofText document.encode) =
      if Rfc3339.FourDigitYear claims.expiresAt then .ok claims
      else .error (.invalidToken "malformed expiry") := by
  split_ifs with hyear
  · simp only [claimsOf, Bytes.toText?_ofText, Document.decode?_encode,
      Claims.claims?_document hyear h]
  · simp only [claimsOf, Bytes.toText?_ofText, Document.decode?_encode,
      Claims.claims?_document_eq_none hyear h]

/-- A genuine token is refused from the second of its expiry on. -/
theorem verify_of_authenticate (h : authenticate token key = .ok claims) (now : Int) :
    verify token key now = if now < claims.expiresAt then .ok claims else .error .tokenExpired := by
  rw [verify, h]
  by_cases hexpired : claims.expiresAt ≤ now
  · rw [if_neg (Int.not_lt.mpr hexpired)]
    exact if_pos hexpired
  · rw [if_pos (Int.not_le.mp hexpired)]
    exact if_neg hexpired

/-- What becomes of a signed token at any time. -/
theorem verify_signedText {document : Document} (hkey : checkLength publicKeyLength key = .ok ())
    (hdocument : claims.document issuedAt = .ok document)
    (haccepts : Accepts key privateKey (Bytes.ofText document.encode)) (now : Int) :
    verify (signedText privateKey (Bytes.ofText document.encode)) key now =
      if Rfc3339.FourDigitYear claims.expiresAt then
        if now < claims.expiresAt then .ok claims else .error .tokenExpired
      else .error (.invalidToken "malformed expiry") := by
  have hauthentic := (authenticate_signedText hkey (ofText_encode_ne_nil document) haccepts).trans
    (claimsOf_encode hdocument)
  split_ifs at hauthentic with hyear
  · rw [if_pos hyear]
    exact verify_of_authenticate hauthentic now
  · rw [if_neg hyear, verify, hauthentic]
    rfl

/-! ### The round trip -/

/-- **Signing and verifying.**  A token that was signed is verified into exactly the
claims that it was signed for, as long as these have not expired, and is refused as
expired from then on.  The scheme has to accept the signature in this one token, and the
expiry to lie in one of the years 0 to 9999. -/
theorem verify_sign (hyear : Rfc3339.FourDigitYear claims.expiresAt)
    (hkey : publicKey privateKey = .ok key) (hsign : sign claims privateKey issuedAt = .ok token)
    (haccepts : ∀ document, claims.document issuedAt = .ok document →
      Accepts key privateKey (Bytes.ofText document.encode)) (now : Int) :
    verify token key now = if now < claims.expiresAt then .ok claims else .error .tokenExpired := by
  obtain ⟨hprivate, hpublic⟩ := publicKey_eq_ok hkey
  obtain ⟨document, hdocument, rfl⟩ := (sign_eq_ok hprivate).mp hsign
  exact (verify_signedText hpublic hdocument (haccepts document hdocument) now).trans
    (if_pos hyear)

/-- A private key. -/
def sampleKey : Bytes := Ed25519.privateKey (List.replicate 32 7)

theorem publicKey_sampleKey :
    publicKey sampleKey = .ok (sampleKey.drop Ed25519.halfLength) := by
  rw [publicKey, checkPrivateKey, Ed25519.isPrivateKey, sampleKey, Ed25519.privateKey,
    Ed25519.publicKey_eq]
  decide +kernel

/-- Claims with characters that are escaped and characters that are not. -/
def sampleClaims : Claims where
  subject := "Zoë"
  sessionId := "s\n1"
  audience := "tessera"
  context := .ofList [("tenant", "\"Ω\""), ("via", "")]
  expiresAt := 1700000000
  authzVersion := some (-7)

/-- The document of `sampleClaims`, an hour before they expire. -/
def sampleDocument : Document where
  subject := "Zoë"
  sessionId := "s\n1"
  audience := "tessera"
  expiry := "2023-11-14T22:13:20Z"
  issued := "2023-11-14T21:13:20Z"
  context := .ofList [("tenant", "\"Ω\""), ("via", "")]
  authzVersion := some (-7)

theorem accepts_sampleDocument :
    Accepts (sampleKey.drop Ed25519.halfLength) sampleKey
      (Bytes.ofText sampleDocument.encode) := by
  rw [Accepts, Ed25519.verify_eq, Ed25519.sign_eq, sampleKey, Ed25519.privateKey,
    Ed25519.publicKey_eq]
  decide +kernel

/-- A token is good in the last second before its expiry, and expired in the next one. -/
theorem verify_sign_sample :
    verify (signedText sampleKey (Bytes.ofText sampleDocument.encode))
        (sampleKey.drop Ed25519.halfLength) 1699999999 = .ok sampleClaims ∧
      verify (signedText sampleKey (Bytes.ofText sampleDocument.encode))
        (sampleKey.drop Ed25519.halfLength) 1700000000 = .error .tokenExpired := by
  have hyear : Rfc3339.FourDigitYear sampleClaims.expiresAt := by decide +kernel
  have hdocument : sampleClaims.document 1699996400 = .ok sampleDocument := by decide +kernel
  have hsign : sign sampleClaims sampleKey 1699996400 =
      .ok (signedText sampleKey (Bytes.ofText sampleDocument.encode)) :=
    (sign_eq_ok (publicKey_eq_ok publicKey_sampleKey).1).mpr ⟨sampleDocument, hdocument, rfl⟩
  have hall : ∀ document, sampleClaims.document 1699996400 = .ok document →
      Accepts (sampleKey.drop Ed25519.halfLength) sampleKey (Bytes.ofText document.encode) := by
    intro document h
    obtain rfl : sampleDocument = document := Except.ok.inj (hdocument.symm.trans h)
    exact accepts_sampleDocument
  exact ⟨(verify_sign hyear publicKey_sampleKey hsign hall 1699999999).trans (if_pos (by decide)),
    (verify_sign hyear publicKey_sampleKey hsign hall 1700000000).trans (if_neg (by decide))⟩

end Identity.Token
