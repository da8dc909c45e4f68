/-
Identity/Proofs/Authentication/Verification.lean

Which tokens a service accepts.

A service looks for its key, verifies the token under the public half of it, and
compares audiences, in this order (`verifyToken_eq_ok`).  So what it accepts is
genuine under its own key and meant for it, and a service without a key accepts
nothing.

Main result: `accepts_only_genuine`, about every text at every time.
-/
import Identity.Authentication.Session
import Identity.Proofs.Settings
import Identity.Proofs.Token.Genuine

namespace Identity.Authentication

open Crypto

variable {service : Settings.Accepted} {token : String} {claims : Token.Claims} {now : Int}

/-- The half of a token key that verifies. -/
def publicHalf (key : Key Token.privateKeyLength) : Bytes := key.bytes.drop Ed25519.halfLength

/-- The public key of accepted settings is the public half of their token key. -/
theorem publicKey_eq_publicHalf (service : Settings.Accepted) {key : Key Token.privateKeyLength}
    (hkey : service.settings.tokenKey = some key) :
    service.settings.publicKey = .ok (publicHalf key) := by
  obtain ⟨found, hpublic, hsettings⟩ := service.exists_publicKey hkey
  have hprivate := (Token.publicKey_eq_ok hpublic).1
  rw [Token.publicKey, hprivate] at hpublic
  rw [hsettings, ← Except.ok.inj hpublic]
  rfl

theorem verifyToken_eq_ok : verifyToken service token now = .ok claims ↔
    ∃ key, service.settings.tokenKey = some key ∧
      Token.verify token (publicHalf key) now = .ok claims ∧
        claims.audience = service.settings.audience := by
  cases hkey : service.settings.tokenKey with
  | none =>
    refine iff_of_false (fun h => ?_) (fun h => ?_)
    · rw [verifyToken, hkey] at h
      cases h
    · obtain ⟨key, hnone, -⟩ := h
      cases hnone
  | some key =>
    have hpublic := publicKey_eq_publicHalf service hkey
    simp only [verifyToken, hkey, hpublic, Outcome.unless_eq_ok, Outcome.bind_eq_ok,
      Outcome.mapError_eq_ok]
    constructor
    · rintro ⟨-, _, ⟨⟩, found, hverify, haudience, h⟩
      obtain rfl := Except.ok.inj h
      exact ⟨key, rfl, hverify, not_not.mp haudience⟩
    · rintro ⟨_, ⟨⟩, hverify, haudience⟩
      exact ⟨Bool.false_ne_true, _, rfl, claims, hverify, not_not.mpr haudience, rfl⟩

/-- A service with these settings accepts a token only for what it says genuinely. -/
structure AcceptsGenuinely (service : Settings.Accepted) (token : String) : Prop where
  accepted : ∀ now claims, verifyToken service token now = .ok claims →
    claims.audience = service.settings.audience ∧
      ∃ key, service.settings.tokenKey = some key ∧
        Token.verify token (publicHalf key) now = .ok claims ∧
          Token.Genuine token (publicHalf key) claims
  keyless : service.settings.tokenKey = none →
    ∀ now, verifyToken service token now = .error (.tokenVerificationFailed "missing key")

/-- **Soundness of verification.**  Every text has one verdict for all times under every
key, and a service accepts what is genuine under its own key and meant for it, or nothing. -/
theorem accepts_only_genuine (token : String) :
    (∀ key, Token.Verdict token key) ∧ ∀ service, AcceptsGenuinely service token := by
  refine ⟨Token.verdict token, fun service => ⟨fun now claims h => ?_, fun hkey now => ?_⟩⟩
  · obtain ⟨key, hkey, hverify, haudience⟩ := verifyToken_eq_ok.mp h
    obtain ⟨found, hauthentic, hfound⟩ := Outcome.bind_eq_ok.mp hverify
    obtain ⟨-, hfound⟩ := Outcome.unless_eq_ok.mp hfound
    obtain rfl := Except.ok.inj hfound
    exact ⟨haudience, key, hkey, hverify, Token.genuine_of_authenticate hauthentic⟩
  · rw [verifyToken, hkey]
    rfl

end Identity.Authentication
