/-
Identity/Proofs/Authentication/Sessions.lean

Which sessions can be used.

Issuing a session takes the lifetime from the settings, adds it to the clock,
writes the expiry into a token, and reads it back when the token is verified.
Each of these steps has a limit of its own, and settings are accepted with any
lifetime but zero.  So there may be no expiry at all
(`run_issueSession_of_error`), or one that is written and never read back
(`verifyToken_issued`), or one in the second of the issue.

Main result: `signIn_usable_iff`.
-/
import Identity.Proofs.Authentication.Passwords
import Identity.Proofs.Token.Signed

namespace Identity.Authentication

open Crypto Operation

variable {s : Settings} {service : Settings.Accepted} {store : Store} {entropy : Entropy}
variable {user : User} {now : Timestamp} {email password token : String} {publicKey : Bytes}
variable {key : Key Token.privateKeyLength} {document : Token.Document}

/-! ### Expiry -/

/-- The end of a lifetime that starts now. -/
def expiresAt (s : Settings) (now : Timestamp) : Timestamp := now.add s.tokenLifetime

theorem expiry_eq_ok {t : Timestamp} : expiry s now = .ok t ↔
    (s.tokenLifetime.nanos ≤ maxLifetime.nanos ∧
      Calendar.holds (expiresAt s now).seconds = true) ∧ t = expiresAt s now := by
  unfold expiry expiresAt
  split_ifs with hlong hholds
  · exact iff_of_false nofun fun h => absurd h.1.1 (Nat.not_le.mpr hlong)
  · rw [Except.ok.injEq, eq_comm]
    exact (and_iff_right ⟨Nat.not_lt.mp hlong, hholds⟩).symm
  · exact iff_of_false nofun fun h => hholds h.1.2

/-- The instant lies in one of the years 1970 to 2100. -/
def Contemporary (now : Timestamp) : Prop :=
  1970 ≤ (Calendar.ofDays (now.seconds / Calendar.secondsPerDay)).year ∧
    (Calendar.ofDays (now.seconds / Calendar.secondsPerDay)).year ≤ 2100

theorem Contemporary.seconds (h : Contemporary now) :
    0 ≤ now.seconds ∧ now.seconds / Calendar.secondsPerDay < 47847 := by
  obtain ⟨hfirst, hlast⟩ := h
  have hstart : Calendar.toDays ⟨1969 + 1, 1, 1⟩ = 0 := by decide
  have hend : Calendar.toDays ⟨2100 + 1, 1, 1⟩ = 47847 := by decide
  have hafter := (Calendar.year_ofDays_le_iff (now.seconds / Calendar.secondsPerDay) 1969).not.mp
    (by omega)
  have hbefore := (Calendar.year_ofDays_le_iff _ _).mp hlast
  rw [hstart] at hafter
  rw [hend] at hbefore
  refine ⟨?_, hbefore⟩
  unfold Calendar.secondsPerDay at hafter
  omega

/-- The years from 1970 to 9999 lie in the calendar. -/
theorem holds_of_year {seconds : Int} (hseconds : 0 ≤ seconds)
    (hyear : (Calendar.ofDays (seconds / Calendar.secondsPerDay)).year ≤ 9999) :
    seconds / Calendar.secondsPerDay < 2932897 ∧ Calendar.holds seconds = true := by
  have hfirst : Calendar.firstDay ≤ 0 := by decide
  have hlast : 2932897 ≤ Calendar.lastDay := by decide
  have hend : Calendar.toDays ⟨9999 + 1, 1, 1⟩ = 2932897 := by decide
  have hbefore := (Calendar.year_ofDays_le_iff _ _).mp hyear
  have hday : 0 ≤ seconds / Calendar.secondsPerDay := Int.ediv_nonneg hseconds (by decide)
  rw [hend] at hbefore
  refine ⟨hbefore, ?_⟩
  simp only [Calendar.holds, Bool.and_eq_true, decide_eq_true_eq]
  omega

theorem Contemporary.holds (h : Contemporary now) : Calendar.holds now.seconds = true :=
  (holds_of_year h.seconds.1 (Int.le_trans h.2 (by decide))).2

theorem Contemporary.le_expiresAt (h : Contemporary now) (s : Settings) :
    0 ≤ (expiresAt s now).seconds := by
  have hnow := h.seconds.1
  simp only [expiresAt, Timestamp.add, Timestamp.seconds] at hnow ⊢
  omega

/-- From 1970 on, the years that are written with four digits are those up to 9999. -/
theorem fourDigitYear_iff {seconds : Int} (h : 0 ≤ seconds) :
    Rfc3339.FourDigitYear seconds ↔
      (Calendar.ofDays (seconds / Calendar.secondsPerDay)).year ≤ 9999 := by
  refine and_iff_right_of_imp fun _ => ?_
  have hstart : Calendar.toDays ⟨-1 + 1, 1, 1⟩ ≤ 0 := by decide
  have hday : 0 ≤ seconds / Calendar.secondsPerDay := Int.ediv_nonneg h (by decide)
  have hafter := (Calendar.year_ofDays_le_iff (seconds / Calendar.secondsPerDay) (-1)).not.mpr
    (by omega)
  omega

/-- There is an expiry up to the end of the year 9999. -/
theorem expiry_of_year (hnow : Contemporary now)
    (hyear : (Calendar.ofDays ((expiresAt s now).seconds / Calendar.secondsPerDay)).year ≤ 9999) :
    expiry s now = .ok (expiresAt s now) := by
  obtain ⟨hday, hholds⟩ := holds_of_year (hnow.le_expiresAt s) hyear
  refine expiry_eq_ok.mpr ⟨⟨?_, hholds⟩, rfl⟩
  have hmax : maxLifetime.nanos = 9223372036854775807000000 := by decide
  have hstart := hnow.seconds.1
  unfold Calendar.secondsPerDay at hday
  simp only [expiresAt, Timestamp.add, Timestamp.seconds] at hday hstart
  omega

/-! ### Issuing -/

/-- The identifier of the session that is issued with these random bytes. -/
def drawnSession (entropy : Entropy) : Uuid := Uuid.ofRandomBytes (entropy.tape.take 16)

/-- What the token of that session says. -/
def drawnClaims (s : Settings) (user : User) (now : Timestamp) (entropy : Entropy) :
    Token.Claims :=
  sessionClaims s user (drawnSession entropy) (expiresAt s now)

/-- Without an expiry there is no session. -/
theorem run_issueSession_of_error {e : Error} (hkey : s.tokenKey = some key)
    (h : expiry s now = .error e) :
    (issueSession s user now).run entropy store = (.error e, entropy, store) := by
  unfold issueSession
  rw [hkey]
  simp only [run_bind, run_ofOutcome, h]

/-- With one there is a session, whose token is signed with the key of the settings. -/
theorem issueSession_succeeds (hkey : s.tokenKey = some key)
    (hprivate : Token.checkPrivateKey key.bytes = .ok ())
    (hexpiry : expiry s now = .ok (expiresAt s now)) (htape : 16 ≤ entropy.tape.length)
    (hdocument : (drawnClaims s user now entropy).document now.seconds = .ok document) :
    (issueSession s user now).Succeeds entropy store fun session _ after =>
      session = ⟨user, Token.signedText key.bytes (Bytes.ofText document.encode),
        drawnSession entropy, expiresAt s now⟩ ∧ after = store := by
  unfold issueSession
  rw [hkey]
  refine .bind (P := fun t rest after => t = expiresAt s now ∧ rest = entropy ∧ after = store)
    (.ofOutcome hexpiry ⟨rfl, rfl, rfl⟩) ?_
  rintro t rest after ⟨rfl, hrest, hafter⟩
  rw [hrest, hafter]
  refine .bind (freshUuid_succeeds htape) ?_
  rintro id rest after ⟨hid, hafter⟩
  obtain rfl : id = drawnSession entropy := hid
  have hsign : Token.sign (drawnClaims s user now entropy) key.bytes now.seconds =
      .ok (Token.signedText key.bytes (Bytes.ofText document.encode)) :=
    (Token.sign_eq_ok hprivate).mpr ⟨document, hdocument, rfl⟩
  unfold drawnClaims at hsign
  rw [hsign]
  exact .pure ⟨rfl, hafter⟩

/-! ### Verifying -/

theorem verifyToken_eq (hkey : service.settings.tokenKey = some key)
    (hpublic : service.settings.publicKey = .ok publicKey) {t : Int}
    (haudience : ∀ claims, Token.verify token publicKey t = .ok claims →
      claims.audience = service.settings.audience) :
    verifyToken service token t = (Token.verify token publicKey t).mapError tokenError := by
  simp only [verifyToken, hkey, hpublic, Option.isNone_some, Bool.false_eq_true, if_false, bind,
    Except.bind]
  cases hverify : Token.verify token publicKey t with
  | error fault => rfl
  | ok claims => exact if_neg (not_not.mpr (haudience claims hverify))

/-- What becomes of the token of a session: an expiry after the year 9999 was written
with a sign, which is refused at any time. -/
theorem verifyToken_issued (hkey : service.settings.tokenKey = some key)
    (hpublic : Token.publicKey key.bytes = .ok publicKey)
    (hsettings : service.settings.publicKey = .ok publicKey)
    (hdocument : (drawnClaims service.settings user now entropy).document now.seconds =
      .ok document)
    (haccepts : Token.Accepts publicKey key.bytes (Bytes.ofText document.encode)) (t : Int) :
    verifyToken service (Token.signedText key.bytes (Bytes.ofText document.encode)) t =
      if Rfc3339.FourDigitYear (expiresAt service.settings now).seconds then
        if t < (expiresAt service.settings now).seconds then
          .ok (drawnClaims service.settings user now entropy)
        else .error .tokenExpired
      else .error (tokenError (.invalidToken "malformed expiry")) := by
  have hverify := Token.verify_signedText (Token.publicKey_eq_ok hpublic).2 hdocument haccepts t
  have hclaims : (drawnClaims service.settings user now entropy).expiresAt =
      (expiresAt service.settings now).seconds := rfl
  rw [hclaims] at hverify
  rw [verifyToken_eq hkey hsettings, hverify]
  · split_ifs <;> rfl
  · intro claims hok
    rw [hverify] at hok
    split_ifs at hok
    cases hok
    rfl

/-! ### Usable sessions -/

/-- The address and the current password of an active user. -/
structure Credentials (s : Settings) (store : Store) (user : User) (email password : String) :
    Prop where
  stored : user ∈ store.users
  active : user.status = .active
  email : user.email.lookup = lookup s (Email.normalize email)
  password : HashOf s password user.password

theorem run_signIn (hsound : store.Sound)
    (h : Credentials service.settings store user email password) :
    (signIn service email password now).run entropy store =
      (issueSession service.settings user now).run entropy store := by
  have hreaches : ReachesIssuance service.settings email password entropy store user :=
    (reachesIssuance_iff hsound h.stored h.password).mpr ⟨h.email, h.active, rfl⟩
  rw [signIn, run_bind, hreaches]

/-- A session can be used: its token is verified into what the session says, in the
second of its issue and in every other second before its expiry. -/
structure Usable (service : Settings.Accepted) (issued : Timestamp) (session : Session) :
    Prop where
  atIssue : verifyToken service session.token issued.seconds =
    .ok (sessionClaims service.settings session.user session.id session.expiresAt)
  untilExpiry : ∀ t, issued.seconds ≤ t → t < session.expiresAt.seconds →
    verifyToken service session.token t =
      .ok (sessionClaims service.settings session.user session.id session.expiresAt)

/-- Signing in answers a usable session of the user and leaves the store as it is. -/
def SignsInUsably (service : Settings.Accepted) (email password : String) (now : Timestamp)
    (entropy : Entropy) (store : Store) (user : User) : Prop :=
  ∃ session rest, (signIn service email password now).run entropy store =
    (.ok session, rest, store) ∧ session.user = user ∧ Usable service now session

/-- The signature in the token of the session is accepted under the key of the settings. -/
def SignatureHolds (service : Settings.Accepted) (key : Key Token.privateKeyLength) (user : User)
    (now : Timestamp) (entropy : Entropy) : Prop :=
  ∀ publicKey document, service.settings.publicKey = .ok publicKey →
    (drawnClaims service.settings user now entropy).document now.seconds = .ok document →
    Token.Accepts publicKey key.bytes (Bytes.ofText document.encode)

/-- **When sessions can be used.**  In every store that a run leads to and with the
credentials of an active user, signing in answers a usable session exactly when the
lifetime of the settings reaches into a later second, and not beyond the year 9999. -/
theorem signIn_usable_iff {allowed : Discipline} {events : List Event}
    (hrun : Run service allowed events store)
    (hcredentials : Credentials service.settings store user email password)
    (hkey : service.settings.tokenKey = some key) (hnow : Contemporary now)
    (htape : 16 ≤ entropy.tape.length) (hholds : SignatureHolds service key user now entropy) :
    SignsInUsably service email password now entropy store user ↔
      now.seconds < (expiresAt service.settings now).seconds ∧
        (Calendar.ofDays ((expiresAt service.settings now).seconds /
          Calendar.secondsPerDay)).year ≤ 9999 := by
  obtain ⟨publicKey, hpublic, hsettings⟩ := service.exists_publicKey hkey
  obtain ⟨hprivate, -⟩ := Token.publicKey_eq_ok hpublic
  have hyears := fourDigitYear_iff (hnow.le_expiresAt service.settings)
  rw [SignsInUsably, run_signIn hrun.sound hcredentials]
  -- without an expiry, neither side holds
  cases hexpiry : expiry service.settings now with
  | error e =>
    refine iff_of_false ?_ ?_
    · rintro ⟨session, rest, hsession, -⟩
      rw [run_issueSession_of_error hkey hexpiry] at hsession
      cases hsession
    · rintro ⟨-, hyear⟩
      rw [expiry_of_year hnow hyear] at hexpiry
      cases hexpiry
  | ok t =>
    obtain ⟨⟨-, hcalendar⟩, rfl⟩ := expiry_eq_ok.mp hexpiry
    obtain ⟨document, hdocument⟩ : ∃ document,
        (drawnClaims service.settings user now entropy).document now.seconds = .ok document :=
      Token.Claims.exists_document hcalendar hnow.holds
    obtain ⟨session, rest, after, hsession, rfl, hafter⟩ :=
      @issueSession_succeeds _ store _ _ _ _ _ hkey hprivate hexpiry htape hdocument
    rw [hafter] at hsession
    have hverified := verifyToken_issued hkey hpublic hsettings hdocument
      (hholds publicKey document hsettings hdocument)
    rw [hsession, ← hyears]
    constructor
    · rintro ⟨session, rest, heq, -, husable⟩
      cases heq
      have hissue := husable.atIssue
      rw [hverified] at hissue
      split_ifs at hissue with hyear hlater
      exact ⟨hlater, hyear⟩
    · rintro ⟨hlater, hyear⟩
      have hgood : ∀ t, t < (expiresAt service.settings now).seconds → _ := fun t ht =>
        (hverified t).trans ((if_pos hyear).trans (if_pos ht))
      exact ⟨_, _, rfl, rfl, hgood _ hlater, fun t _ ht => hgood t ht⟩

/-! ### A user who signs in -/

/-- A key for tokens. -/
def plainKey : Key Token.privateKeyLength :=
  ⟨Token.sampleKey, by
    simp [Token.sampleKey, Ed25519.privateKey, Ed25519.publicKey, Ed25519.Point.toBytes,
      Token.privateKeyLength]⟩

/-- The service with the usual policies that also signs tokens. -/
def signingService : Settings.Accepted :=
  plainService.withTokenKey plainKey Token.publicKey_sampleKey

/-- Alice has signed up, and signs in with another spelling of her address. -/
theorem credentials_alice (service : Settings.Accepted)
    (hcost : service.settings.cost.check = .ok ()) :
    ∃ user store, Run service EditsStored [⟨.signUp alice, .ok user⟩] store ∧
      user.id = drawnId plainEntropy ∧
        Credentials service.settings store user "ALICE@example.org" "Correct1!" := by
  obtain ⟨user, rest, store, hsignUp, hid, husers, hfresh⟩ := signUp_first service hcost
  have hspelling : Email.normalize "ALICE@example.org" = Email.normalize alice.email := by
    decide +kernel
  refine ⟨user, store, Run.start.next (by nofun) hsignUp, hid, ?_⟩
  exact {
    stored := by simp [husers]
    active := hfresh.status
    email := by
      rw [hspelling]
      exact hfresh.email.lookup
    password := hfresh.password }

/-- The document of the session that Alice starts at the beginning of 1970. -/
def aliceDocument : Token.Document where
  subject := "00000000-0000-4000-8000-000000000000"
  sessionId := "00000000-0000-4000-8000-000000000000"
  audience := "tessera"
  expiry := "1970-01-02T00:00:00Z"
  issued := "1970-01-01T00:00:00Z"
  context := .empty
  authzVersion := none

theorem accepts_aliceDocument :
    Token.Accepts (Token.sampleKey.drop Ed25519.halfLength) Token.sampleKey
      (Bytes.ofText aliceDocument.encode) := by
  rw [Token.Accepts, Ed25519.verify_eq, Ed25519.sign_eq, Token.sampleKey, Ed25519.privateKey,
    Ed25519.publicKey_eq]
  decide +kernel

/-- A session of a day can be used. -/
theorem signIn_usable_iff_alice : ∃ events store user,
    Run signingService EditsStored events store ∧
      SignsInUsably signingService "ALICE@example.org" "Correct1!" .epoch plainEntropy store
        user := by
  obtain ⟨user, store, hrun, hid, hcredentials⟩ :=
    credentials_alice signingService (by decide +kernel)
  have hclaims : (drawnClaims signingService.settings user .epoch plainEntropy).document 0 =
      .ok aliceDocument := by
    rw [drawnClaims, sessionClaims, hid]
    decide +kernel
  have hkey : signingService.settings.tokenKey = some plainKey := rfl
  obtain ⟨publicKey, hpublic, hsettings⟩ := signingService.exists_publicKey hkey
  obtain rfl := Except.ok.inj (Token.publicKey_sampleKey.symm.trans hpublic)
  have hholds : SignatureHolds signingService plainKey user .epoch plainEntropy := by
    intro publicKey document hsame hdocument
    obtain rfl := Except.ok.inj (hsettings.symm.trans hsame)
    obtain rfl := Except.ok.inj (hclaims.symm.trans hdocument)
    exact accepts_aliceDocument
  have hnow : Contemporary .epoch := by
    unfold Contemporary
    decide +kernel
  have husable := signIn_usable_iff hrun hcredentials hkey hnow (by decide) hholds
  exact ⟨_, store, user, hrun, husable.mpr ⟨by decide +kernel, by decide +kernel⟩⟩

/-- A lifetime of 285000 years. -/
def ages : Duration := .ofSeconds 9000000000000

/-- It is accepted, and ends after the last day of the calendar. -/
theorem signIn_beyond_calendar : ∃ events store user,
    Run (signingService.withLifetime ages (by decide)) EditsStored events store ∧
      Credentials (signingService.withLifetime ages (by decide)).settings store user
        "ALICE@example.org" "Correct1!" ∧
      (signIn (signingService.withLifetime ages (by decide)) "ALICE@example.org" "Correct1!"
        .epoch).run plainEntropy store = (.error .calendarExceeded, plainEntropy, store) := by
  obtain ⟨user, store, hrun, -, hcredentials⟩ :=
    credentials_alice (signingService.withLifetime ages (by decide)) (by decide +kernel)
  have hexpiry : expiry (signingService.withLifetime ages (by decide)).settings .epoch =
      .error .calendarExceeded := by
    decide +kernel
  have hkey : (signingService.withLifetime ages (by decide)).settings.tokenKey =
      some plainKey := rfl
  refine ⟨_, store, user, hrun, hcredentials, ?_⟩
  rw [run_signIn hrun.sound hcredentials]
  exact run_issueSession_of_error hkey hexpiry

end Identity.Authentication
