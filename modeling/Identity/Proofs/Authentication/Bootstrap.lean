/-
Identity/Proofs/Authentication/Bootstrap.lean

The password of the superadmin is never refused.

A password is drawn with the length that the settings ask for, and accepted
settings ask for one that the policy allows.  So what is drawn conforms and meets
the policy, and the errors that making sure of the superadmin can end in are those
of missing random bytes, of sealing, of hashing and of a service that is not allowed
to bootstrap.  All others come from the store (`bootstrap_neverRaises`).

Main result: `passwords_generated`.
-/
import Identity.Proofs.Authentication.Hashing

namespace Identity.Authentication

open Crypto Operation

variable {kind : Error.Kind}

/-! ### The errors of bootstrapping -/

theorem drawPassword_neverRaises (service : Settings.Accepted)
    (h : Error.Kind.internal ≠ kind) : (drawPassword service.settings).NeverRaises kind := by
  refine .draw_bind (fun _ => h) fun password hgives => ?_
  have hvalid : Password.validate password = .ok () :=
    Generated.validate_of_gives_password service.passwordLength.2 hgives
  refine .bind (.ofOutcome ?_) fun _ => .pure
  rw [hvalid]
  exact nofun

theorem draftSuperadmin_neverRaises (s : Settings) (password : String) (now : Timestamp)
    (hinternal : Error.Kind.internal ≠ kind) (hsealing : Error.Kind.encryptionFailed ≠ kind)
    (hhashing : Error.Kind.passwordHashFailed ≠ kind) :
    (draftSuperadmin s password now).NeverRaises kind := by
  refine (sealValue_neverRaises s _ hsealing).bind fun email => ?_
  refine (hashPassword_neverRaises s password hhashing).bind fun hash => ?_
  exact (freshUuid_neverRaises hinternal).bind fun fresh => .pure

/-- The errors of which making sure of the superadmin is the cause. -/
def bootstrapErrors : List Error.Kind :=
  [.bootstrapDisabled, .internal, .encryptionFailed, .passwordHashFailed]

/-- **What bootstrapping fails with** is one of its own errors, or one that the store replies
with. -/
theorem bootstrap_neverRaises (service : Settings.Accepted) (now : Timestamp)
    (h : kind ∉ bootstrapErrors) : (bootstrap service now).NeverRaises kind := by
  have hown : ∀ own ∈ bootstrapErrors, own ≠ kind := by
    rintro own hmem rfl
    exact h hmem
  rw [bootstrap_eq]
  refine (findUser?_neverRaises _).bind fun found => ?_
  split
  · exact .pure
  · refine .unless (hown _ (by decide)) ?_
    refine (drawPassword_neverRaises service (hown _ (by decide))).bind fun password => ?_
    refine (draftSuperadmin_neverRaises _ password now (hown _ (by decide)) (hown _ (by decide))
      (hown _ (by decide))).bind fun user => ?_
    exact addSuperadmin_neverRaises _ password user

/-- No store replies that a password breaks the policy. -/
theorem respond_avoids_invalidPassword (store : Store) (c : Call) :
    Outcome.Avoids .invalidPassword (store.respond c).1 := by
  intro e he hkind
  rcases Store.kind_of_refused he with h | h <;> rw [hkind] at h <;> cases h

/-- A submission that makes sure of the superadmin does not raise an error about the password. -/
theorem Submission.neverRaises {service : Settings.Accepted} {submission : Submission}
    (h : submission.request = .bootstrap) :
    (submission.program service).NeverRaises .invalidPassword := by
  obtain ⟨request, now, entropy⟩ := submission
  subst h
  exact bootstrap_neverRaises service now (by decide) entropy

/-! ### Generated passwords -/

/-- **Generated passwords meet the policy.**  Whatever bytes are drawn, a password that is
generated has the length that is asked for, and no less than the least one, consists of
characters of the alphabets and has one of each class; it is accepted unless its length is
not.  Only missing bytes keep it from being generated.  So no service refuses the password of
the superadmin, neither alone nor with other requests at the same time. -/
structure PasswordsGenerated : Prop where
  conforms : ∀ (length : Nat) (entropy rest : Entropy) (text : String),
    Generated.password length entropy = .ok (text, rest) → Generated.Conforms length text
  accepted : ∀ (length : Nat) (entropy rest : Entropy) (text : String),
    Generated.password length entropy = .ok (text, rest) → length ≤ Password.maxLength →
      Password.validate text = .ok ()
  exhausted : ∀ (length : Nat) (entropy : Entropy) (fault : Fault),
    Generated.password length entropy = .error fault → length ≤ Draw.maxWord →
      fault = Draw.exhausted
  bootstrap : ∀ (service : Settings.Accepted) (now : Timestamp),
    (bootstrap service now).NeverRaises .invalidPassword ∧
      (bootstrap service now).Avoids .invalidPassword
  race : ∀ {ι : Type} [DecidableEq ι] (service : Settings.Accepted) (submissions : ι → Submission)
    (before after : Store) (log : List (ι × Exchange))
    (outcome : ∀ i, Outcome (submissions i).request.Answer),
    Race service submissions before log outcome after →
      ∀ i, (submissions i).request = .bootstrap → Outcome.Avoids .invalidPassword (outcome i)

theorem passwords_generated : PasswordsGenerated where
  conforms _ entropy rest _ h := Generated.conforms_of_gives ⟨entropy, rest, h⟩
  accepted _ entropy rest _ h hmax :=
    Generated.validate_of_gives_password hmax ⟨entropy, rest, h⟩
  exhausted _ entropy _ h hword := Generated.eq_exhausted_of_faults_password hword ⟨entropy, h⟩
  bootstrap service now := by
    have h : (bootstrap service now).NeverRaises .invalidPassword :=
      bootstrap_neverRaises service now (by decide)
    exact ⟨h, h.avoids respond_avoids_invalidPassword⟩
  race service submissions before after log outcome h i hi := by
    obtain ⟨rest, h⟩ := h
    exact h.neverRaises respond_avoids_invalidPassword (Submission.neverRaises hi)

/-- A password of sixteen characters from nothing but zeros, and a superadmin who gets one. -/
theorem passwords_generated_zeros :
    (∃ text rest, Generated.password 16 ⟨List.replicate 200 0⟩ = .ok (text, rest) ∧
      Generated.Conforms 16 text ∧ Password.validate text = .ok ()) ∧
      ¬ (bootstrap plainService .epoch).FailsAs .invalidPassword (twoStarters true).entropy
        .empty := by
  have h := passwords_generated
  have hok : (Generated.password 16 ⟨List.replicate 200 0⟩).isOk = true := by decide +kernel
  refine ⟨?_, (h.bootstrap plainService .epoch).2 _ _⟩
  cases hdrawn : Generated.password 16 ⟨List.replicate 200 0⟩ with
  | error fault =>
    rw [hdrawn] at hok
    cases hok
  | ok drawn =>
    exact ⟨drawn.1, drawn.2, rfl, h.conforms _ _ _ _ hdrawn,
      h.accepted _ _ _ _ hdrawn (by decide)⟩

end Identity.Authentication
