/-
Identity/Proofs/Token/Claims.lean

Claims are read back from the document that was written for them, when their
expiry lies in a year that reading accepts.
-/
import Identity.Proofs.Json.Written
import Identity.Proofs.Time.Rfc3339
import Identity.Token.Claims

namespace Identity.Token

open Json

/-! ### Contexts -/

namespace Document

/-- A context as an object of texts. -/
def writtenContext (context : Context) : Written :=
  .object (context.entries.map fun e => (e.1, .string e.2))

theorem text_writtenContext (context : Context) :
    (writtenContext context).text = contextText context := by
  simp only [writtenContext, Written.object, contextText, List.map_map]
  rfl

/-- A context is read back. -/
theorem context?_writtenContext (context : Context) :
    context? (writtenContext context).value = some context := by
  have htexts : (context.entries.map fun e => (e.1, (Written.string e.2).value)).mapM
      (fun m => m.2.text?.map fun text => (m.1, text)) = some context.entries := by
    rw [List.mapM_map]
    exact (List.mapM_pure ..).trans (by simp)
  simp only [context?, writtenContext, Written.members?_object, List.map_map, Option.bind_eq_bind,
    Option.bind_some]
  exact (congrArg (Option.bind · _) htexts).trans (congrArg some context.ofList_entries)

/-! ### Versions -/

/-- A version as a number. -/
def writtenVersion (version : Int64) : Written where
  text := integerText version
  value := .number (integerText version)
  reads := by
    unfold integerText
    split
    · exact reads_neg_toDigits _
    · exact reads_toDigits _

/-- A version is read back. -/
theorem version?_writtenVersion (version : Int64) :
    version? (some (writtenVersion version).value) = some (some version) := by
  have hinteger : (Value.number (integerText version)).integer? = some version.toInt := by
    unfold integerText
    split
    · rw [integer?_neg_toDigits (by omega)]
      congr
      omega
    · rw [integer?_toDigits]
      congr
      omega
  have hlow : Int64.minValue.toInt ≤ version.toInt := version.minValue_le_toInt
  have hhigh : version.toInt ≤ Int64.maxValue.toInt := version.toInt_le
  show (Value.number (integerText version)).integer?.bind _ = _
  rw [hinteger, Option.bind_some, if_pos ⟨hlow, hhigh⟩, Int64.ofInt_toInt]

/-! ### Documents -/

/-- The context of a document, unless it is empty. -/
def presentContext (document : Document) : Option Written :=
  if document.context.entries.isEmpty then none else some (writtenContext document.context)

/-- The version of a document, if there is one. -/
def presentVersion (document : Document) : Option Written :=
  document.authzVersion.map writtenVersion

/-- The members of a document. -/
def writtenMembers (document : Document) : List (String × Written) :=
  [("sub", .string document.subject), ("sid", .string document.sessionId),
      ("aud", .string document.audience), ("exp", .string document.expiry),
      ("iat", .string document.issued)] ++
    document.presentContext.toList.map (("ctx", ·)) ++
    document.presentVersion.toList.map (("authz_ver", ·))

theorem encode_eq (document : Document) :
    document.encode = String.ofList (Written.object document.writtenMembers).text := by
  have hcontext : (document.presentContext.toList.map fun w => ("ctx", w.text)) =
      contextMember document.context := by
    unfold presentContext contextMember
    split
    · rfl
    · rw [← text_writtenContext]
      rfl
  have hversion : (document.presentVersion.toList.map fun w => ("authz_ver", w.text)) =
      versionMember document.authzVersion := by
    unfold presentVersion versionMember
    cases document.authzVersion <;> rfl
  simp only [encode, Written.object, writtenMembers, ← hcontext, ← hversion, List.map_append,
    List.map_map]
  rfl

/-- The members of a document are found under their keys. -/
theorem ofMembers?_eq (subject sessionId audience expiry issued : Value)
    (context version : Option Value) :
    ofMembers? ([("sub", subject), ("sid", sessionId), ("aud", audience), ("exp", expiry),
        ("iat", issued)] ++ context.toList.map (("ctx", ·)) ++
          version.toList.map (("authz_ver", ·))) =
      ofValues? subject sessionId audience expiry issued context version := by
  cases context <;> cases version <;> rfl

theorem ofValue?_object (members : List (String × Written)) :
    ofValue? (Written.object members).value =
      ofMembers? (members.map fun m => (m.1, m.2.value)) := by
  show (Written.object members).value.members?.bind _ = _
  rw [Written.members?_object]
  rfl

theorem version?_presentVersion (document : Document) :
    version? (document.presentVersion.map Written.value) = some document.authzVersion := by
  unfold presentVersion
  cases document.authzVersion with
  | none => rfl
  | some version => exact version?_writtenVersion version

/-- The values of the members are read as they were written; an empty context was
left out. -/
theorem ofValues?_present (document : Document) :
    ofValues? (.string (some document.subject)) (.string (some document.sessionId))
        (.string (some document.audience)) (.string (some document.expiry))
        (.string (some document.issued)) (document.presentContext.map Written.value)
        (document.presentVersion.map Written.value) = some document := by
  have hversion := version?_presentVersion document
  generalize document.presentVersion.map Written.value = version at hversion ⊢
  obtain ⟨subject, sessionId, audience, expiry, issued, context, authzVersion⟩ := document
  unfold presentContext
  split
  · next hempty =>
    obtain ⟨entries, ascending⟩ := context
    obtain rfl : entries = [] := List.isEmpty_iff.mp hempty
    simp only [ofValues?, Value.text?, hversion]
    rfl
  · simp only [ofValues?, Value.text?, Option.map_some, context?_writtenContext, hversion]
    rfl

/-- A document is read back from its text. -/
theorem decode?_encode (document : Document) : decode? document.encode = some document := by
  have hmembers : document.writtenMembers.map (fun m => (m.1, m.2.value)) =
      [("sub", .string (some document.subject)), ("sid", .string (some document.sessionId)),
        ("aud", .string (some document.audience)), ("exp", .string (some document.expiry)),
        ("iat", .string (some document.issued))] ++
          (document.presentContext.map Written.value).toList.map (("ctx", ·)) ++
            (document.presentVersion.map Written.value).toList.map (("authz_ver", ·)) := by
    unfold writtenMembers
    cases document.presentContext <;> cases document.presentVersion <;> rfl
  rw [encode_eq, decode?, Written.parse?, Option.bind_eq_bind, Option.bind_some, ofValue?_object,
    hmembers, ofMembers?_eq, ofValues?_present]

end Document

/-! ### Claims -/

variable {claims : Claims} {issuedAt : Int} {document : Document}

/-- Claims are read back from their document. -/
theorem Claims.claims?_document (hyear : Rfc3339.FourDigitYear claims.expiresAt)
    (h : claims.document issuedAt = .ok document) : document.claims? = some claims := by
  unfold Claims.document at h
  split at h
  · next hexpiry _ =>
    obtain rfl := Except.ok.inj h
    simp only [Document.claims?, Rfc3339.parse?_format? hyear hexpiry]
    rfl
  · cases h
  · cases h

/-- An expiry in any other year is written all the same, but not read back. -/
theorem Claims.claims?_document_eq_none (hyear : ¬Rfc3339.FourDigitYear claims.expiresAt)
    (h : claims.document issuedAt = .ok document) : document.claims? = none := by
  unfold Claims.document at h
  split at h
  · next hexpiry _ =>
    obtain rfl := Except.ok.inj h
    simp only [Document.claims?, Rfc3339.parse?_format?_eq_none hyear hexpiry]
    rfl
  · cases h
  · cases h

/-- Claims have a document when their instants lie in the calendar. -/
theorem Claims.exists_document (hexpiry : Calendar.holds claims.expiresAt = true)
    (hissued : Calendar.holds issuedAt = true) :
    ∃ document, claims.document issuedAt = .ok document := by
  unfold Claims.document
  rw [Rfc3339.format?_eq_some.mpr ⟨hexpiry, rfl⟩, Rfc3339.format?_eq_some.mpr ⟨hissued, rfl⟩]
  exact ⟨_, rfl⟩

end Identity.Token
