/-
Identity/Proofs/Token/Genuine.lean

What verification has seen of a token that it accepts.

A token is *genuine* under a key when its text is a header, a body and perhaps a
footer, the body is a payload with a signature that holds under the key for the
payload and the footer, and the claims are what the JSON document in the payload
says (`Genuine`).  This is said without the reader of tokens: by the text, the
bytes and the members of the document.

The clock decides nothing but whether genuine claims have expired.  So every text
has one verdict for all times (`verdict`): it is refused with one and the same
fault, which is not the one of expired tokens, or it is genuine, and good until
the expiry that it was signed with.
-/
import Identity.Proofs.Json.Members
import Identity.Proofs.Outcome
import Identity.Proofs.Token.Signed

namespace Identity.Token

open Crypto Json

variable {token : String} {key payload : Bytes} {claims : Claims}

/-! ### Texts and envelopes -/

/-- The text consists of the header, a body, and perhaps a footer after a point. -/
inductive Encloses : (token body : String) → (footer : Bytes) → Prop
  | bare (body : String) : Encloses (header ++ body) body []
  | footed (body text : String) {footer : Bytes} (h : Base64.decodeCompact text = some footer) :
      Encloses (header ++ body ++ "." ++ text) body footer

theorem part_eq_ok {text : List Char} {bytes : Bytes} :
    Envelope.part text = .ok bytes ↔ Base64.decodeCompactChars text = some bytes := by
  unfold Envelope.part
  cases Base64.decodeCompactChars text with
  | none => exact iff_of_false nofun nofun
  | some found => rw [Except.ok.injEq, Option.some.injEq]

/-- A body is cut in front of its last 64 bytes. -/
theorem ofParts_eq_ok {body footer : List Char} {envelope : Envelope}
    (h : Envelope.ofParts body footer = .ok envelope) :
    Base64.decodeCompactChars body = some (envelope.payload ++ envelope.signature) ∧
      (envelope.payload ≠ [] ∧ envelope.signature.length = signatureLength) ∧
        Base64.decodeCompactChars footer = some envelope.footer := by
  unfold Envelope.ofParts at h
  simp only [Outcome.unless_eq_ok, Outcome.bind_eq_ok, part_eq_ok, Nat.not_le] at h
  obtain ⟨-, bytes, hbody, hlong, found, hfooter, hcut⟩ := h
  obtain rfl := Except.ok.inj hcut
  have hdrop : (bytes.drop (bytes.length - signatureLength)).length = signatureLength := by
    rw [List.length_drop]
    omega
  have htake : bytes.take (bytes.length - signatureLength) ≠ [] := by
    rw [← List.length_pos_iff, List.length_take]
    omega
  exact ⟨by rw [hbody, List.take_append_drop], ⟨htake, hdrop⟩, hfooter⟩

/-- A text that is read as an envelope encloses its parts. -/
theorem parse_eq_ok {envelope : Envelope} (h : Envelope.parse token = .ok envelope) :
    ∃ body, Encloses token body envelope.footer ∧
      Base64.decodeCompact body = some (envelope.payload ++ envelope.signature) ∧
        envelope.payload ≠ [] ∧ envelope.signature.length = signatureLength := by
  have hjoin : List.intercalate ['.'] (token.toList.splitOn '.') = token.toList :=
    List.intercalate_splitOn '.'
  unfold Envelope.parse at h
  split at h
  · next version purpose body hsplit =>
    split_ifs at h with hheader
    obtain ⟨hbody, hlength, hfooter⟩ := ofParts_eq_ok h
    obtain ⟨rfl, rfl⟩ : version = ['v', '4'] ∧ purpose = ['p', 'u', 'b', 'l', 'i', 'c'] := by
      simpa [headerParts] using hheader
    have htoken : token = header ++ String.ofList body := by
      rw [← String.toList_inj, ← hjoin, hsplit]
      simp [List.intercalate, header]
    have hnone : envelope.footer = [] := (Option.some.inj hfooter).symm
    refine ⟨String.ofList body, ?_, ?_, hlength⟩
    · rw [htoken, hnone]
      exact .bare _
    · rw [Base64.decodeCompact, String.toList_ofList, hbody]
  · next version purpose body footer hsplit =>
    split_ifs at h with hheader
    obtain ⟨hbody, hlength, hfooter⟩ := ofParts_eq_ok h
    obtain ⟨rfl, rfl⟩ : version = ['v', '4'] ∧ purpose = ['p', 'u', 'b', 'l', 'i', 'c'] := by
      simpa [headerParts] using hheader
    have htoken : token = header ++ String.ofList body ++ "." ++ String.ofList footer := by
      rw [← String.toList_inj, ← hjoin, hsplit]
      simp [List.intercalate, header]
    refine ⟨String.ofList body, ?_, ?_, hlength⟩
    · rw [htoken]
      refine .footed _ _ ?_
      rw [Base64.decodeCompact, String.toList_ofList, hfooter]
    · rw [Base64.decodeCompact, String.toList_ofList, hbody]
  · cases h

/-! ### Documents and their members -/

/-- The members of a document, in the order in which they are written. -/
def memberNames : List String := ["sub", "sid", "aud", "exp", "iat", "ctx", "authz_ver"]

/-- A JSON value gives values to names: as an object, or as an array of the values
in their order, of which the last two may be left out. -/
inductive Lists : Value → List (String × Value) → Prop
  | object (members : List (String × Value)) :
      Lists (.object (members.map fun m => (some m.1, m.2))) members
  | array (items : List Value) (hfive : 5 ≤ items.length)
      (hseven : items.length ≤ memberNames.length) : Lists (.array items) (memberNames.zip items)

/-- Exactly one member has the name, and it has this value. -/
def Once (members : List (String × Value)) (name : String) (value : Value) : Prop :=
  members.filter (·.1 == name) = [(name, value)]

/-- No member has the name. -/
def Lacks (members : List (String × Value)) (name : String) : Prop :=
  ∀ member ∈ members, member.1 ≠ name

/-- What the members of a document say: one member for each of the claims, in which a
context and a version may be missing, and one for the instant of the issue. -/
structure Says (members : List (String × Value)) (claims : Claims) : Prop where
  subject : Once members "sub" (.string (some claims.subject))
  sessionId : Once members "sid" (.string (some claims.sessionId))
  audience : Once members "aud" (.string (some claims.audience))
  expiry : ∃ text, Once members "exp" (.string (some text)) ∧
    Rfc3339.parse? text = some claims.expiresAt
  issued : ∃ text, Once members "iat" (.string (some text))
  context : (Lacks members "ctx" ∧ claims.context = .empty) ∨
    ∃ entries : List (String × String),
      Once members "ctx" (.object (entries.map fun e => (some e.1, .string (some e.2)))) ∧
        claims.context = .ofList entries
  version : ((Lacks members "authz_ver" ∨ Once members "authz_ver" .null) ∧
      claims.authzVersion = none) ∨
    ∃ value n, Once members "authz_ver" value ∧ claims.authzVersion = some n ∧
      value.integer? = some n.toInt

/-- The bytes are those of a JSON document that says the claims and nothing else of
them. -/
def Contains (payload : Bytes) (claims : Claims) : Prop :=
  ∃ text value members, payload = Bytes.ofText text ∧ Json.parse? text = some value ∧
    Lists value members ∧ Says members claims

theorem text?_eq_some {value : Value} {text : String} (h : value.text? = some text) :
    value = .string (some text) := by
  cases value with
  | string found => exact congrArg Value.string h
  | _ => cases h

theorem context?_eq_some {value : Value} {context : Context}
    (h : Document.context? value = some context) :
    ∃ entries : List (String × String),
      value = .object (entries.map fun e => (some e.1, .string (some e.2))) ∧
        context = .ofList entries := by
  simp only [Document.context?, Option.bind_eq_bind, Option.bind_eq_some_iff] at h
  obtain ⟨members, hmembers, entries, hentries, h⟩ := h
  refine ⟨entries, ?_, (Option.some.inj h).symm⟩
  have htexts : members = entries.map fun e => (e.1, .string (some e.2)) := by
    refine eq_map_of_mapM ?_ hentries
    rintro ⟨name, value⟩ entry hentry
    obtain ⟨text, htext, rfl⟩ := Option.map_eq_some_iff.mp hentry
    exact Prod.ext rfl (text?_eq_some htext)
  rw [members?_eq_some.mp hmembers, htexts, List.map_map]
  rfl

theorem version?_eq_some {found : Option Value} {version : Option Int64}
    (h : Document.version? found = some version) :
    (found = none ∨ found = some .null) ∧ version = none ∨
      ∃ value n, found = some value ∧ version = some n ∧ value.integer? = some n.toInt := by
  unfold Document.version? at h
  split at h
  · exact .inl ⟨.inl rfl, (Option.some.inj h).symm⟩
  · exact .inl ⟨.inr rfl, (Option.some.inj h).symm⟩
  · next value _ =>
    simp only [Option.bind_eq_bind, Option.bind_eq_some_iff] at h
    obtain ⟨n, hinteger, h⟩ := h
    split_ifs at h with hrange
    refine .inr ⟨value, .ofInt n, rfl, (Option.some.inj h).symm, ?_⟩
    have hhigh : Int64.maxValue.toInt = 2 ^ 63 - 1 := by decide
    have hlow : Int64.minValue.toInt = -2 ^ 63 := by decide
    rw [hinteger, Int64.toInt_ofInt_of_le (by omega) (by omega)]

theorem single?_eq_none {name : String} {members : List (String × Value)}
    (h : single? name members = some none) : Lacks members name := by
  unfold single? at h
  split at h
  · next hfilter =>
    intro member hmember
    simpa using List.filter_eq_nil_iff.mp hfilter member hmember
  · cases h
  · cases h

/-- The values of a document are texts, but for its context and its version. -/
theorem ofValues?_eq_some {subject sessionId audience expiry issued : Value}
    {context version : Option Value} {document : Document}
    (h : Document.ofValues? subject sessionId audience expiry issued context version =
      some document) :
    subject = .string (some document.subject) ∧ sessionId = .string (some document.sessionId) ∧
      audience = .string (some document.audience) ∧ expiry = .string (some document.expiry) ∧
        issued = .string (some document.issued) ∧
          (context = none ∧ document.context = .empty ∨
            ∃ value, context = some value ∧ Document.context? value = some document.context) ∧
              Document.version? version = some document.authzVersion := by
  simp only [Document.ofValues?, Option.bind_eq_bind, Option.bind_eq_some_iff] at h
  obtain ⟨_, hsubject, _, hsessionId, _, haudience, _, hexpiry, _, hissued, _, hcontext, _,
    hversion, h⟩ := h
  obtain rfl := Option.some.inj h
  refine ⟨text?_eq_some hsubject, text?_eq_some hsessionId, text?_eq_some haudience,
    text?_eq_some hexpiry, text?_eq_some hissued, ?_, hversion⟩
  cases context with
  | none => exact .inl ⟨rfl, (Option.some.inj hcontext).symm⟩
  | some value => exact .inr ⟨value, rfl, hcontext⟩

/-- The claims of a document that was read from some members are what they say. -/
theorem says_of_ofMembers? {members : List (String × Value)} {document : Document}
    (h : Document.ofMembers? members = some document) (hclaims : document.claims? = some claims) :
    Says members claims := by
  simp only [Document.ofMembers?, Option.bind_eq_bind, Option.bind_eq_some_iff] at h
  obtain ⟨_, hsubject, _, hsessionId, _, haudience, _, hexpiry, _, hissued, context, hcontext,
    version, hversion, _, rfl, _, rfl, _, rfl, _, rfl, _, rfl, hvalues⟩ := h
  obtain ⟨rfl, rfl, rfl, rfl, rfl, hreadContext, hreadVersion⟩ := ofValues?_eq_some hvalues
  obtain ⟨expiresAt, hparse, hclaims⟩ := Option.bind_eq_some_iff.mp hclaims
  obtain rfl := Option.some.inj hclaims
  exact {
    subject := single?_eq_some.mp hsubject
    sessionId := single?_eq_some.mp hsessionId
    audience := single?_eq_some.mp haudience
    expiry := ⟨document.expiry, single?_eq_some.mp hexpiry, hparse⟩
    issued := ⟨document.issued, single?_eq_some.mp hissued⟩
    context := by
      rcases hreadContext with ⟨rfl, hempty⟩ | ⟨value, rfl, hread⟩
      · exact .inl ⟨single?_eq_none hcontext, hempty⟩
      · obtain ⟨entries, rfl, hentries⟩ := context?_eq_some hread
        exact .inr ⟨entries, single?_eq_some.mp hcontext, hentries⟩
    version := by
      rcases version?_eq_some hreadVersion with
        ⟨rfl | rfl, hnone⟩ | ⟨value, n, rfl, hsome, hinteger⟩
      · exact .inl ⟨.inl (single?_eq_none hversion), hnone⟩
      · exact .inl ⟨.inr (single?_eq_some.mp hversion), hnone⟩
      · exact .inr ⟨value, n, single?_eq_some.mp hversion, hsome, hinteger⟩ }

/-- An array is read as the object of its items under the names of their places. -/
theorem ofValue?_eq_some {value : Value} {document : Document}
    (h : Document.ofValue? value = some document) :
    ∃ members, Lists value members ∧ Document.ofMembers? members = some document := by
  unfold Document.ofValue? at h
  split at h
  · next sub sid aud exp iat rest =>
    have hfive (more : List Value) : 5 ≤ (sub :: sid :: aud :: exp :: iat :: more).length :=
      Nat.le_add_left 5 more.length
    split at h
    · exact ⟨_, .array [sub, sid, aud, exp, iat] (hfive _) (Nat.le_add_right 5 2), h⟩
    · next ctx => exact ⟨_, .array [sub, sid, aud, exp, iat, ctx] (hfive _) (Nat.le_succ 6), h⟩
    · next ctx version =>
      exact ⟨_, .array [sub, sid, aud, exp, iat, ctx, version] (hfive _) (Nat.le_refl 7), h⟩
    · cases h
  · obtain ⟨members, hmembers, hdocument⟩ := Option.bind_eq_some_iff.mp h
    refine ⟨members, ?_, hdocument⟩
    rw [members?_eq_some.mp hmembers]
    exact .object members

/-- The claims that are read from a payload are what it contains. -/
theorem claimsOf_eq_ok (h : claimsOf payload = .ok claims) : Contains payload claims := by
  unfold claimsOf at h
  split at h
  · cases h
  · next text htext =>
    split at h
    · cases h
    · next document hdocument =>
      split at h
      · cases h
      · next found hclaims =>
        obtain rfl := Except.ok.inj h
        obtain ⟨value, hvalue, hdocument⟩ := Option.bind_eq_some_iff.mp hdocument
        obtain ⟨members, hlists, hmembers⟩ := ofValue?_eq_some hdocument
        exact ⟨text, value, members, Bytes.eq_ofText_of_toText? htext, hvalue, hlists,
          says_of_ofMembers? hmembers hclaims⟩

/-! ### Genuine tokens -/

/-- The token carries the claims under a signature of the key. -/
structure Genuine (token : String) (key : Bytes) (claims : Claims) : Prop where
  keyLength : key.length = publicKeyLength
  signed : ∃ body payload signature footer, Encloses token body footer ∧
    Base64.decodeCompact body = some (payload ++ signature) ∧
      signature.length = signatureLength ∧
        Ed25519.verify key (signedBytes payload footer) signature = true ∧ Contains payload claims

theorem signedPayload_eq_ok {envelope : Envelope} :
    envelope.signedPayload key = .ok payload ↔
      Ed25519.verify key (signedBytes envelope.payload envelope.footer) envelope.signature = true ∧
        envelope.payload = payload := by
  simp only [Envelope.signedPayload]
  split_ifs with hverify
  · rw [Except.ok.injEq, and_iff_right hverify]
  · simp [hverify]

/-- What it takes to authenticate a text. -/
theorem authenticate_eq_ok : authenticate token key = .ok claims ↔
    checkLength publicKeyLength key = .ok () ∧
      ∃ envelope, Envelope.parse token = .ok envelope ∧
        Ed25519.verify key (signedBytes envelope.payload envelope.footer) envelope.signature =
            true ∧
          claimsOf envelope.payload = .ok claims := by
  simp only [authenticate, Outcome.bind_eq_ok, Outcome.mapError_eq_ok, signedPayload_eq_ok]
  constructor
  · rintro ⟨_, hkey, envelope, hparse, _, ⟨hverify, rfl⟩, hclaims⟩
    exact ⟨hkey, envelope, hparse, hverify, hclaims⟩
  · rintro ⟨hkey, envelope, hparse, hverify, hclaims⟩
    exact ⟨(), hkey, envelope, hparse, _, ⟨hverify, rfl⟩, hclaims⟩

/-- What is authenticated is genuine. -/
theorem genuine_of_authenticate (h : authenticate token key = .ok claims) :
    Genuine token key claims := by
  obtain ⟨hkey, envelope, hparse, hverify, hclaims⟩ := authenticate_eq_ok.mp h
  obtain ⟨body, hencloses, hbody, -, hlength⟩ := parse_eq_ok hparse
  exact {
    keyLength := (checkLength_eq_ok.mp hkey).2
    signed := ⟨body, envelope.payload, envelope.signature, envelope.footer, hencloses, hbody,
      hlength, hverify, claimsOf_eq_ok hclaims⟩ }

/-! ### Verdicts -/

/-- What verification answers about a token under a key, over all times. -/
inductive Verdict (token : String) (key : Bytes) : Prop
  | refused (fault : Fault) (hfault : fault ≠ .tokenExpired)
      (always : ∀ now, verify token key now = .error fault)
  | genuine (claims : Claims) (hgenuine : Genuine token key claims)
      (good : ∀ now, now < claims.expiresAt → verify token key now = .ok claims)
      (expired : ∀ now, claims.expiresAt ≤ now → verify token key now = .error .tokenExpired)

/-- No text is found to have expired before it is known to be genuine. -/
theorem authenticate_ne_tokenExpired (token : String) (key : Bytes) :
    authenticate token key ≠ .error .tokenExpired := by
  intro h
  simp only [authenticate, Outcome.bind_eq_error, Outcome.mapError_eq_error] at h
  rcases h with hkey | ⟨_, -, ⟨fault, -, hparse⟩ | ⟨envelope, -, hsigned | ⟨payload, -, hclaims⟩⟩⟩
  · unfold checkLength at hkey
    split_ifs at hkey <;> cases hkey
  · cases fault <;> cases hparse
  · simp only [Envelope.signedPayload] at hsigned
    split_ifs at hsigned
    cases hsigned
  · unfold claimsOf at hclaims
    split at hclaims
    · cases hclaims
    · split at hclaims
      · cases hclaims
      · split at hclaims <;> cases hclaims

/-- Every text has a verdict under every key. -/
theorem verdict (token : String) (key : Bytes) : Verdict token key := by
  cases h : authenticate token key with
  | error fault =>
    refine .refused fault ?_ fun now => ?_
    · rintro rfl
      exact authenticate_ne_tokenExpired token key h
    · rw [verify, h]
      rfl
  | ok claims =>
    have hverify := verify_of_authenticate h
    exact .genuine claims (genuine_of_authenticate h)
      (fun now hbefore => (hverify now).trans (if_pos hbefore))
      fun now hafter => (hverify now).trans (if_neg (Int.not_lt.mpr hafter))

end Identity.Token
