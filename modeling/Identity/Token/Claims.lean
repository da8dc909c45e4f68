/-
Identity/Token/Claims.lean

What a token says, and its JSON form.

A document holds the members `sub`, `sid`, `aud`, `exp`, `iat`, and, where
there is something to say, `ctx` and `authz_ver`.  It is written in that
order, without white space.  Reading ignores members it does not know,
refuses known ones that are repeated, and accepts the values in that order
without their names as well.
-/
import Identity.Json.Reader
import Identity.Json.Writer
import Identity.Time.Rfc3339
import Identity.Token.Context

namespace Identity.Token

open Json

/-- What a token says about a session. -/
structure Claims where
  subject : String
  sessionId : String
  audience : String
  context : Context
  expiresAt : Int
  authzVersion : Option Int64
  deriving DecidableEq

/-! ### Documents -/

/-- The members of a document, with both instants as texts. -/
structure Document where
  subject : String
  sessionId : String
  audience : String
  expiry : String
  issued : String
  context : Context
  authzVersion : Option Int64
  deriving DecidableEq

namespace Document

/-! ### Writing -/

/-- An object of texts. -/
def contextText (context : Context) : List Char :=
  objectText (context.entries.map fun e => (e.1, stringText e.2))

/-- An integer. -/
def integerText (n : Int64) : List Char :=
  if n.toInt < 0 then '-' :: Nat.toDigits 10 n.toInt.natAbs
  else Nat.toDigits 10 n.toInt.natAbs

/-- The member for a context, unless it is empty. -/
def contextMember (context : Context) : List (String × List Char) :=
  if context.entries.isEmpty then [] else [("ctx", contextText context)]

/-- The member for a version, if there is one. -/
def versionMember (version : Option Int64) : List (String × List Char) :=
  version.toList.map fun n => ("authz_ver", integerText n)

/-- The text of a document. -/
def encode (document : Document) : String :=
  String.ofList <| objectText <|
    [("sub", stringText document.subject), ("sid", stringText document.sessionId),
        ("aud", stringText document.audience), ("exp", stringText document.expiry),
        ("iat", stringText document.issued)] ++
      contextMember document.context ++ versionMember document.authzVersion

/-! ### Reading -/

/-- A context: an object whose members are texts. -/
def context? (value : Value) : Option Context := do
  let members ← value.members?
  let entries ← members.mapM fun m => m.2.text?.map fun text => (m.1, text)
  return .ofList entries

/-- A version: absent, `null`, or an integer of 64 bits. -/
def version? : Option Value → Option (Option Int64)
  | none | some .null => some none
  | some value => do
    let n ← value.integer?
    if Int64.minValue.toInt ≤ n ∧ n ≤ Int64.maxValue.toInt then some (some (.ofInt n)) else none

/-- The document whose members have the given values. -/
def ofValues? (subject sessionId audience expiry issued : Value) (context version : Option Value) :
    Option Document := do
  return {
    subject := ← subject.text?
    sessionId := ← sessionId.text?
    audience := ← audience.text?
    expiry := ← expiry.text?
    issued := ← issued.text?
    context := ← (match context with
      | none => some .empty
      | some value => context? value)
    authzVersion := ← version? version }

/-- The document that an object stands for. -/
def ofMembers? (members : List (String × Value)) : Option Document := do
  let subject ← single? "sub" members
  let sessionId ← single? "sid" members
  let audience ← single? "aud" members
  let expiry ← single? "exp" members
  let issued ← single? "iat" members
  let context ← single? "ctx" members
  let version ← single? "authz_ver" members
  ofValues? (← subject) (← sessionId) (← audience) (← expiry) (← issued) context version

/-- The document that a value stands for. -/
def ofValue? : Value → Option Document
  | .array (sub :: sid :: aud :: exp :: iat :: rest) =>
    match rest with
    | [] => ofValues? sub sid aud exp iat none none
    | [ctx] => ofValues? sub sid aud exp iat (some ctx) none
    | [ctx, version] => ofValues? sub sid aud exp iat (some ctx) (some version)
    | _ => none
  | value => do ofMembers? (← value.members?)

/-- The document that a text holds. -/
def decode? (text : String) : Option Document := do ofValue? (← Json.parse? text)

end Document

/-! ### Claims in documents -/

/-- The document of some claims, unless an instant lies outside the calendar;
then that instant. -/
def Claims.document (claims : Claims) (issuedAt : Int) : Except Int Document :=
  match Rfc3339.format? claims.expiresAt, Rfc3339.format? issuedAt with
  | some expiry, some issued =>
    .ok { subject := claims.subject
          sessionId := claims.sessionId
          audience := claims.audience
          expiry := expiry
          issued := issued
          context := claims.context
          authzVersion := claims.authzVersion }
  | none, _ => .error claims.expiresAt
  | _, none => .error issuedAt

/-- The claims of a document, unless its expiry is no instant. -/
def Document.claims? (document : Document) : Option Claims := do
  return {
    subject := document.subject
    sessionId := document.sessionId
    audience := document.audience
    context := document.context
    expiresAt := ← Rfc3339.parse? document.expiry
    authzVersion := document.authzVersion }

end Identity.Token
