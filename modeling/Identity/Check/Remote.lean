/-
Identity/Check/Remote.lean

The remote side of a check over HTTP.

A request is posted as JSON to a fixed path.  Only a response with a status
from 200 to 299 whose body is a JSON document with one truth value `allowed`
is an answer; everything else is a transport error, so that a broken service
never grants anything.  A body is read as bytes: the names of its
members have to be UTF-8, and strings that nobody asks for need not be.  Names
and passwords in an address are sent apart from it and never shown.
-/
import Identity.Check.Request
import Identity.Error
import Identity.Url.Reader

namespace Identity.Check.Remote

open Json

/-- The path of checks. -/
def path : String := "/authz/check"

/-- Where checks are posted to, below a base address. -/
def checkUrl (base : String) : String :=
  String.ofList (base.toList.reverse.dropWhile (· == '/')).reverse ++ path

/-- A character that a host name over HTTP does not hold. -/
def isBarred (c : Char) : Bool := "\"\x60\x7b\x7d".toList.contains c

/-- The length in bytes up to which an address goes over HTTP. -/
def longest : Nat := 65534

/-- The address goes over HTTP. -/
def isSendable (url : Url) : Bool :=
  !url.beforePath.any isBarred && url.text.utf8ByteSize ≤ longest

/-- No request was made. -/
def unmade (about : String) : Error :=
  .transport ("authz check request failed: builder error" ++ about)

/-- What is said about an address that has a part in an error. -/
def forUrl (url : Url) : String := " for url (" ++ url.text ++ ")"

/-- The address of checks below a base address, as it goes over the wire. -/
def address (base : String) : Outcome Url :=
  match Url.parse (checkUrl base) with
  | .error _ => .error (unmade "")
  | .ok url =>
    let url := url.withoutCredentials
    if isSendable url then .ok url else .error (unmade (forUrl url))

/-- What comes back for a request. -/
inductive Response where
  | closed
  | received (status : Nat) (body : Bytes)
  deriving DecidableEq, Repr

/-! ### Statuses and bodies -/

/-- The status ends an exchange; interim ones are followed by another. -/
def isFinal (status : Nat) : Bool := status = 101 || (200 ≤ status && status ≤ 999)

/-- The status reports success. -/
def isSuccess (status : Nat) : Bool := 200 ≤ status && status ≤ 299

/-- The content of a response; one without content has none whatever follows. -/
def content (status : Nat) (body : Bytes) : Bytes := if status = 204 then [] else body

/-- The answer that a value stands for: an object with one member `allowed`, or
its value alone in an array. -/
def ofValue? : Value → Option Bool
  | .array [allowed] => allowed.bool?
  | value => do
    let members ← value.members?
    let allowed ← single? "allowed" members
    (← allowed).bool?

/-- The answer that a body holds. -/
def decode? (body : Bytes) : Option Bool := do ofValue? (← Json.ofBytes? body)

/-! ### Answers -/

/-- No response arrived. -/
def requestFailed (url : Url) : Error :=
  .transport ("authz check request failed: error sending request" ++ forUrl url)

/-- A response arrived that reports no success. -/
def refused (status : Nat) : Error :=
  .transport ("authz check returned status " ++ toString status)

/-- A response arrived that holds no answer. -/
def malformedBody (url : Url) : Error :=
  .transport
    ("authz check returned a malformed body: error decoding response body" ++
      forUrl url.withoutFragment)

/-- The answer to a request, or why there is none. -/
def interpret (url : Url) : Response → Outcome Bool
  | .closed => .error (requestFailed url)
  | .received status body =>
    if !isFinal status then .error (requestFailed url)
    else if !isSuccess status then .error (refused status)
    else
      match decode? (content status body) with
      | some allowed => .ok allowed
      | none => .error (malformedBody url)

/-- What is answered to a request to the service at a base address, for which this comes
back. -/
def answer (base : String) (response : Response) : Outcome Bool := do
  let url ← address base
  interpret url response

end Identity.Check.Remote
