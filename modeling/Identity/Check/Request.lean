/-
Identity/Check/Request.lean

Questions of the form "may this principal do this?".

A question names a principal, a permission and perhaps a resource.  A bare
action is qualified by the resource: `read` on `content` asks for
`content:read`.
-/
import Identity.Json.Reader
import Identity.Json.Writer
import Identity.Permission

namespace Identity.Check

open Json

/-- A question about a permission. -/
structure Request where
  principal : String
  permission : String
  resource : String
  deriving DecidableEq, Repr

namespace Request

/-- The permission contains a separator. -/
def isQualified (permission : String) : Bool := permission.toList.contains Permission.separator

/-- The permission that is asked for. -/
def required (request : Request) : String :=
  if !request.resource.isEmpty && !isQualified request.permission then
    request.resource ++ ":" ++ request.permission
  else request.permission

/-- The text of a request. -/
def encode (request : Request) : String :=
  String.ofList <| objectText
    [("user_id", stringText request.principal), ("permission", stringText request.permission),
      ("resource", stringText request.resource)]

/-- The request whose parts have the given values; a resource that is absent is
empty. -/
def ofValues? (principal permission : Value) (resource : Option Value) : Option Request := do
  return {
    principal := ← principal.text?
    permission := ← permission.text?
    resource := ← (match resource with
      | none => some ""
      | some value => value.text?) }

/-- The request that a value stands for: an object, or the parts in order. -/
def ofValue? : Value → Option Request
  | .array [principal, permission] => ofValues? principal permission none
  | .array [principal, permission, resource] => ofValues? principal permission (some resource)
  | value => do
    let members ← value.members?
    let principal ← single? "user_id" members
    let permission ← single? "permission" members
    let resource ← single? "resource" members
    ofValues? (← principal) (← permission) resource

end Request

end Identity.Check
