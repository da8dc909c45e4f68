/-
Identity/Url/Basic.lean

Addresses of resources, in the form in which they go over the wire, and the
text of such an address.
-/
import Identity.Host.Basic
import Identity.Url.Path

namespace Identity

/-- Who is asked for a resource, and on whose behalf.  Names and passwords are
kept with percent signs. -/
structure Url.Authority where
  username : List Char
  password : Option (List Char)
  host : Option Host
  portNumber : Option Nat
  deriving DecidableEq, Repr

/-- An address. -/
structure Url where
  scheme : List Char
  authority : Option Url.Authority
  path : List Char
  query : Option (List Char)
  fragment : Option (List Char)
  deriving DecidableEq, Repr

namespace Url

/-- A part behind its mark, if it is there. -/
def behind (mark : Char) (part : Option (List Char)) : List Char :=
  (part.map (mark :: ·)).getD []

namespace Authority

/-- The name and the password. -/
def credentials (a : Authority) : List Char := a.username ++ behind ':' a.password

/-- The authority as it stands in an address. -/
def text (a : Authority) : List Char :=
  let credentials := if a.credentials.isEmpty then [] else a.credentials ++ ['@']
  credentials ++ (a.host.map Host.text).getD [] ++ behind ':' (a.portNumber.map (Nat.toDigits 10))

end Authority

/-- What stands before the path: a path that starts like an authority is kept apart from one. -/
def beforePath (url : Url) : List Char :=
  match url.authority with
  | some authority => ['/', '/'] ++ authority.text
  | none => if ['/', '/'].isPrefixOf url.path then ['/', '.'] else []

/-- What is asked of the host: path and query. -/
def target (url : Url) : String := String.ofList (url.path ++ behind '?' url.query)

/-- The address as a text. -/
def text (url : Url) : String :=
  String.ofList (url.scheme ++ [':'] ++ url.beforePath) ++ url.target ++
    String.ofList (behind '#' url.fragment)

/-! ### Credentials -/

/-- The authority holds a name or a password that can be read: one without a
name needs a password for that, and a name in its place has to be a text. -/
def Authority.hasCredentials (a : Authority) : Bool :=
  let readable (part : List Char) : Bool := (Percent.decode part).toText?.isSome
  readable a.username && (!a.username.isEmpty || a.password.any readable)

/-- The address without a name and a password that can be read. -/
def withoutCredentials (url : Url) : Url :=
  { url with
    authority := url.authority.map fun a =>
      if a.hasCredentials then { a with username := [], password := none } else a }

/-- The address without what stays at home. -/
def withoutFragment (url : Url) : Url := { url with fragment := none }

end Url

end Identity
