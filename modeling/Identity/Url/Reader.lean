/-
Identity/Url/Reader.lean

Reading an address as people write it.

Blanks and control characters around an address do not belong to it, nor do
tabs and line ends within it.  For the schemes of the web a backslash is as
good as a slash, and any number of them may stand before the host, which has
to be there; for other schemes two slashes announce a host, and without a
slash the rest is no path but a text of its own.
-/
import Identity.Url.Basic

namespace Identity.Url

/-- Why a text is no address. -/
inductive Fault where
  | noScheme
  | host (fault : Host.Fault)
  | invalidPort
  deriving DecidableEq, Repr

/-- What is said about a text that is no address. -/
def Fault.message : Fault → String
  | noScheme => "relative URL without a base"
  | host fault => fault.message
  | invalidPort => "invalid port number"

/-! ### Characters -/

/-- Tabs and line ends are no part of an address. -/
def isIgnored (c : Char) : Bool := c = '\t' || c = '\n' || c = '\r'

/-- Blanks and control characters are no part of an address at its ends. -/
def isMargin (c : Char) : Bool := c.toNat ≤ 0x20

/-- The characters of a text that belong to an address. -/
def significant (text : String) : List Char :=
  let cs := text.toList.dropWhile isMargin
  ((cs.reverse.dropWhile isMargin).reverse).filter fun c => !isIgnored c

/-- A character that ends a path. -/
def endsPath (c : Char) : Bool := c = '?' || c = '#'

/-! ### Schemes -/

/-- What is known about a scheme. -/
inductive Kind where
  | web (defaultPort : Nat)
  | file
  | other
  deriving DecidableEq, Repr

namespace Kind

/-- What is known about the scheme of the given name. -/
def ofScheme (scheme : List Char) : Kind :=
  match String.ofList scheme with
  | "http" | "ws" => web 80
  | "https" | "wss" => web 443
  | "ftp" => web 21
  | "file" => file
  | _ => other

/-- The number among the ports that goes without saying. -/
def defaultPort? : Kind → Option Nat
  | web number => some number
  | file | other => none

/-- The character stands between segments. -/
def isSlash (kind : Kind) (c : Char) : Bool := c = '/' || (c = '\\' && kind != other)

/-- The character ends an authority. -/
def endsAuthority (kind : Kind) (c : Char) : Bool := kind.isSlash c || endsPath c

end Kind

/-- A character that a scheme holds after its first letter. -/
def schemeHolds (c : Char) : Bool := c.isAlphanum || c = '+' || c = '-' || c = '.'

/-- The scheme in small letters, and the text after its colon. -/
def cutScheme? (text : List Char) : Option (List Char × List Char) :=
  match text.span schemeHolds with
  | (first :: scheme, ':' :: rest) =>
    if first.isAlpha then some ((first :: scheme).map Char.toLower, rest) else none
  | _ => none

/-! ### Authorities -/

/-- The text before a mark, and the one after it, if it is there. -/
def cutAt (mark : Char) (text : List Char) : List Char × Option (List Char) :=
  match text.span (· != mark) with
  | (before, []) => (before, none)
  | (before, _ :: after) => (before, some after)

/-- The text before the last mark, if it is there, and the one after it. -/
def cutAtLast (mark : Char) (text : List Char) : Option (List Char) × List Char :=
  match cutAt mark text.reverse with
  | (after, before) => (before.map List.reverse, after.reverse)

/-- A character that a name or a password can hold. -/
def credentialHolds (c : Char) : Bool := Path.holds c && !"/:;=@[\\]^|".toList.contains c

/-- The name and the password that a text gives; an empty password is none. -/
def credentials (text : List Char) : List Char × Option (List Char) :=
  let (username, password) := cutAt ':' text
  (Percent.encode credentialHolds username,
    (password.filter (!·.isEmpty)).map (Percent.encode credentialHolds))

/-- The text of a host, and the rest from the first colon outside brackets on. -/
def cutHost (isInside : Bool) : List Char → List Char × List Char
  | [] => ([], [])
  | c :: rest =>
    if c = ':' && !isInside then ([], c :: rest)
    else
      let (host, rest) := cutHost (c = '[' || (isInside && c != ']')) rest
      (c :: host, rest)

/-- Ports have numbers below this one. -/
def portBound : Nat := 65536

/-- The number among the ports that digits give; none if it goes without saying. -/
def portOf (kind : Kind) (digits : List Char) : Except Fault (Option Nat) :=
  let number := digits.foldl (fun n c => n * 10 + (c.toNat - 48)) 0
  if digits.isEmpty then .ok none
  else if portBound ≤ number then .error .invalidPort
  else .ok (if kind.defaultPort? = some number then none else some number)

/-- The number after a host, and what follows it; only a backslash may. -/
def cutPort (kind : Kind) (text : List Char) : Except Fault (Option Nat × List Char) :=
  match text with
  | ':' :: text => do
    let (digits, rest) := text.span Char.isDigit
    let number ← portOf kind digits
    if rest.isEmpty || rest.head? = some '\\' then return (number, rest) else throw .invalidPort
  | _ => .ok (none, [])

/-- The host that a text names, for a scheme of a kind. -/
def hostOf (kind : Kind) (text : List Char) : Except Fault (Option Host) :=
  if text.isEmpty then
    if kind = .other then .ok none else .error (.host .empty)
  else
    ((if kind = .other then Host.ofPlainText text else Host.ofText text).map some).mapError .host

/-- The authority that a text gives, and what it leaves to the path. -/
def authorityOf (kind : Kind) (text rest : List Char) : Except Fault (Authority × List Char) := do
  let (info, place) := cutAtLast '@' text
  if info = some [] && place.isEmpty && !rest.isEmpty then throw (.host .empty)
  let (username, password) := credentials (info.getD [])
  let (name, afterName) := cutHost false place
  let host ← hostOf kind name
  if host.isNone && !afterName.isEmpty then throw (.host .empty)
  let (number, left) ← cutPort kind afterName
  if host.isNone && !(username.isEmpty && password.isNone) then throw (.host .empty)
  return (⟨username, password, host, number⟩, left)

/-! ### Paths, queries and fragments -/

/-- A character that a query can hold. -/
def queryHolds (kind : Kind) (c : Char) : Bool :=
  Percent.isVisible c && !" \"#<>".toList.contains c && !(c = '\'' && kind != .other)

/-- A character that a fragment can hold. -/
def fragmentHolds (c : Char) : Bool :=
  Percent.isVisible c && !" \"<>\x60".toList.contains c

/-- The path that a text gives after an authority.  For a known scheme there
always is one. -/
def pathText (kind : Kind) (text : List Char) : List Char :=
  if text.isEmpty && kind = .other then []
  else (Path.ofText kind.isSlash (if text.head?.any kind.isSlash then text.drop 1 else text)).text

/-- An address with a path, from what follows the path. -/
def complete (kind : Kind) (scheme : List Char) (authority : Option Authority)
    (path rest : List Char) : Url :=
  let (before, fragment) := cutAt '#' rest
  { scheme := scheme
    authority := authority
    path := path
    query := (cutAt '?' before).2.map (Percent.encode (queryHolds kind))
    fragment := fragment.map (Percent.encode fragmentHolds) }

/-- An address from its authority on. -/
def afterSlashes (kind : Kind) (scheme text : List Char) : Except Fault Url := do
  let (place, rest) := text.span fun c => !kind.endsAuthority c
  let (authority, left) ← authorityOf kind place rest
  let (path, rest) := rest.span fun c => !endsPath c
  return complete kind scheme (some authority) (pathText kind (left ++ path)) rest

/-! ### Files -/

/-- The host of a file, which may be this one. -/
def fileHost (text : List Char) : Except Fault (Option Host) := do
  if text.isEmpty then return none
  let host ← (Host.ofText text).mapError .host
  return if host = .name "localhost".toList then none else some host

/-- The path of a file: the name of a drive is written with a colon, and no
slashes stand before the first segment that is not empty. -/
def filePath (text : List Char) : List Char :=
  match (Path.ofText (Kind.isSlash .file) text).dropWhile List.isEmpty with
  | [] => ['/']
  | first :: rest =>
    Path.text ((if Path.isDrive first then first.take 1 ++ [':'] else first) :: rest)

/-- The address of a file, from what follows the scheme. -/
def fileOf (scheme text : List Char) : Except Fault Url := do
  let (slashes, rest) := text.span (Kind.isSlash .file)
  let (place, _) := rest.span fun c => !Kind.endsAuthority .file c
  let named := slashes.length = 2 && !Path.isDrive place
  let host ← if named then fileHost place else .ok none
  let (path, rest) := (if named then rest.drop place.length else text).span fun c => !endsPath c
  return complete .file scheme (some ⟨[], none, host, none⟩) (filePath path) rest

/-! ### Addresses -/

/-- The address that a text stands for. -/
def parse (text : String) : Except Fault Url :=
  match cutScheme? (significant text) with
  | none => .error .noScheme
  | some (scheme, rest) =>
    let kind := Kind.ofScheme scheme
    match kind with
    | .web _ => afterSlashes kind scheme (rest.dropWhile kind.isSlash)
    | .file => fileOf scheme rest
    | .other =>
      match rest with
      | '/' :: '/' :: rest => afterSlashes kind scheme rest
      | _ =>
        let (path, rest) := rest.span fun c => !endsPath c
        let path :=
          if path.head? = some '/' then pathText kind path
          else Percent.encode Percent.isVisible path
        .ok (complete kind scheme none path rest)

end Identity.Url
