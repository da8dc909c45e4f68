/-
Identity/Host/Basic.lean

The host that an address names.

A host is an address in numbers or a name.  Where a scheme is known, a name is
read as people write it and brought to the form that goes over the wire; for
any other scheme nothing is known about names, so that one is kept as it is
written.
-/
import Identity.Host.Ipv6
import Identity.Host.Name
import Identity.Url.Percent

namespace Identity

/-- A host. -/
inductive Host where
  | name (text : List Char)
  | ipv4 (address : Host.Ipv4)
  | ipv6 (address : Host.Ipv6)
  deriving DecidableEq, Repr

namespace Host

/-- Why a text names no host. -/
inductive Fault where
  | empty
  | invalidName
  | invalidCharacter
  | invalidIpv4
  | invalidIpv6
  deriving DecidableEq, Repr

/-- What is said about a text that names no host. -/
def Fault.message : Fault → String
  | empty => "empty host"
  | invalidName => "invalid international domain name"
  | invalidCharacter => "invalid domain character"
  | invalidIpv4 => "invalid IPv4 address"
  | invalidIpv6 => "invalid IPv6 address"

/-- The host as it stands in an address. -/
def text : Host → List Char
  | name text => text
  | ipv4 address => address.text
  | ipv6 address => '[' :: address.text ++ [']']

/-- The text between brackets. -/
def unbracketed? (text : List Char) : Option (List Char) :=
  if text.getLast? = some ']' then some (text.drop 1).dropLast else none

/-- The host in brackets, or the one that is read otherwise. -/
def bracketedOr (otherwise : List Char → Except Fault Host) (text : List Char) :
    Except Fault Host :=
  if text.head? = some '[' then
    match unbracketed? text >>= Ipv6.ofText? with
    | some address => .ok (ipv6 address)
    | none => .error .invalidIpv6
  else otherwise text

/-- The host with a name that goes over the wire. -/
def ofName (wire : List Char) : Except Fault Host :=
  if wire.isEmpty then .error .empty
  else if Ipv4.isMeant wire then
    match Ipv4.ofName? wire with
    | some address => .ok (ipv4 address)
    | none => .error .invalidIpv4
  else .ok (name wire)

/-- The host that a text names where the scheme is known. -/
def ofText : List Char → Except Fault Host :=
  bracketedOr fun text =>
    match (Percent.decode text).toText? >>= fun written => Name.ofText? written.toList with
    | some wire => ofName wire
    | none => .error .invalidName

/-- The character cannot stand in a name of which nothing is known. -/
def isBarred (c : Char) : Bool := "\x00\t\n\r #/:<>?@[\\]^|".toList.contains c

/-- The host that a text names where nothing is known about names. -/
def ofPlainText : List Char → Except Fault Host :=
  bracketedOr fun text =>
    if text.any isBarred then .error .invalidCharacter
    else .ok (name (Percent.encode Percent.isVisible text))

end Host

end Identity
