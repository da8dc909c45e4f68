/-
Identity/Database/Address.lean

Where a database is, as an address says.

The address itself gives the host, one of its ports, a name and a password;
its query may say otherwise and may set further options.  Options are taken in
order, the last of two wins, and unknown ones are passed over.  A host that
starts with a slash is the directory of a socket on the same machine.
-/
import Identity.Host.Ipv6
import Identity.Text.Quoted
import Identity.Text.Unsigned
import Identity.Text.Utf8
import Identity.Url.Form

namespace Identity.Database

/-- What an address says about the way to a database on the same machine. -/
structure Address where
  socket : Option String
  portNumber : Nat
  deriving DecidableEq, Repr

namespace Address

/-! ### Faults -/

/-- Why a text does not say where a database is. -/
inductive Fault where
  | url (fault : Url.Fault)
  | text (fault : Utf8.Fault)
  | number (fault : Unsigned.Fault)
  | hostAddress
  | securityMode (value : String)
  deriving DecidableEq, Repr

/-- What is said before a fault in a configuration. -/
def configuration : String := "error with configuration: "

/-- What is said about a text that does not say where a database is. -/
def Fault.message : Fault → String
  | url fault => fault.message
  | text fault => fault.message
  | number fault => fault.message
  | hostAddress => "invalid IP address syntax"
  | securityMode value =>
    configuration ++ "unknown value " ++ Text.quoted value ++ " for \x60ssl_mode\x60"

/-! ### Options -/

/-- How a connection can be secured. -/
def securityModes : List String :=
  ["disable", "allow", "prefer", "require", "verify-ca", "verify-full"]

/-- The text is an address of a host. -/
def isHostAddress (text : String) : Bool :=
  (Host.Ipv4.ofDecimal? text.toList).isSome || (Host.Ipv6.ofText? text.toList).isSome

/-- The text is the directory of a socket. -/
def isDirectory (text : String) : Bool := text.toList.head? = some '/'

/-- The number below a bound that a text stands for. -/
def number (bound : Nat) (text : String) : Except Fault Nat :=
  (Unsigned.parseBelow bound text).mapError .number

/-- The host lies in a directory, or elsewhere. -/
def withHost (a : Address) (host : String) : Address :=
  if isDirectory host then { a with socket := some host } else a

/-- Sets one option. -/
def withOption (a : Address) (name value : String) : Except Fault Address :=
  match name with
  | "sslmode" | "ssl-mode" =>
    if securityModes.contains (value.map Char.toLower) then .ok a
    else .error (.securityMode value)
  | "statement-cache-capacity" => do
    let _ ← number UInt64.size value
    return a
  | "port" => do
    return { a with portNumber := ← number Url.portBound value }
  | "hostaddr" => if isHostAddress value then .ok a else .error .hostAddress
  | "host" => .ok (a.withHost value)
  | _ => .ok a

/-! ### Reading -/

/-- The one of the ports of a host where databases listen. -/
def defaultPort : Nat := 5432

/-- The text of a part of an address. -/
def decode (part : List Char) : Except Fault String :=
  (Utf8.decode (Percent.decode part)).mapError .text

/-- The directory that a host is, if it is one. -/
def directory? (host : List Char) : Except Fault (Option String) :=
  if (Percent.decode host).head? = some ('/'.toNat.toUInt8) then some <$> decode host
  else .ok none

/-- Where the database is that an address names. -/
def ofUrl (url : Url) : Except Fault Address := do
  let place := url.authority.getD ⟨[], none, none, none⟩
  let socket ← directory? ((place.host.map Host.text).getD [])
  let _ ← decode place.username
  let _ ← decode (place.password.getD [])
  let _ ← decode (url.path.dropWhile (· = '/'))
  (Url.Form.entries (url.query.getD [])).foldlM
    (fun a (name, value) => a.withOption name value)
    ⟨socket, place.portNumber.getD defaultPort⟩

/-- Where the database is that a text names. -/
def parse (text : String) : Except Fault Address := do
  ofUrl (← (Url.parse text).mapError .url)

/-! ### Sockets -/

/-- The path of the socket. -/
def socketPath? (a : Address) : Option String :=
  a.socket.map fun directory => directory ++ "/.s.PGSQL." ++ toString a.portNumber

/-- The length in bytes that the path of a socket stays below. -/
def socketPathBound : Nat := 108

/-- Why there is no connection to a database that is not running. -/
def obstacle (a : Address) : String :=
  match a.socketPath? with
  | none => "No such file or directory (os error 2)"
  | some path =>
    if path.toList.contains '\x00' then "paths must not contain interior null bytes"
    else if socketPathBound ≤ path.utf8ByteSize then "path must be shorter than SUN_LEN"
    else "No such file or directory (os error 2)"

end Address

end Identity.Database
