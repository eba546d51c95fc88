import ServiceLocator.Text.Utf8
import ServiceLocator.Url.Ipv4
import ServiceLocator.Url.Ipv6

/-!
Absolute URLs: their parts, and their normalized text.
-/
namespace ServiceLocator

namespace Url

/-- Why a text is no absolute URL. -/
inductive Fault where
  | relative
  | emptyHost
  | invalidPort
  | invalidIpv4
  | invalidIpv6
  | invalidDomain
  | invalidHostCharacter
deriving DecidableEq

/-- The wording of a fault. -/
def Fault.message : Fault → String
  | .relative => "relative URL without a base"
  | .emptyHost => "empty host"
  | .invalidPort => "invalid port number"
  | .invalidIpv4 => "invalid IPv4 address"
  | .invalidIpv6 => "invalid IPv6 address"
  | .invalidDomain => "invalid international domain name"
  | .invalidHostCharacter => "invalid domain character"

/-- A host: a domain name in ASCII, an address, or for schemes that give hosts no
meaning the text itself, possibly empty. -/
inductive Host where
  | domain (name : String)
  | ipv4 (address : Nat)
  | ipv6 (pieces : List Nat)
  | literal (text : String)
deriving DecidableEq

/-- The host as written in a URL. -/
def Host.text : Host → String
  | .domain name => name
  | .ipv4 address => Ipv4.text address
  | .ipv6 pieces => "[" ++ Ipv6.text pieces ++ "]"
  | .literal text => text

/-- A path: segments, each after a slash, or for schemes without a hierarchy a
text. -/
inductive Path where
  | segments (list : List String)
  | rootless (text : String)
deriving DecidableEq

/-- The path as written in a URL. -/
def Path.text : Path → String
  | .segments list => String.join (list.map ("/" ++ ·))
  | .rootless text => text

end Url

/-- An absolute URL. The username and password are percent-encoded and empty when
missing; the port is missing when it is the scheme's own. -/
structure Url where
  scheme : String
  username : String
  password : String
  host : Option Url.Host
  port : Option Nat
  path : Url.Path
  query : Option String
  fragment : Option String
deriving DecidableEq

namespace Url

/-- What a scheme says about the syntax after it. -/
inductive Kind where
  | file
  | special (port : Nat)
  | other
deriving DecidableEq

/-- The kind of a scheme in lower case, with the port that it implies. -/
def kind (scheme : String) : Kind :=
  if scheme = "http" ∨ scheme = "ws" then .special 80
  else if scheme = "https" ∨ scheme = "wss" then .special 443
  else if scheme = "ftp" then .special 21
  else if scheme = "file" then .file
  else .other

/-- Whether the URL names a host. -/
def hasHost (url : Url) : Bool :=
  match url.host with
  | some (.literal text) => text ≠ ""
  | some _ => true
  | none => false

/-- The username and password with the `@` after them. -/
def userinfoText (url : Url) : String :=
  if url.username = "" ∧ url.password = "" then ""
  else url.username ++ (if url.password = "" then "" else ":" ++ url.password) ++ "@"

/-- The host and port. -/
def hostText (url : Url) : String :=
  match url.host with
  | none => ""
  | some host =>
    host.text ++ match url.port with
      | some port => ":" ++ Numeral.text port
      | none => ""

/-- The part after the scheme and before the path. A path that begins with an
empty segment would read as a host, so `/.` keeps them apart. -/
def authorityText (url : Url) : String :=
  match url.host with
  | some _ => "//" ++ url.userinfoText ++ url.hostText
  | none =>
    match url.path with
    | .segments ("" :: _ :: _) => "/."
    | _ => ""

/-- The query with its question mark. -/
def queryText (url : Url) : String :=
  match url.query with
  | some query => "?" ++ query
  | none => ""

/-- The fragment with its number sign. -/
def fragmentText (url : Url) : String :=
  match url.fragment with
  | some fragment => "#" ++ fragment
  | none => ""

/-- The normalized text. -/
def text (url : Url) : String :=
  url.scheme ++ ":" ++ url.authorityText ++ url.path.text ++ url.queryText ++ url.fragmentText

/-- The URL without username and password. -/
def withoutUserinfo (url : Url) : Url :=
  { url with username := "", password := "" }

end Url

end ServiceLocator
