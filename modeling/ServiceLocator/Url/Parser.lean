import ServiceLocator.Url.Host
import ServiceLocator.Url.Path

/-!
Reading an absolute URL: blanks at the ends and line breaks anywhere are dropped,
then come scheme, authority, path, query and fragment. `Url.parse` gives the parts
or the first fault.
-/
namespace ServiceLocator.Url

/-! ## The text -/

/-- A control or a space. -/
def isBlank (c : Char) : Bool := c.toNat ≤ 0x20

/-- Tab, line feed and carriage return. -/
def isBreak (c : Char) : Bool := c == '\t' || c == '\n' || c == '\r'

/-- The text that counts. -/
def tidy (cs : List Char) : List Char :=
  (((cs.dropWhile isBlank).reverse.dropWhile isBlank).reverse).filter (!isBreak ·)

/-! ## Scheme -/

def isSchemeStart (c : Char) : Bool := Path.isAlpha c

def isSchemeChar (c : Char) : Bool :=
  Path.isAlpha c || ('0' ≤ c && c ≤ '9') || c == '+' || c == '-' || c == '.'

/-- The scheme in lower case, and what follows its colon. -/
def splitScheme? (cs : List Char) : Option (String × List Char) :=
  match cs.dropWhile isSchemeChar with
  | ':' :: rest =>
    if cs.head?.any isSchemeStart then
      some (String.ofList ((cs.takeWhile isSchemeChar).map Char.toLower), rest)
    else none
  | _ => none

/-! ## Authority -/

/-- Where an authority ends; special schemes also take a backslash for a slash. -/
def endsAuthority (special : Bool) (c : Char) : Bool :=
  c == '/' || c == '?' || c == '#' || (special && c == '\\')

/-- The text before the last `@` and after it. -/
def splitLastAt? : List Char → Option (List Char × List Char)
  | [] => none
  | c :: rest =>
    match splitLastAt? rest with
    | some (before, after) => some (c :: before, after)
    | none => if c = '@' then some ([], rest) else none

/-- The host, up to a colon outside brackets, and what follows it. -/
def splitHost (inside : Bool) : List Char → List Char × List Char
  | [] => ([], [])
  | c :: rest =>
    if c = ':' ∧ inside = false then ([], c :: rest)
    else
      let inside := if c = '[' then true else if c = ']' then false else inside
      let (host, after) := splitHost inside rest
      (c :: host, after)

/-- Read the digits of a port onto `port`. The port ends at a slash, backslash,
question mark or number sign. -/
def portFrom (port : Nat) : List Char → Except Fault (Nat × List Char)
  | [] => .ok (port, [])
  | c :: rest =>
    match Numeral.decimalDigit? c with
    | some digit =>
      if port * 10 + digit < 65536 then portFrom (port * 10 + digit) rest else .error .invalidPort
    | none =>
      if endsAuthority true c then .ok (port, c :: rest) else .error .invalidPort

/-- The port that a colon announces, unless it is the scheme's own or missing. -/
def portOf (own : Option Nat) : List Char → Except Fault (Option Nat × List Char)
  | ':' :: rest => do
    let (port, after) ← portFrom 0 rest
    if after.length = rest.length ∨ some port = own then .ok (none, after)
    else .ok (some port, after)
  | rest => .ok (none, rest)

/-- Username and password, host and port. -/
structure Authority where
  username : String
  password : String
  host : Host
  port : Option Nat

/-- The username and password in the text before an `@`. -/
def userinfo (cs : List Char) : String × String :=
  (percentEncode userinfoSet (cs.takeWhile (· != ':')),
    percentEncode userinfoSet ((cs.dropWhile (· != ':')).drop 1))

/-- Read an authority, and give back what follows it. An `@` with nothing before it
and an end right after it announces a host that is not there. -/
def authority (own : Option Nat) (cs : List Char) : Except Fault (Authority × List Char) := do
  let special := own.isSome
  let text := cs.takeWhile (!endsAuthority special ·)
  let after := cs.dropWhile (!endsAuthority special ·)
  let (login, place) :=
    match splitLastAt? text with
    | some (login, place) => (some login, place)
    | none => (none, text)
  if login = some [] ∧ place = [] ∧ after ≠ [] then throw .emptyHost
  let (username, password) := userinfo (login.getD [])
  let (hostText, afterHost) := splitHost false place
  if special ∧ hostText = [] then throw .emptyHost
  let host ← if special then Host.parse hostText else Host.parseLiteral hostText
  if host = .literal "" ∧ afterHost.head? = some ':' then throw .emptyHost
  let (port, rest) ← portOf own (afterHost ++ after)
  if host = .literal "" ∧ ¬(username = "" ∧ password = "") then throw .emptyHost
  return (⟨username, password, host, port⟩, rest)

/-! ## Path, query and fragment -/

def endsPath (c : Char) : Bool := c == '?' || c == '#'

/-- The query that a question mark announces, and the fragment that a number sign
announces. -/
def queryAndFragment (set : EncodeSet) (cs : List Char) : Option String × Option String :=
  let fragment :=
    match cs.dropWhile (· != '#') with
    | _ :: text => some (percentEncode fragmentSet text)
    | [] => none
  match cs with
  | '?' :: rest => (some (percentEncode set (rest.takeWhile (· != '#'))), fragment)
  | _ => (none, fragment)

/-- The path of a hierarchy after an authority. Under a special scheme it is never
empty. -/
def pathAfterAuthority (special : Bool) (cs : List Char) : Path :=
  let isSlash := if special then Path.isAnySlash else Path.isSlash
  match cs with
  | [] => if special then .segments [""] else .segments []
  | c :: rest => Path.parse isSlash (if isSlash c then rest else c :: rest)

/-- Assemble a URL with an authority. -/
def withAuthority (scheme : String) (own : Option Nat) (cs : List Char) : Except Fault Url := do
  let (auth, rest) ← authority own cs
  let special := own.isSome
  let (query, fragment) :=
    queryAndFragment (if special then specialQuerySet else querySet) (rest.dropWhile (!endsPath ·))
  return {
    scheme, query, fragment
    username := auth.username
    password := auth.password
    host := some auth.host
    port := auth.port
    path := pathAfterAuthority special (rest.takeWhile (!endsPath ·)) }

/-- Assemble a URL without an authority. -/
def withoutAuthority (scheme : String) (cs : List Char) : Url :=
  let text := cs.takeWhile (!endsPath ·)
  let (query, fragment) := queryAndFragment querySet (cs.dropWhile (!endsPath ·))
  { scheme, query, fragment
    username := ""
    password := ""
    host := none
    port := none
    path :=
      match text with
      | '/' :: rest => Path.parse Path.isSlash rest
      | _ => .rootless (percentEncode controls text) }

/-- The host of a file, and what follows it. A drive is no host. -/
def fileHost (cs : List Char) : Except Fault (Option Host × List Char) := do
  let text := cs.takeWhile (!endsAuthority true ·)
  let after := cs.dropWhile (!endsAuthority true ·)
  if Path.isDrive text then return (none, cs)
  if text = [] then return (none, after)
  let host ← Host.parse text
  return (if host = .domain "localhost" then none else some host, after)

/-- Assemble the URL of a file. A drive takes the place of a host. -/
def file (cs : List Char) : Except Fault Url := do
  let (host, rest) ←
    match cs with
    | a :: b :: rest =>
      if Path.isAnySlash a && Path.isAnySlash b then fileHost rest else .ok (none, cs)
    | _ => .ok (none, cs)
  let text := rest.takeWhile (!endsPath ·)
  let (query, fragment) := queryAndFragment specialQuerySet (rest.dropWhile (!endsPath ·))
  let (path, onDrive) :=
    match text with
    | c :: later => Path.parseFile (if Path.isAnySlash c then later else text)
    | [] => Path.parseFile []
  return {
    scheme := "file"
    username := ""
    password := ""
    host := some (if onDrive then .literal "" else host.getD (.literal ""))
    port := none
    path, query, fragment }

/-- Read an absolute URL. -/
def parse (s : String) : Except Fault Url :=
  match splitScheme? (tidy s.toList) with
  | none => .error .relative
  | some (scheme, rest) =>
    match kind scheme with
    | .file => file rest
    | .special port => withAuthority scheme (some port) (rest.dropWhile Path.isAnySlash)
    | .other =>
      match rest with
      | '/' :: '/' :: after => withAuthority scheme none after
      | _ => .ok (withoutAuthority scheme rest)

end ServiceLocator.Url
