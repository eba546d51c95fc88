import ServiceLocator.Http.Headers
import ServiceLocator.Text.Utf8

/-!
Header fields as they travel. A field name is a token and counts without case; a
field value has no controls besides tabs and no blanks around it. Request headers
have to be legal as a whole, and not too many; of the lines of a reply, those that
cannot be read as text are passed over.
-/
namespace ServiceLocator.Field

/-- The characters of field names. -/
def isNameChar (c : Char) : Bool :=
  c.isAlphanum || "!#$%&\x27*+-.^_\x60|~".toList.contains c

/-- The most characters of a field name. -/
def maxNameLength : Nat := 65535

/-- Whether a header name can be sent. -/
def isName (name : String) : Bool :=
  name ≠ "" && name.toList.all isNameChar && name.length ≤ maxNameLength

/-- The characters of field values. -/
def isValueChar (c : Char) : Bool := (0x20 ≤ c.toNat && c.toNat ≠ 0x7F) || c == '\t'

/-- Whether a header value can be sent. -/
def isValue (value : String) : Bool := value.toList.all isValueChar

/-- A text without the spaces and tabs around it. -/
def trim (value : String) : String :=
  let isBlank (c : Char) : Bool := c == ' ' || c == '\t'
  String.ofList ((value.toList.dropWhile isBlank).reverse.dropWhile isBlank).reverse

/-- The most headers that there is room for. -/
def maxCount : Nat := 24576

/-- Why headers cannot be sent. -/
inductive Fault where
  | badName (given : String)
  | badValue (name : String)
  | tooMany
deriving DecidableEq

/-- The wording of a fault. -/
def Fault.message : Fault → String
  | .badName given => given ++ ": invalid HTTP header name"
  | .badValue name => name ++ ": failed to parse header value"
  | .tooMany => "size overflows MAX_SIZE"

/-- Add headers to fields, the name of each checked before its value. Spellings of
one name are one field, which takes the value of the last of them. -/
def add (fields : Headers) : List (String × String) → Except Fault Headers
  | [] => .ok fields
  | (name, value) :: rest =>
    if !isName name then .error (.badName name)
    else if !isValue value then .error (.badValue (asciiLower name))
    else add (fields.insert (asciiLower name) value) rest

/-- The fields of headers, under lower-case names. Room is made for all of them before the first
is looked at. -/
def ofHeaders (h : Headers) : Except Fault Headers :=
  if maxCount < h.entries.length then .error .tooMany else add ∅ h.entries

/-- A header line of a reply. Its value can be any bytes. -/
structure Line where
  name : String
  value : Bytes
deriving DecidableEq

/-- The bytes of values that can be read: what is visible in ASCII, spaces and tabs. -/
def isReadable (b : UInt8) : Bool := (0x20 ≤ b && b < 0x7F) || b == 0x09

/-- The value of a line as text. -/
def Line.text? (line : Line) : Option String :=
  if line.value.all isReadable then
    some (trim (String.ofList (line.value.map fun b => Char.ofNat b.toNat)))
  else none

/-- Add a line of a reply to its headers. A line that cannot be read leaves the value
of an earlier one in place. -/
def addLine (h : Headers) (line : Line) : Headers :=
  match line.text? with
  | some value => h.insert (asciiLower line.name) value
  | none => h

/-- The headers of a reply, under lower-case names. -/
def ofLines (lines : List Line) : Headers := lines.foldl addLine ∅

end ServiceLocator.Field
