import ServiceLocator.Json.Printer
import ServiceLocator.Text.Quoted

/-!
Faults of JSON text: what is wrong, and after which byte it was found.
-/
namespace ServiceLocator.Json

/-- A value of the wrong kind, as a fault shows it. -/
inductive Found where
  | null
  | bool (b : Bool)
  | number (n : Number)
  | string (s : String)
  | array
  | object
deriving DecidableEq

/-- What is wrong. -/
inductive Cause where
  | endInValue
  | endInList
  | endInObject
  | endInString
  | expectedValue
  | expectedWord
  | expectedColon
  | expectedCommaOrEndOfList
  | expectedCommaOrEndOfObject
  | keyNotString
  | trailingComma
  | trailingCharacters
  | invalidNumber
  | numberOutOfRange
  | invalidEscape
  | invalidCodePoint
  | loneSurrogate
  | unpairedSurrogate
  | controlCharacter
  | tooDeep
  | wrongKind (found : Found) (expected : String)
  | wrongLength (length : Nat) (expected : String)
  | missingField (name : String)
  | duplicateField (name : String)
  | other (text : String)
deriving DecidableEq

/-- The value as a fault shows it. -/
def Found.text : Found → String
  | .null => "null"
  | .bool b => "boolean `" ++ (if b then "true" else "false") ++ "`"
  | .number (.integer n) => "integer `" ++ Numeral.textInt n ++ "`"
  | .number (.real x) => "floating point `" ++ String.ofList (realChars x) ++ "`"
  | .string s => "string " ++ Quoted.text s
  | .array => "sequence"
  | .object => "map"

/-- The value as a fault shows it. -/
def Found.ofValue : Value → Found
  | .null => .null
  | .bool b => .bool b
  | .number n => .number n
  | .string s => .string s
  | .array _ => .array
  | .object _ => .object

/-- The wording of a cause. -/
def Cause.message : Cause → String
  | .endInValue => "EOF while parsing a value"
  | .endInList => "EOF while parsing a list"
  | .endInObject => "EOF while parsing an object"
  | .endInString => "EOF while parsing a string"
  | .expectedValue => "expected value"
  | .expectedWord => "expected ident"
  | .expectedColon => "expected `:`"
  | .expectedCommaOrEndOfList => "expected `,` or `]`"
  | .expectedCommaOrEndOfObject => "expected `,` or `\x7d`"
  | .keyNotString => "key must be a string"
  | .trailingComma => "trailing comma"
  | .trailingCharacters => "trailing characters"
  | .invalidNumber => "invalid number"
  | .numberOutOfRange => "number out of range"
  | .invalidEscape => "invalid escape"
  | .invalidCodePoint => "invalid unicode code point"
  | .loneSurrogate => "lone leading surrogate in hex escape"
  | .unpairedSurrogate => "unexpected end of hex escape"
  | .controlCharacter => "control character (\\u0000-\\u001F) found while parsing a string"
  | .tooDeep => "recursion limit exceeded"
  | .wrongKind found expected => "invalid type: " ++ found.text ++ ", expected " ++ expected
  | .wrongLength length expected =>
    "invalid length " ++ Numeral.text length ++ ", expected " ++ expected
  | .missingField name => "missing field `" ++ name ++ "`"
  | .duplicateField name => "duplicate field `" ++ name ++ "`"
  | .other text => text

/-- A place in a text: the line, counted from one, and the bytes before it on that
line. -/
structure Place where
  line : Nat
  column : Nat
deriving DecidableEq

/-- The place after the first `read` bytes. -/
def Place.after (input : Bytes) (read : Nat) : Place :=
  let before := input.take read
  ⟨1 + before.count 0x0A, (before.reverse.takeWhile (· != 0x0A)).length⟩

/-- What is wrong, and where, if it was found in a text. -/
structure Fault where
  cause : Cause
  place : Option Place
deriving DecidableEq

/-- The wording of a fault. -/
def Fault.message (fault : Fault) : String :=
  fault.cause.message ++
    match fault.place with
    | some place =>
      " at line " ++ Numeral.text place.line ++ " column " ++ Numeral.text place.column
    | none => ""

end ServiceLocator.Json
