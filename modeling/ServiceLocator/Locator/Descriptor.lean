import ServiceLocator.Call.Caller
import ServiceLocator.Json.Reader
import ServiceLocator.Json.Skip

/-!
Entries of a locator's listing: a service role with an internal and a public address,
either of which may be missing. An entry is an object, or a list of the three in this
order. It is read from a JSON value, and as part of a text.
-/
namespace ServiceLocator

/-- A service with its addresses. -/
structure Descriptor where
  role : String
  uri : Option String
  publicUri : Option String
deriving DecidableEq

namespace Descriptor

/-- The address for a caller. An empty address is none. -/
def addressFor (d : Descriptor) (caller : Caller) : Option String :=
  (if caller.isExternal then d.publicUri else d.uri).filter (· ≠ "")

/-- What an entry is called in a fault. -/
def expected : String := "struct ServiceDescriptor"

/-- What a list of fields is called in a fault. -/
def expectedFields : String := "struct ServiceDescriptor with 3 elements"

/-- The fields of an entry, as far as they are known. -/
structure Fields where
  role : Option String
  uri : Option (Option String)
  publicUri : Option (Option String)

def Fields.none : Fields := ⟨.none, .none, .none⟩

/-- The entry of the fields; an address that is not mentioned is missing. -/
def Fields.toDescriptor? (f : Fields) : Option Descriptor :=
  f.role.map fun role => ⟨role, f.uri.getD .none, f.publicUri.getD .none⟩

/-! ## From values -/

open Json in
/-- The text of a field. -/
def stringOf : Value → Except Cause String
  | .string s => .ok s
  | v => .error (.wrongKind (.ofValue v) "a string")

open Json in
/-- The text of a field that may be null. -/
def optionalStringOf : Value → Except Cause (Option String)
  | .null => .ok none
  | v => (stringOf v).map some

open Json in
/-- The fields among the members of an object. Other members are ignored. -/
def fieldsOf (f : Fields) : List (String × Value) → Except Cause Fields
  | [] => .ok f
  | (name, v) :: rest => do
    if name = "role" then fieldsOf { f with role := some (← stringOf v) } rest
    else if name = "uri" then fieldsOf { f with uri := some (← optionalStringOf v) } rest
    else if name = "publicUri" then
      fieldsOf { f with publicUri := some (← optionalStringOf v) } rest
    else fieldsOf f rest

open Json in
/-- The entry that a value describes. -/
def ofValue : Value → Except Cause Descriptor
  | .object members => do
    match (← fieldsOf .none members).toDescriptor? with
    | some d => .ok d
    | none => .error (.missingField "role")
  | .array [] => .error (.wrongLength 0 expectedFields)
  | .array (role :: addresses) => do
    let role ← stringOf role
    match addresses with
    | [] => .ok ⟨role, none, none⟩
    | [uri] => .ok ⟨role, ← optionalStringOf uri, none⟩
    | uri :: publicUri :: rest =>
      let uri ← optionalStringOf uri
      let publicUri ← optionalStringOf publicUri
      if rest.isEmpty then .ok ⟨role, uri, publicUri⟩
      else .error (.wrongLength (3 + rest.length) "fewer elements in array")
  | v => .error (.wrongKind (.ofValue v) expected)

/-! ## From text -/

open Json in
/-- A field that is named twice is refused. -/
def refuse (f : Fields) (name : String) : Option Cause :=
  if (name = "role" ∧ f.role.isSome) ∨ (name = "uri" ∧ f.uri.isSome) ∨
      (name = "publicUri" ∧ f.publicUri.isSome) then
    some (.duplicateField name)
  else none

open Json in
/-- Read the value of a member. -/
def member (f : Fields) (name : String) (rest : Bytes) : Reading Fields :=
  if name = "role" then
    (expectString rest).map fun (s, rest) => ({ f with role := some s }, rest)
  else if name = "uri" then
    (expectOptionalString rest).map fun (s, rest) => ({ f with uri := some s }, rest)
  else if name = "publicUri" then
    (expectOptionalString rest).map fun (s, rest) => ({ f with publicUri := some s }, rest)
  else (Skip.value rest).map fun rest => (f, rest)

open Json in
/-- Read an address of a list of fields, if there is one more. -/
def nextAddress (rest : Bytes) : Reading (Option String) :=
  match nextItem false rest with
  | .error trouble => .error trouble
  | .ok (false, rest) => .ok (none, rest)
  | .ok (true, rest) => expectOptionalString rest

open Json in
/-- Pass the closing bracket of a list of fields. -/
def close (rest : Bytes) : Except Trouble Bytes :=
  match skipBlanks rest with
  | [] => .error (.here .endInList [])
  | b :: after =>
    if b = 0x5D then .ok after
    else if b = 0x2C then
      match skipBlanks after with
      | [] => .error (.here .trailingCharacters [])
      | c :: later =>
        .error (.next (if c = 0x5D then .trailingComma else .trailingCharacters) (c :: later))
    else .error (.next .trailingCharacters (b :: after))

open Json in
/-- Read a list of fields after its opening bracket. -/
def listed (rest : Bytes) : Except Trouble (Descriptor × Bytes) := do
  match ← nextItem true rest with
  | (false, rest) => throw (.here (.wrongLength 0 expectedFields) (rest.drop 1))
  | (true, rest) =>
    let (role, rest) ← expectString rest
    let (uri, rest) ← nextAddress rest
    let (publicUri, rest) ← nextAddress rest
    return (⟨role, uri, publicUri⟩, ← close rest)

open Json in
/-- Read an entry. It nests no deeper than a list of entries. -/
def read (_depth : Nat) (rest : Bytes) : Reading Descriptor :=
  match skipBlanks rest with
  | [] => unexpected expected []
  | b :: after =>
    if b = 0x5B then listed after
    else if b = 0x7B then
      match members ⟨refuse, member⟩ .none after with
      | .error trouble => .error trouble
      | .ok (f, rest) =>
        match f.toDescriptor? with
        | some d => .ok (d, rest)
        | none => .error (.here (.missingField "role") rest)
    else unexpected expected (b :: after)

/-- Read a listing of which every entry must be right. -/
def parseList (input : Bytes) : Except Json.Fault (List Descriptor) :=
  Json.whole (Json.expectList read) input

end Descriptor

end ServiceLocator
