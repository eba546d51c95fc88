import ServiceLocator.Json.Token

/-!
Reading JSON text. Lists and objects are read by loops over a reader for what they
hold, so that values of any kind and records of a known shape share them. Nesting is
limited; the loops end because each turn needs a byte.
-/
namespace ServiceLocator.Json

/-! ## Lists -/

/-- Go to the next item of a list: whether there is one, and the bytes from it or from
the closing bracket on. -/
def nextItem (first : Bool) (rest : Bytes) : Reading Bool :=
  match skipBlanks rest with
  | [] => .error (.here .endInList [])
  | b :: after =>
    if b = 0x5D then .ok (false, b :: after)
    else if first then .ok (true, b :: after)
    else if b = 0x2C then
      match skipBlanks after with
      | [] => .error (.here .endInValue [])
      | c :: later =>
        if c = 0x5D then .error (.next .trailingComma (c :: later)) else .ok (true, c :: later)
    else .error (.next .expectedCommaOrEndOfList (b :: after))

/-- Read the items that are left, and the closing bracket. -/
def itemsFrom {α : Type} (item : Bytes → Reading α) : Nat → Bool → Bytes → Reading (List α)
  | 0, _, _ => .error (.here .endInList [])
  | turns + 1, first, rest =>
    match nextItem first rest with
    | .error trouble => .error trouble
    | .ok (false, rest) => .ok ([], rest.drop 1)
    | .ok (true, rest) =>
      match item rest with
      | .error trouble => .error trouble
      | .ok (x, rest) =>
        match itemsFrom item turns false rest with
        | .error trouble => .error trouble
        | .ok (xs, rest) => .ok (x :: xs, rest)

/-- Read a list after its opening bracket. -/
def items {α : Type} (item : Bytes → Reading α) (rest : Bytes) : Reading (List α) :=
  itemsFrom item (rest.length + 1) true rest

/-! ## Objects -/

/-- Go to the next name of an object: whether there is one, and the bytes after its
opening quote or from the closing brace on. -/
def nextName (first : Bool) (rest : Bytes) : Reading Bool :=
  match skipBlanks rest with
  | [] => .error (.here .endInObject [])
  | b :: after =>
    if b = 0x7D then .ok (false, b :: after)
    else if first then
      if b = 0x22 then .ok (true, after) else .error (.next .keyNotString (b :: after))
    else if b = 0x2C then
      match skipBlanks after with
      | [] => .error (.here .endInValue [])
      | c :: later =>
        if c = 0x22 then .ok (true, later)
        else if c = 0x7D then .error (.next .trailingComma (c :: later))
        else .error (.next .keyNotString (c :: later))
    else .error (.next .expectedCommaOrEndOfObject (b :: after))

/-- Pass the colon after a name. -/
def colon (rest : Bytes) : Except Trouble Bytes :=
  match skipBlanks rest with
  | [] => .error (.here .endInObject [])
  | b :: after => if b = 0x3A then .ok after else .error (.next .expectedColon (b :: after))

/-- How the members of an object are gathered: `refuse` may reject a name, `member`
reads the value after it. -/
structure Gathering (σ : Type) where
  refuse : σ → String → Option Cause
  member : σ → String → Bytes → Reading σ

/-- The bytes after a closing brace, if that is what comes next; a refused name is
reported there. -/
def pastBrace (rest : Bytes) : Bytes :=
  match skipBlanks rest with
  | b :: after => if b = 0x7D then after else b :: after
  | [] => []

/-- Read the members that are left, and the closing brace. -/
def membersFrom {σ : Type} (g : Gathering σ) : Nat → Bool → σ → Bytes → Reading σ
  | 0, _, _, _ => .error (.here .endInObject [])
  | turns + 1, first, s, rest =>
    match nextName first rest with
    | .error trouble => .error trouble
    | .ok (false, rest) => .ok (s, rest.drop 1)
    | .ok (true, rest) =>
      match string rest with
      | .error trouble => .error trouble
      | .ok (name, rest) =>
        match g.refuse s name with
        | some cause => .error (.here cause (pastBrace rest))
        | none =>
          match colon rest with
          | .error trouble => .error trouble
          | .ok rest =>
            match g.member s name rest with
            | .error trouble => .error trouble
            | .ok (s, rest) => membersFrom g turns false s rest

/-- Read an object after its opening brace. -/
def members {σ : Type} (g : Gathering σ) (start : σ) (rest : Bytes) : Reading σ :=
  membersFrom g (rest.length + 1) true start rest

/-! ## Values -/

/-- How deep lists and objects may nest, the innermost one excluded. -/
def depthLimit : Nat := 128

/-- Members of any kind, the last of one name winning. -/
def anyMembers (value : Bytes → Reading Value) : Gathering (List (String × Value)) where
  refuse _ _ := none
  member kept name rest :=
    match value rest with
    | .error trouble => .error trouble
    | .ok (v, rest) => .ok (setMember name v kept, rest)

/-- Read a value. A list or an object at the last level is refused. -/
def value : Nat → Bytes → Reading Value
  | 0, rest => .error (.next .tooDeep rest)
  | depth + 1, rest =>
    match skipBlanks rest with
    | [] => .error (.here .endInValue [])
    | b :: after =>
      if b = 0x6E then (word [0x75, 0x6C, 0x6C] after).map (.null, ·)
      else if b = 0x74 then (word [0x72, 0x75, 0x65] after).map (.bool true, ·)
      else if b = 0x66 then (word [0x61, 0x6C, 0x73, 0x65] after).map (.bool false, ·)
      else if b = 0x2D then (number false after).map fun (n, rest) => (.number n, rest)
      else if isDigit b then (number true (b :: after)).map fun (n, rest) => (.number n, rest)
      else if b = 0x22 then (string after).map fun (s, rest) => (.string s, rest)
      else if b = 0x5B then
        if depth = 0 then .error (.next .tooDeep (b :: after))
        else (items (value depth) after).map fun (xs, rest) => (.array xs, rest)
      else if b = 0x7B then
        if depth = 0 then .error (.next .tooDeep (b :: after))
        else
          (members (anyMembers (value depth)) [] after).map fun (kept, rest) =>
            (.object kept, rest)
      else .error (.next .expectedValue (b :: after))

/-! ## Expecting a kind -/

/-- Report that something else than a value of the expected kind begins here. A scalar
is read to be shown. -/
def unexpected {α : Type} (expected : String) (rest : Bytes) : Except Trouble (α × Bytes) :=
  match rest with
  | [] => .error (.here .endInValue [])
  | b :: after =>
    let wrong (found : Found) (rest : Bytes) : Except Trouble (α × Bytes) :=
      .error (.here (.wrongKind found expected) rest)
    if b = 0x6E then do
      wrong .null (← word [0x75, 0x6C, 0x6C] after)
    else if b = 0x74 then do
      wrong (.bool true) (← word [0x72, 0x75, 0x65] after)
    else if b = 0x66 then do
      wrong (.bool false) (← word [0x61, 0x6C, 0x73, 0x65] after)
    else if b = 0x2D ∨ isDigit b then
      match if b = 0x2D then number false after else number true rest with
      | .error trouble => .error trouble
      | .ok (n, rest) => wrong (.number n) rest
    else if b = 0x22 then
      match string after with
      | .error trouble => .error trouble
      | .ok (s, rest) => wrong (.string s) rest
    else if b = 0x5B then wrong .array rest
    else if b = 0x7B then wrong .object rest
    else .error (.next .expectedValue rest)

/-- Read a string. -/
def expectString (rest : Bytes) : Reading String :=
  match skipBlanks rest with
  | b :: after => if b = 0x22 then string after else unexpected "a string" (b :: after)
  | [] => unexpected "a string" []

/-- Read a string or null. -/
def expectOptionalString (rest : Bytes) : Reading (Option String) :=
  match skipBlanks rest with
  | b :: after =>
    if b = 0x6E then (word [0x75, 0x6C, 0x6C] after).map (none, ·)
    else (expectString (b :: after)).map fun (s, rest) => (some s, rest)
  | [] => unexpected "a string" []

/-- Read a list. The items are one level deeper. -/
def expectList {α : Type} (item : Nat → Bytes → Reading α) (rest : Bytes) : Reading (List α) :=
  match skipBlanks rest with
  | b :: after =>
    if b = 0x5B then items (item (depthLimit - 1)) after else unexpected "a sequence" (b :: after)
  | [] => unexpected "a sequence" []

/-! ## Whole texts -/

/-- Read a whole text: nothing but blanks may follow. -/
def whole {α : Type} (read : Bytes → Reading α) (input : Bytes) : Except Fault α :=
  match read input with
  | .error trouble => .error (trouble.fault input)
  | .ok (x, rest) =>
    match skipBlanks rest with
    | [] => .ok x
    | b :: after => .error ((Trouble.next .trailingCharacters (b :: after)).fault input)

/-- Read a value. -/
def parse (input : Bytes) : Except Fault Value :=
  whole (value depthLimit) input

/-- Read a list of values. -/
def parseList (input : Bytes) : Except Fault (List Value) :=
  whole (expectList value) input

end ServiceLocator.Json
