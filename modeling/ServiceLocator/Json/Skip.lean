import ServiceLocator.Json.Reader

/-!
Passing over a value that is not wanted. Only its syntax is checked: numbers may be
of any size, strings may hold any bytes, and nesting has no limit.
-/
namespace ServiceLocator.Json.Skip

/-- Pass over an exponent after its `e`. -/
def exponent (rest : Bytes) : Except Trouble Bytes :=
  let rest :=
    match rest with
    | b :: after => if b = 0x2B ∨ b = 0x2D then after else rest
    | [] => []
  match rest with
  | [] => .error (.here .invalidNumber [])
  | b :: after =>
    if isDigit b then .ok (after.dropWhile isDigit) else .error (.here .invalidNumber after)

/-- Pass over what may follow the digits of a number. -/
def afterDigits (rest : Bytes) : Except Trouble Bytes :=
  match rest with
  | [] => .ok []
  | b :: after =>
    if b = 0x65 ∨ b = 0x45 then exponent after
    else if b = 0x2E then
      if after.head?.any isDigit then
        match after.dropWhile isDigit with
        | [] => .ok []
        | c :: later => if c = 0x65 ∨ c = 0x45 then exponent later else .ok (c :: later)
      else .error (.next .invalidNumber after)
    else .ok rest

/-- Pass over a number after its sign. -/
def number : Bytes → Except Trouble Bytes
  | [] => .error (.here .invalidNumber [])
  | b :: rest =>
    if b = 0x30 then
      if rest.head?.any isDigit then .error (.next .invalidNumber rest) else afterDigits rest
    else if isDigit b then afterDigits (rest.dropWhile isDigit)
    else .error (.here .invalidNumber rest)

/-- Pass over a string after its opening quote. `skip` bytes are taken unseen: the
letter of an escape, or the digits after it once they are known to be digits. -/
def string (skip : Nat) : Bytes → Except Trouble Bytes
  | [] => .error (.here .endInString [])
  | b :: rest =>
    match skip with
    | skip + 1 => string skip rest
    | 0 =>
      if b = 0x22 then .ok rest
      else if b = 0x5C then
        match rest with
        | [] => .error (.here .endInString [])
        | c :: after =>
          if c = 0x75 then
            match hexEscape after with
            | .error trouble => .error trouble
            | .ok _ => string 5 rest
          else if (simpleEscape? c).isSome then string 1 rest
          else .error (.here .invalidEscape after)
      else if b < 0x20 then .error (.here .controlCharacter (b :: rest))
      else string 0 rest

/-- What encloses a value: a list or an object. -/
inductive Frame where
  | list
  | object

/-- Pass over a name and its colon. -/
def name (rest : Bytes) : Except Trouble Bytes :=
  match skipBlanks rest with
  | [] => .error (.here .endInObject [])
  | b :: after =>
    if b = 0x22 then do colon (← string 0 after)
    else .error (.next .keyNotString (b :: after))

mutual

/-- Pass over a value and what encloses it, innermost frame first. -/
def valueIn : Nat → List Frame → Bytes → Except Trouble Bytes
  | 0, _, _ => .error (.here .endInValue [])
  | turns + 1, frames, rest =>
    match skipBlanks rest with
    | [] => .error (.here .endInValue [])
    | b :: after =>
      if b = 0x6E then do endIn turns frames (← word [0x75, 0x6C, 0x6C] after)
      else if b = 0x74 then do endIn turns frames (← word [0x72, 0x75, 0x65] after)
      else if b = 0x66 then do endIn turns frames (← word [0x61, 0x6C, 0x73, 0x65] after)
      else if b = 0x2D then do endIn turns frames (← number after)
      else if isDigit b then do endIn turns frames (← number (b :: after))
      else if b = 0x22 then do endIn turns frames (← string 0 after)
      else if b = 0x5B then
        match skipBlanks after with
        | [] => .error (.here .endInList [])
        | c :: later =>
          if c = 0x5D then endIn turns frames later
          else valueIn turns (.list :: frames) (c :: later)
      else if b = 0x7B then
        match skipBlanks after with
        | [] => .error (.here .endInObject [])
        | c :: later =>
          if c = 0x7D then endIn turns frames later
          else do valueIn turns (.object :: frames) (← name (c :: later))
      else .error (.next .expectedValue (b :: after))

/-- Go on after a value: to the next one, or out of what encloses it. -/
def endIn : Nat → List Frame → Bytes → Except Trouble Bytes
  | _, [], rest => .ok rest
  | 0, _ :: _, _ => .error (.here .endInValue [])
  | turns + 1, .list :: frames, rest =>
    match skipBlanks rest with
    | [] => .error (.here .endInList [])
    | b :: after =>
      if b = 0x2C then valueIn turns (.list :: frames) after
      else if b = 0x5D then endIn turns frames after
      else .error (.next .expectedCommaOrEndOfList (b :: after))
  | turns + 1, .object :: frames, rest =>
    match skipBlanks rest with
    | [] => .error (.here .endInObject [])
    | b :: after =>
      if b = 0x2C then do valueIn turns (.object :: frames) (← name after)
      else if b = 0x7D then endIn turns frames after
      else .error (.next .expectedCommaOrEndOfObject (b :: after))

end

/-- Pass over one value. Each turn needs a byte. -/
def value (rest : Bytes) : Except Trouble Bytes :=
  valueIn (rest.length + 1) [] rest

end ServiceLocator.Json.Skip
