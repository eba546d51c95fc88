import ServiceLocator.Json.Fault

/-!
The scalars of JSON text. Each reader takes the bytes that are left and gives back
what follows; trouble is located by how many bytes are left when it is found.
-/
namespace ServiceLocator.Json

/-- What is wrong, and how many bytes are left. -/
structure Trouble where
  cause : Cause
  left : Nat
deriving DecidableEq

/-- Trouble after the bytes read so far. -/
def Trouble.here (cause : Cause) (rest : Bytes) : Trouble := ⟨cause, rest.length⟩

/-- Trouble with the next byte; at the end of the text there is none. -/
def Trouble.next (cause : Cause) (rest : Bytes) : Trouble := ⟨cause, rest.length - 1⟩

/-- A fault of a whole text. -/
def Trouble.fault (input : Bytes) (trouble : Trouble) : Fault :=
  ⟨trouble.cause, some (.after input (input.length - trouble.left))⟩

/-- The outcome of a reader. -/
abbrev Reading (α : Type) := Except Trouble (α × Bytes)

def isBlank (b : UInt8) : Bool := b == 0x20 || b == 0x0A || b == 0x09 || b == 0x0D

/-- The bytes from the next one that is not blank. -/
def skipBlanks (rest : Bytes) : Bytes := rest.dropWhile isBlank

/-! ## Words -/

/-- Read the rest of `null`, `true` or `false`. -/
def word : Bytes → Bytes → Except Trouble Bytes
  | [], rest => .ok rest
  | _ :: _, [] => .error (.here .endInValue [])
  | e :: expected, b :: rest =>
    if b = e then word expected rest else .error (.here .expectedWord rest)

/-! ## Numbers -/

def isDigit (b : UInt8) : Bool := 0x30 ≤ b && b ≤ 0x39

def digit (b : UInt8) : Nat := b.toNat - 0x30

/-- The largest significand. Digits that would exceed it are dropped. -/
def maxSignificand : Nat := 0xFFFFFFFFFFFFFFFF

/-- The largest exponent that is read. -/
def maxExponent : Nat := 0x7FFFFFFF

/-- Read digits onto a significand as long as it fits: the significand, how many
digits were read, and what follows. -/
def significandDigits (n count : Nat) : Bytes → Nat × Nat × Bytes
  | b :: rest =>
    if isDigit b && n * 10 + digit b ≤ maxSignificand then
      significandDigits (n * 10 + digit b) (count + 1) rest
    else (n, count, b :: rest)
  | [] => (n, count, [])

/-- Read digits onto an exponent; `none` if it grows too large. -/
def exponentDigits (n : Nat) : Bytes → Option Nat × Bytes
  | b :: rest =>
    if isDigit b then
      if n * 10 + digit b ≤ maxExponent then exponentDigits (n * 10 + digit b) rest
      else (none, rest)
    else (some n, b :: rest)
  | [] => (some n, [])

/-- The floating-point value of a significand and a power of ten. -/
def real (positive : Bool) (significand : Nat) (k : Int) (rest : Bytes) : Reading Number :=
  match Binary64.ofDecimal? significand k with
  | some x => .ok (.real (if positive then x else x.neg), rest)
  | none => .error (.here .numberOutOfRange rest)

/-- Read an exponent after its `e`. A positive one that is too large is out of range
unless the significand is zero; a negative one gives zero. -/
def exponent (positive : Bool) (significand : Nat) (k : Int) (rest : Bytes) : Reading Number :=
  let (up, rest) :=
    match rest with
    | b :: after =>
      if b = 0x2B then (true, after) else if b = 0x2D then (false, after) else (true, rest)
    | [] => (true, [])
  match rest with
  | [] => .error (.here .endInValue [])
  | b :: after =>
    if isDigit b then
      match exponentDigits (digit b) after with
      | (some e, rest) => real positive significand (if up then k + e else k - e) rest
      | (none, rest) =>
        if significand ≠ 0 ∧ up then .error (.here .numberOutOfRange rest)
        else real positive 0 0 (rest.dropWhile isDigit)
    else .error (.here .invalidNumber after)

/-- What may follow the digits of a number with a fraction. -/
def afterFraction (positive : Bool) (significand : Nat) (k : Int) (rest : Bytes) :
    Reading Number :=
  match rest with
  | b :: after =>
    if b = 0x65 ∨ b = 0x45 then exponent positive significand k after
    else real positive significand k rest
  | [] => real positive significand k []

/-- Read a fraction after its point. Digits beyond the largest significand are
dropped. -/
def fraction (positive : Bool) (significand : Nat) (k : Int) (rest : Bytes) : Reading Number :=
  if rest.head?.any isDigit then
    let (n, count, after) := significandDigits significand 0 rest
    afterFraction positive n (k - count) (after.dropWhile isDigit)
  else .error (.next (if rest.isEmpty then .endInValue else .invalidNumber) rest)

/-- What may follow whole digits of which `dropped` did not fit. -/
def afterWhole (positive : Bool) (significand dropped : Nat) (rest : Bytes) : Reading Number :=
  let whole : Reading Number :=
    if dropped = 0 then
      if positive then .ok (.integer significand, rest)
      else if significand ≠ 0 ∧ significand ≤ 1 <<< 63 then .ok (.integer (-significand), rest)
      else real false significand 0 rest
    else real positive significand dropped rest
  match rest with
  | b :: after =>
    if b = 0x2E then fraction positive significand dropped after
    else if b = 0x65 ∨ b = 0x45 then exponent positive significand dropped after
    else whole
  | [] => whole

/-- Read a number after its sign. A zero in front stands alone. -/
def number (positive : Bool) : Bytes → Reading Number
  | [] => .error (.here .endInValue [])
  | b :: rest =>
    if b = 0x30 then
      if rest.head?.any isDigit then .error (.next .invalidNumber rest)
      else afterWhole positive 0 0 rest
    else if isDigit b then
      let (n, _, after) := significandDigits (digit b) 0 rest
      let more := after.dropWhile isDigit
      afterWhole positive n (after.length - more.length) more
    else .error (.here .invalidNumber rest)

/-! ## Strings -/

/-- The value of a hexadecimal digit. -/
def hexDigit? (b : UInt8) : Option Nat := Numeral.hexDigit? (Char.ofNat b.toNat)

/-- Read four hexadecimal digits. -/
def hexEscape : Bytes → Reading Nat
  | a :: b :: c :: d :: rest =>
    match hexDigit? a, hexDigit? b, hexDigit? c, hexDigit? d with
    | some a, some b, some c, some d => .ok (((a * 16 + b) * 16 + c) * 16 + d, rest)
    | _, _, _, _ => .error (.here .invalidEscape rest)
  | _ => .error (.here .endInString [])

def isHighSurrogate (n : Nat) : Bool := 0xD800 ≤ n && n ≤ 0xDBFF
def isLowSurrogate (n : Nat) : Bool := 0xDC00 ≤ n && n ≤ 0xDFFF

/-- Read the second half of a surrogate pair. -/
def lowSurrogate (high : Nat) : Bytes → Reading Char
  | [] => .error (.here .endInString [])
  | [b] => .error (.here (if b = 0x5C then .endInString else .unpairedSurrogate) [])
  | b :: c :: rest =>
    if b ≠ 0x5C then .error (.here .unpairedSurrogate (c :: rest))
    else if c ≠ 0x75 then .error (.here .unpairedSurrogate rest)
    else
      match hexEscape rest with
      | .error trouble => .error trouble
      | .ok (low, rest) =>
        if isLowSurrogate low then
          .ok (Char.ofNat (0x10000 + (high - 0xD800) * 0x400 + (low - 0xDC00)), rest)
        else .error (.here .loneSurrogate rest)

/-- Read a code point after `\u`; one beyond the first plane takes two escapes. -/
def unicodeEscape (rest : Bytes) : Reading Char :=
  match hexEscape rest with
  | .error trouble => .error trouble
  | .ok (n, rest) =>
    if isLowSurrogate n then .error (.here .loneSurrogate rest)
    else if isHighSurrogate n then lowSurrogate n rest
    else .ok (Char.ofNat n, rest)

/-- The character that a letter escapes. -/
def simpleEscape? (b : UInt8) : Option Char :=
  if b = 0x22 then some '"'
  else if b = 0x5C then some '\\'
  else if b = 0x2F then some '/'
  else if b = 0x62 then some '\x08'
  else if b = 0x66 then some '\x0c'
  else if b = 0x6E then some '\n'
  else if b = 0x72 then some '\r'
  else if b = 0x74 then some '\t'
  else none

/-- Read an escape after its backslash. -/
def escaped : Bytes → Reading Char
  | [] => .error (.here .endInString [])
  | b :: rest =>
    if b = 0x75 then unicodeEscape rest
    else
      match simpleEscape? b with
      | some c => .ok (c, rest)
      | none => .error (.here .invalidEscape rest)

theorem length_hexEscape {rest after : Bytes} {n : Nat} (h : hexEscape rest = .ok (n, after)) :
    after.length < rest.length := by
  unfold hexEscape at h
  split at h
  · split at h
    · cases h
      simp
      omega
    · cases h
  · cases h

theorem length_lowSurrogate {high : Nat} {rest after : Bytes} {c : Char}
    (h : lowSurrogate high rest = .ok (c, after)) : after.length < rest.length := by
  unfold lowSurrogate at h
  split at h
  · cases h
  · cases h
  · split at h
    · cases h
    · split at h
      · cases h
      · split at h
        · cases h
        · rename_i hex
          have := length_hexEscape hex
          split at h
          · simp only [Except.ok.injEq, Prod.mk.injEq] at h
            obtain ⟨_, rfl⟩ := h
            simp
            omega
          · cases h

theorem length_unicodeEscape {rest after : Bytes} {c : Char}
    (h : unicodeEscape rest = .ok (c, after)) : after.length < rest.length := by
  unfold unicodeEscape at h
  split at h
  · cases h
  · rename_i hex
    have := length_hexEscape hex
    split at h
    · cases h
    · split at h
      · have := length_lowSurrogate h
        omega
      · cases h
        assumption

theorem length_escaped {rest after : Bytes} {c : Char} (h : escaped rest = .ok (c, after)) :
    after.length < rest.length := by
  unfold escaped at h
  split at h
  · cases h
  · split at h
    · have := length_unicodeEscape h
      simp
      omega
    · split at h
      · cases h
        simp
      · cases h

/-- The characters of a string up to its end, and how many bytes were left after the
first one that belongs to no character. -/
structure Content where
  chars : List Char
  broken : Option Nat
  rest : Bytes

/-- Read a string after its opening quote. -/
def content : Bytes → Except Trouble Content
  | [] => .error (.here .endInString [])
  | b :: rest =>
    if b = 0x22 then .ok ⟨[], none, rest⟩
    else if b = 0x5C then
      match _h : escaped rest with
      | .error trouble => .error trouble
      | .ok (c, after) => do
        let tail ← content after
        return { tail with chars := c :: tail.chars }
    else if b < 0x20 then .error (.here .controlCharacter rest)
    else do
      let tail ← content (Utf8.next b rest).2
      match (Utf8.next b rest).1 with
      | some c => return { tail with chars := c :: tail.chars }
      | none => return { tail with broken := some rest.length }
  termination_by rest => rest.length
  decreasing_by
    · have := length_escaped _h
      simp
      omega
    · exact Nat.lt_succ_of_le (Utf8.length_next_le b rest)

/-- Read a string after its opening quote. Bytes that are no text are trouble once
the string is complete. -/
def string (rest : Bytes) : Except Trouble (String × Bytes) := do
  let found ← content rest
  match found.broken with
  | some left => throw ⟨.invalidCodePoint, left⟩
  | none => return (String.ofList found.chars, found.rest)

end ServiceLocator.Json
