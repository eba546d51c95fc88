import ServiceLocator.Text.Numeral

/-!
Tables over code points, written as text. A row names a range, `first..last`, or
one code point; `/n` after it takes every n-th code point of the range only. Then
`+n` and `-n` shift, `=a,b` replaces, and nothing keeps the code point as it is.
All numbers are hexadecimal, and blanks or line breaks stand between rows.
-/
namespace ServiceLocator.Unicode

/-- What a row does to the code points it covers. -/
inductive Image where
  | same
  | shift (distance : Int)
  | text (codes : List Nat)

/-- Every `step`-th code point from `first` to `last`, and their image. -/
structure Row where
  first : Nat
  last : Nat
  step : Nat
  image : Image

namespace Row

/-- Whether the row speaks of this code point. -/
def covers (row : Row) (code : Nat) : Bool :=
  row.first ≤ code && code ≤ row.last && (code - row.first) % row.step == 0

/-- What the row makes of a code point that it covers. -/
def apply (row : Row) (code : Nat) : List Nat :=
  match row.image with
  | .same => [code]
  | .shift distance => [(code + distance).toNat]
  | .text codes => codes

/-- The leading hexadecimal number of a text, and what follows it. -/
def number (cs : List Char) : Nat × List Char :=
  let (digits, rest) := cs.span fun c => (Numeral.hexDigit? c).isSome
  ((Numeral.hex? digits).getD 0, rest)

/-- The maximal runs of characters other than `sep`, an empty run included. -/
def splitOn (sep : Char → Bool) : List Char → List (List Char)
  | [] => [[]]
  | c :: rest =>
    if sep c then [] :: splitOn sep rest
    else
      match splitOn sep rest with
      | [] => [[c]]
      | run :: runs => (c :: run) :: runs

/-- Read one row. -/
def ofWord (word : List Char) : Row :=
  let (first, rest) := number word
  let (last, rest) :=
    match rest with
    | '.' :: '.' :: rest => number rest
    | _ => (first, rest)
  let (step, rest) :=
    match rest with
    | '/' :: rest => number rest
    | _ => (1, rest)
  let image :=
    match rest with
    | '+' :: rest => .shift (number rest).1
    | '-' :: rest => .shift (-(number rest).1)
    | '=' :: rest => .text ((splitOn (· == ',') rest).map fun code => (number code).1)
    | _ => .same
  ⟨first, last, step, image⟩

/-- Read a table. Tables are long, so no proof may unfold one by the way. -/
@[irreducible]
def table (text : String) : List Row :=
  ((splitOn Char.isWhitespace text.toList).filter (!·.isEmpty)).map ofWord

end Row

/-- Whether a table speaks of a code point. -/
def inTable (rows : List Row) (code : Nat) : Bool :=
  rows.any (·.covers code)

/-- The image of a code point under the first row that covers it. -/
def image? (rows : List Row) (code : Nat) : Option (List Nat) :=
  (rows.find? (·.covers code)).map (·.apply code)

end ServiceLocator.Unicode
