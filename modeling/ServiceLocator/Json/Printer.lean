import ServiceLocator.Decimal.Shortest
import ServiceLocator.Json.Value
import ServiceLocator.Text.Utf8

/-!
JSON in its compact form: no blanks, members in the order of their names, and only
quotes, backslashes and controls escaped.
-/
namespace ServiceLocator.Json

/-- One character of a string. -/
def escape (c : Char) : List Char :=
  if c = '"' then ['\\', '"']
  else if c = '\\' then ['\\', '\\']
  else if c = '\x08' then ['\\', 'b']
  else if c = '\x0c' then ['\\', 'f']
  else if c = '\n' then ['\\', 'n']
  else if c = '\r' then ['\\', 'r']
  else if c = '\t' then ['\\', 't']
  else if c.toNat < 0x20 then
    ['\\', 'u', '0', '0', Numeral.hexChar (c.toNat / 16), Numeral.hexChar (c.toNat % 16)]
  else [c]

/-- A string in quotes. -/
def quoted (s : String) : List Char :=
  '"' :: (s.toList.flatMap escape ++ ['"'])

/-- Exponents of the first digit that are written without an exponent. -/
def isPlain (e : Int) : Bool := -5 ≤ e && e ≤ 15

/-- Digits with the decimal point after the first `1 + e` of them; a whole number
keeps one zero after it. -/
def plain (digits : List Char) (e : Int) : List Char :=
  if e < 0 then
    ['0', '.'] ++ List.replicate (e.natAbs - 1) '0' ++ digits
  else
    let whole := digits.take (e.toNat + 1)
    let fraction := digits.drop (e.toNat + 1)
    whole ++ List.replicate (e.toNat + 1 - whole.length) '0' ++ '.' ::
      (if fraction.isEmpty then ['0'] else fraction)

/-- Digits with a signed exponent. -/
def scientific (digits : List Char) (e : Int) : List Char :=
  digits.take 1 ++ (if digits.length ≤ 1 then [] else '.' :: digits.drop 1) ++
    ['e', if e < 0 then '-' else '+'] ++ Numeral.decimal e.natAbs

/-- The shortest text that reads back as a floating-point value. -/
def realChars (x : Binary64) : List Char :=
  let size :=
    if x.mantissa = 0 then ['0', '.', '0']
    else
      let (digits, e) := x.shortest
      if isPlain e then plain digits e else scientific digits e
  if x.negative then '-' :: size else size

/-- A number. -/
def Number.chars : Number → List Char
  | .integer n => if n < 0 then '-' :: Numeral.decimal n.natAbs else Numeral.decimal n.natAbs
  | .real x => realChars x

mutual

/-- A value in compact form. -/
def Value.chars : Value → List Char
  | .null => "null".toList
  | .bool true => "true".toList
  | .bool false => "false".toList
  | .number n => n.chars
  | .string s => quoted s
  | .array [] => ['[', ']']
  | .array (item :: items) => '[' :: (item.chars ++ itemsChars items)
  | .object [] => ['\x7b', '\x7d']
  | .object ((name, value) :: members) =>
    '\x7b' :: (quoted name ++ ':' :: (value.chars ++ membersChars members))

/-- The items after the first one, and the end of the array. -/
def itemsChars : List Value → List Char
  | [] => [']']
  | item :: items => ',' :: (item.chars ++ itemsChars items)

/-- The members after the first one, and the end of the object. -/
def membersChars : List (String × Value) → List Char
  | [] => ['\x7d']
  | (name, value) :: members =>
    ',' :: (quoted name ++ ':' :: (value.chars ++ membersChars members))

end

/-- The compact text of a value. -/
def Value.text (v : Value) : String := String.ofList v.chars

/-- The compact form of a value as bytes. -/
def Value.bytes (v : Value) : Bytes := Utf8.encode v.text

end ServiceLocator.Json
