/-!
Numerals in text: decimal and hexadecimal digits, read and written.
-/
namespace ServiceLocator.Numeral

/-- The value of a decimal digit. -/
def decimalDigit? (c : Char) : Option Nat :=
  if '0' ≤ c ∧ c ≤ '9' then some (c.toNat - 48) else none

/-- The value of a hexadecimal digit, in either case. -/
def hexDigit? (c : Char) : Option Nat :=
  if '0' ≤ c ∧ c ≤ '9' then some (c.toNat - 48)
  else if 'a' ≤ c ∧ c ≤ 'f' then some (c.toNat - 97 + 10)
  else if 'A' ≤ c ∧ c ≤ 'F' then some (c.toNat - 65 + 10)
  else none

/-- The value of a run of digits in a base, the first digit being the highest;
`none` if a character is no digit. A run of no digits is zero. -/
def value? (base : Nat) (digit? : Char → Option Nat) (cs : List Char) : Option Nat :=
  cs.foldlM (fun n c => (digit? c).map (base * n + ·)) 0

/-- The value of a non-empty run of decimal digits. -/
def decimal? (cs : List Char) : Option Nat :=
  if cs.isEmpty then none else value? 10 decimalDigit? cs

/-- The number written with decimal digits and at most one plus sign before them. -/
def unsigned? : List Char → Option Nat
  | '+' :: cs => decimal? cs
  | cs => decimal? cs

/-- The value of a non-empty run of hexadecimal digits. -/
def hex? (cs : List Char) : Option Nat :=
  if cs.isEmpty then none else value? 16 hexDigit? cs

/-- The digit of a value below sixteen, in lower case. -/
def hexChar (n : Nat) : Char :=
  if n < 10 then Char.ofNat (n + 48) else Char.ofNat (n - 10 + 97)

/-- The digit of a value below sixteen, in upper case. -/
def upperHexChar (n : Nat) : Char :=
  if n < 10 then Char.ofNat (n + 48) else Char.ofNat (n - 10 + 65)

/-- Decimal digits without leading zeros. -/
def decimal (n : Nat) : List Char :=
  if n < 10 then [Char.ofNat (n + 48)]
  else decimal (n / 10) ++ [Char.ofNat (n % 10 + 48)]

/-- Hexadecimal digits in lower case, without leading zeros. -/
def hex (n : Nat) : List Char :=
  if n < 16 then [hexChar n]
  else hex (n / 16) ++ [hexChar (n % 16)]

/-- The decimal text of a natural number. -/
def text (n : Nat) : String :=
  String.ofList (decimal n)

/-- The decimal text of an integer. -/
def textInt (n : Int) : String :=
  if n < 0 then "-" ++ text n.natAbs else text n.natAbs

end ServiceLocator.Numeral
