import ServiceLocator.Text.Numeral

/-!
IPv4 addresses in a URL. A host whose last part is a number is an address, and
its parts may be decimal, octal or hexadecimal; the last part fills the bytes
that the others leave.
-/
namespace ServiceLocator.Url.Ipv4

/-- The value of an octal digit. -/
def octalDigit? (c : Char) : Option Nat :=
  if '0' ≤ c ∧ c ≤ '7' then some (c.toNat - 48) else none

/-- The number that a part writes: hexadecimal after `0x`, octal after `0`. -/
def number? : List Char → Option Nat
  | [] => none
  | '0' :: 'x' :: digits => Numeral.value? 16 Numeral.hexDigit? digits
  | '0' :: 'X' :: digits => Numeral.value? 16 Numeral.hexDigit? digits
  | '0' :: c :: digits => Numeral.value? 8 octalDigit? (c :: digits)
  | digits => Numeral.value? 10 Numeral.decimalDigit? digits

/-- The dot-separated parts of a host. -/
def parts : List Char → List (List Char)
  | [] => [[]]
  | '.' :: rest => [] :: parts rest
  | c :: rest =>
    match parts rest with
    | [] => [[c]]
    | part :: later => (c :: part) :: later

/-- The parts without an empty last one. -/
def trimmedParts (host : List Char) : List (List Char) :=
  let all := parts host
  if all.getLast? = some [] then all.dropLast else all

/-- Whether a host is to be read as an address. -/
def endsInNumber (host : List Char) : Bool :=
  match (trimmedParts host).getLast? with
  | some part =>
    (!part.isEmpty && part.all fun c => '0' ≤ c && c ≤ '9') || (number? part).isSome
  | none => false

/-- The address of numbers, the last one filling what is left of four bytes. -/
def ofNumbers? : List Nat → Option Nat
  | [] => none
  | numbers =>
    let leading := numbers.dropLast
    let last := numbers.getLast?.getD 0
    if leading.length < 4 ∧ last < 1 <<< (8 * (4 - leading.length)) ∧ leading.all (· < 256) then
      some (leading.zipIdx.foldl (fun address (n, i) => address + (n <<< (8 * (3 - i)))) last)
    else none

/-- The address that a host writes. -/
def parse? (host : List Char) : Option Nat := do
  let parts := trimmedParts host
  if 4 < parts.length then none
  else ofNumbers? (← parts.mapM number?)

/-- The four bytes in decimal, with dots. -/
def text (address : Nat) : String :=
  ".".intercalate ([3, 2, 1, 0].map fun i => Numeral.text ((address >>> (8 * i)) % 256))

end ServiceLocator.Url.Ipv4
