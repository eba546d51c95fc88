import ServiceLocator.Text.Utf8

/-!
Base64 with padding, in the standard alphabet. `encode` takes three bytes to four
characters; `decode?` reads exactly what `encode` writes, so spare bits must be
zero and padding stands at the end only.
-/
namespace ServiceLocator.Base64

/-- The character for six bits. -/
def digit (n : Nat) : Char :=
  if n < 26 then Char.ofNat (n + 65)
  else if n < 52 then Char.ofNat (n - 26 + 97)
  else if n < 62 then Char.ofNat (n - 52 + 48)
  else if n = 62 then '+'
  else '/'

/-- The six bits of a character of the alphabet. -/
def value? (c : Char) : Option Nat :=
  if 'A' ≤ c ∧ c ≤ 'Z' then some (c.toNat - 65)
  else if 'a' ≤ c ∧ c ≤ 'z' then some (c.toNat - 97 + 26)
  else if '0' ≤ c ∧ c ≤ '9' then some (c.toNat - 48 + 52)
  else if c = '+' then some 62
  else if c = '/' then some 63
  else none

/-- Three bytes make four characters; one or two left over are padded. -/
def encodeChars : Bytes → List Char
  | [] => []
  | [a] => [digit (a.toNat / 4), digit (a.toNat % 4 * 16), '=', '=']
  | [a, b] =>
    [digit (a.toNat / 4), digit (a.toNat % 4 * 16 + b.toNat / 16),
      digit (b.toNat % 16 * 4), '=']
  | a :: b :: c :: rest =>
    digit (a.toNat / 4) :: digit (a.toNat % 4 * 16 + b.toNat / 16) ::
      digit (b.toNat % 16 * 4 + c.toNat / 64) :: digit (c.toNat % 64) :: encodeChars rest

/-- The written form of bytes. -/
def encode (bytes : Bytes) : String :=
  String.ofList (encodeChars bytes)

/-- The bytes of four digits. -/
def quad (p q r s : Nat) : Bytes :=
  [UInt8.ofNat (p * 4 + q / 16), UInt8.ofNat (q % 16 * 16 + r / 4), UInt8.ofNat (r % 4 * 64 + s)]

/-- Read written bytes back, group by group; padding only in the last group. -/
def decodeChars? : List Char → Option Bytes
  | [] => some []
  | [w, x, '=', '='] => do
    let p ← value? w
    let q ← value? x
    if q % 16 = 0 then some ((quad p q 0 0).take 1) else none
  | [w, x, y, '='] => do
    let p ← value? w
    let q ← value? x
    let r ← value? y
    if r % 4 = 0 then some ((quad p q r 0).take 2) else none
  | w :: x :: y :: z :: rest => do
    let p ← value? w
    let q ← value? x
    let r ← value? y
    let s ← value? z
    let bytes ← decodeChars? rest
    some (quad p q r s ++ bytes)
  | _ => none

/-- The bytes that a text writes, if it is a written form. -/
def decode? (s : String) : Option Bytes :=
  decodeChars? s.toList

end ServiceLocator.Base64
