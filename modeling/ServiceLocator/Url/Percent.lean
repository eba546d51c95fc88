import ServiceLocator.Text.Numeral
import ServiceLocator.Text.Utf8

/-!
Percent-encoding. A component is written byte by byte: a byte of its encode set,
and every byte beyond ASCII, becomes `%` and two digits. Decoding undoes this and
leaves a `%` without two digits alone.
-/
namespace ServiceLocator.Url

/-- The ASCII bytes that a component cannot hold as they are. -/
abbrev EncodeSet := Nat → Bool

/-- Controls, which no component can hold. -/
def controls : EncodeSet := fun b => b < 0x20 || b == 0x7F

/-- Add characters to an encode set. -/
def EncodeSet.with (set : EncodeSet) (extra : String) : EncodeSet :=
  fun b => set b || extra.toList.any (·.toNat == b)

def fragmentSet : EncodeSet := controls.with " \"<>\x60"
def querySet : EncodeSet := controls.with " \"#<>"
def specialQuerySet : EncodeSet := querySet.with "\x27"
def pathSet : EncodeSet := fragmentSet.with "#?\x7b\x7d"
def userinfoSet : EncodeSet := pathSet.with "/:;=@[\\]^|"

/-- One byte of a component. -/
def encodeByte (set : EncodeSet) (b : UInt8) : List Char :=
  if 0x80 ≤ b ∨ set b.toNat then
    ['%', Numeral.upperHexChar (b.toNat / 16), Numeral.upperHexChar (b.toNat % 16)]
  else [Char.ofNat b.toNat]

/-- A component in its written form. -/
def percentEncode (set : EncodeSet) (cs : List Char) : String :=
  String.ofList ((cs.flatMap String.utf8EncodeChar).flatMap (encodeByte set))

/-- The bytes of a text in which `%` and two digits stand for one byte. -/
def percentDecode : List Char → Bytes
  | [] => []
  | '%' :: a :: b :: rest =>
    match Numeral.hexDigit? a, Numeral.hexDigit? b with
    | some high, some low => UInt8.ofNat (high * 16 + low) :: percentDecode rest
    | _, _ => 0x25 :: percentDecode (a :: b :: rest)
  | c :: rest => String.utf8EncodeChar c ++ percentDecode rest

end ServiceLocator.Url
