/-!
Text as UTF-8 bytes. `encode` writes a text, `decode?` reads one back and refuses
ill-formed bytes, `decodeLossy` reads any bytes: each maximal ill-formed subpart
becomes one replacement character. Both readers go through `Utf8.next`, which
takes one unit off the front.
-/
namespace ServiceLocator

/-- A body, or any other run of bytes. -/
abbrev Bytes := List UInt8

namespace Utf8

/-- The UTF-8 bytes of a text. -/
def encode (s : String) : Bytes :=
  s.toList.flatMap String.utf8EncodeChar

/-- The character that stands for bytes that are no text. -/
def replacement : Char := '\uFFFD'

/-- What a first byte asks for: bounds on the byte after it, and how many more
bytes follow that one. The bounds are narrower than those of a continuation byte
where a longer form, a surrogate or a value above U+10FFFF would begin. -/
structure Lead where
  low : UInt8
  high : UInt8
  more : Nat

/-- The demands of a first byte above 0x7F; `none` if no character starts with it. -/
def lead? (b : UInt8) : Option Lead :=
  if b < 0xC2 then none
  else if b < 0xE0 then some ⟨0x80, 0xBF, 0⟩
  else if b = 0xE0 then some ⟨0xA0, 0xBF, 1⟩
  else if b = 0xED then some ⟨0x80, 0x9F, 1⟩
  else if b < 0xF0 then some ⟨0x80, 0xBF, 1⟩
  else if b = 0xF0 then some ⟨0x90, 0xBF, 2⟩
  else if b < 0xF4 then some ⟨0x80, 0xBF, 2⟩
  else if b = 0xF4 then some ⟨0x80, 0x8F, 2⟩
  else none

/-- The bits that a first byte contributes. -/
def leadBits (b : UInt8) : Nat :=
  if b < 0xE0 then b.toNat - 0xC0
  else if b < 0xF0 then b.toNat - 0xE0
  else b.toNat - 0xF0

/-- Read `more` continuation bytes onto `code`. Stops before the first byte that
does not continue; the bytes read so far are then a truncated character. -/
def finish : Nat → Nat → Bytes → Option Char × Bytes
  | 0, code, rest => (some (Char.ofNat code), rest)
  | _ + 1, _, [] => (none, [])
  | more + 1, code, b :: rest =>
    if 0x80 ≤ b ∧ b ≤ 0xBF then finish more (code * 64 + (b.toNat - 0x80)) rest
    else (none, b :: rest)

/-- The unit that starts with `b`: a character, or `none` for one maximal
ill-formed subpart, with what follows it. -/
def next (b : UInt8) (rest : Bytes) : Option Char × Bytes :=
  if b < 0x80 then (some (Char.ofNat b.toNat), rest)
  else
    match lead? b, rest with
    | none, _ => (none, rest)
    | some _, [] => (none, [])
    | some lead, c :: rest' =>
      if lead.low ≤ c ∧ c ≤ lead.high then
        finish lead.more (leadBits b * 64 + (c.toNat - 0x80)) rest'
      else (none, rest)

theorem length_finish_le (more code : Nat) (rest : Bytes) :
    (finish more code rest).2.length ≤ rest.length := by
  fun_induction finish more code rest <;> simp_all
  omega

/-- Nothing is put back: the unit's first byte is always consumed. -/
theorem length_next_le (b : UInt8) (rest : Bytes) :
    (next b rest).2.length ≤ rest.length := by
  unfold next
  split
  · simp
  · split
    · simp
    · simp
    · split
      · exact Nat.le_trans (length_finish_le _ _ _) (by simp)
      · simp

/-- The characters of any bytes, ill-formed subparts replaced. -/
def lossyChars : Bytes → List Char
  | [] => []
  | b :: rest =>
    (next b rest).1.getD replacement :: lossyChars (next b rest).2
  termination_by bytes => bytes.length
  decreasing_by exact Nat.lt_succ_of_le (length_next_le b rest)

/-- The text of any bytes, ill-formed subparts replaced. -/
def decodeLossy (bytes : Bytes) : String :=
  String.ofList (lossyChars bytes)

/-- The characters of well-formed bytes. -/
def chars? : Bytes → Option (List Char)
  | [] => some []
  | b :: rest =>
    (next b rest).1.bind fun c => (chars? (next b rest).2).map (c :: ·)
  termination_by bytes => bytes.length
  decreasing_by exact Nat.lt_succ_of_le (length_next_le b rest)

/-- The text of well-formed bytes. -/
def decode? (bytes : Bytes) : Option String :=
  (chars? bytes).map String.ofList

end Utf8

end ServiceLocator
