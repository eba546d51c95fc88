import ServiceLocator.Text.Numeral

/-!
IPv6 addresses: eight pieces in hexadecimal, at most one run of zero pieces left
out at `::`, and the last two pieces possibly written as an IPv4 address.
-/
namespace ServiceLocator.Url.Ipv6

/-- Cut a text at a character. -/
def fields (sep : Char) : List Char → List (List Char)
  | [] => [[]]
  | c :: rest =>
    if c = sep then [] :: fields sep rest
    else
      match fields sep rest with
      | [] => [[c]]
      | field :: later => (c :: field) :: later

/-- One piece: up to four hexadecimal digits. -/
def piece? (cs : List Char) : Option Nat :=
  if cs.length ≤ 4 then Numeral.hex? cs else none

/-- One byte in decimal, without leading zeros. -/
def byte? (cs : List Char) : Option Nat :=
  match cs with
  | '0' :: _ :: _ => none
  | _ => (Numeral.decimal? cs).filter (· < 256)

/-- The two pieces of an IPv4 address. -/
def dotted? (cs : List Char) : Option (List Nat) := do
  match ← (fields '.' cs).mapM byte? with
  | [a, b, c, d] => some [a * 256 + b, c * 256 + d]
  | _ => none

/-- The pieces of colon-separated groups. Only the last group may be dotted, and
only if `tail` says that the address ends there. -/
def groups? (tail : Bool) : List (List Char) → Option (List Nat)
  | [] => some []
  | [last] =>
    if tail && last.contains '.' then dotted? last else (piece? last).map ([·])
  | group :: later => do
    let piece ← piece? group
    let pieces ← groups? tail later
    some (piece :: pieces)

/-- The pieces of a text with no piece left out; an empty text has none. -/
def pieces? (tail : Bool) (cs : List Char) : Option (List Nat) :=
  if cs.isEmpty then some [] else groups? tail (fields ':' cs)

/-- The text before the first `::` and after it. -/
def splitGap? : List Char → Option (List Char × List Char)
  | [] => none
  | ':' :: ':' :: rest => some ([], rest)
  | c :: rest => (splitGap? rest).map fun (before, after) => (c :: before, after)

/-- The eight pieces of an address. A gap stands for one piece at least. -/
def parse? (cs : List Char) : Option (List Nat) := do
  match splitGap? cs with
  | none =>
    let pieces ← pieces? true cs
    if pieces.length = 8 then some pieces else none
  | some (before, after) =>
    let front ← pieces? false before
    let back ← pieces? true after
    if front.length + back.length ≤ 7 then
      some (front ++ List.replicate (8 - front.length - back.length) 0 ++ back)
    else none

/-! ## Writing -/

/-- How many zero pieces stand in front. -/
def zeros (pieces : List Nat) : Nat := (pieces.takeWhile (· == 0)).length

/-- The first longest run of zero pieces: where it starts and how long it is. -/
def longestRun (pieces : List Nat) : Nat × Nat :=
  (List.range pieces.length).foldl
    (fun best i =>
      let n := zeros (pieces.drop i)
      if best.2 < n then (i, n) else best)
    (0, 0)

def joined (pieces : List Nat) : String :=
  ":".intercalate (pieces.map fun piece => String.ofList (Numeral.hex piece))

/-- The shortest writing: the first longest run of two zero pieces or more is left
out. -/
def text (pieces : List Nat) : String :=
  let (start, length) := longestRun pieces
  if length < 2 then joined pieces
  else joined (pieces.take start) ++ "::" ++ joined (pieces.drop (start + length))

end ServiceLocator.Url.Ipv6
