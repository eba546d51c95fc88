import ServiceLocator.Url.Basic
import ServiceLocator.Url.Percent

/-!
Reading the path of a URL. The text is cut at its slashes; `.` and `..` segments,
also with encoded dots, are resolved on the way.
-/
namespace ServiceLocator.Url.Path

/-- Cut a text into segments. -/
def cut (isSlash : Char → Bool) : List Char → List (List Char)
  | [] => [[]]
  | c :: rest =>
    if isSlash c then [] :: cut isSlash rest
    else
      match cut isSlash rest with
      | [] => [[c]]
      | segment :: later => (c :: segment) :: later

/-- How many dots a segment of nothing but dots has. -/
def dots? : List Char → Option Nat
  | [] => some 0
  | '.' :: rest => (dots? rest).map (· + 1)
  | '%' :: '2' :: 'e' :: rest => (dots? rest).map (· + 1)
  | '%' :: '2' :: 'E' :: rest => (dots? rest).map (· + 1)
  | _ => none

/-- The path after its last segment is given up. -/
def parent (path : List String) : List String := path.dropLast

/-- Resolve segments onto a path. A dot segment at the end leaves an empty one. -/
def resolve (up : List String → List String) (path : List String) :
    List (List Char) → List String
  | [] => path
  | segment :: later =>
    let atEnd := later.isEmpty
    let path :=
      match dots? segment with
      | some 1 => if atEnd then path ++ [""] else path
      | some 2 => if atEnd then up path ++ [""] else up path
      | _ => path ++ [percentEncode pathSet segment]
    resolve up path later

def isSlash (c : Char) : Bool := c == '/'

def isAnySlash (c : Char) : Bool := c == '/' || c == '\\'

/-- The path of a hierarchy, its first slash taken off. -/
def parse (isSlash : Char → Bool) (cs : List Char) : Path :=
  .segments (resolve parent [] (cut isSlash cs))

/-! ## Drive letters

Under `file`, a letter and a colon name a drive: it is not given up at `..`, and
slashes in front of a path do not count. -/

def isAlpha (c : Char) : Bool := ('a' ≤ c && c ≤ 'z') || ('A' ≤ c && c ≤ 'Z')

/-- A letter and a colon or a bar. -/
def isDrive : List Char → Bool
  | [letter, mark] => isAlpha letter && (mark == ':' || mark == '|')
  | _ => false

/-- The path after its last segment is given up, unless that is a drive. -/
def parentOnDrive (path : List String) : List String :=
  if (path.getLast?.map fun last => isDrive last.toList) = some true then path
  else path.dropLast

/-- Segments without empty ones in front, as long as one is left. -/
def dropEmpty : List (List Char) → List (List Char)
  | [] :: segment :: later => dropEmpty (segment :: later)
  | kept => kept

/-- Write the drive of a path with a colon, and tell whether there is one. -/
def markDrive : List (List Char) → List (List Char) × Bool
  | segment :: later =>
    if isDrive segment then ((segment.take 1 ++ [':']) :: later, true)
    else (segment :: later, false)
  | [] => ([], false)

/-- The path of a file, its first slash taken off, and whether it names a drive. -/
def parseFile (cs : List Char) : Path × Bool :=
  let (marked, onDrive) := markDrive (dropEmpty (cut isAnySlash cs))
  let path := (resolve parentOnDrive [] marked).dropWhile (· == "")
  (.segments (if path.isEmpty then [""] else path), onDrive)

end ServiceLocator.Url.Path
