import ServiceLocator.Text.Utf8
import ServiceLocator.Unicode.Composition
import ServiceLocator.Unicode.Mark
import ServiceLocator.Url.Domain.BidiRows
import ServiceLocator.Url.Domain.JoiningRows
import ServiceLocator.Url.Domain.Rows
import ServiceLocator.Url.Punycode

/-!
Internationalized domain names in their ASCII form. A name is mapped, normalized
and cut into labels; a label beyond ASCII is written in Punycode after `xn--`.
`toAscii?` refuses a name with a code point that no domain name may hold.
-/
namespace ServiceLocator.Url.Domain

open Unicode (inTable image? normalize isMark isVirama)

/-! ## Mapping -/

/-- The mapping of one code point; `none` if it is disallowed. -/
def mapCode? (code : Nat) : Option (List Nat) :=
  if inTable keptRows code then some [code]
  else if inTable ignoredRows code then some []
  else image? mappedRows code

/-- Map and normalize a name. -/
def mapped? (codes : List Nat) : Option (List Nat) :=
  (codes.mapM mapCode?).map fun images => normalize images.flatten

/-! ## Labels -/

/-- The full stop between labels. -/
def dot : Nat := 0x2E

/-- Cut a name at its dots. -/
def labels : List Nat → List (List Nat)
  | [] => [[]]
  | code :: rest =>
    if code = dot then [] :: labels rest
    else
      match labels rest with
      | [] => [[code]]
      | label :: later => (code :: label) :: later

/-- What a label in Punycode begins with. -/
def acePrefix : List Nat := "xn--".toList.map Char.toNat

/-- Whether a label is in Punycode. -/
def isAce (label : List Nat) : Bool :=
  acePrefix.isPrefixOf label

def isAscii (code : Nat) : Bool := code < 0x80

/-- ASCII characters that a URL forbids in a domain: controls, space, delete, and
those that a URL gives a meaning. -/
def isForbidden (code : Nat) : Bool :=
  code ≤ 0x20 || code == 0x7F || "%#/:<>?@[\\]^|".toList.any (·.toNat == code)

/-- The joiners stand after a virama; the non-joiner also between letters that
would join. `before` is the label up to the joiner, last code point first. -/
def joinerAllowed (before : List Nat) (joiner : Nat) (after : List Nat) : Bool :=
  if before.head?.any isVirama then true
  else if joiner = 0x200C then
    let left := (before.dropWhile (inTable transparentRows)).head?
    let right := (after.dropWhile (inTable transparentRows)).head?
    left.any (fun c => inTable dualJoiningRows c || inTable leftJoiningRows c) &&
      right.any (fun c => inTable dualJoiningRows c || inTable rightJoiningRows c)
  else false

/-- Whether every joiner of a label has its context. -/
def joinersAllowed (before : List Nat) : List Nat → Bool
  | [] => true
  | code :: rest =>
    (if code = 0x200C ∨ code = 0x200D then joinerAllowed before code rest else true) &&
      joinersAllowed (code :: before) rest

/-- Whether a label that is shown as it is may stand in a name. -/
def isValidLabel (label : List Nat) : Bool :=
  !label.head?.any isMark && joinersAllowed [] label

/-- The code points that a label in Punycode stands for. They must be what mapping
leaves alone, and there must be a reason to write them so. -/
def expansion? (label : List Nat) : Option (List Nat) := do
  let codes ← Punycode.decode? ((label.drop acePrefix.length).map Char.ofNat)
  if codes.all isAscii then none
  else if codes.all (inTable keptRows) && normalize codes == codes && !isAce codes &&
      isValidLabel codes then some codes
  else none

/-- A label as written in the ASCII form, and the code points it shows. -/
structure Label where
  written : List Char
  shown : List Nat

/-- Check a mapped label and write it in ASCII. -/
def label? (label : List Nat) : Option Label :=
  if label.any (fun code => isAscii code && isForbidden code) then none
  else if isAce label then
    if label.all isAscii then
      (expansion? label).map fun shown => ⟨label.map Char.ofNat, shown⟩
    else none
  else if isValidLabel label then
    if label.all isAscii then some ⟨label.map Char.ofNat, label⟩
    else some ⟨"xn--".toList ++ Punycode.encode label, label⟩
  else none

/-! ## Bidirectional names

Once a label holds a right-to-left character, every label must read in one
direction. -/

/-- Bidirectional classes, as far as the rules tell them apart. -/
inductive Bidi where
  | left | right | arabicNumber | europeanNumber | neutral | mark | barred
deriving DecidableEq

/-- The class of a code point. Arabic letters count as right-to-left; separators
and number terminators are neutral, and white space is barred. -/
def bidi (code : Nat) : Bidi :=
  if inTable rightToLeftRows code || inTable arabicLetterRows code then .right
  else if inTable arabicNumberRows code then .arabicNumber
  else if inTable europeanNumberRows code then .europeanNumber
  else if inTable nonspacingMarkRows code then .mark
  else if inTable europeanSeparatorRows code || inTable commonSeparatorRows code ||
      inTable europeanTerminatorRows code || inTable otherNeutralRows code ||
      inTable boundaryNeutralRows code then .neutral
  else if inTable separatorRows code then .barred
  else .left

/-- Whether a label makes its name bidirectional. -/
def isRightToLeft (label : List Nat) : Bool :=
  label.any fun code => bidi code == .right || bidi code == .arabicNumber

/-- Whether a label keeps to one direction. -/
def keepsDirection (label : List Nat) : Bool :=
  let classes := label.map bidi
  let last := (classes.reverse.dropWhile (· == .mark)).head?
  match classes.head? with
  | none => true
  | some .left =>
    classes.all (fun k => k == .left || k == .europeanNumber || k == .neutral || k == .mark) &&
      last.any (fun k => k == .left || k == .europeanNumber)
  | some .right =>
    classes.all (fun k => k != .left && k != .barred) &&
      last.any (fun k => k == .right || k == .europeanNumber || k == .arabicNumber) &&
      !(classes.contains .europeanNumber && classes.contains .arabicNumber)
  | some _ => false

/-! ## The ASCII form -/

/-- A code point in lower case, if it is a letter of ASCII. -/
def lowerCode (code : Nat) : Nat :=
  if 0x41 ≤ code ∧ code ≤ 0x5A then code + 0x20 else code

/-- Whether a name in lower case is ASCII and has no label in Punycode. No table
changes such a name. -/
def isPlain (codes : List Nat) : Bool :=
  codes.all isAscii && !(labels codes).any isAce

/-- The ASCII form of a name by way of the tables. -/
def ofMapped? (codes : List Nat) : Option String := do
  let codes ← mapped? codes
  let labels ← (labels codes).mapM label?
  if labels.any (isRightToLeft ·.shown) && !labels.all (keepsDirection ·.shown) then none
  else some (String.ofList (List.intercalate ['.'] (labels.map (·.written))))

/-- The ASCII form of a plain name: it only has to be free of forbidden characters. -/
def ofPlain? (codes : List Nat) : Option String :=
  if codes.any isForbidden then none else some (String.ofList (codes.map Char.ofNat))

/-- The ASCII form of a name given in UTF-8. -/
def toAscii? (name : Bytes) : Option String := do
  let codes := (← Utf8.chars? name).map fun c => lowerCode c.toNat
  if isPlain codes then ofPlain? codes else ofMapped? codes

end ServiceLocator.Url.Domain
