import ServiceLocator.Unicode.Composition.Rows

/-!
Canonical composition (normalization form C): decompose, put marks into the order
of their combining classes, and compose again.
-/
namespace ServiceLocator.Unicode

/-- The combining class of a code point; zero for a character that starts anew. -/
def combiningClass (code : Nat) : Nat :=
  ((image? combiningClassRows code).bind List.head?).getD 0

/-! ## Hangul syllables

A syllable is computed from its leading consonant, vowel and trailing consonant. -/

def firstSyllable : Nat := 0xAC00
def firstLead : Nat := 0x1100
def firstVowel : Nat := 0x1161
def firstTrail : Nat := 0x11A7
def leadCount : Nat := 19
def vowelCount : Nat := 21
def trailCount : Nat := 28

/-- The letters of a syllable. -/
def syllableLetters? (code : Nat) : Option (List Nat) :=
  if firstSyllable ≤ code ∧ code < firstSyllable + leadCount * vowelCount * trailCount then
    let index := code - firstSyllable
    let letters := [firstLead + index / (vowelCount * trailCount),
      firstVowel + index / trailCount % vowelCount]
    if index % trailCount = 0 then some letters
    else some (letters ++ [firstTrail + index % trailCount])
  else none

/-- The syllable of a consonant and a vowel, or of an open syllable and a consonant. -/
def syllable? (a b : Nat) : Option Nat :=
  if firstLead ≤ a ∧ a < firstLead + leadCount ∧ firstVowel ≤ b ∧ b < firstVowel + vowelCount then
    some (firstSyllable + ((a - firstLead) * vowelCount + (b - firstVowel)) * trailCount)
  else if firstSyllable ≤ a ∧ a < firstSyllable + leadCount * vowelCount * trailCount ∧
      (a - firstSyllable) % trailCount = 0 ∧ firstTrail < b ∧ b < firstTrail + trailCount then
    some (a + (b - firstTrail))
  else none

/-! ## Decomposition -/

/-- Decompose the first code point of each step again, at most `depth` times. The
second never decomposes, and no character needs more than three steps. -/
def decomposeSteps : Nat → Nat → List Nat
  | 0, code => [code]
  | depth + 1, code =>
    (image? decompositionRows code).elim [code] fun
      | first :: rest => decomposeSteps depth first ++ rest
      | [] => [code]

/-- The full canonical decomposition of a code point. -/
def decompose (code : Nat) : List Nat :=
  match syllableLetters? code with
  | some letters => letters
  | none => decomposeSteps 3 code

/-- Put a code point before a text in order: past the marks of a lower class, if
it is a mark itself. -/
def insertMark (code : Nat) : List Nat → List Nat
  | [] => [code]
  | other :: rest =>
    if 0 < combiningClass other ∧ combiningClass other < combiningClass code then
      other :: insertMark code rest
    else code :: other :: rest

/-- Sort each run of marks by class; marks of one class keep their order. -/
def orderMarks (codes : List Nat) : List Nat :=
  codes.foldr insertMark []

/-! ## Composition -/

/-- The character that two code points compose to. -/
def compose? (a b : Nat) : Option Nat :=
  match syllable? a b with
  | some code => some code
  | none =>
    match decompositionRows.find? fun row =>
        row.apply row.first == [a, b] && !inTable excludedRows row.first with
    | some row => some row.first
    | none => none

/-- Compose onto a starter. `marks` are those that did not compose, last first; a
code point reaches the starter if none of them has its class or a higher one. -/
def composeFrom (starter : Nat) (marks : List Nat) : List Nat → List Nat
  | [] => starter :: marks.reverse
  | code :: rest =>
    let reaches :=
      match marks with
      | [] => true
      | mark :: _ => combiningClass mark < combiningClass code
    match if reaches then compose? starter code else none with
    | some composed => composeFrom composed marks rest
    | none =>
      if combiningClass code = 0 then
        starter :: (marks.reverse ++ composeFrom code [] rest)
      else composeFrom starter (code :: marks) rest

/-- Compose an ordered text. Marks before the first starter stay. -/
def composeAll : List Nat → List Nat
  | [] => []
  | code :: rest =>
    if combiningClass code = 0 then composeFrom code [] rest
    else code :: composeAll rest

/-- Normalization form C. -/
def normalize (codes : List Nat) : List Nat :=
  composeAll (orderMarks (codes.flatMap decompose))

end ServiceLocator.Unicode
