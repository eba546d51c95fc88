/-!
Placeholders in texts: a name in double braces, in whose place a value is put.
-/
namespace ServiceLocator.Placeholder

/-- The placeholder of a name. -/
def text (name : String) : List Char :=
  '\x7b' :: '\x7b' :: (name.toList ++ ['\x7d', '\x7d'])

/-- Whether a pattern occurs in a text. -/
def occurs (pattern : List Char) : List Char → Bool
  | [] => pattern.isEmpty
  | c :: cs => pattern.isPrefixOf (c :: cs) || occurs pattern cs

/-- Replace the occurrences of a pattern from left to right. The first `skip`
characters belong to an occurrence that has been replaced. What is put in is not
looked at again. -/
def replaceFrom (pattern value : List Char) : Nat → List Char → List Char
  | _, [] => []
  | skip + 1, _ :: cs => replaceFrom pattern value skip cs
  | 0, c :: cs =>
    if pattern.isPrefixOf (c :: cs) then
      value ++ replaceFrom pattern value (pattern.length - 1) cs
    else c :: replaceFrom pattern value 0 cs

/-- Replace the occurrences of a pattern that is not empty. -/
def replace (pattern value cs : List Char) : List Char := replaceFrom pattern value 0 cs

end ServiceLocator.Placeholder
