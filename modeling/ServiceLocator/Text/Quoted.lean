import ServiceLocator.Text.Numeral
import ServiceLocator.Unicode.Printable

/-!
Text in double quotes as diagnostics show it: quotes, backslashes and line breaks are
escaped, and a character that could not be seen is written as its code point.
-/
namespace ServiceLocator.Quoted

/-- One character between the quotes. -/
def escape (c : Char) : List Char :=
  if c = '\x00' then ['\\', '0']
  else if c = '\t' then ['\\', 't']
  else if c = '\r' then ['\\', 'r']
  else if c = '\n' then ['\\', 'n']
  else if c = '"' then ['\\', '"']
  else if c = '\\' then ['\\', '\\']
  else if Unicode.isShown c then [c]
  else ['\\', 'u', '\x7b'] ++ Numeral.hex c.toNat ++ ['\x7d']

/-- A text in quotes. -/
def text (s : String) : String :=
  String.ofList ('"' :: (s.toList.flatMap escape ++ ['"']))

end ServiceLocator.Quoted
