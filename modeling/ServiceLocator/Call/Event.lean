import ServiceLocator.Text.Numeral
import ServiceLocator.Text.Quoted

/-!
Log events. Each has a level, an origin that log filters go by, a message and named
fields.
-/
namespace ServiceLocator

/-- Levels, the most severe first. -/
inductive Level where
  | error
  | warn
  | info
  | debug
  | trace
deriving DecidableEq

namespace Level

/-- The level in a log line. -/
def name : Level → String
  | .error => "ERROR"
  | .warn => "WARN"
  | .info => "INFO"
  | .debug => "DEBUG"
  | .trace => "TRACE"

/-- How verbose a level is. -/
def rank : Level → Nat
  | .error => 1
  | .warn => 2
  | .info => 3
  | .debug => 4
  | .trace => 5

end Level

/-- The value of a field. A quoted text is put into quotes in a log line. -/
inductive FieldValue where
  | plain (text : String)
  | quoted (text : String)
  | number (n : Nat)
  | flag (b : Bool)
deriving DecidableEq

/-- The bare text of a value. -/
def FieldValue.text : FieldValue → String
  | .plain text => text
  | .quoted text => text
  | .number n => Numeral.text n
  | .flag b => if b then "true" else "false"

/-- The value in a log line. -/
def FieldValue.inLine : FieldValue → String
  | .quoted text => Quoted.text text
  | v => v.text

/-- A log event. -/
structure Event where
  level : Level
  origin : String
  message : String
  fields : List (String × FieldValue)
deriving DecidableEq

/-- The event as a log line, without the time. -/
def Event.line (e : Event) : String :=
  e.level.name ++ " " ++ e.origin ++ ": " ++ e.message ++
    String.join (e.fields.map fun (name, value) => " " ++ name ++ "=" ++ value.inLine)

end ServiceLocator
