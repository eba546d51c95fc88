import ServiceLocator.Call.Caller
import ServiceLocator.Call.Error
import ServiceLocator.Call.Event
import ServiceLocator.Text.Placeholder
import ServiceLocator.Unicode.UpperCase

/-!
Where the locator is. A key has the value that was set for it, or else that of its
environment variable, or else a default. Defaults have placeholders for variables,
whose values come from the same places; values that were set or taken from the
environment are used as they are.
-/
namespace ServiceLocator

/-- The variables of an environment. -/
abbrev Environment := String → Option String

/-- What was set for keys and for variables, the latest first. -/
structure Configuration where
  overrides : List (String × String)
  variableValues : List (String × String)
deriving DecidableEq

namespace Configuration

/-- The key of the locator's internal address. -/
def internalLocator : String := "url-int-service-locator"

/-- The key of the locator's public address. -/
def publicLocator : String := "url-ext-service-locator"

/-- The default of both addresses. -/
def locatorTemplate : List Char :=
  "http://".toList ++ Placeholder.text "public-ip" ++ ":8082/servicelocator".toList

/-- The keys that have a default. -/
def defaults : List (String × List Char) :=
  [(internalLocator, locatorTemplate), (publicLocator, locatorTemplate)]

/-- The variables with their defaults, in the order in which they are put in. -/
def variableDefaults : List (String × String) :=
  [("public-ip", "127.0.0.1"), ("bind-ip", "0.0.0.0")]

/-- The environment variable of a key. -/
def environmentName (key : String) : String :=
  String.ofList ((Unicode.upper key).toList.map fun c => if c = '-' then '_' else c)

/-- Nothing is set. -/
def empty : Configuration := ⟨[], []⟩

/-- Set a key. -/
def set (c : Configuration) (key value : String) : Configuration :=
  { c with overrides := (key, value) :: c.overrides }

/-- Set a variable. -/
def setVariable (c : Configuration) (name value : String) : Configuration :=
  { c with variableValues := (name, value) :: c.variableValues }

/-- The event of a variable that has its default. -/
def defaultEvent (name default : String) : Event :=
  ⟨.debug, "locator_rest_client::config", "using default config variable",
    [("variable", .quoted name), ("default", .quoted default)]⟩

/-- A text on its way to a value, and what was logged about it. -/
structure Rendering where
  text : List Char
  events : List Event

/-- The value given for a variable. -/
def given? (c : Configuration) (env : Environment) (name : String) : Option String :=
  (c.variableValues.lookup name).or (env (environmentName name))

/-- Put the value of a variable in, if the text has a place for it. -/
def putIn (c : Configuration) (env : Environment) (r : Rendering) (v : String × String) :
    Rendering :=
  let pattern := Placeholder.text v.1
  if Placeholder.occurs pattern r.text then
    match c.given? env v.1 with
    | some value => ⟨Placeholder.replace pattern value.toList r.text, r.events⟩
    | none =>
      ⟨Placeholder.replace pattern v.2.toList r.text, r.events ++ [defaultEvent v.1 v.2]⟩
  else r

/-- A template with the variables put in, one after the other. -/
def render (c : Configuration) (env : Environment) (template : List Char) : Rendering :=
  variableDefaults.foldl (c.putIn env) ⟨template, []⟩

/-- Look a key up. -/
def lookup (c : Configuration) (env : Environment) (key : String) : Except CallError Rendering :=
  match c.overrides.lookup key with
  | some value => .ok ⟨value.toList, []⟩
  | none =>
    match env (environmentName key) with
    | some value => .ok ⟨value.toList, []⟩
    | none =>
      match defaults.lookup key with
      | some template => .ok (c.render env template)
      | none => .error (.config ("configuration key not found: " ++ key))

/-- The value of a key. -/
def get (c : Configuration) (env : Environment) (key : String) : Except CallError String :=
  (c.lookup env key).map fun r => String.ofList r.text

/-- What is logged when a key is looked up. -/
def events (c : Configuration) (env : Environment) (key : String) : List Event :=
  match c.lookup env key with
  | .ok r => r.events
  | .error _ => []

/-- An internal caller with the locator's internal address. -/
def internalCaller (c : Configuration) (env : Environment) : Except CallError Caller :=
  (c.get env internalLocator).map .internal

end Configuration

end ServiceLocator
