import ServiceLocator.Call.Event
import ServiceLocator.Http.Headers

/-!
Log filters. A directive is a level for everything, or for the origins that begin with
a target; of the directives that apply to an origin the one with the longest target
decides. The first filter that is installed stays.
-/
namespace ServiceLocator

/-- How verbose events may be: at most as a level, or none at all. -/
abbrev Threshold := Option Level

namespace Threshold

/-- Whether events of a level get through. -/
def allows (t : Threshold) (level : Level) : Bool :=
  match t with
  | some most => level.rank ≤ most.rank
  | none => false

/-- The thresholds, the strictest first. -/
def all : List Threshold :=
  [none, some .error, some .warn, some .info, some .debug, some .trace]

/-- The word for a threshold. -/
def word : Threshold → String
  | none => "off"
  | some level => asciiLower level.name

/-- Read a threshold: its word, or the number of levels that get through. -/
def parse? (text : String) : Option Threshold :=
  match Numeral.unsigned? text.toList with
  | some n => all[n]?
  | none => all.find? (sameName text ·.word)

end Threshold

/-- A threshold for the origins that begin with a target. -/
structure Directive where
  target : String
  threshold : Threshold
deriving DecidableEq

namespace Directive

/-- The level for everything where no directive is given. -/
def fallback : Directive := ⟨"", some .error⟩

/-- Whether a directive is for an origin. -/
def appliesTo (d : Directive) (origin : String) : Bool :=
  d.target.toList.isPrefixOf origin.toList

/-- What a target may begin with. -/
def isStart (c : Char) : Bool :=
  c.isAlphanum || 0x80 ≤ c.toNat || c == '-' || c == ':' || c == '_'

/-- Read a directive: a threshold, a target, or both. A target alone lets everything
through. -/
def parse? (text : String) : Option Directive :=
  let cs := text.toList
  if !(cs.head?.any isStart) || cs.contains '[' then none
  else
    match cs.dropWhile (· != '=') with
    | [] =>
      match Threshold.parse? text with
      | some threshold => some ⟨"", threshold⟩
      | none => some ⟨text, some .trace⟩
    | _ :: word =>
      let target := String.ofList (cs.takeWhile (· != '='))
      if word.isEmpty then some ⟨target, some .trace⟩
      else (Threshold.parse? (String.ofList word)).map fun threshold => ⟨target, threshold⟩

end Directive

/-- The parts of a text between commas, without the empty ones. -/
def commaParts (text : String) : List String :=
  let (last, parts) := text.toList.foldr
    (fun c (part, parts) => if c = ',' then ([], part :: parts) else (c :: part, parts))
    (([] : List Char), ([] : List (List Char)))
  ((last :: parts).filter (!·.isEmpty)).map String.ofList

/-- Directives, in the order given. -/
structure Filter where
  directives : List Directive
deriving DecidableEq

namespace Filter

/-- A filter always has a directive. -/
def ofDirectives (directives : List Directive) : Filter :=
  ⟨if directives.isEmpty then [.fallback] else directives⟩

/-- Read a filter of which every directive must be right. -/
def parse? (text : String) : Option Filter :=
  ((commaParts text).mapM Directive.parse?).map ofDirectives

/-- Read a filter; directives that are wrong are left out. -/
def parse (text : String) : Filter :=
  ofDirectives ((commaParts text).filterMap Directive.parse?)

/-- Of two directives the one with the longer target; of the same target the later. -/
def prefer (best : Option Directive) (d : Directive) : Option Directive :=
  match best with
  | some b => if b.target.length ≤ d.target.length then some d else some b
  | none => some d

/-- The directive that decides about an origin. -/
def directiveFor (f : Filter) (origin : String) : Option Directive :=
  (f.directives.filter (·.appliesTo origin)).foldl prefer none

/-- Whether an event gets through. -/
def allows (f : Filter) (e : Event) : Bool :=
  match f.directiveFor e.origin with
  | some d => d.threshold.allows e.level
  | none => false

/-- The filter given by the environment, if it is right, or else by the program. -/
def choose (environment : Option String) (program : String) : Filter :=
  (environment.bind parse?).getD (parse program)

end Filter

/-- Where log lines go: nowhere before a filter is installed. -/
structure Log where
  filter : Option Filter
deriving DecidableEq

namespace Log

/-- No filter is installed. -/
def closed : Log := ⟨none⟩

/-- Install a filter, unless there is one; whether it was installed. -/
def install (log : Log) (f : Filter) : Bool × Log :=
  match log.filter with
  | some _ => (false, log)
  | none => (true, ⟨some f⟩)

/-- Install filters one after the other; which of them were installed. -/
def installAll (log : Log) : List Filter → List Bool × Log
  | [] => ([], log)
  | f :: rest =>
    let (installed, log) := log.install f
    let (others, log) := log.installAll rest
    (installed :: others, log)

/-- The events that get through. -/
def passed (log : Log) (events : List Event) : List Event :=
  match log.filter with
  | some f => events.filter f.allows
  | none => []

/-- The lines of events. -/
def lines (log : Log) (events : List Event) : List String := (log.passed events).map Event.line

/-- The text that events leave behind. How an event is written depends on the time as well, and so
on how many were written before it. -/
def text (log : Log) (write : Nat → Event → String) (events : List Event) : String :=
  String.join ((log.passed events).mapIdx write)

end Log

end ServiceLocator
