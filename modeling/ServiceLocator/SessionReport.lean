import ServiceLocator.Client.Operation
import ServiceLocator.Logging

/-!
The report of the sessions that a user can see: log in, list the sessions, and write a
line with the id and the name of each. Events are written to the same output, as they are
logged on the way.
-/
namespace ServiceLocator.SessionReport

/-- Why there is no report. -/
inductive Problem where
  | usage
  | login (error : CallError)
  | noTokenKey
  | listing (error : CallError)
  | crash (reason : String)
deriving DecidableEq

namespace Problem

/-- The problem that an error is, unless the program crashed. -/
def ofError (problem : CallError → Problem) : CallError → Problem
  | .crash reason => .crash reason
  | e => problem e

/-- What went wrong. -/
def message : Problem → String
  | .usage => "usage: list_sessions <locator-url> <username> <password>"
  | .login _ => "login failed"
  | .noTokenKey => "token reply has no tokenKey"
  | .listing _ => "listing sessions"
  | .crash reason => reason

/-- What caused it, and what caused that. -/
def causes : Problem → List String
  | .login e | .listing e => e.message :: e.sources
  | _ => []

/-- The exit code of a program with a problem. -/
def code : Problem → UInt32
  | .crash _ => 101
  | _ => 1

end Problem

/-- A text with blanks before each of its lines but the first. -/
def indent (width : Nat) (s : String) : String :=
  String.ofList (s.toList.flatMap fun c =>
    if c = '\n' then c :: List.replicate width ' ' else [c])

/-- One of several causes, numbered from zero. -/
def numbered (i : Nat) (cause : String) : String :=
  let number := Numeral.decimal i
  "\n" ++ String.ofList (List.replicate (5 - number.length) ' ' ++ number) ++ ": " ++
    indent 7 cause

/-- The causes below a message. A single one has no number. -/
def causesText : List String → String
  | [] => ""
  | [cause] => "\n\nCaused by:\n    " ++ indent 4 cause
  | causes => "\n\nCaused by:" ++ String.join (causes.mapIdx numbered)

/-- A problem as it is reported. A crash is not reported by the program itself. -/
def Problem.text (p : Problem) : String :=
  match p with
  | .crash reason => reason ++ "\n"
  | p => "Error: " ++ p.message ++ causesText p.causes ++ "\n"

/-- The line of a session. -/
def line (session : Json.Value) : String :=
  (session.get "sessionId").text ++ "\t" ++ (session.get "name").text ++ "\n"

/-- The sessions that a user can see. -/
def sessions {σ : Type} (locator username password : String) :
    Step σ (Except Problem (List Json.Value)) := do
  let anonymous := Client.new (.external locator) none
  match ← (anonymous.perform (.issueToken username password)).attempt with
  | .error e => return .error (.ofError .login e)
  | .ok token =>
    match (token.toValue.get "tokenKey").string? with
    | none => return .error .noTokenKey
    | some key =>
      match ← ((anonymous.withToken key).perform .listSessions).attempt with
      | .error e => return .error (.ofError .listing e)
      | .ok sessions => return .ok sessions.toValue.items

/-- What the program leaves behind. -/
structure Exit where
  code : UInt32
  output : String
  errors : String
deriving DecidableEq

/-- The report: a line for each session. -/
def report : Except Problem (List Json.Value) → String
  | .ok sessions => String.join (sessions.map line)
  | .error _ => ""

/-- The end of a run. What was logged comes before the report, of which nothing is written until
the last reply is there. -/
def Exit.of (logged : String) (result : Except Problem (List Json.Value)) : Exit :=
  match result with
  | .ok _ => ⟨0, logged ++ report result, ""⟩
  | .error problem => ⟨problem.code, logged ++ report result, problem.text⟩

/-- The sessions to report to a user who gives these arguments: a locator, a username and a
password. -/
def find {σ : Type} (args : List String) : Step σ (Except Problem (List Json.Value)) :=
  match args with
  | [locator, username, password] => sessions locator username password
  | _ => return .error .usage

/-- What is logged where the environment does not say. -/
def directive : String := "locator_rest_client=debug"

/-- The log of the program. Its filter, which the environment may give, is the first that is
installed. -/
def log (environment : Option String) : Log :=
  (Log.closed.install (.choose environment directive)).2

/-- Run the program with its arguments, in an environment with or without a filter for its log. -/
def run {σ : Type} (environment : Option String) (write : Nat → Event → String)
    (args : List String) : Step σ Exit := fun t s =>
  let found := (find args).run t s
  { found with result := found.result.map (Exit.of ((log environment).text write found.events)) }

end ServiceLocator.SessionReport
