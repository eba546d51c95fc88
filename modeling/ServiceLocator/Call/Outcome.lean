import ServiceLocator.Call.Caller
import ServiceLocator.Call.Error
import ServiceLocator.Call.Event

/-!
The verdict on a reply. A 2xx status is a success with the body as it is, a 4xx
status keeps its details, and any other status becomes one general server error that
says nothing about the reply.
-/
namespace ServiceLocator

/-- Which kind of status made a reply a failure. -/
inductive FailureKind where
  | client
  | server
deriving DecidableEq

/-- A reply that is no success. -/
structure Failure where
  kind : FailureKind
  status : Status
  statusText : String
  message : String
  requestUri : String
deriving DecidableEq

/-- The failure as its caller wants it. -/
def Failure.present (f : Failure) : Caller → Presented
  | .external _ =>
    .message (Numeral.text f.status.toNat ++ " - " ++ f.statusText ++ " (" ++ f.message ++ ") " ++
      f.requestUri)
  | .internal _ => .http ⟨f.statusText, f.status, f.message⟩

/-- The error of a failure. -/
def Failure.toError (f : Failure) (caller : Caller) : CallError :=
  match f.kind with
  | .client => .client (f.present caller)
  | .server => .server (f.present caller)

/-- The verdict on a reply. -/
inductive Outcome where
  | success (body : Bytes)
  | failure (f : Failure)
deriving DecidableEq

namespace Outcome

/-- The body of a success, or the error of a failure. -/
def toResult (o : Outcome) (caller : Caller) : Except CallError Bytes :=
  match o with
  | .success body => .ok body
  | .failure f => .error (f.toError caller)

/-- Whether the verdict is a success. -/
def isSuccess : Outcome → Bool
  | .success _ => true
  | .failure _ => false

/-- What every server error says. -/
def serverMessage : String := "unable to retrieve resource"

/-- The status that every server error has. -/
def serverStatus : Status := 500

/-- The status text that every server error has. -/
def serverStatusText : String := "Internal Server Error"

end Outcome

/-- The verdict on a reply. -/
def Reply.outcome (r : Reply) : Outcome :=
  if r.status.isSuccess then .success r.body
  else if r.status.isClientError then
    .failure ⟨.client, r.status, r.statusText, r.text, r.requestUri⟩
  else
    .failure ⟨.server, Outcome.serverStatus, Outcome.serverStatusText, Outcome.serverMessage,
      r.requestUri⟩

/-- The event that goes with the verdict. A server error is logged with what it
does not tell its caller. -/
def Reply.event (r : Reply) : Event :=
  let origin := "locator_rest_client::client::classify"
  let details : List (String × FieldValue) :=
    [("status", .number r.status.toNat), ("status_text", .plain r.statusText),
      ("uri", .plain r.requestUri), ("body", .plain r.text)]
  if r.status.isSuccess then
    ⟨.debug, origin, "response", [("status", .number r.status.toNat),
      ("uri", .plain r.requestUri), ("bytes", .number r.body.length)]⟩
  else if r.status.isClientError then ⟨.debug, origin, "client error", details⟩
  else ⟨.error, origin, "server error", details⟩

end ServiceLocator
