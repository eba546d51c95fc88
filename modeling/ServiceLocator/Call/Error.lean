import ServiceLocator.Http.Message
import ServiceLocator.Json.Fault

/-!
Errors of a call. A failure status is presented to its caller as a diagnostic text
or in a form that an HTTP layer can pass on; everything else names its cause.
-/
namespace ServiceLocator

/-- A failure to be handed on by an HTTP layer. -/
structure HttpError where
  restCode : String
  statusCode : Status
  message : String
deriving DecidableEq

/-- The status to hand on; one that is no HTTP status becomes 500. -/
def HttpError.status (e : HttpError) : Status :=
  if 100 ≤ e.statusCode ∧ e.statusCode ≤ 999 then e.statusCode else 500

/-- Status, code and message in one line. -/
def HttpError.text (e : HttpError) : String :=
  Numeral.text e.statusCode.toNat ++ " " ++ e.restCode ++ ": " ++ e.message

/-- A failure status as presented to a caller. -/
inductive Presented where
  | message (text : String)
  | http (error : HttpError)
deriving DecidableEq

/-- The text of a presented failure. -/
def Presented.text : Presented → String
  | .message text => text
  | .http error => error.text

/-- A status in digits, with at most one plus sign in front. -/
def readStatus? (cs : List Char) : Option Status :=
  match Numeral.unsigned? cs with
  | some n => if n < 65536 then some (UInt16.ofNat n) else none
  | none => none

/-- The status of a presented failure. A message begins with it; what stands before
the first space is read back. -/
def Presented.status? : Presented → Option Status
  | .http error => some error.statusCode
  | .message text => readStatus? (text.toList.takeWhile (· != ' '))

/-- Why a call gave no result. A call that crashes tells its caller nothing at all: the program
stops in the middle of it. -/
inductive CallError where
  | transport (uri message : String)
  | client (shown : Presented)
  | server (shown : Presented)
  | serviceNotFound (name : String)
  | invalidUri (reason : String)
  | header (reason : String)
  | json (fault : Json.Fault)
  | config (reason : String)
  | crash (reason : String)
deriving DecidableEq

namespace CallError

/-- The wording of an error. -/
def message : CallError → String
  | .transport uri text => "transport error for " ++ uri ++ ": " ++ text
  | .client shown => "client error: " ++ shown.text
  | .server shown => "server error: " ++ shown.text
  | .serviceNotFound name => "service not found: " ++ name
  | .invalidUri reason => "invalid uri: " ++ reason
  | .header reason => "invalid header: " ++ reason
  | .json fault => "json error: " ++ fault.message
  | .config reason => "configuration error: " ++ reason
  | .crash reason => reason

/-- The status of an error that stems from one. -/
def status? : CallError → Option Status
  | .client shown | .server shown => shown.status?
  | _ => none

/-- Whether there was no usable reply. -/
def isTransport : CallError → Bool
  | .transport .. => true
  | _ => false

/-- The errors beneath an error, outermost first. -/
def sources : CallError → List String
  | .json fault => [fault.message]
  | _ => []

end CallError

end ServiceLocator
