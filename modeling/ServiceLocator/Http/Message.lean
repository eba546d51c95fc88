import ServiceLocator.Http.Headers
import ServiceLocator.Text.Utf8

/-!
Requests and replies.
-/
namespace ServiceLocator

/-- The methods in use. -/
inductive Method where
  | get
  | post
  | delete
deriving DecidableEq

/-- The method as written in a request. -/
def Method.name : Method → String
  | .get => "GET"
  | .post => "POST"
  | .delete => "DELETE"

/-- A status code. -/
abbrev Status := UInt16

/-- A status of the 2xx class. -/
def Status.isSuccess (s : Status) : Bool := 200 ≤ s && s ≤ 299

/-- A status of the 4xx class. -/
def Status.isClientError (s : Status) : Bool := 400 ≤ s && s ≤ 499

/-- A request about to be sent. The URI is kept as it was given. -/
structure Request where
  method : Method
  uri : String
  headers : Headers
  body : Option Bytes
deriving DecidableEq

namespace Request

/-- A request without headers and body. -/
def new (method : Method) (uri : String) : Request := ⟨method, uri, ∅, none⟩

/-- A request for a resource. -/
def get (uri : String) : Request := new .get uri

/-- The request with other headers. -/
def withHeaders (r : Request) (headers : Headers) : Request := { r with headers }

/-- The request with one header set. -/
def withHeader (r : Request) (name value : String) : Request :=
  { r with headers := r.headers.insert name value }

/-- The request with a body. -/
def withBody (r : Request) (body : Bytes) : Request := { r with body := some body }

end Request

/-- A reply as it was received, with the URI of the request it answers. -/
structure Reply where
  status : Status
  statusText : String
  headers : Headers
  body : Bytes
  requestUri : String
deriving DecidableEq

/-- The body as text; bytes that are no text are replaced. -/
def Reply.text (r : Reply) : String := Utf8.decodeLossy r.body

end ServiceLocator
