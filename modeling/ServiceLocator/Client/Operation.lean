import ServiceLocator.Client.Basic

/-!
What a client can do with services. Each operation looks its service up, sends one
request to an endpoint of it, and reads the reply.
-/
namespace ServiceLocator

/-- The services that operations go to. -/
inductive Service where
  | auth
  | sessionDb
  | fileBroker
deriving DecidableEq

/-- The role of a service in a listing. -/
def Service.role : Service → String
  | .auth => "auth"
  | .sessionDb => "session-db"
  | .fileBroker => "file-broker"

/-- A session to be created: a value, or one that has no JSON form for a reason of its
own. -/
inductive Payload where
  | value (v : Json.Value)
  | unwritable (reason : String)

/-- The JSON form of a payload. -/
def Payload.bytes : Payload → Except CallError Bytes
  | .value v => .ok v.bytes
  | .unwritable reason => .error (.json ⟨.other reason, none⟩)

/-- The operations. -/
inductive Operation where
  | issueToken (username password : String)
  | listSessions
  | getSession (session : String)
  | createSession (payload : Payload)
  | deleteSession (session : String)
  | listDatasets (session : String)
  | getDataset (session dataset : String)
  | getFile (session dataset : String) (max : UInt64)

/-- What an operation returns. -/
inductive Product where
  | value (v : Json.Value)
  | bytes (b : Bytes)
  | done

/-- The value of a product; null if it is none. -/
def Product.toValue : Product → Json.Value
  | .value v => v
  | _ => .null

namespace Operation

/-- The service of an operation. -/
def service : Operation → Service
  | .issueToken .. => .auth
  | .getFile .. => .fileBroker
  | _ => .sessionDb

/-- The path of an operation's endpoint. -/
def path : Operation → String
  | .issueToken .. => Endpoint.tokens
  | .listSessions | .createSession _ => Endpoint.sessions
  | .getSession session | .deleteSession session => Endpoint.session session
  | .listDatasets session => Endpoint.datasets session
  | .getDataset session dataset | .getFile session dataset _ => Endpoint.dataset session dataset

/-- The method of an operation. -/
def method : Operation → Method
  | .issueToken .. | .createSession _ => .post
  | .deleteSession _ => .delete
  | _ => .get

/-- The headers of an operation. A token is issued for a username and password, all
else is done with the client's token. -/
def headers (c : Client) : Operation → Headers
  | .issueToken username password => Credential.attach username password ∅
  | .createSession _ => (c.authorize ∅).insert "content-type" "application/json"
  | .getFile _ _ max =>
    c.authorize ((∅ : Headers).insert "Range" (Credential.byteRange max))
  | _ => c.authorize ∅

/-- The body of an operation. -/
def body : Operation → Except CallError (Option Bytes)
  | .createSession payload => payload.bytes.map some
  | _ => .ok none

/-- Read the reply to an operation. A session may be created without an answer. -/
def read (op : Operation) (reply : Bytes) : Except CallError Product :=
  match op with
  | .deleteSession _ => .ok .done
  | .getFile .. => .ok (.bytes reply)
  | .createSession _ =>
    if reply.isEmpty then .ok (.value .null)
    else ((Json.parse reply).map .value).mapError .json
  | _ => ((Json.parse reply).map .value).mapError .json

/-- The request of an operation to the service at an address. -/
def request (op : Operation) (c : Client) (address : String) : Except CallError Request := do
  let uri ← Endpoint.join address op.path
  let body ← op.body
  return ⟨op.method, uri, op.headers c, body⟩

/-- Whether an operation asks for nothing. No range of bytes is empty, so an empty
one is never asked for. -/
def asksNothing : Operation → Bool
  | .getFile _ _ max => max == 0
  | _ => false

end Operation

/-- Do what an operation says. -/
def Client.perform {σ : Type} (c : Client) (op : Operation) : Step σ Product :=
  if op.asksNothing then pure (.bytes [])
  else do
    let address ← c.resolve op.service.role
    let request ← Step.ofExcept (op.request c address)
    let reply ← c.call request
    Step.ofExcept (op.read reply)

end ServiceLocator
