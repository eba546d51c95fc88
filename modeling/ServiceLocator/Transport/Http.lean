import ServiceLocator.Http.Credential
import ServiceLocator.Http.Reason
import ServiceLocator.Transport.Basic
import ServiceLocator.Transport.Peer
import ServiceLocator.Transport.Settings

/-!
Requests over HTTP. A request is composed from its URL and headers, or turned down
before anything leaves; what the far end then does becomes a reply or an error. Each
request is tried once, and redirects are not followed.
-/
namespace ServiceLocator

namespace Url

/-- The username and password of a URL, unless they are missing or no text. -/
def credentials? (url : Url) : Option (String × String) :=
  match Utf8.decode? (percentDecode url.username.toList) with
  | none => none
  | some username =>
    let password :=
      if url.password = "" then none else Utf8.decode? (percentDecode url.password.toList)
    if username = "" ∧ password = none then none else some (username, password.getD "")

/-- The URL that is asked for: usernames and passwords that can be read are sent as
credentials instead. -/
def target (url : Url) : Url :=
  if url.credentials?.isSome then url.withoutUserinfo else url

/-- The longest URL that can be asked for. -/
def maxLength : Nat := 65534

/-- Whether a URL can be asked for over HTTP. -/
def isHttpTarget (url : Url) : Bool :=
  (url.scheme == "http" || url.scheme == "https") &&
    url.hostText.toList.all (fun c => !"\"\x60\x7b\x7d".toList.contains c) &&
    url.target.text.length ≤ maxLength

end Url

namespace WireRequest

/-- Set a field unless it is there. -/
def supply (fields : Headers) (name value : String) : Headers :=
  if (fields.get? name).isSome then fields else fields.insert name value

/-- The fields of a request: those given, and what goes without saying. -/
def fieldsFor (settings : HttpSettings) (url : Url) (given : Headers) (body : Bytes) : Headers :=
  let fields := supply given "accept" "*/*"
  let fields := supply fields "user-agent" settings.userAgent
  let fields := supply fields "host" url.hostText
  let fields :=
    if body.isEmpty then fields
    else supply fields "content-length" (Numeral.text body.length)
  match url.credentials? with
  | some (username, password) =>
    supply fields "authorization" (Credential.basic username password)
  | none => fields

/-- Fields with blanks around their values left out. -/
def trimmed (fields : Headers) : Headers :=
  Headers.ofList (fields.entries.map fun (name, value) => (name, Field.trim value))

/-- The request for a URL. Its fragment is not sent. -/
def compose (settings : HttpSettings) (url : Url) (fields : Headers) (request : Request) :
    WireRequest :=
  let body := request.body.getD []
  ⟨request.method, { url.withoutUserinfo with fragment := none },
    trimmed (fieldsFor settings url fields body), body⟩

end WireRequest

/-- The reply to a request, or why there is none. -/
def PeerAnswer.toReply (answer : PeerAnswer) (request : Request) (url : Url) :
    Except CallError Reply :=
  match answer with
  | .complete status lines body =>
    .ok ⟨status, status.reason, Field.ofLines lines, body, request.uri⟩
  | .cutShort => .error (.transport request.uri "error decoding response body")
  | .refused | .hungUp | .silent =>
    .error (.transport request.uri
      ("error sending request for url (" ++ url.target.text ++ ")"))

/-- What becomes of a request whose headers cannot be sent. Headers that are wrong are reported;
with too many of them the program crashes. -/
def Field.Fault.toError : Field.Fault → CallError
  | .tooMany => .crash Fault.tooMany.message
  | fault => .header fault.message

/-- The event of a request about to be sent. -/
def Request.event (r : Request) : Event :=
  ⟨.debug, "locator_rest_client::client::transport", "sending request",
    [("method", .quoted r.method.name), ("uri", .plain r.uri),
      ("headers", .plain r.headers.nameLine)]⟩

namespace Transport

variable {σ : Type}

/-- Send a request whose URL and headers are in order. -/
def sendComposed (settings : HttpSettings) (peer : Peer σ) (request : Request) (url : Url)
    (fields : Headers) (s : σ) : Except CallError Reply × σ :=
  if url.isHttpTarget then
    let (answer, s') := peer.answer (.compose settings url fields request) s
    (answer.toReply request url, s')
  else
    (.error (.transport request.uri ("builder error for url (" ++ url.target.text ++ ")")), s)

/-- Requests over HTTP. The URL is checked before the headers. -/
def http (settings : HttpSettings) (peer : Peer σ) : Transport σ where
  deliver request s :=
    match Url.parse request.uri with
    | .error fault => (⟨.error (.invalidUri fault.message), []⟩, s)
    | .ok url =>
      let events := if settings.logging then [request.event] else []
      match Field.ofHeaders request.headers with
      | .error fault => (⟨.error fault.toError, events⟩, s)
      | .ok fields =>
        let (answer, s') := sendComposed settings peer request url fields s
        (⟨answer, events⟩, s')

end Transport

end ServiceLocator
