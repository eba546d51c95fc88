import ServiceLocator.Http.Credential
import ServiceLocator.Http.Message

/-!
Edits: how a request is put together, one step after the other.
-/
namespace ServiceLocator

/-- A step in putting a request together. -/
inductive Edit where
  | headers (h : Headers)
  | header (name value : String)
  | credentials (principal secret : String)
  | token (secret : String)
  | body (bytes : Bytes)

namespace Request

/-- The request after a step. -/
def edit (r : Request) : Edit → Request
  | .headers h => r.withHeaders h
  | .header name value => r.withHeader name value
  | .credentials principal secret => r.withHeaders (Credential.attach principal secret r.headers)
  | .token secret => r.withHeaders (Credential.attachToken secret r.headers)
  | .body bytes => r.withBody bytes

/-- The request after steps, one after the other. -/
def editAll (r : Request) (edits : List Edit) : Request := edits.foldl edit r

end Request

end ServiceLocator
