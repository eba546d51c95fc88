import ServiceLocator.Transport.Basic

/-!
A transport that answers from a list of replies made up in advance, one for each
request, whatever the request is.
-/
namespace ServiceLocator

/-- A reply made up in advance. Without a URI it answers the request that it meets. -/
inductive ScriptedReply where
  | reply (status : Status) (statusText : String) (headers : Headers) (body : Bytes)
      (requestUri : Option String)
  | failure (text : String)

/-- The answer that a made-up reply gives to a request. -/
def ScriptedReply.answer (request : Request) : ScriptedReply → Except CallError Reply
  | .reply status statusText headers body requestUri =>
    .ok ⟨status, statusText, headers, body, requestUri.getD request.uri⟩
  | .failure text => .error (.transport request.uri text)

/-- Answer with the next reply. -/
def Transport.scripted : Transport (List ScriptedReply) where
  deliver request
    | [] => (⟨.error (.transport request.uri "unexpected call"), []⟩, [])
    | reply :: rest => (⟨reply.answer request, []⟩, rest)

end ServiceLocator
