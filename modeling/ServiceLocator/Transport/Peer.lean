import ServiceLocator.Http.Field
import ServiceLocator.Http.Message
import ServiceLocator.Url.Basic

/-!
The far end of a connection: what it receives, and how it answers.
-/
namespace ServiceLocator

/-- A request as it travels: the method and URL of its first line, its fields under
lower-case names, and its body. -/
structure WireRequest where
  method : Method
  url : Url
  fields : Headers
  body : Bytes
deriving DecidableEq

/-- The first line of a request. -/
def WireRequest.line (r : WireRequest) : String :=
  r.method.name ++ " " ++ r.url.text ++ " HTTP/1.1"

/-- What comes of a request. It may find nobody to connect to; once received, it may
be left without an answer, or with an answer that ends early. -/
inductive PeerAnswer where
  | refused
  | hungUp
  | silent
  | cutShort
  | complete (status : Status) (lines : List Field.Line) (body : Bytes)
deriving DecidableEq

/-- Whether the request was received. -/
def PeerAnswer.isReceived : PeerAnswer → Bool
  | .refused => false
  | _ => true

/-- A far end, which may change with each request. -/
structure Peer (σ : Type) where
  answer : WireRequest → σ → PeerAnswer × σ

namespace Peer

/-- Nobody is there. -/
def absent : Peer Unit where
  answer _ _ := (.refused, ())

/-- A far end with answers made up in advance, and what it received so far. -/
structure Script where
  answers : List PeerAnswer
  received : List WireRequest
deriving DecidableEq

/-- Note a request under the answer to it. -/
def Script.note (received : List WireRequest) (request : WireRequest) (answer : PeerAnswer) :
    List WireRequest :=
  if answer.isReceived then received ++ [request] else received

/-- Answer with the next answer; after the last one hang up on every request. -/
def scripted : Peer Script where
  answer request script :=
    match script.answers with
    | [] => (.hungUp, ⟨[], Script.note script.received request .hungUp⟩)
    | answer :: rest => (answer, ⟨rest, Script.note script.received request answer⟩)

end Peer

end ServiceLocator
