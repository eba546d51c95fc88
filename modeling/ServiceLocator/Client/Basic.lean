import ServiceLocator.Call.Outcome
import ServiceLocator.Configuration
import ServiceLocator.Http.Credential
import ServiceLocator.Locator.Endpoint
import ServiceLocator.Locator.Listing
import ServiceLocator.Transport.Basic

/-!
Clients, and the steps that everything a client does is made of: a call, which sends
one request and takes the verdict on the reply, and the lookup of a service, which is
a call to the locator. Nothing is kept from one step to the next.
-/
namespace ServiceLocator

variable {σ : Type}

namespace Step

/-- Send a request; log and return the verdict on the reply. -/
def call (caller : Caller) (request : Request) : Step σ Bytes := do
  let reply ← send request
  log [reply.event]
  ofExcept (reply.outcome.toResult caller)

/-- The address of a service, from a listing that is asked for now. -/
def resolve (caller : Caller) (name : String) : Step σ String := do
  let uri ← ofExcept (Endpoint.join caller.locator Endpoint.services)
  let body ← call caller (.get uri)
  let entries ← ofExcept ((Json.parseList body).mapError .json)
  log (Listing.skipEvents entries)
  let services := Listing.descriptors entries
  log (Listing.selectEvents services name caller)
  ofExcept (Listing.select services name caller)

end Step

/-- A client: on behalf of whom it acts. -/
structure Client where
  identity : Identity
deriving DecidableEq

namespace Client

/-- The client of a caller, with a session token or without. -/
def new (caller : Caller) (token : Option String) : Client := ⟨⟨caller, token⟩⟩

/-- The client of an internal caller, who finds the locator by a configuration. -/
def internal (config : Configuration) (env : Environment) (token : Option String) :
    Except CallError Client :=
  (config.internalCaller env).map (new · token)

/-- The caller of a client. -/
def caller (c : Client) : Caller := c.identity.caller

/-- The client with another session token. -/
def withToken (c : Client) (token : String) : Client := new c.caller (some token)

/-- The client in a diagnostic. -/
def shown (c : Client) : String := "RestClient \x7b identity: " ++ c.identity.shown ++ ", .. \x7d"

/-- Headers with the session token, if there is one. -/
def authorize (c : Client) (h : Headers) : Headers :=
  match c.identity.token with
  | some token => Credential.attachToken token h
  | none => h

/-- The address of a service. -/
def resolve (c : Client) (name : String) : Step σ String := Step.resolve c.caller name

/-- Send any request. -/
def call (c : Client) (request : Request) : Step σ Bytes := Step.call c.caller request

/-- The request for a resource with the session token. -/
def fetchRequest (c : Client) (uri : String) : Request :=
  (Request.get uri).withHeaders (c.authorize ∅)

/-- Fetch a resource and read it. -/
def fetch {α : Type} (c : Client) (read : Bytes → Except Json.Fault α) (uri : String) :
    Step σ α := do
  let body ← c.call (c.fetchRequest uri)
  Step.ofExcept ((read body).mapError .json)

/-- Fetch a JSON value. -/
def fetchValue (c : Client) (uri : String) : Step σ Json.Value := c.fetch Json.parse uri

/-- Fetch a listing of which every entry must be right. -/
def fetchListing (c : Client) (uri : String) : Step σ (List Descriptor) :=
  c.fetch Descriptor.parseList uri

end Client

end ServiceLocator
