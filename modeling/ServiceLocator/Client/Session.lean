import ServiceLocator.Client.Operation

/-!
Sessions: what is done with a client, one action after the other. An action that fails
ends nothing but itself, and a new token holds from the next action on.
-/
namespace ServiceLocator

variable {σ ρ : Type}

/-- Something to do with a client. What is fetched is read in any way whose only
failures are faults of JSON. -/
inductive Action (ρ : Type) where
  | resolve (name : String)
  | perform (op : Operation)
  | fetch (read : Bytes → Except Json.Fault ρ) (uri : String)
  | call (request : Request)
  | withToken (token : String)
  | diagnose

/-- What comes of an action. -/
inductive Answer (ρ : Type) where
  | address (uri : String)
  | product (p : Product)
  | record (x : ρ)
  | bytes (b : Bytes)
  | text (s : String)
  | done

namespace Client

/-- Do what an action says. -/
def act (c : Client) : Action ρ → Step σ (Answer ρ)
  | .resolve name => .address <$> c.resolve name
  | .perform op => .product <$> c.perform op
  | .fetch read uri => .record <$> c.fetch read uri
  | .call request => .bytes <$> c.call request
  | .withToken _ => pure .done
  | .diagnose => pure (.text c.shown)

/-- The client that the next action is done with. -/
def after (c : Client) : Action ρ → Client
  | .withToken token => c.withToken token
  | _ => c

end Client

/-- One action of a session: what was done, what it left behind, and the client that
the next action is done with. -/
structure Moment (σ ρ : Type) where
  action : Action ρ
  run : Run σ (Answer ρ)
  client : Client

/-- A session over a transport, from a client and a state of the transport on. -/
def session (t : Transport σ) : Client → σ → List (Action ρ) → List (Moment σ ρ)
  | _, _, [] => []
  | c, s, action :: rest =>
    let run := (c.act action).run t s
    ⟨action, run, c.after action⟩ :: session t (c.after action) run.state rest

end ServiceLocator
