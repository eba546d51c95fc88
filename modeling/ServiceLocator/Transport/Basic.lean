import ServiceLocator.Call.Error
import ServiceLocator.Call.Event
import ServiceLocator.Http.Message

/-!
Transports, and what is done over them. A transport answers one request at a time and
may change with each. A `Step` leaves behind its result, the requests it made and the
events it logged, both in order; after an error nothing more happens.
-/
namespace ServiceLocator

/-- The answer to a request, and what the transport logged on the way. -/
structure Delivery where
  answer : Except CallError Reply
  events : List Event

/-- A way to have requests answered. -/
structure Transport (σ : Type) where
  deliver : Request → σ → Delivery × σ

/-- What a step leaves behind. -/
structure Run (σ α : Type) where
  result : Except CallError α
  sent : List Request
  events : List Event
  state : σ

namespace Run

variable {σ α β γ : Type}

/-- A run that only has a result. -/
def of (result : Except CallError α) (s : σ) : Run σ α := ⟨result, [], [], s⟩

/-- Go on after a run, unless it ended in an error. -/
def andThen (first : Run σ α) (next : α → σ → Run σ β) : Run σ β :=
  match first with
  | ⟨.error e, sent, events, s⟩ => ⟨.error e, sent, events, s⟩
  | ⟨.ok a, sent, events, s⟩ =>
    let second := next a s
    ⟨second.result, sent ++ second.sent, events ++ second.events, second.state⟩

theorem of_andThen (a : α) (s : σ) (next : α → σ → Run σ β) :
    (of (.ok a) s).andThen next = next a s := rfl

theorem andThen_of (first : Run σ α) : (first.andThen fun a s => of (.ok a) s) = first := by
  obtain ⟨result, sent, events, s⟩ := first
  cases result <;> simp [andThen, of]

theorem andThen_assoc (first : Run σ α) (next : α → σ → Run σ β) (last : β → σ → Run σ γ) :
    (first.andThen next).andThen last =
      first.andThen fun a s => (next a s).andThen last := by
  obtain ⟨result, sent, events, s⟩ := first
  cases result with
  | error e => rfl
  | ok a =>
    simp only [andThen]
    obtain ⟨result, later, laterEvents, s'⟩ := next a s
    cases result <;> simp [List.append_assoc]

end Run

/-- Something done over a transport. -/
def Step (σ α : Type) := Transport σ → σ → Run σ α

namespace Step

variable {σ α β : Type}

/-- Run a step. -/
def run (step : Step σ α) (t : Transport σ) (s : σ) : Run σ α := step t s

instance : Monad (Step σ) where
  pure a := fun _ s => .of (.ok a) s
  bind step next := fun t s => (step t s).andThen fun a s => next a t s

theorem run_pure (a : α) (t : Transport σ) (s : σ) :
    (pure a : Step σ α).run t s = .of (.ok a) s := rfl

theorem run_bind (step : Step σ α) (next : α → Step σ β) (t : Transport σ) (s : σ) :
    (step >>= next).run t s = (step.run t s).andThen fun a s => (next a).run t s := rfl

theorem ext {step step' : Step σ α} (h : ∀ t s, step.run t s = step'.run t s) : step = step' :=
  funext fun t => funext fun s => h t s

instance : LawfulMonad (Step σ) := LawfulMonad.mk' (Step σ)
  (fun _ => ext fun _ _ => Run.andThen_of _)
  (fun _ _ => rfl)
  (fun _ _ _ => ext fun _ _ => Run.andThen_assoc _ _ _)

/-- Something that needs no transport. -/
def ofExcept (result : Except CallError α) : Step σ α := fun _ s => .of result s

/-- Log events. -/
def log (events : List Event) : Step σ Unit := fun _ s => ⟨.ok (), [], events, s⟩

/-- Have a request answered. -/
def send (request : Request) : Step σ Reply := fun t s =>
  let (delivery, s') := t.deliver request s
  ⟨delivery.answer, [request], delivery.events, s'⟩

/-- Do a step; its error becomes its result. -/
def attempt (step : Step σ α) : Step σ (Except CallError α) := fun t s =>
  let first := step t s
  ⟨.ok first.result, first.sent, first.events, first.state⟩

end Step

end ServiceLocator
