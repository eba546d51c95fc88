import ServiceLocator.Client.Session
import ServiceLocator.Proofs.Basic
import ServiceLocator.Transport.Scripted

/-!
Runs of steps. The parts of a run are computed from the parts of the steps it is made
of, and a step moves its transport on by nothing but its requests, one after the other
(`Step.Sequential`).
-/
namespace ServiceLocator

variable {σ α β ρ : Type}

/-! ## Transports -/

namespace Transport

/-- What a transport answers to a request in a state. -/
def answer (t : Transport σ) (s : σ) (request : Request) : Except CallError Reply :=
  (t.deliver request s).1.answer

/-- The state of a transport after requests, one after the other. -/
def after (t : Transport σ) : σ → List Request → σ
  | s, [] => s
  | s, request :: rest => t.after (t.deliver request s).2 rest

@[simp] theorem after_nil (t : Transport σ) (s : σ) : t.after s [] = s := rfl

@[simp] theorem after_cons (t : Transport σ) (s : σ) (request : Request) (rest : List Request) :
    t.after s (request :: rest) = t.after (t.deliver request s).2 rest := rfl

theorem after_append (t : Transport σ) (s : σ) (first second : List Request) :
    t.after s (first ++ second) = t.after (t.after s first) second := by
  induction first generalizing s with
  | nil => rfl
  | cons request rest ih => exact ih (t.deliver request s).2

/-- Made-up replies are used up one by one. -/
theorem after_scripted (replies : List ScriptedReply) (requests : List Request) :
    scripted.after replies requests = replies.drop requests.length := by
  induction requests generalizing replies with
  | nil => rfl
  | cons request rest ih =>
    cases replies with
    | nil =>
      -- A request that meets no reply is answered too, and leaves nothing to drop.
      rw [after_cons, ih]
      simp [scripted]
    | cons reply replies =>
      rw [after_cons, ih]
      rfl

end Transport

/-! ## Runs -/

namespace Run

@[simp] theorem of_result (r : Except CallError α) (s : σ) : (of r s).result = r := rfl

@[simp] theorem of_sent (r : Except CallError α) (s : σ) : (of r s).sent = [] := rfl

@[simp] theorem of_state (r : Except CallError α) (s : σ) : (of r s).state = s := rfl

/-- Nothing happens after an error. -/
theorem andThen_error {first : Run σ α} {e : CallError} (h : first.result = .error e)
    (next : α → σ → Run σ β) :
    first.andThen next = ⟨.error e, first.sent, first.events, first.state⟩ := by
  obtain ⟨result, sent, events, s⟩ := first
  cases h
  rfl

/-- After a result the next run goes on from the state that was reached. -/
theorem andThen_ok {first : Run σ α} {a : α} (h : first.result = .ok a)
    (next : α → σ → Run σ β) :
    first.andThen next =
      ⟨(next a first.state).result, first.sent ++ (next a first.state).sent,
        first.events ++ (next a first.state).events, (next a first.state).state⟩ := by
  obtain ⟨result, sent, events, s⟩ := first
  cases h
  rfl

theorem result_andThen (first : Run σ α) (next : α → σ → Run σ β) :
    (first.andThen next).result = first.result >>= fun a => (next a first.state).result := by
  cases h : first.result with
  | error e => rw [andThen_error h]; rfl
  | ok a => rw [andThen_ok h]; rfl

end Run

/-! ## Steps -/

namespace Step

theorem run_ofExcept (r : Except CallError α) (t : Transport σ) (s : σ) :
    (ofExcept r).run t s = .of r s := rfl

theorem result_bind (step : Step σ α) (next : α → Step σ β) (t : Transport σ) (s : σ) :
    ((step >>= next).run t s).result =
      (step.run t s).result >>= fun a => ((next a).run t (step.run t s).state).result :=
  Run.result_andThen _ _

theorem run_map (f : α → β) (step : Step σ α) (t : Transport σ) (s : σ) :
    (f <$> step).run t s = (step.run t s).andThen fun a s => .of (.ok (f a)) s := rfl

theorem result_map (f : α → β) (step : Step σ α) (t : Transport σ) (s : σ) :
    ((f <$> step).run t s).result = (step.run t s).result.map f := by
  rw [run_map, Run.result_andThen]
  cases (step.run t s).result <;> rfl

theorem sent_map (f : α → β) (step : Step σ α) (t : Transport σ) (s : σ) :
    ((f <$> step).run t s).sent = (step.run t s).sent := by
  rw [run_map]
  cases h : (step.run t s).result with
  | error e => rw [Run.andThen_error h]
  | ok a =>
    rw [Run.andThen_ok h]
    simp

theorem events_map (f : α → β) (step : Step σ α) (t : Transport σ) (s : σ) :
    ((f <$> step).run t s).events = (step.run t s).events := by
  rw [run_map]
  cases h : (step.run t s).result with
  | error e => rw [Run.andThen_error h]
  | ok a =>
    rw [Run.andThen_ok h]
    exact List.append_nil _

/-- After an attempt there is always a result to go on with. -/
theorem result_attempt_bind (step : Step σ α) (next : Except CallError α → Step σ β)
    (t : Transport σ) (s : σ) :
    ((step.attempt >>= next).run t s).result =
      ((next (step.run t s).result).run t (step.run t s).state).result := rfl

theorem sent_attempt_bind (step : Step σ α) (next : Except CallError α → Step σ β)
    (t : Transport σ) (s : σ) :
    ((step.attempt >>= next).run t s).sent =
      (step.run t s).sent ++ ((next (step.run t s).result).run t (step.run t s).state).sent := rfl

theorem events_attempt_bind (step : Step σ α) (next : Except CallError α → Step σ β)
    (t : Transport σ) (s : σ) :
    ((step.attempt >>= next).run t s).events =
      (step.run t s).events ++
        ((next (step.run t s).result).run t (step.run t s).state).events := rfl

/-! ## Steps that only send -/

/-- A step moves its transport on by its requests, one after the other, and in no other
way. -/
def Sequential (step : Step σ α) : Prop :=
  ∀ t s, (step.run t s).state = t.after s (step.run t s).sent

theorem Sequential.ofExcept (r : Except CallError α) : Sequential (σ := σ) (ofExcept r) :=
  fun _ _ => rfl

theorem Sequential.pure (a : α) : Sequential (σ := σ) (pure a : Step σ α) :=
  fun _ _ => rfl

theorem Sequential.log (events : List Event) : Sequential (σ := σ) (log events) :=
  fun _ _ => rfl

theorem Sequential.send (request : Request) : Sequential (σ := σ) (send request) :=
  fun _ _ => rfl

theorem Sequential.bind {step : Step σ α} {next : α → Step σ β} (h : step.Sequential)
    (hnext : ∀ a, (next a).Sequential) : (step >>= next).Sequential := by
  intro t s
  rw [run_bind]
  cases hr : (step.run t s).result with
  | error e =>
    rw [Run.andThen_error hr]
    exact h t s
  | ok a =>
    -- The requests of the second part are sent where the first part left the transport.
    rw [Run.andThen_ok hr, Transport.after_append, ← h t s]
    exact hnext a t _

theorem Sequential.map {step : Step σ α} (h : step.Sequential) (f : α → β) :
    (f <$> step).Sequential :=
  h.bind fun a => .pure (f a)

end Step

end ServiceLocator
