import ServiceLocator.Client.Session
import ServiceLocator.Proofs.Client.Roles

/-!
What the actions of a client are made of: calls, notes about a listing, and results that stem
from no status, one after the other (`Step.Built`). So what holds of these parts and goes from two
steps to one after the other holds of every action (`Step.Built.act`). Only a lookup notes
anything, and it comes first (`Client.act_cases`).
-/
namespace ServiceLocator

variable {σ α β ρ : Type}

/-! ## Events -/

/-- The event of an entry that describes nothing. -/
def Listing.skipEvent (cause : Json.Cause) : Event :=
  ⟨.debug, origin, "skipping locator entry", [("error", .plain cause.message)]⟩

/-- What is noted of a listing. -/
inductive Listing.Note : Event → Prop
  | skip (cause) : Note (skipEvent cause)
  | found (name address caller) : Note (foundEvent name address caller)

theorem Listing.note_of_mem_skipEvents {entries : List Json.Value} {e : Event}
    (h : e ∈ skipEvents entries) : Note e := by
  obtain ⟨entry, -, he⟩ := List.mem_filterMap.mp h
  split at he
  · cases he
  · cases he
    exact .skip _

theorem Listing.note_of_mem_selectEvents {services : List Descriptor} {name : String}
    {caller : Caller} {e : Event} (h : e ∈ selectEvents services name caller) : Note e := by
  unfold selectEvents at h
  split at h
  · cases List.mem_singleton.mp h
    exact .found ..
  · cases h

/-! ## Steps -/

namespace Step

/-- A step is built of calls, of events that are noted, and of results that stem from no status. -/
inductive Built (caller : Caller) (Noted : Event → Prop) : {α : Type} → Step σ α → Prop
  | ofExcept {α : Type} {r : Except CallError α} : (∀ e, r = .error e → e.fromStatus = false) →
      Built caller Noted (ofExcept r)
  | log {events : List Event} : (∀ e ∈ events, Noted e) → Built caller Noted (log events)
  | call (request : Request) : Built caller Noted (call caller request)
  | bind {α β : Type} {step : Step σ α} {next : α → Step σ β} : Built caller Noted step →
      (∀ a, Built caller Noted (next a)) → Built caller Noted (step >>= next)

namespace Built

variable {caller : Caller} {Noted Noted' : Event → Prop} {step : Step σ α}

theorem pure (a : α) : Built (σ := σ) caller Noted (pure a : Step σ α) :=
  .ofExcept (r := .ok a) fun _ => nofun

theorem map (h : step.Built caller Noted) (f : α → β) : (f <$> step).Built caller Noted :=
  h.bind fun a => .pure (f a)

theorem mono (h : step.Built caller Noted) (hnoted : ∀ e, Noted e → Noted' e) :
    step.Built caller Noted' := by
  induction h with
  | ofExcept hr => exact .ofExcept hr
  | log hevents => exact .log fun e he => hnoted e (hevents e he)
  | call request => exact .call request
  | bind _ _ ih ihnext => exact ih.bind ihnext

theorem sequential (h : step.Built caller Noted) : step.Sequential := by
  induction h with
  | ofExcept => exact .ofExcept _
  | log => exact .log _
  | call => exact .call _ _
  | bind _ _ ih ihnext => exact ih.bind ihnext

theorem fromStatus_mapError_json {r : Except Json.Fault α} {e : CallError}
    (h : r.mapError .json = .error e) : e.fromStatus = false := by
  cases r <;> cases h
  rfl

theorem choose (body : Bytes) (name : String) (caller : Caller) :
    Built (σ := σ) caller Listing.Note (Step.choose body name caller) :=
  (ofExcept fun _ => fromStatus_mapError_json).bind fun _ =>
    (log fun _ => Listing.note_of_mem_skipEvents).bind fun _ =>
      (log fun _ => Listing.note_of_mem_selectEvents).bind fun _ =>
        ofExcept fun _ => Listing.fromStatus_select

theorem resolve (caller : Caller) (name : String) :
    Built (σ := σ) caller Listing.Note (Step.resolve caller name) :=
  (ofExcept fun _ => Endpoint.fromStatus_join).bind fun _ =>
    (call _).bind fun body => choose body name caller

theorem exchange (c : Client) (op : Operation) (address : String) :
    Built (σ := σ) c.caller Noted (c.exchange op (op.request c address)) := by
  have hrequest : ∀ e, op.request c address = .error e → e.fromStatus = false := by
    intro e he
    rcases Operation.request_eq_error.mp he with hjoin | ⟨_, _, hbody⟩
    · exact Endpoint.fromStatus_join hjoin
    · exact Operation.fromStatus_body hbody
  exact (ofExcept hrequest).bind fun request =>
    (call request).bind fun _ => ofExcept fun _ => Operation.fromStatus_read

theorem fetch (c : Client) (read : Bytes → Except Json.Fault α) (uri : String) :
    Built (σ := σ) c.caller Noted (c.fetch read uri) :=
  (call _).bind fun _ => ofExcept fun _ => fromStatus_mapError_json

end Built

end Step

/-! ## Actions -/

/-- The service that an action looks up. -/
def Action.lookup? : Action ρ → Option String
  | .resolve name => some name
  | .perform op => if op.asksNothing then none else some op.service.role
  | _ => none

/-- An action notes nothing, or nothing after its lookup, which comes first. -/
theorem Client.act_cases (c : Client) (action : Action ρ) :
    (action.lookup? = none ∧ (c.act action : Step σ _).Built c.caller fun _ => False) ∨
      ∃ name next, action.lookup? = some name ∧
        (c.act action : Step σ _) = c.resolve name >>= next ∧
        ∀ address, (next address).Built c.caller fun _ => False := by
  cases action with
  | resolve name =>
    exact .inr ⟨name, fun address => pure (.address address), rfl, rfl, fun _ => .pure _⟩
  | perform op =>
    cases hasks : op.asksNothing with
    | true =>
      refine .inl ⟨if_pos hasks, ?_⟩
      rw [act, perform_of_asksNothing hasks]
      exact (Step.Built.pure _).map _
    | false =>
      refine .inr ⟨op.service.role,
        fun address => .product <$> c.exchange op (op.request c address), if_neg (by simp [hasks]),
        ?_, fun address => (Step.Built.exchange c op address).map _⟩
      rw [act, perform_eq hasks, map_bind]
  | fetch read uri => exact .inl ⟨rfl, (Step.Built.fetch c read uri).map _⟩
  | call request => exact .inl ⟨rfl, (Step.Built.call request).map _⟩
  | withToken token => exact .inl ⟨rfl, .pure _⟩
  | diagnose => exact .inl ⟨rfl, .pure _⟩

theorem Step.Built.act (c : Client) (action : Action ρ) :
    Built (σ := σ) c.caller Listing.Note (c.act action) := by
  rcases c.act_cases action with ⟨-, h⟩ | ⟨name, next, -, haction, h⟩
  · exact h.mono fun _ => False.elim
  · rw [haction]
    exact (resolve c.caller name).bind fun address => (h address).mono fun _ => False.elim

end ServiceLocator
