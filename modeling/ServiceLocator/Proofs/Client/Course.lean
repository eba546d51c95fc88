import ServiceLocator.Proofs.Transport.Run

/-!
The course of a call, of a lookup and of an operation: for each, what it sends, where it
leaves the transport, and how its result comes about. Everything else about clients is
derived from these.
-/
namespace ServiceLocator

variable {σ σ' α ρ : Type}

namespace Reply

/-- The verdict on a reply, as its caller gets it. -/
def verdict (r : Reply) (caller : Caller) : Except CallError Bytes :=
  r.outcome.toResult caller

theorem verdict_eq_ok {r : Reply} {caller : Caller} {body : Bytes} :
    r.verdict caller = .ok body ↔ r.status.isSuccess = true ∧ r.body = body := by
  unfold verdict outcome
  split
  · simp_all [Outcome.toResult]
  · split <;> simp_all [Outcome.toResult]

theorem verdict_eq_error {r : Reply} {caller : Caller} {e : CallError} :
    r.verdict caller = .error e ↔ ∃ f, r.outcome = .failure f ∧ f.toError caller = e := by
  unfold verdict
  cases r.outcome <;> simp [Outcome.toResult]

end Reply

/-- The request that asks the locator for its listing. -/
def Caller.lookup (caller : Caller) : Request where
  method := .get
  uri := Endpoint.joined caller.locator Endpoint.services
  headers := ∅
  body := none

namespace Endpoint

/-- What is joined is given as written. -/
theorem eq_joined_of_join {base path uri : String} (h : join base path = .ok uri) :
    uri = joined base path := by
  unfold join at h
  split at h
  · cases h
    rfl
  · cases h

end Endpoint

/-- The address of a service in the listing that a body is read as. -/
def Listing.choose (body : Bytes) (name : String) (caller : Caller) : Except CallError String := do
  let entries ← (Json.parseList body).mapError .json
  select (descriptors entries) name caller

namespace Step

/-! ## Calls -/

theorem run_call (caller : Caller) (request : Request) (t : Transport σ) (s : σ) :
    (call caller request).run t s = ((send request).run t s).andThen fun reply s =>
      ⟨reply.verdict caller, [], [reply.event], s⟩ := rfl

theorem result_call (caller : Caller) (request : Request) (t : Transport σ) (s : σ) :
    ((call caller request).run t s).result =
      t.answer s request >>= fun reply => reply.verdict caller :=
  Run.result_andThen _ _

/-- A call is one request, whatever comes of it. -/
theorem sent_call (caller : Caller) (request : Request) (t : Transport σ) (s : σ) :
    ((call caller request).run t s).sent = [request] := by
  rw [run_call]
  cases h : ((send request).run t s).result with
  | error e => rw [Run.andThen_error h]; rfl
  | ok reply => rw [Run.andThen_ok h]; rfl

theorem Sequential.call (caller : Caller) (request : Request) :
    Sequential (σ := σ) (Step.call caller request) :=
  (Sequential.send request).bind fun reply =>
    (Sequential.log _).bind fun _ => .ofExcept (reply.verdict caller)

/-! ## Lookups -/

/-- The part of a lookup that follows the call: the body is read and a service chosen. -/
def choose (body : Bytes) (name : String) (caller : Caller) : Step σ String := do
  let entries ← ofExcept ((Json.parseList body).mapError .json)
  log (Listing.skipEvents entries)
  let services := Listing.descriptors entries
  log (Listing.selectEvents services name caller)
  ofExcept (Listing.select services name caller)

theorem resolve_eq (caller : Caller) (name : String) :
    (resolve caller name : Step σ String) =
      (do
        let uri ← ofExcept (Endpoint.join caller.locator Endpoint.services)
        let body ← call caller (.get uri)
        choose body name caller) := rfl

theorem result_choose (body : Bytes) (name : String) (caller : Caller) (t : Transport σ) (s : σ) :
    ((choose body name caller).run t s).result = Listing.choose body name caller := by
  rw [choose, result_bind]
  rfl

/-- No request is needed to choose. -/
theorem sent_choose (body : Bytes) (name : String) (caller : Caller) (t : Transport σ) (s : σ) :
    ((choose body name caller).run t s).sent = [] := by
  rw [choose, run_bind, run_ofExcept]
  cases (Json.parseList body).mapError CallError.json with
  | error e => rfl
  | ok entries => rfl

theorem Sequential.choose (body : Bytes) (name : String) (caller : Caller) :
    Sequential (σ := σ) (Step.choose body name caller) :=
  (Sequential.ofExcept _).bind fun _ => (Sequential.log _).bind fun _ =>
    (Sequential.log _).bind fun _ => .ofExcept _

theorem Sequential.resolve (caller : Caller) (name : String) :
    Sequential (σ := σ) (Step.resolve caller name) :=
  (Sequential.ofExcept _).bind fun _ => (Sequential.call _ _).bind fun _ => .choose _ _ _

/-- A lookup fails in this order: the locator's address, the answer, the verdict on it,
the listing, the choice. -/
theorem result_resolve (caller : Caller) (name : String) (t : Transport σ) (s : σ) :
    ((resolve caller name).run t s).result = (do
      let _ ← Endpoint.join caller.locator Endpoint.services
      let reply ← t.answer s caller.lookup
      let body ← reply.verdict caller
      Listing.choose body name caller) := by
  rw [resolve_eq, result_bind, run_ofExcept, Run.of_result, Run.of_state]
  cases h : Endpoint.join caller.locator Endpoint.services with
  | error e => rfl
  | ok uri =>
    -- What was joined is what the lookup asks for, so the rest is a call and a choice.
    cases Endpoint.eq_joined_of_join h
    show ((call caller caller.lookup >>= fun body => choose body name caller).run t s).result = _
    simp only [result_bind, result_call, result_choose, bind_assoc]
    rfl

/-- The locator is asked if its address can be joined with the path of its listing, and
then once. -/
theorem sent_resolve (caller : Caller) (name : String) (t : Transport σ) (s : σ) :
    ((resolve caller name).run t s).sent =
      match Endpoint.join caller.locator Endpoint.services with
      | .ok _ => [caller.lookup]
      | .error _ => [] := by
  rw [resolve_eq, run_bind, run_ofExcept]
  cases h : Endpoint.join caller.locator Endpoint.services with
  | error e => rfl
  | ok uri =>
    cases Endpoint.eq_joined_of_join h
    rw [Run.of_andThen, run_bind]
    show ((call caller caller.lookup).run t s |>.andThen _).sent = [caller.lookup]
    cases hc : ((call caller caller.lookup).run t s).result with
    | error e => rw [Run.andThen_error hc, sent_call]
    | ok body => rw [Run.andThen_ok hc, sent_call, sent_choose, List.append_nil]

/-- A lookup with a result has asked the locator. -/
theorem sent_of_resolve_ok {caller : Caller} {name address : String} {t : Transport σ} {s : σ}
    (h : ((resolve caller name).run t s).result = .ok address) :
    ((resolve caller name).run t s).sent = [caller.lookup] := by
  rw [result_resolve, bind_eq_ok] at h
  obtain ⟨uri, huri, _⟩ := h
  rw [sent_resolve, huri]

theorem state_of_resolve_ok {caller : Caller} {name address : String} {t : Transport σ} {s : σ}
    (h : ((resolve caller name).run t s).result = .ok address) :
    ((resolve caller name).run t s).state = t.after s [caller.lookup] := by
  rw [Sequential.resolve caller name t s, sent_of_resolve_ok h]

end Step

/-! ## Fetching -/

/-- What is fetched fails in this order: the answer, the verdict on it, the reading. -/
theorem Client.result_fetch (c : Client) (read : Bytes → Except Json.Fault α) (uri : String)
    (t : Transport σ) (s : σ) :
    ((c.fetch read uri).run t s).result = (do
      let reply ← t.answer s (c.fetchRequest uri)
      let body ← reply.verdict c.caller
      (read body).mapError .json) := by
  show ((Step.call c.caller (c.fetchRequest uri) >>= fun body =>
    Step.ofExcept ((read body).mapError .json)).run t s).result = _
  rw [Step.result_bind, Step.result_call, bind_assoc]
  rfl

theorem Client.sent_fetch (c : Client) (read : Bytes → Except Json.Fault α) (uri : String)
    (t : Transport σ) (s : σ) :
    ((c.fetch read uri).run t s).sent = [c.fetchRequest uri] := by
  show ((Step.call c.caller (c.fetchRequest uri)).run t s |>.andThen _).sent = _
  cases hc : ((Step.call c.caller (c.fetchRequest uri)).run t s).result with
  | error e => rw [Run.andThen_error hc, Step.sent_call]
  | ok body => rw [Run.andThen_ok hc, Step.sent_call]; rfl

/-! ## Operations -/

/-- Nothing but the token of a client shows in the headers. -/
theorem Operation.headers_of_token {c c' : Client} (h : c.identity.token = c'.identity.token)
    (op : Operation) : op.headers c = op.headers c' := by
  have hauthorize : c.authorize = c'.authorize := by
    funext given
    unfold Client.authorize
    rw [h]
  cases op <;> simp only [Operation.headers, hauthorize]

/-- The request of an operation, as far as it is known: its address and its body have to
be in order. -/
theorem Operation.request_eq_ok {op : Operation} {c : Client} {address : String}
    {request : Request} :
    op.request c address = .ok request ↔
      Endpoint.join address op.path = .ok request.uri ∧ op.body = .ok request.body ∧
        request.method = op.method ∧ request.headers = op.headers c := by
  obtain ⟨method, uri, headers, body⟩ := request
  simp only [Operation.request, bind_eq_ok]
  constructor
  · rintro ⟨_, huri, _, hbody, h⟩
    cases h
    exact ⟨huri, hbody, rfl, rfl⟩
  · rintro ⟨huri, hbody, rfl, rfl⟩
    exact ⟨uri, huri, body, hbody, rfl⟩

namespace Client

variable {op : Operation}

theorem perform_of_asksNothing (h : op.asksNothing = true) (c : Client) :
    (c.perform op : Step σ Product) = pure (.bytes []) := by
  rw [perform, if_pos h]

/-- The part of an operation that follows the lookup: its request, if there is one, is
sent and the reply read. -/
def exchange (c : Client) (op : Operation) (request : Except CallError Request) :
    Step σ Product := do
  let request ← Step.ofExcept request
  let body ← c.call request
  Step.ofExcept (op.read body)

theorem perform_eq (h : op.asksNothing = false) (c : Client) :
    (c.perform op : Step σ Product) =
      c.resolve op.service.role >>= fun address => c.exchange op (op.request c address) := by
  rw [perform, h]
  rfl

theorem result_exchange (c : Client) (op : Operation) (request : Except CallError Request)
    (t : Transport σ) (s : σ) :
    ((c.exchange op request).run t s).result = (do
      let request ← request
      let reply ← t.answer s request
      let body ← reply.verdict c.caller
      op.read body) := by
  cases request with
  | error e => rfl
  | ok request =>
    show ((Step.call c.caller request >>= fun body =>
        Step.ofExcept (op.read body)).run t s).result =
      t.answer s request >>= fun reply => reply.verdict c.caller >>= op.read
    rw [Step.result_bind, Step.result_call, bind_assoc]
    rfl

theorem sent_exchange (c : Client) (op : Operation) (request : Except CallError Request)
    (t : Transport σ) (s : σ) :
    ((c.exchange op request).run t s).sent =
      match request with
      | .ok request => [request]
      | .error _ => [] := by
  cases request with
  | error e => rfl
  | ok request =>
    show ((Step.call c.caller request).run t s |>.andThen _).sent = [request]
    cases hc : ((Step.call c.caller request).run t s).result with
    | error e => rw [Run.andThen_error hc, Step.sent_call]
    | ok body =>
      rw [Run.andThen_ok hc, Step.sent_call]
      rfl

/-- The request that an operation comes to: its service is looked up, then the request is
put together. -/
def compose (c : Client) (op : Operation) (t : Transport σ) (s : σ) : Except CallError Request := do
  let address ← ((c.resolve op.service.role).run t s).result
  op.request c address

/-- An operation fails in this order: its request, the answer, the verdict on it, the
reading. -/
theorem result_perform (h : op.asksNothing = false) (c : Client) (t : Transport σ) (s : σ) :
    ((c.perform op).run t s).result = (do
      let request ← c.compose op t s
      let reply ← t.answer (t.after s [c.caller.lookup]) request
      let body ← reply.verdict c.caller
      op.read body) := by
  rw [perform_eq h, Step.result_bind, compose, bind_assoc]
  cases hr : ((c.resolve op.service.role).run t s).result with
  | error e => rw [error_bind, error_bind]
  | ok address =>
    -- An address was found, so the locator was asked: the transport is one request further.
    have hs : ((c.resolve op.service.role).run t s).state = t.after s [c.caller.lookup] :=
      Step.state_of_resolve_ok hr
    rw [ok_bind, ok_bind, hs, result_exchange]

/-- An operation sends what its lookup sends, and its request once there is one. -/
theorem sent_perform (h : op.asksNothing = false) (c : Client) (t : Transport σ) (s : σ) :
    ((c.perform op).run t s).sent =
      ((c.resolve op.service.role).run t s).sent ++
        match c.compose op t s with
        | .ok request => [request]
        | .error _ => [] := by
  rw [perform_eq h, Step.run_bind, compose]
  cases hr : ((c.resolve op.service.role).run t s).result with
  | error e =>
    rw [Run.andThen_error hr, error_bind, List.append_nil]
  | ok address =>
    rw [Run.andThen_ok hr, sent_exchange, ok_bind]

/-- The first request of an operation is that of its lookup. -/
theorem head?_sent_perform (h : op.asksNothing = false) (c : Client) (t : Transport σ) (s : σ) :
    ((c.perform op).run t s).sent.head? =
      match Endpoint.join c.caller.locator Endpoint.services with
      | .ok _ => some c.caller.lookup
      | .error _ => none := by
  rw [sent_perform h, compose, resolve, Step.sent_resolve, Step.result_resolve]
  cases Endpoint.join c.caller.locator Endpoint.services with
  | error e => rw [error_bind, error_bind]; rfl
  | ok uri => rfl

/-- What a lookup sends does not depend on what is answered. -/
theorem sent_resolve_eq (c : Client) (name : String) (t : Transport σ) (s : σ)
    (t' : Transport σ') (s' : σ') :
    ((c.resolve name).run t s).sent = ((c.resolve name).run t' s').sent := by
  unfold resolve
  rw [Step.sent_resolve, Step.sent_resolve]

/-- Two runs of an operation that come to the same request, by way of the same lookup, and
make the same of every answer to it. -/
structure SameCourse (op : Operation) (c : Client) (t : Transport σ) (s : σ) (c' : Client)
    (t' : Transport σ') (s' : σ') : Prop where
  asked : ((c.resolve op.service.role).run t s).sent = ((c'.resolve op.service.role).run t' s').sent
  composed : c.compose op t s = c'.compose op t' s'
  concluded : ∀ request,
    (do
      let reply ← t.answer (t.after s [c.caller.lookup]) request
      let body ← reply.verdict c.caller
      op.read body) =
    (do
      let reply ← t'.answer (t'.after s' [c'.caller.lookup]) request
      let body ← reply.verdict c'.caller
      op.read body)

section

variable {c c' : Client} {t : Transport σ} {s : σ} {t' : Transport σ'} {s' : σ'}

theorem SameCourse.sent_perform (h : SameCourse op c t s c' t' s') :
    ((c.perform op).run t s).sent = ((c'.perform op).run t' s').sent := by
  cases hasks : op.asksNothing with
  | true =>
    rw [perform_of_asksNothing hasks, perform_of_asksNothing hasks]
    rfl
  | false => rw [Client.sent_perform hasks, Client.sent_perform hasks, h.asked, h.composed]

theorem SameCourse.result_perform (h : SameCourse op c t s c' t' s') :
    ((c.perform op).run t s).result = ((c'.perform op).run t' s').result := by
  cases hasks : op.asksNothing with
  | true =>
    rw [perform_of_asksNothing hasks, perform_of_asksNothing hasks]
    rfl
  | false =>
    rw [Client.result_perform hasks, Client.result_perform hasks, h.composed]
    exact congrArg _ (funext h.concluded)

end

end Client

open Step in
theorem Step.Sequential.exchange (c : Client) (op : Operation)
    (request : Except CallError Request) : Sequential (σ := σ) (c.exchange op request) :=
  (Sequential.ofExcept _).bind fun _ => (Sequential.call _ _).bind fun _ => .ofExcept _

open Step in
theorem Step.Sequential.perform (c : Client) (op : Operation) :
    Sequential (σ := σ) (c.perform op) := by
  cases h : op.asksNothing with
  | true =>
    rw [Client.perform_of_asksNothing h]
    exact .pure _
  | false =>
    rw [Client.perform_eq h]
    exact (Sequential.resolve _ _).bind fun _ => .exchange _ _ _

end ServiceLocator
