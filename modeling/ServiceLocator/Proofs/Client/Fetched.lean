import ServiceLocator.Proofs.Client.Addresses
import ServiceLocator.Proofs.Json.Reader

/-!
Operations that fetch a value. Such an operation has a product exactly if its two requests are
sent and each is answered with a value (`Operation.Fetches.exists_product_iff`): a listing that
can be read is a value too.
-/
namespace ServiceLocator

variable {σ : Type}

/-! ## Answers -/

namespace Transport

/-- A request is answered with success, and what comes back is this value. -/
def Yields (t : Transport σ) (s : σ) (request : Request) (v : Json.Value) : Prop :=
  ∃ reply, t.answer s request = .ok reply ∧ reply.status.isSuccess = true ∧
    Json.parse reply.body = .ok v

/-- Requests that are sent one after the other are each answered with some value. -/
inductive Fulfils (t : Transport σ) : σ → List Request → Prop
  | nil {s} : Fulfils t s []
  | cons {s request rest v} : t.Yields s request v → Fulfils t (t.after s [request]) rest →
      Fulfils t s (request :: rest)

variable {t : Transport σ} {s : σ}

theorem fulfils_cons {request : Request} {rest : List Request} :
    t.Fulfils s (request :: rest) ↔
      (∃ v, t.Yields s request v) ∧ t.Fulfils (t.after s [request]) rest := by
  constructor
  · rintro (_ | ⟨hyields, hrest⟩)
    exact ⟨⟨_, hyields⟩, hrest⟩
  · rintro ⟨⟨v, hyields⟩, hrest⟩
    exact .cons hyields hrest

theorem fulfils_append {first second : List Request} :
    t.Fulfils s (first ++ second) ↔ t.Fulfils s first ∧ t.Fulfils (t.after s first) second := by
  induction first generalizing s with
  | nil => exact ⟨fun h => ⟨.nil, h⟩, fun h => h.2⟩
  | cons request rest ih =>
    rw [List.cons_append, fulfils_cons, fulfils_cons, ih, and_assoc]
    rfl

end Transport

/-! ## Operations -/

/-- What a client asks an address for, in an operation without a body. -/
def Operation.bare (op : Operation) (c : Client) (address : String) : Request :=
  ⟨op.method, Endpoint.joined address op.path, op.headers c, none⟩

/-- An operation that fetches a value: nothing is sent along, and the reply is read as JSON. -/
structure Operation.Fetches (op : Operation) : Prop where
  asks : op.asksNothing = false
  body : op.body = .ok none
  read : ∀ reply, op.read reply = ((Json.parse reply).map .value).mapError .json

theorem Operation.Fetches.issueToken (username password : String) :
    (Operation.issueToken username password).Fetches := ⟨rfl, rfl, fun _ => rfl⟩

theorem Operation.Fetches.listSessions : Operation.listSessions.Fetches := ⟨rfl, rfl, fun _ => rfl⟩

variable {c : Client} {op : Operation} {t : Transport σ} {s : σ}

theorem Listed.yields {entries : List Json.Value} (h : Listed c t s entries) :
    t.Yields s c.caller.lookup (.array entries) := by
  obtain ⟨reply, hreply, hsuccess, hentries⟩ := h.answered
  exact ⟨reply, hreply, hsuccess, Json.parse_of_parseList hentries⟩

namespace Operation.Fetches

theorem read_eq_ok (h : op.Fetches) {reply : Bytes} {product : Product} :
    op.read reply = .ok product ↔ ∃ v, Json.parse reply = .ok v ∧ product = .value v := by
  rw [h.read]
  cases Json.parse reply <;> simp [Except.map, Except.mapError, eq_comm]

theorem eq_bare (h : op.Fetches) {request : Request} (hcomposed : Composed c op t s request) :
    ∃ address, Offers c t s op.service.role address ∧ request = op.bare c address := by
  obtain ⟨address, hoffers, huri⟩ := hcomposed.offers
  have hbody := h.body.symm.trans hcomposed.body
  obtain ⟨method, uri, headers, body⟩ := request
  obtain rfl : method = op.method := hcomposed.method
  obtain rfl : headers = op.headers c := hcomposed.headers
  obtain rfl : uri = Endpoint.joined address op.path := huri
  cases hbody
  exact ⟨address, hoffers, rfl⟩

/-- What is sent are the first of two requests, and the second one goes to an address that the
listing offers. -/
theorem sent_begins (h : op.Fetches) (c : Client) (t : Transport σ) (s : σ) :
    ∃ address, ((c.perform op).run t s).sent <+: [c.caller.lookup, op.bare c address] ∧
      (2 ≤ ((c.perform op).run t s).sent.length → Offers c t s op.service.role address) := by
  rcases sent_perform_cases (c := c) (t := t) (s := s) h.asks with
    ⟨_, _, hsent⟩ | ⟨_, _, hsent⟩ | ⟨request, hcomposed, hsent⟩
  · rw [hsent]
    exact ⟨"", List.nil_prefix, fun hlength => absurd hlength (by decide)⟩
  · rw [hsent]
    exact ⟨"", List.prefix_append [_] [_], fun hlength => absurd hlength (Nat.not_succ_le_self 1)⟩
  · obtain ⟨address, hoffers, rfl⟩ := h.eq_bare hcomposed
    rw [hsent]
    exact ⟨address, List.prefix_rfl, fun _ => hoffers⟩

/-- A product is the value that comes back for the second request. -/
theorem result_eq_ok (h : op.Fetches) {product : Product} :
    ((c.perform op).run t s).result = .ok product ↔ ∃ request v,
      ((c.perform op).run t s).sent[1]? = some request ∧
        t.Yields (t.after s [c.caller.lookup]) request v ∧ product = .value v := by
  rw [result_perform_eq_ok h.asks]
  constructor
  · rintro ⟨request, reply, hcomposed, hanswer, hsuccess, hread⟩
    obtain ⟨v, hparse, rfl⟩ := h.read_eq_ok.mp hread
    rw [sent_of_composed h.asks hcomposed]
    exact ⟨request, v, rfl, ⟨reply, hanswer, hsuccess, hparse⟩, rfl⟩
  · rintro ⟨request, v, hsent, ⟨reply, hanswer, hsuccess, hparse⟩, rfl⟩
    exact ⟨request, reply, composed_of_sent hsent, hanswer, hsuccess,
      h.read_eq_ok.mpr ⟨v, hparse, rfl⟩⟩

/-- There is a product exactly if both requests are sent and answered with values. -/
theorem exists_product_iff (h : op.Fetches) :
    (∃ product, ((c.perform op).run t s).result = .ok product) ↔
      ((c.perform op).run t s).sent.length = 2 ∧ t.Fulfils s ((c.perform op).run t s).sent := by
  simp only [h.result_eq_ok]
  constructor
  · rintro ⟨_, request, v, hsent, hyields, -⟩
    have hcomposed := composed_of_sent hsent
    obtain ⟨entries, _, hlisted, _⟩ := hcomposed.located
    rw [sent_of_composed h.asks hcomposed]
    exact ⟨rfl, .cons hlisted.yields (.cons hyields .nil)⟩
  · rintro ⟨hlength, hfulfils⟩
    obtain ⟨request, hrequest⟩ : ∃ request, ((c.perform op).run t s).sent[1]? = some request :=
      ⟨_, List.getElem?_eq_getElem (by omega)⟩
    rw [sent_of_composed h.asks (composed_of_sent hrequest)] at hfulfils
    obtain ⟨⟨v, hyields⟩, -⟩ := Transport.fulfils_cons.mp (Transport.fulfils_cons.mp hfulfils).2
    exact ⟨_, request, v, hrequest, hyields, rfl⟩

end Operation.Fetches

end ServiceLocator
