import Mathlib
import ServiceLocator.Proofs.Client.Stages
import ServiceLocator.Proofs.Json.RoundTrip
import ServiceLocator.Proofs.Transport.Wire

/-!
Echoes. A service that hands a session back as it was sent is understood: the session that
comes out is the one that went in, as long as its JSON form loses nothing.
-/
namespace ServiceLocator

variable {σ : Type}

/-- A request is answered with success and with the body that it brought. -/
def Transport.Echoes (t : Transport σ) (s : σ) (request : Request) : Prop :=
  ∃ reply, t.answer s request = .ok reply ∧ reply.status.isSuccess = true ∧
    reply.body = request.body.getD []

/-- A far end answers a request with success and with the body that it received. -/
def Peer.Echoes (peer : Peer σ) (s : σ) (wire : WireRequest) : Prop :=
  ∃ status lines, (peer.answer wire s).1 = .complete status lines wire.body ∧
    status.isSuccess = true

/-- Over HTTP the body travels as it is, in both directions. -/
theorem Peer.Echoes.http {settings : HttpSettings} {request : Request} {wire : WireRequest}
    (hwire : Transport.wire? settings request = some wire) {peer : Peer σ} {s : σ}
    (h : peer.Echoes s wire) : (Transport.http settings peer).Echoes s request := by
  obtain ⟨status, lines, hpeer, hs⟩ := h
  obtain ⟨url, hanswer⟩ := Transport.exists_answer_http hwire peer s
  obtain ⟨_, _, _, _, _, rfl⟩ := Transport.wire?_eq_some.mp hwire
  rw [hpeer] at hanswer
  exact ⟨_, hanswer, hs, rfl⟩

/-- The reading of what was written: no value is taken for an empty answer. -/
theorem Operation.read_createSession_bytes {v : Json.Value} (h : Json.Lossless 127 v)
    (payload : Payload) : (Operation.createSession payload).read v.bytes = .ok (.value v) := by
  have hempty : v.bytes.isEmpty = false := List.isEmpty_eq_false_iff.mpr (Json.bytes_ne_nil v)
  simp only [read, hempty, Json.parse_bytes h]
  rfl

/-- A session comes back as it went out. If its service can be located, a session that loses
nothing in its JSON form is sent in that form, and it is the result if the service answers with
what it received. So it is if a resource is fetched and those bytes are the answer. No session
is sent as nothing; and a far end that answers with what it received makes HTTP such a service. -/
theorem createSession_echoed {v : Json.Value} (h : Json.Lossless 127 v) (c : Client) :
    let op : Operation := .createSession (.value v)
    (∀ (t : Transport σ) (s : σ) address uri,
      ((c.resolve op.service.role).run t s).result = .ok address →
      Endpoint.join address op.path = .ok uri →
        let request : Request := ⟨.post, uri, op.headers c, some v.bytes⟩
        let run := (c.perform op).run t s
        run.sent = [c.caller.lookup, request] ∧
          (t.Echoes (t.after s [c.caller.lookup]) request → run.result = .ok (.value v))) ∧
    (∀ (t : Transport σ) (s : σ) uri reply, t.answer s (c.fetchRequest uri) = .ok reply →
      reply.status.isSuccess = true → reply.body = v.bytes →
        ((c.fetchValue uri).run t s).result = .ok v) ∧
    (∀ w : Json.Value, w.bytes ≠ []) ∧
    ∀ settings (peer : Peer σ) (s : σ) request wire,
      Transport.wire? settings request = some wire → peer.Echoes s wire →
        (Transport.http settings peer).Echoes s request := by
  intro op
  refine ⟨fun t s address uri hresolve hjoin => ?_, fun t s uri reply hanswer hs hbody => ?_,
    Json.bytes_ne_nil, fun _ _ _ _ _ hwire hpeer => hpeer.http hwire⟩
  · intro request run
    obtain ⟨entries, hlisted, hselect⟩ := resolve_eq_ok.mp hresolve
    have hcomposed : Composed c op t s request :=
      ⟨⟨entries, address, hlisted, hselect, hjoin⟩, rfl, rfl, rfl⟩
    refine ⟨sent_of_composed rfl hcomposed, fun hecho => ?_⟩
    obtain ⟨reply, hanswer, hs, hbody⟩ := hecho
    have hread : op.read reply.body = .ok (.value v) := by
      rw [hbody]
      exact Operation.read_createSession_bytes h _
    exact (result_perform_eq_ok rfl).mpr ⟨request, reply, hcomposed, hanswer, hs, hread⟩
  · have hverdict : reply.verdict c.caller = .ok v.bytes := Reply.verdict_eq_ok.mpr ⟨hs, hbody⟩
    rw [Client.fetchValue, Client.result_fetch, hanswer, ok_bind, hverdict, ok_bind,
      Json.parse_bytes h]
    rfl

/-- A session of two members, one of them nested: the smallest integer, and a text with a quote,
a control and a character beyond the first plane. -/
theorem createSession_echoed_nested :
    let v : Json.Value := .object [("k", .array [.number (.integer (-0x8000000000000000))]),
      ("n", .string "\"\x01😀")]
    let replies : List ScriptedReply :=
      [.reply 200 "" ∅ (Utf8.encode "[[\"session-db\",\"b:\"]]") none, .reply 201 "" ∅ v.bytes none]
    let c : Client := .new (.internal "a:") none
    let op : Operation := .createSession (.value v)
    Json.Lossless 127 v ∧ ((c.perform op).run .scripted replies).result = .ok (.value v) := by
  intro v replies c op
  have hv : Json.Lossless 127 v := by
    refine .object (by decide) fun m hm => ?_
    simp only [List.mem_cons, List.not_mem_nil, or_false] at hm
    rcases hm with rfl | rfl
    · refine .array fun item hitem => ?_
      obtain rfl := List.mem_singleton.mp hitem
      exact .integer (by decide)
    · exact .string _
  have hparse : Json.parseList (Utf8.encode "[[\"session-db\",\"b:\"]]") =
      .ok [.array [.string "session-db", .string "b:"]] := by cbv
  have hlocator : Endpoint.join "a:" Endpoint.services = .ok "a:/services" := rfl
  have haddress : Endpoint.join "b:" Endpoint.sessions = .ok "b:/sessions/" := rfl
  have hresolve : ((c.resolve op.service.role).run .scripted replies).result = .ok "b:" :=
    resolve_eq_ok.mpr ⟨_, ⟨⟨_, hlocator⟩, _, rfl, rfl, hparse⟩, rfl⟩
  obtain ⟨hperform, -⟩ := createSession_echoed hv c
  obtain ⟨-, hresult⟩ := hperform .scripted replies "b:" "b:/sessions/" hresolve haddress
  exact ⟨hv, hresult ⟨_, rfl, rfl, rfl⟩⟩

end ServiceLocator
