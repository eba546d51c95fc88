import ServiceLocator.Proofs.Http.Legal
import ServiceLocator.Proofs.Secrecy.Headers
import ServiceLocator.Proofs.Transport.Run
import ServiceLocator.Transport.Http

/-!
Transports that cannot see credentials. Requests are alike if they differ in the value of
their credentials at most. A transport is blind (`Transport.Blind`) if it deals with alike
requests in the same way; one that answers from a list is, and so is HTTP with a far end
that answers from a list, to which alike requests travel as alike requests.
-/
namespace ServiceLocator

open List (Forall₂)

/-- Requests that differ in the value of their credentials at most. -/
structure Request.Alike (r r' : Request) : Prop where
  method : r.method = r'.method
  uri : r.uri = r'.uri
  headers : r.headers.Alike Credential.headerName r'.headers
  body : r.body = r'.body

theorem Request.Alike.refl (r : Request) : r.Alike r := ⟨rfl, rfl, .refl _ _, rfl⟩

/-- Requests on their way that differ in the value of their credentials at most. -/
structure WireRequest.Alike (r r' : WireRequest) : Prop where
  method : r.method = r'.method
  url : r.url = r'.url
  fields : r.fields.Alike "authorization" r'.fields
  body : r.body = r'.body

/-- Far ends with the same answers left that have received alike requests. -/
structure Peer.Script.Alike (a b : Peer.Script) : Prop where
  answers : a.answers = b.answers
  received : Forall₂ WireRequest.Alike a.received b.received

theorem WireRequest.Alike.refl (r : WireRequest) : r.Alike r := ⟨rfl, rfl, .refl _ _, rfl⟩

theorem Peer.Script.Alike.refl (script : Peer.Script) : script.Alike script :=
  ⟨rfl, List.forall₂_same.mpr fun r _ => .refl r⟩

/-- A transport that deals with alike requests in the same way, in related states. -/
def Transport.Blind {σ : Type} (t : Transport σ) (R : σ → σ → Prop) : Prop :=
  ∀ r r' s s', Request.Alike r r' → R s s' →
    (t.deliver r s).1 = (t.deliver r' s').1 ∧ R (t.deliver r s).2 (t.deliver r' s').2

variable {secret : String} {h h' : Headers}

/-! ## Credentials -/

/-- Any two credentials are alike. -/
theorem Credential.basic_alike (principal secret principal' secret' : String) :
    ValueAlike headerName headerName (basic principal secret) (basic principal' secret') :=
  .inr ⟨rfl, Field.isValue_basic _ _, Field.isValue_basic _ _⟩

theorem Headers.Alike.attach (hh : h.Alike Credential.headerName h')
    (principal secret principal' secret' : String) :
    (Credential.attach principal secret h).Alike Credential.headerName
      (Credential.attach principal' secret' h') :=
  (hh.filter _).insert (Credential.basic_alike _ _ _ _)

/-! ## Fields -/

/-- The fields of alike headers are alike, or they cannot be sent for the same reason. -/
theorem Field.add_alike {xs ys : List (String × String)}
    (hxs : EntriesAlike Credential.headerName xs ys) {fields fields' : Headers}
    (hf : fields.Alike "authorization" fields') :
    (∃ fault, add fields xs = .error fault ∧ add fields' ys = .error fault) ∨
      ∃ f f', add fields xs = .ok f ∧ add fields' ys = .ok f' ∧ f.Alike "authorization" f' := by
  induction hxs generalizing fields fields' with
  | nil => exact .inr ⟨fields, fields', rfl, rfl, hf⟩
  | @cons e e' xs ys he _ ih =>
    obtain ⟨name, value⟩ := e
    obtain ⟨name', value'⟩ := e'
    obtain ⟨hname, hvalue⟩ := he
    cases hname
    simp only [add]
    cases hn : isName name with
    | false => exact .inl ⟨.badName name, rfl, rfl⟩
    | true =>
      rcases hvalue with rfl | ⟨rfl, hv, hv'⟩
      · cases hv : isValue value with
        | false => exact .inl ⟨.badValue (asciiLower name), rfl, rfl⟩
        | true => exact ih (hf.insert (.inl rfl))
      · -- The values differ, but both can be sent, so both are put under the same name.
        simp only at hv hv'
        rw [hv, hv']
        have hlower : asciiLower Credential.headerName = "authorization" := by decide
        exact ih (hf.insert (.inr ⟨hlower, hv, hv'⟩))

theorem Field.ofHeaders_alike (hh : h.Alike Credential.headerName h') :
    (∃ fault, ofHeaders h = .error fault ∧ ofHeaders h' = .error fault) ∨
      ∃ f f', ofHeaders h = .ok f ∧ ofHeaders h' = .ok f' ∧ f.Alike "authorization" f' := by
  have hlength : h.entries.length = h'.entries.length := List.Forall₂.length_eq hh
  unfold ofHeaders
  rw [hlength]
  split
  · exact .inl ⟨.tooMany, rfl, rfl⟩
  · exact add_alike hh (.refl _ _)

namespace WireRequest

theorem supply_alike (hh : h.Alike secret h') (name value : String) :
    (supply h name value).Alike secret (supply h' name value) := by
  unfold supply
  rw [hh.isSome_get? name]
  split
  · exact hh
  · exact hh.insert (.inl rfl)

theorem fieldsFor_alike (hh : h.Alike secret h') (settings : HttpSettings) (url : Url)
    (body : Bytes) :
    (fieldsFor settings url h body).Alike secret (fieldsFor settings url h' body) := by
  have hhost := supply_alike (supply_alike (supply_alike hh "accept" "*/*") "user-agent"
    settings.userAgent) "host" url.hostText
  unfold fieldsFor
  cases body.isEmpty with
  | true =>
    cases url.credentials? with
    | none => exact hhost
    | some login => exact supply_alike hhost "authorization" (Credential.basic login.1 login.2)
  | false =>
    have hlength := supply_alike hhost "content-length" (Numeral.text body.length)
    cases url.credentials? with
    | none => exact hlength
    | some login => exact supply_alike hlength "authorization" (Credential.basic login.1 login.2)

theorem trimmed_alike (hh : h.Alike secret h') : (trimmed h).Alike secret (trimmed h') := by
  refine Headers.ofList_alike ?_
  show Forall₂ (EntryAlike secret) _ _
  rw [List.forall₂_map_left_iff, List.forall₂_map_right_iff]
  refine List.Forall₂.imp (fun e e' he => ⟨he.name, ?_⟩) hh
  rcases he.value with heq | ⟨hname, hv, hv'⟩
  · exact .inl (congrArg Field.trim heq)
  · exact .inr ⟨hname, Field.isValue_trim hv, Field.isValue_trim hv'⟩

/-- Alike requests travel as alike requests. -/
theorem compose_alike {r r' : Request} (hr : r.Alike r') (settings : HttpSettings) (url : Url)
    (hh : h.Alike "authorization" h') :
    Alike (compose settings url h r) (compose settings url h' r') := by
  unfold compose
  rw [hr.method, hr.body]
  exact ⟨rfl, rfl, trimmed_alike (fieldsFor_alike hh settings url _), rfl⟩

end WireRequest

/-! ## Transports -/

theorem PeerAnswer.toReply_alike (answer : PeerAnswer) {r r' : Request} (hr : r.Alike r')
    (url : Url) : answer.toReply r url = answer.toReply r' url := by
  unfold toReply
  rw [hr.uri]

theorem Request.Alike.event {r r' : Request} (hr : r.Alike r') : r.event = r'.event := by
  unfold Request.event
  rw [hr.method, hr.uri, hr.headers.nameLine]

/-- A scripted far end answers alike requests alike. -/
theorem Peer.scripted_alike {r r' : WireRequest} (hr : r.Alike r') {a b : Script}
    (hab : a.Alike b) :
    (scripted.answer r a).1 = (scripted.answer r' b).1 ∧
      (scripted.answer r a).2.Alike (scripted.answer r' b).2 := by
  obtain ⟨answers, received⟩ := a
  obtain ⟨answers', received'⟩ := b
  obtain ⟨heq, hreceived⟩ := hab
  simp only at heq hreceived
  subst heq
  have hnote : ∀ answer, Forall₂ WireRequest.Alike (Script.note received r answer)
      (Script.note received' r' answer) := by
    intro answer
    unfold Script.note
    split
    · exact List.rel_append hreceived (.cons hr .nil)
    · exact hreceived
  -- The next answer is the next in the list; the request is only noted.
  cases answers with
  | nil => exact ⟨rfl, rfl, hnote .hungUp⟩
  | cons answer rest => exact ⟨rfl, rfl, hnote answer⟩

namespace Transport

/-- Made-up replies do not depend on credentials. -/
theorem scripted_blind : scripted.Blind Eq := by
  intro r r' replies _ hr heq
  cases heq
  cases replies with
  | nil => simp only [scripted, hr.uri, and_self]
  | cons reply rest =>
    cases reply with
    | reply status statusText headers body requestUri =>
      simp only [scripted, ScriptedReply.answer, hr.uri, and_self]
    | failure text => simp only [scripted, ScriptedReply.answer, hr.uri, and_self]

/-- HTTP with a scripted far end does not depend on credentials. -/
theorem http_scripted_blind (settings : HttpSettings) :
    (http settings Peer.scripted).Blind Peer.Script.Alike := by
  intro r r' a b hr hab
  simp only [http, ← hr.uri, ← hr.event]
  cases Url.parse r.uri with
  | error fault => exact ⟨rfl, hab⟩
  | ok url =>
    simp only
    rcases Field.ofHeaders_alike hr.headers with ⟨fault, hf, hf'⟩ | ⟨f, f', hf, hf', hff⟩
    · rw [hf, hf']
      exact ⟨rfl, hab⟩
    · rw [hf, hf']
      obtain ⟨hanswer, hscript⟩ :=
        Peer.scripted_alike (WireRequest.compose_alike hr settings url hff) hab
      simp only [sendComposed]
      split
      · simp only [hanswer, PeerAnswer.toReply_alike _ hr, true_and]
        exact hscript
      · exact ⟨by rw [hr.uri], hab⟩

end Transport

end ServiceLocator
