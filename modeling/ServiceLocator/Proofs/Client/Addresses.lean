import ServiceLocator.Proofs.Client.Stages

/-!
Addresses of the other role. A listing gives a service two addresses, and a caller sees one
of them: two runs whose listings differ in the other one only (`Relisted`) send the same and
end in the same way. What a caller gets is never an address that the listing does not give
to it.
-/
namespace ServiceLocator

open List (Forall₂)

variable {σ σ' : Type}

/-! ## Listings -/

namespace Descriptor

/-- The address that a descriptor lists for a caller, which can be empty. -/
def listedFor (d : Descriptor) (caller : Caller) : Option String :=
  if caller.isExternal then d.publicUri else d.uri

/-- Descriptors of one role that list the same address for a caller. -/
structure SameFor (caller : Caller) (d d' : Descriptor) : Prop where
  role : d.role = d'.role
  listedFor : d.listedFor caller = d'.listedFor caller

variable {caller : Caller} {d d' : Descriptor}

theorem addressFor_eq_some {address : String} :
    d.addressFor caller = some address ↔ d.listedFor caller = some address ∧ address ≠ "" := by
  unfold addressFor listedFor
  rw [Option.filter_eq_some_iff, decide_eq_true_iff]

theorem SameFor.addressFor (h : SameFor caller d d') :
    d.addressFor caller = d'.addressFor caller :=
  congrArg (Option.filter _) h.listedFor

end Descriptor

namespace Listing

variable {caller : Caller} {services services' : List Descriptor} {name address : String}

/-- The first descriptor of a role stands at the same place in both. -/
theorem find?_sameFor (h : Forall₂ (Descriptor.SameFor caller) services services')
    (name : String) :
    (services.find? (·.role == name)).bind (·.addressFor caller) =
      (services'.find? (·.role == name)).bind (·.addressFor caller) := by
  induction h with
  | nil => rfl
  | @cons d d' _ _ hd _ ih =>
    rw [List.find?_cons, List.find?_cons, ← hd.role]
    cases d.role == name with
    | true => exact hd.addressFor
    | false => exact ih

theorem select_sameFor (h : Forall₂ (Descriptor.SameFor caller) services services')
    (name : String) : select services name caller = select services' name caller := by
  unfold select
  rw [find?_sameFor h]

/-- What is chosen is listed for the caller, by a descriptor of the role that was asked for. -/
theorem mem_of_select (h : select services name caller = .ok address) :
    ∃ d ∈ services, d.role = name ∧ d.listedFor caller = some address ∧ address ≠ "" := by
  unfold select at h
  split at h
  · rename_i found hfound
    cases h
    obtain ⟨d, hd, haddress⟩ := Option.bind_eq_some_iff.mp hfound
    have hrole := List.find?_some (p := fun d : Descriptor => d.role == name) hd
    obtain ⟨hlisted, hne⟩ := Descriptor.addressFor_eq_some.mp haddress
    exact ⟨d, List.mem_of_find?_eq_some hd, beq_iff_eq.mp hrole, hlisted, hne⟩
  · cases h

end Listing

/-! ## Replies -/

/-- Bodies that are listings of the same roles with the same addresses for a caller. -/
def SameListing (caller : Caller) (body body' : Bytes) : Prop :=
  ∃ entries entries', Json.parseList body = .ok entries ∧ Json.parseList body' = .ok entries' ∧
    Forall₂ (Descriptor.SameFor caller) (Listing.descriptors entries)
      (Listing.descriptors entries')

/-- Answers to a lookup: the same, or replies of success that differ in their listing only,
and there in nothing that concerns the caller. -/
inductive Relisting (caller : Caller) : Except CallError Reply → Except CallError Reply → Prop
  | same (answer) : Relisting caller answer answer
  | listing {reply : Reply} {body' : Bytes} : reply.status.isSuccess = true →
      SameListing caller reply.body body' →
      Relisting caller (.ok reply) (.ok { reply with body := body' })

/-- Runs whose lookups are answered with listings that are the same for the client, and whose
later requests are answered in the same way. -/
structure Relisted (c : Client) (t : Transport σ) (s : σ) (t' : Transport σ') (s' : σ') :
    Prop where
  lookup : Relisting c.caller (t.answer s c.caller.lookup) (t'.answer s' c.caller.lookup)
  later : ∀ request, t.answer (t.after s [c.caller.lookup]) request =
    t'.answer (t'.after s' [c.caller.lookup]) request

theorem SameListing.choose {caller : Caller} {body body' : Bytes}
    (h : SameListing caller body body') (name : String) :
    Listing.choose body name caller = Listing.choose body' name caller := by
  obtain ⟨entries, entries', hparse, hparse', hsame⟩ := h
  have hselect := Listing.select_sameFor hsame name
  unfold Listing.choose
  rw [hparse, hparse']
  exact hselect

/-- A choice goes by the verdict on the answer and by the listing in it. -/
theorem Relisting.choose {caller : Caller} {answer answer' : Except CallError Reply}
    (h : Relisting caller answer answer') (name : String) :
    (do
      let reply ← answer
      let body ← reply.verdict caller
      Listing.choose body name caller) =
    (do
      let reply ← answer'
      let body ← reply.verdict caller
      Listing.choose body name caller) := by
  cases h with
  | same => rfl
  | @listing reply body' hs hsame =>
    have hbody : reply.verdict caller = .ok reply.body := Reply.verdict_eq_ok.mpr ⟨hs, rfl⟩
    have hbody' : Reply.verdict { reply with body := body' } caller = .ok body' :=
      Reply.verdict_eq_ok.mpr ⟨hs, rfl⟩
    rw [ok_bind, ok_bind, hbody, hbody', ok_bind, ok_bind]
    exact hsame.choose name

/-! ## Runs -/

namespace Relisted

variable {c : Client} {t : Transport σ} {s : σ} {t' : Transport σ'} {s' : σ'}

/-- Made-up replies of which the first differs in its listing. -/
theorem scripted {caller : Caller} {token : Option String} {first first' : ScriptedReply}
    (h : Relisting caller (first.answer caller.lookup) (first'.answer caller.lookup))
    (rest : List ScriptedReply) :
    Relisted (.new caller token) .scripted (first :: rest) .scripted (first' :: rest) :=
  ⟨h, fun _ => rfl⟩

theorem result_resolve (h : Relisted c t s t' s') (name : String) :
    ((c.resolve name).run t s).result = ((c.resolve name).run t' s').result := by
  unfold Client.resolve
  rw [Step.result_resolve, Step.result_resolve]
  exact congrArg _ (funext fun _ => h.lookup.choose name)

theorem compose (h : Relisted c t s t' s') (op : Operation) :
    c.compose op t s = c.compose op t' s' := by
  unfold Client.compose
  rw [h.result_resolve]

theorem sameCourse (h : Relisted c t s t' s') (op : Operation) :
    Client.SameCourse op c t s c t' s' :=
  ⟨c.sent_resolve_eq _ t s t' s', h.compose op, fun request => by rw [h.later]⟩

end Relisted

/-! ## Addresses that are found -/

variable {c : Client} {t : Transport σ} {s : σ}

/-- A listing that was had gives a client this address for a service. -/
structure Offers (c : Client) (t : Transport σ) (s : σ) (name address : String) : Prop where
  nonempty : address ≠ ""
  listed : ∃ entries d, Listed c t s entries ∧ d ∈ Listing.descriptors entries ∧ d.role = name ∧
    d.listedFor c.caller = some address

theorem Listed.offers {entries : List Json.Value} (hlisted : Listed c t s entries)
    {name address : String}
    (h : Listing.select (Listing.descriptors entries) name c.caller = .ok address) :
    Offers c t s name address := by
  obtain ⟨d, hd, hrole, haddress, hne⟩ := Listing.mem_of_select h
  exact ⟨hne, entries, d, hlisted, hd, hrole, haddress⟩

theorem offers_of_resolve {name address : String}
    (h : ((c.resolve name).run t s).result = .ok address) : Offers c t s name address := by
  obtain ⟨entries, hlisted, hselect⟩ := resolve_eq_ok.mp h
  exact hlisted.offers hselect

/-- The second request of an operation is the one that it is composed of. -/
theorem composed_of_sent {op : Operation} {request : Request}
    (h : ((c.perform op).run t s).sent[1]? = some request) : Composed c op t s request := by
  cases hasks : op.asksNothing with
  | true =>
    rw [Client.perform_of_asksNothing hasks] at h
    cases h
  | false =>
    rcases sent_perform_cases (c := c) (t := t) (s := s) hasks with
      ⟨_, _, hsent⟩ | ⟨_, _, hsent⟩ | ⟨request', hcomposed, hsent⟩
    · rw [hsent] at h
      cases h
    · rw [hsent] at h
      cases h
    · rw [hsent] at h
      cases h
      exact hcomposed

/-- It goes to an address that the listing offers. -/
theorem Composed.offers {op : Operation} {request : Request} (h : Composed c op t s request) :
    ∃ address, Offers c t s op.service.role address ∧
      request.uri = Endpoint.joined address op.path := by
  obtain ⟨entries, address, hlisted, hselect, hjoin⟩ := h.located
  exact ⟨address, hlisted.offers hselect, Endpoint.eq_joined_of_join hjoin⟩

/-- Addresses are kept apart by role. Runs whose listings differ only in addresses that are
not for the client send the same and have the same result, for lookups and for operations;
and an address that is found, or that an operation goes to, is one that the listing of this
run offers to the client. -/
theorem addresses_are_kept_apart (c : Client) (t : Transport σ) (s : σ) (t' : Transport σ')
    (s' : σ') (h : Relisted c t s t' s') :
    (∀ name,
      ((c.resolve name).run t s).sent = ((c.resolve name).run t' s').sent ∧
      ((c.resolve name).run t s).result = ((c.resolve name).run t' s').result ∧
      ∀ address, ((c.resolve name).run t s).result = .ok address → Offers c t s name address) ∧
    ∀ op,
      ((c.perform op).run t s).sent = ((c.perform op).run t' s').sent ∧
      ((c.perform op).run t s).result = ((c.perform op).run t' s').result ∧
      ∀ request, ((c.perform op).run t s).sent[1]? = some request →
        ∃ address, Offers c t s op.service.role address ∧
          request.uri = Endpoint.joined address op.path :=
  ⟨fun name =>
      ⟨c.sent_resolve_eq name t s t' s', h.result_resolve name, fun _ => offers_of_resolve⟩,
    fun op => ⟨(h.sameCourse op).sent_perform, (h.sameCourse op).result_perform,
      fun _ hrequest => (composed_of_sent hrequest).offers⟩⟩

/-- An external client meets two listings whose internal addresses have nothing in common. It
finds the one service with a public address, and not the one without. -/
theorem addresses_are_kept_apart_notFound :
    let c : Client := .new (.external "a:") none
    let replies : List ScriptedReply :=
      [.reply 200 "" ∅ (Utf8.encode "[[\"auth\",\"i:\",\"p:\"],[\"session-db\",\"j:\"]]") none]
    let replies' : List ScriptedReply :=
      [.reply 200 "" ∅ (Utf8.encode "[[\"auth\",null,\"p:\"],[\"session-db\",\"k:\"]]") none]
    Relisted c .scripted replies .scripted replies' ∧
      ((c.resolve "auth").run .scripted replies').result = .ok "p:" ∧
      Offers c .scripted replies "auth" "p:" ∧
      ((c.perform .listSessions).run .scripted replies').result =
        .error (.serviceNotFound "session-db") := by
  intro c replies replies'
  have hparse : Json.parseList
      (Utf8.encode "[[\"auth\",\"i:\",\"p:\"],[\"session-db\",\"j:\"]]") =
        .ok [.array [.string "auth", .string "i:", .string "p:"],
          .array [.string "session-db", .string "j:"]] := by cbv
  have hparse' : Json.parseList
      (Utf8.encode "[[\"auth\",null,\"p:\"],[\"session-db\",\"k:\"]]") =
        .ok [.array [.string "auth", .null, .string "p:"],
          .array [.string "session-db", .string "k:"]] := by cbv
  have hsame : SameListing c.caller
      (Utf8.encode "[[\"auth\",\"i:\",\"p:\"],[\"session-db\",\"j:\"]]")
      (Utf8.encode "[[\"auth\",null,\"p:\"],[\"session-db\",\"k:\"]]") :=
    ⟨_, _, hparse, hparse', .cons ⟨rfl, rfl⟩ (.cons ⟨rfl, rfl⟩ .nil)⟩
  have hrelisted : Relisted c .scripted replies .scripted replies' :=
    .scripted (.listing rfl hsame) []
  have hlocator : Endpoint.join "a:" Endpoint.services = .ok "a:/services" := rfl
  have hlisted : Listed c .scripted replies
      [.array [.string "auth", .string "i:", .string "p:"],
        .array [.string "session-db", .string "j:"]] :=
    ⟨⟨_, hlocator⟩, _, rfl, rfl, hparse⟩
  have hauth : ((c.resolve "auth").run .scripted replies).result = .ok "p:" :=
    resolve_eq_ok.mpr ⟨_, hlisted, rfl⟩
  have hnone : ((c.perform .listSessions).run .scripted replies).result =
      .error (.serviceNotFound "session-db") :=
    (result_perform_eq_error rfl).mpr ⟨_, .choice hlisted rfl⟩
  obtain ⟨hresolve, hperform⟩ := addresses_are_kept_apart c _ _ _ _ hrelisted
  obtain ⟨_, hfound, hoffers⟩ := hresolve "auth"
  obtain ⟨_, hresult, _⟩ := hperform .listSessions
  exact ⟨hrelisted, hfound.symm.trans hauth, hoffers "p:" hauth, hresult.symm.trans hnone⟩

end ServiceLocator
