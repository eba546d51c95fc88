import ServiceLocator.Proofs.Client.Stages
import ServiceLocator.Proofs.Locator.Joined
import ServiceLocator.Proofs.Locator.Listing
import ServiceLocator.Proofs.Transport.Refusal

/-!
Requests of operations. Whatever an operation is given, its headers can be sent
(`Operation.legal_headers`) and its URI was checked when it was joined, so that a request that is
composed is in order (`Composed.inOrder`) and HTTP never turns it down.
-/
namespace ServiceLocator

variable {σ : Type}

/-! ## Headers -/

namespace Headers

/-- All headers of a map can be sent. -/
def Legal (h : Headers) : Prop := ∀ entry ∈ h.entries, Field.Legal entry

variable {h : Headers}

theorem legal_empty : (∅ : Headers).Legal := fun _ hentry => absurd hentry List.not_mem_nil

theorem Legal.insert (hlegal : h.Legal) {name value : String} (hname : Field.isName name = true)
    (hvalue : Field.isValue value = true) : (h.insert name value).Legal := by
  intro entry hentry
  rcases mem_insert hentry with rfl | hentry
  · exact ⟨hname, hvalue⟩
  · exact hlegal entry hentry

theorem Legal.filter (hlegal : h.Legal) (keep : String → Bool) : (h.filter keep).Legal :=
  fun entry hentry => hlegal entry (List.mem_of_mem_filter hentry)

/-- Credentials can be put into any headers, whatever they are. -/
theorem Legal.attach (hlegal : h.Legal) (principal secret : String) :
    (Credential.attach principal secret h).Legal :=
  (hlegal.filter _).insert (by decide) (Field.isValue_basic principal secret)

theorem Legal.authorize (hlegal : h.Legal) (c : Client) : (c.authorize h).Legal := by
  unfold Client.authorize
  cases c.identity.token with
  | none => exact hlegal
  | some token => exact hlegal.attach _ token

end Headers

/-- The name of the header for a client's token, if it has one. -/
def Client.tokenNames (c : Client) : List String :=
  if c.identity.token.isSome then ["Authorization"] else []

namespace Operation

theorem legal_headers (op : Operation) (c : Client) : (op.headers c).Legal := by
  cases op with
  | issueToken username password => exact Headers.legal_empty.attach username password
  | createSession payload =>
    exact (Headers.legal_empty.authorize c).insert (by decide) (by decide)
  | getFile session dataset max =>
    exact (Headers.legal_empty.insert (by decide) (Field.isValue_byteRange max)).authorize c
  | _ => exact Headers.legal_empty.authorize c

/-- The names of an operation's headers. -/
def headerNames (c : Client) : Operation → List String
  | .issueToken .. => ["Authorization"]
  | .createSession _ => c.tokenNames ++ ["content-type"]
  | .getFile .. => c.tokenNames ++ ["Range"]
  | _ => c.tokenNames

theorem names_headers (op : Operation) (c : Client) : (op.headers c).names = op.headerNames c := by
  obtain ⟨caller, token⟩ := c
  cases op with
  | createSession payload =>
    cases token with
    | none => rfl
    | some token =>
      have hlast : ¬"content-type" < "Authorization" := by decide
      show (Headers.place "content-type" _ [("Authorization", _)]).map (·.1) = _
      rw [Headers.place, if_neg hlast]
      rfl
  | getFile session dataset max =>
    cases token with
    | none => rfl
    | some token =>
      have hfirst : "Authorization" < "Range" := by decide
      have hkept : [("Range", Credential.byteRange max)].filter
          (!sameName ·.1 Credential.headerName) = [("Range", Credential.byteRange max)] :=
        List.filter_cons_of_pos (show (!sameName "Range" Credential.headerName) = true by decide)
      simp only [headers, headerNames, Client.authorize, Credential.attachToken, Credential.attach,
        Headers.names, Headers.insert, Headers.filter]
      show (Headers.place "Authorization" _ ([("Range", _)].filter
        (!sameName ·.1 Credential.headerName))).map (·.1) = _
      rw [hkept, Headers.place, if_pos hfirst]
      rfl
  | _ => cases token <;> rfl

/-- There are at most two headers, and in small letters their names are in the same order. -/
theorem headerNames_few (op : Operation) (c : Client) : (op.headerNames c).length ≤ 2 ∧
    ((op.headerNames c).map asciiLower).Pairwise (· < ·) := by
  have htoken : c.tokenNames = [] ∨ c.tokenNames = ["Authorization"] := by
    unfold Client.tokenNames
    split <;> simp
  rcases htoken with htoken | htoken <;> cases op <;> simp only [headerNames, htoken] <;> decide

/-- The headers of an operation become its fields, name by name and with the same values. -/
theorem exists_fields (op : Operation) (c : Client) :
    ∃ fields, Field.ofHeaders (op.headers c) = .ok fields ∧
      fields.entries = (op.headers c).entries.map fun entry => (asciiLower entry.1, entry.2) := by
  obtain ⟨hfew, hnames⟩ := headerNames_few op c
  rw [← names_headers] at hfew hnames
  rw [Headers.names, List.length_map] at hfew
  rw [Headers.names, List.map_map] at hnames
  refine ⟨_, Field.ofHeaders_of_legal (hfew.trans (by decide)) (op.legal_headers c),
    Headers.entries_ofList ?_⟩
  exact List.pairwise_map.mpr (List.pairwise_map.mp hnames)

end Operation

/-! ## Requests -/

/-- A request of the locator's listing is in order if its URI is. -/
theorem Caller.inOrder_lookup {caller : Caller} {uri : String}
    (h : Endpoint.join caller.locator Endpoint.services = .ok uri) : caller.lookup.InOrder := by
  obtain ⟨rfl, hurl⟩ := Endpoint.join_eq_ok.mp h
  exact ⟨hurl, ∅, rfl⟩

variable {c : Client} {op : Operation} {settings : HttpSettings} {peer : Peer σ} {s : σ}

theorem Composed.inOrder {t : Transport σ} {request : Request} (h : Composed c op t s request) :
    request.InOrder := by
  obtain ⟨_, _, _, _, hjoin⟩ := h.located
  obtain ⟨fields, hfields, -⟩ := op.exists_fields c
  exact ⟨(Endpoint.join_eq_ok.mp hjoin).2, fields, h.headers ▸ hfields⟩

/-- Over HTTP, nothing but what is joined can be refused. -/
theorem FailsAt.of_isRefusal {stage : Stage} {e : CallError}
    (hfails : FailsAt c op (.http settings peer) s stage e) (he : e.isRefusal = true) :
    stage = .locator ∨ stage = .endpoint := by
  cases hfails with
  | locator => exact .inl rfl
  | endpoint => exact .inr rfl
  | lookup hjoin hanswer =>
    rw [Transport.isRefusal_answer_http (Caller.inOrder_lookup hjoin) hanswer] at he
    cases he
  | answer hcomposed hanswer =>
    rw [Transport.isRefusal_answer_http hcomposed.inOrder hanswer] at he
    cases he
  | @lookupVerdict uri reply f | @verdict request reply f =>
    cases hkind : f.kind <;> simp [Failure.toError, hkind, CallError.isRefusal] at he
  | listing => cases he
  | choice _ hchoice =>
    rw [(Listing.select_eq_error.mp hchoice).1] at he
    cases he
  | body _ _ _ hbody =>
    obtain ⟨_, rfl⟩ := Operation.exists_json_of_body hbody
    cases he
  | reading _ _ _ hread =>
    obtain ⟨_, rfl⟩ := Operation.exists_json_of_read hread
    cases he

/-- What an operation sends is in order. -/
theorem inOrder_of_sent {t : Transport σ} {request : Request}
    (h : request ∈ ((c.perform op).run t s).sent) : request.InOrder := by
  cases hasks : op.asksNothing with
  | true =>
    rw [Client.perform_of_asksNothing hasks] at h
    cases h
  | false =>
    cases hjoin : Endpoint.join c.caller.locator Endpoint.services with
    | error e =>
      rw [sent_of_join_error hasks hjoin] at h
      cases h
    | ok uri =>
      have hlookup := Caller.inOrder_lookup hjoin
      rcases sent_perform_cases (c := c) (t := t) (s := s) hasks with
        ⟨_, _, hsent⟩ | ⟨_, _, hsent⟩ | ⟨own, hcomposed, hsent⟩
      · rw [hsent] at h
        cases h
      · rw [hsent, List.mem_singleton] at h
        exact h ▸ hlookup
      · rw [hsent, List.mem_pair] at h
        rcases h with rfl | rfl
        exacts [hlookup, hcomposed.inOrder]

/-- The result is an invalid URI exactly if the locator's address or that of the service cannot
be joined, and nothing was sent to it. -/
theorem result_perform_eq_invalidUri {reason : String} :
    ((c.perform op).run (.http settings peer) s).result = .error (.invalidUri reason) ↔
      op.asksNothing = false ∧
        (((c.perform op).run (.http settings peer) s).sent = [] ∧
            Endpoint.join c.caller.locator Endpoint.services = .error (.invalidUri reason) ∨
          ∃ address,
            ((c.resolve op.service.role).run (.http settings peer) s).result = .ok address ∧
            ((c.perform op).run (.http settings peer) s).sent = [c.caller.lookup] ∧
            Endpoint.join address op.path = .error (.invalidUri reason)) := by
  cases hasks : op.asksNothing with
  | true =>
    rw [Client.perform_of_asksNothing hasks]
    exact ⟨nofun, nofun⟩
  | false =>
    rw [result_perform_eq_error hasks]
    constructor
    · rintro ⟨stage, hfails⟩
      refine ⟨rfl, ?_⟩
      rcases hfails.of_isRefusal rfl with rfl | rfl
      · cases hfails with
        | locator hjoin => exact .inl ⟨sent_of_join_error hasks hjoin, hjoin⟩
      · have hcompose := compose_eq_error.mpr ⟨_, hfails, by decide⟩
        cases hfails with
        | endpoint hlisted hselect hjoin =>
          obtain ⟨uri, hlocator⟩ := hlisted.joined
          exact .inr ⟨_, resolve_eq_ok.mpr ⟨_, hlisted, hselect⟩,
            sent_of_compose_error hasks hlocator hcompose, hjoin⟩
    · rintro ⟨-, ⟨-, hjoin⟩ | ⟨address, hresolve, -, hjoin⟩⟩
      · exact ⟨_, .locator hjoin⟩
      · obtain ⟨entries, hlisted, hselect⟩ := resolve_eq_ok.mp hresolve
        exact ⟨_, .endpoint hlisted hselect hjoin⟩

/-- Operations can be encoded, whatever they are given. Over HTTP, with any far end, they never
fail with a bad header, and with a bad URI only where the address of the locator or of the service
cannot be joined with a path; the request for it is then not sent. What is sent is never turned
down. The headers of an operation become fields with the names that it sets, in lower case, and
with the same values. -/
theorem operations_are_encodable (settings : HttpSettings) (peer : Peer σ) (s : σ) (c : Client)
    (op : Operation) :
    let t := Transport.http settings peer
    let run := (c.perform op).run t s
    (∀ reason, run.result ≠ .error (.header reason)) ∧
    (∀ reason, run.result = .error (.invalidUri reason) ↔ op.asksNothing = false ∧
      (run.sent = [] ∧
          Endpoint.join c.caller.locator Endpoint.services = .error (.invalidUri reason) ∨
        ∃ address, ((c.resolve op.service.role).run t s).result = .ok address ∧
          run.sent = [c.caller.lookup] ∧
          Endpoint.join address op.path = .error (.invalidUri reason))) ∧
    (∀ request ∈ run.sent, ∀ s' e, t.answer s' request = .error e → e.isRefusal = false) ∧
    ∃ fields, Field.ofHeaders (op.headers c) = .ok fields ∧
      fields.names = (op.headerNames c).map asciiLower ∧
      fields.entries = (op.headers c).entries.map fun entry => (asciiLower entry.1, entry.2) := by
  intro t run
  refine ⟨fun reason hresult => ?_, fun reason => result_perform_eq_invalidUri,
    fun request hsent s' e => Transport.isRefusal_answer_http (inOrder_of_sent hsent), ?_⟩
  · cases hasks : op.asksNothing with
    | true =>
      simp only [run, Client.perform_of_asksNothing hasks] at hresult
      cases hresult
    | false =>
      obtain ⟨stage, hfails⟩ := (result_perform_eq_error hasks).mp hresult
      -- Only what is joined is refused, and that is no header.
      rcases hfails.of_isRefusal rfl with rfl | rfl
      · cases hfails with
        | locator hjoin =>
          obtain ⟨_, huri⟩ := Endpoint.exists_invalidUri_of_join_error hjoin
          cases huri
      · cases hfails with
        | endpoint _ _ hjoin =>
          obtain ⟨_, huri⟩ := Endpoint.exists_invalidUri_of_join_error hjoin
          cases huri
  · obtain ⟨fields, hfields, hentries⟩ := op.exists_fields c
    refine ⟨fields, hfields, ?_, hentries⟩
    rw [← op.names_headers c, Headers.names, Headers.names, hentries, List.map_map, List.map_map]
    rfl

/-- A token with a line break in it, at a locator whose address is no URL and at one whose URL
cannot be asked for over HTTP. -/
theorem operations_are_encodable_lineBreak :
    let t := Transport.http .default Peer.scripted
    let script : Peer.Script := ⟨[.silent], []⟩
    let op : Operation := .createSession (.value .null)
    let c (locator : String) : Client := .new (.internal locator) (some "t\r\nhost: h")
    let run (locator : String) := ((c locator).perform op).run t script
    (run "x").result = .error (.invalidUri "relative URL without a base") ∧ (run "x").sent = [] ∧
      (run "a:").sent = [(c "a:").caller.lookup] ∧
      (∃ e, t.answer script (c "a:").caller.lookup = .error e ∧ e.isRefusal = false) ∧
      ∃ fields, Field.ofHeaders (op.headers (c "a:")) = .ok fields ∧
        fields.names = ["authorization", "content-type"] := by
  intro t script op c run
  have hrelative : Endpoint.join "x" Endpoint.services =
      .error (.invalidUri "relative URL without a base") := rfl
  have hjoin : Endpoint.join "a:" Endpoint.services = .ok "a:/services" := rfl
  have hnone : (run "x").sent = [] := sent_of_join_error rfl hrelative
  obtain ⟨⟨url, hurl⟩, given, hgiven⟩ : (c "a:").caller.lookup.InOrder :=
    Caller.inOrder_lookup hjoin
  obtain ⟨e, hlost⟩ : ∃ e, t.answer script (c "a:").caller.lookup = .error e := by
    simp only [t, Transport.answer, Transport.http, hurl, hgiven, Transport.sendComposed]
    split <;> exact ⟨_, rfl⟩
  have hcompose : (c "a:").compose op t script = .error e :=
    compose_eq_error.mpr ⟨_, .lookup hjoin hlost, by decide⟩
  have hsent : (run "a:").sent = [(c "a:").caller.lookup] :=
    sent_of_compose_error rfl hjoin hcompose
  obtain ⟨-, hinvalid, -, -⟩ := operations_are_encodable .default Peer.scripted script (c "x") op
  obtain ⟨-, -, hrefusal, fields, hfields, hnames, -⟩ :=
    operations_are_encodable .default Peer.scripted script (c "a:") op
  refine ⟨(hinvalid _).mpr ⟨rfl, .inl ⟨hnone, hrelative⟩⟩, hnone, hsent, ⟨_, hlost, ?_⟩,
    fields, hfields, hnames.trans (by decide)⟩
  exact hrefusal _ (hsent ▸ List.mem_singleton_self _) script _ hlost

end ServiceLocator
