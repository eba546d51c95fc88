import Mathlib
import ServiceLocator.Proofs.Client.Course

/-!
The stages of an operation. It sends at most two requests: one that asks the locator for
its listing, and one of its own (`Composed`), which follows only if the listing could be
had, names the service and gives an address for it. Whatever the transport does, the
result is that of the last stage or the error of the first one that fails (`FailsAt`).
-/
namespace ServiceLocator

variable {σ : Type}

/-- The locator was asked, and a reply of success listed these entries. -/
structure Listed (c : Client) (t : Transport σ) (s : σ) (entries : List Json.Value) : Prop where
  joined : ∃ uri, Endpoint.join c.caller.locator Endpoint.services = .ok uri
  answered : ∃ reply, t.answer s c.caller.lookup = .ok reply ∧ reply.status.isSuccess = true ∧
    Json.parseList reply.body = .ok entries

/-- An operation comes to a request of its own: the listing gives an address for its
service, the address can be joined with its path, and its body can be written. -/
structure Composed (c : Client) (op : Operation) (t : Transport σ) (s : σ) (request : Request) :
    Prop where
  located : ∃ entries address, Listed c t s entries ∧
    Listing.select (Listing.descriptors entries) op.service.role c.caller = .ok address ∧
    Endpoint.join address op.path = .ok request.uri
  body : op.body = .ok request.body
  method : request.method = op.method
  headers : request.headers = op.headers c

/-- What an operation goes through, in this order. -/
inductive Stage where
  | locator
  | lookup
  | lookupVerdict
  | listing
  | choice
  | endpoint
  | body
  | answer
  | verdict
  | reading
deriving DecidableEq

/-- How many requests were sent when a stage is reached. -/
def Stage.requests : Stage → Nat
  | .locator => 0
  | .lookup | .lookupVerdict | .listing | .choice | .endpoint | .body => 1
  | .answer | .verdict | .reading => 2

/-- An operation passes every stage before this one and fails there. -/
inductive FailsAt (c : Client) (op : Operation) (t : Transport σ) (s : σ) :
    Stage → CallError → Prop
  | locator {e} : Endpoint.join c.caller.locator Endpoint.services = .error e →
      FailsAt c op t s .locator e
  | lookup {uri e} : Endpoint.join c.caller.locator Endpoint.services = .ok uri →
      t.answer s c.caller.lookup = .error e → FailsAt c op t s .lookup e
  | lookupVerdict {uri reply f} :
      Endpoint.join c.caller.locator Endpoint.services = .ok uri →
      t.answer s c.caller.lookup = .ok reply → reply.outcome = .failure f →
      FailsAt c op t s .lookupVerdict (f.toError c.caller)
  | listing {uri reply fault} :
      Endpoint.join c.caller.locator Endpoint.services = .ok uri →
      t.answer s c.caller.lookup = .ok reply → reply.status.isSuccess = true →
      Json.parseList reply.body = .error fault → FailsAt c op t s .listing (.json fault)
  | choice {entries e} : Listed c t s entries →
      Listing.select (Listing.descriptors entries) op.service.role c.caller = .error e →
      FailsAt c op t s .choice e
  | endpoint {entries address e} : Listed c t s entries →
      Listing.select (Listing.descriptors entries) op.service.role c.caller = .ok address →
      Endpoint.join address op.path = .error e → FailsAt c op t s .endpoint e
  | body {entries address uri e} : Listed c t s entries →
      Listing.select (Listing.descriptors entries) op.service.role c.caller = .ok address →
      Endpoint.join address op.path = .ok uri → op.body = .error e → FailsAt c op t s .body e
  | answer {request e} : Composed c op t s request →
      t.answer (t.after s [c.caller.lookup]) request = .error e → FailsAt c op t s .answer e
  | verdict {request reply f} : Composed c op t s request →
      t.answer (t.after s [c.caller.lookup]) request = .ok reply → reply.outcome = .failure f →
      FailsAt c op t s .verdict (f.toError c.caller)
  | reading {request reply e} : Composed c op t s request →
      t.answer (t.after s [c.caller.lookup]) request = .ok reply →
      reply.status.isSuccess = true → op.read reply.body = .error e →
      FailsAt c op t s .reading e

/-! ## The lookup -/

theorem Listing.choose_eq_ok {body : Bytes} {name address : String} {caller : Caller} :
    choose body name caller = .ok address ↔ ∃ entries, Json.parseList body = .ok entries ∧
      select (descriptors entries) name caller = .ok address := by
  unfold choose
  cases Json.parseList body with
  | error fault => simp [Except.mapError, error_bind]
  | ok entries => simp [Except.mapError, ok_bind]

theorem Listing.choose_eq_error {body : Bytes} {name : String} {caller : Caller} {e : CallError} :
    choose body name caller = .error e ↔
      (∃ fault, Json.parseList body = .error fault ∧ e = .json fault) ∨
        ∃ entries, Json.parseList body = .ok entries ∧
          select (descriptors entries) name caller = .error e := by
  unfold choose
  cases Json.parseList body with
  | error fault => simp [Except.mapError, error_bind, eq_comm]
  | ok entries => simp [Except.mapError, ok_bind]

variable {c : Client} {op : Operation} {t : Transport σ} {s : σ}

/-- A lookup finds what its service is given in the listing. -/
theorem resolve_eq_ok {name address : String} :
    ((c.resolve name).run t s).result = .ok address ↔ ∃ entries, Listed c t s entries ∧
      Listing.select (Listing.descriptors entries) name c.caller = .ok address := by
  unfold Client.resolve
  simp only [Step.result_resolve, bind_eq_ok, Reply.verdict_eq_ok, Listing.choose_eq_ok]
  constructor
  · rintro ⟨uri, huri, reply, hreply, _, ⟨hs, rfl⟩, entries, hentries, hchoice⟩
    exact ⟨entries, ⟨⟨uri, huri⟩, reply, hreply, hs, hentries⟩, hchoice⟩
  · rintro ⟨entries, ⟨⟨uri, huri⟩, reply, hreply, hs, hentries⟩, hchoice⟩
    exact ⟨uri, huri, reply, hreply, reply.body, ⟨hs, rfl⟩, entries, hentries, hchoice⟩

/-- A composed request is the one that the operation comes to. -/
theorem composed_iff {request : Request} :
    Composed c op t s request ↔ c.compose op t s = .ok request := by
  simp only [Client.compose, bind_eq_ok, resolve_eq_ok, Operation.request_eq_ok]
  constructor
  · rintro ⟨⟨entries, address, hlisted, hselect, hjoin⟩, hbody, hmethod, hheaders⟩
    exact ⟨address, ⟨entries, hlisted, hselect⟩, hjoin, hbody, hmethod, hheaders⟩
  · rintro ⟨address, ⟨entries, hlisted, hselect⟩, hjoin, hbody, hmethod, hheaders⟩
    exact ⟨⟨entries, address, hlisted, hselect, hjoin⟩, hbody, hmethod, hheaders⟩

theorem Operation.request_eq_error {address : String} {e : CallError} :
    op.request c address = .error e ↔ Endpoint.join address op.path = .error e ∨
      ∃ uri, Endpoint.join address op.path = .ok uri ∧ op.body = .error e := by
  simp only [Operation.request, bind_eq_error]
  constructor
  · rintro (hjoin | ⟨uri, huri, hbody | ⟨body, _, h⟩⟩)
    · exact .inl hjoin
    · exact .inr ⟨uri, huri, hbody⟩
    · cases h
  · rintro (hjoin | ⟨uri, huri, hbody⟩)
    · exact .inl hjoin
    · exact .inr ⟨uri, huri, .inl hbody⟩

/-! ## Failures -/

/-- A body fails to be written for JSON's sake only. -/
theorem Operation.exists_json_of_body {e : CallError} (h : op.body = .error e) :
    ∃ fault, e = .json fault := by
  cases op with
  | createSession payload =>
    cases payload with
    | value => cases h
    | unwritable => cases h; exact ⟨_, rfl⟩
  | _ => cases h

/-- JSON is all that can be wrong with a reply of success. -/
theorem Operation.exists_json_of_read {reply : Bytes} {e : CallError}
    (h : op.read reply = .error e) : ∃ fault, e = .json fault := by
  have hjson : ∀ {x : Except Json.Fault Json.Value},
      (x.map Product.value).mapError CallError.json = .error e → ∃ fault, e = .json fault := by
    intro x hx
    cases x <;> cases hx
    exact ⟨_, rfl⟩
  cases op with
  | deleteSession => cases h
  | getFile => cases h
  | createSession =>
    simp only [read] at h
    split at h
    · cases h
    · exact hjson h
  | _ => exact hjson h

/-- An operation comes to no request exactly if it fails at a stage before its own
request is sent. -/
theorem compose_eq_error {e : CallError} :
    c.compose op t s = .error e ↔ ∃ stage, FailsAt c op t s stage e ∧ stage.requests < 2 := by
  simp only [Client.compose, bind_eq_error, resolve_eq_ok, Operation.request_eq_error]
  unfold Client.resolve
  simp only [Step.result_resolve, bind_eq_error, Reply.verdict_eq_error, Reply.verdict_eq_ok,
    Listing.choose_eq_error]
  constructor
  · rintro ((hjoin | ⟨uri, hjoin, hanswer | ⟨reply, hanswer, ⟨f, hf, rfl⟩ |
      ⟨_, ⟨hs, rfl⟩, ⟨fault, hparse, rfl⟩ | ⟨entries, hparse, hselect⟩⟩⟩⟩) |
      ⟨address, ⟨entries, hlisted, hselect⟩, hjoin | ⟨uri, hjoin, hbody⟩⟩)
    · exact ⟨_, .locator hjoin, by decide⟩
    · exact ⟨_, .lookup hjoin hanswer, by decide⟩
    · exact ⟨_, .lookupVerdict hjoin hanswer hf, by decide⟩
    · exact ⟨_, .listing hjoin hanswer hs hparse, by decide⟩
    · exact ⟨_, .choice ⟨⟨uri, hjoin⟩, reply, hanswer, hs, hparse⟩ hselect, by decide⟩
    · exact ⟨_, .endpoint hlisted hselect hjoin, by decide⟩
    · exact ⟨_, .body hlisted hselect hjoin hbody, by decide⟩
  · rintro ⟨stage, h, hstage⟩
    cases h with
    | locator hjoin => exact .inl (.inl hjoin)
    | lookup hjoin hanswer => exact .inl (.inr ⟨_, hjoin, .inl hanswer⟩)
    | lookupVerdict hjoin hanswer hf =>
      exact .inl (.inr ⟨_, hjoin, .inr ⟨_, hanswer, .inl ⟨_, hf, rfl⟩⟩⟩)
    | listing hjoin hanswer hs hparse =>
      exact .inl (.inr ⟨_, hjoin, .inr ⟨_, hanswer, .inr ⟨_, ⟨hs, rfl⟩, .inl ⟨_, hparse, rfl⟩⟩⟩⟩)
    | choice hlisted hselect =>
      obtain ⟨⟨uri, hjoin⟩, reply, hanswer, hs, hparse⟩ := hlisted
      exact .inl (.inr ⟨_, hjoin, .inr ⟨_, hanswer,
        .inr ⟨_, ⟨hs, rfl⟩, .inr ⟨_, hparse, hselect⟩⟩⟩⟩)
    | endpoint hlisted hselect hjoin => exact .inr ⟨_, ⟨_, hlisted, hselect⟩, .inl hjoin⟩
    | body hlisted hselect hjoin hbody =>
      exact .inr ⟨_, ⟨_, hlisted, hselect⟩, .inr ⟨_, hjoin, hbody⟩⟩
    | answer => exact absurd hstage (by decide)
    | verdict => exact absurd hstage (by decide)
    | reading => exact absurd hstage (by decide)

/-- The result is an error exactly if some stage fails with it. -/
theorem result_perform_eq_error (h : op.asksNothing = false) {e : CallError} :
    ((c.perform op).run t s).result = .error e ↔ ∃ stage, FailsAt c op t s stage e := by
  simp only [Client.result_perform h, bind_eq_error, ← composed_iff, Reply.verdict_eq_error,
    Reply.verdict_eq_ok]
  constructor
  · rintro (hcompose | ⟨request, hcomposed, hanswer | ⟨reply, hanswer, ⟨f, hf, rfl⟩ |
      ⟨_, ⟨hs, rfl⟩, hread⟩⟩⟩)
    · obtain ⟨stage, hfails, _⟩ := compose_eq_error.mp hcompose
      exact ⟨stage, hfails⟩
    · exact ⟨_, .answer hcomposed hanswer⟩
    · exact ⟨_, .verdict hcomposed hanswer hf⟩
    · exact ⟨_, .reading hcomposed hanswer hs hread⟩
  · rintro ⟨stage, hfails⟩
    -- Of the stages after the own request was sent only three are left.
    by_cases hstage : stage.requests < 2
    · exact .inl (compose_eq_error.mpr ⟨stage, hfails, hstage⟩)
    · cases hfails with
      | answer hcomposed hanswer => exact .inr ⟨_, hcomposed, .inl hanswer⟩
      | verdict hcomposed hanswer hf =>
        exact .inr ⟨_, hcomposed, .inr ⟨_, hanswer, .inl ⟨_, hf, rfl⟩⟩⟩
      | reading hcomposed hanswer hs hread =>
        exact .inr ⟨_, hcomposed, .inr ⟨_, hanswer, .inr ⟨_, ⟨hs, rfl⟩, hread⟩⟩⟩
      | _ => exact absurd (by decide) hstage

/-- The result is a product exactly if both requests were answered with success and the
second reply could be read. -/
theorem result_perform_eq_ok (h : op.asksNothing = false) {product : Product} :
    ((c.perform op).run t s).result = .ok product ↔ ∃ request reply,
      Composed c op t s request ∧ t.answer (t.after s [c.caller.lookup]) request = .ok reply ∧
        reply.status.isSuccess = true ∧ op.read reply.body = .ok product := by
  simp only [Client.result_perform h, bind_eq_ok, ← composed_iff, Reply.verdict_eq_ok]
  constructor
  · rintro ⟨request, hcomposed, reply, hanswer, _, ⟨hs, rfl⟩, hread⟩
    exact ⟨request, reply, hcomposed, hanswer, hs, hread⟩
  · rintro ⟨request, reply, hcomposed, hanswer, hs, hread⟩
    exact ⟨request, hcomposed, reply, hanswer, reply.body, ⟨hs, rfl⟩, hread⟩

/-! ## Requests -/

/-- Nothing is sent if the locator's address is not in order. -/
theorem sent_of_join_error (h : op.asksNothing = false) {e : CallError}
    (hjoin : Endpoint.join c.caller.locator Endpoint.services = .error e) :
    ((c.perform op).run t s).sent = [] := by
  have hcompose : c.compose op t s = .error e :=
    compose_eq_error.mpr ⟨_, .locator hjoin, by decide⟩
  rw [Client.sent_perform h, hcompose, Client.resolve, Step.sent_resolve, hjoin]
  rfl

/-- Only the locator is asked if the operation comes to no request. -/
theorem sent_of_compose_error (h : op.asksNothing = false) {uri : String} {e : CallError}
    (hjoin : Endpoint.join c.caller.locator Endpoint.services = .ok uri)
    (hcompose : c.compose op t s = .error e) :
    ((c.perform op).run t s).sent = [c.caller.lookup] := by
  rw [Client.sent_perform h, hcompose, Client.resolve, Step.sent_resolve, hjoin]
  rfl

theorem sent_of_composed (h : op.asksNothing = false) {request : Request}
    (hcomposed : Composed c op t s request) :
    ((c.perform op).run t s).sent = [c.caller.lookup, request] := by
  obtain ⟨_, _, ⟨⟨uri, hjoin⟩, _⟩, _⟩ := hcomposed.located
  rw [Client.sent_perform h, composed_iff.mp hcomposed, Client.resolve, Step.sent_resolve, hjoin]
  rfl

/-- What was sent is one of three things. -/
theorem sent_perform_cases (h : op.asksNothing = false) :
    (∃ e, Endpoint.join c.caller.locator Endpoint.services = .error e ∧
      ((c.perform op).run t s).sent = []) ∨
    (∃ e, c.compose op t s = .error e ∧ ((c.perform op).run t s).sent = [c.caller.lookup]) ∨
    ∃ request, Composed c op t s request ∧
      ((c.perform op).run t s).sent = [c.caller.lookup, request] := by
  cases hjoin : Endpoint.join c.caller.locator Endpoint.services with
  | error e => exact .inl ⟨e, rfl, sent_of_join_error h hjoin⟩
  | ok uri =>
    cases hcompose : c.compose op t s with
    | error e => exact .inr (.inl ⟨e, rfl, sent_of_compose_error h hjoin hcompose⟩)
    | ok request =>
      have hcomposed := composed_iff.mpr hcompose
      exact .inr (.inr ⟨request, hcomposed, sent_of_composed h hcomposed⟩)

/-- A stage is reached when the requests before it have been sent. -/
theorem FailsAt.length_sent {stage : Stage} {e : CallError} (hfails : FailsAt c op t s stage e)
    (h : op.asksNothing = false) :
    ((c.perform op).run t s).sent.length = stage.requests := by
  -- A failure before the own request leaves nothing composed.
  have hearly : stage.requests < 2 → c.compose op t s = .error e := fun hstage =>
    compose_eq_error.mpr ⟨stage, hfails, hstage⟩
  cases hfails with
  | locator hjoin => rw [sent_of_join_error h hjoin]; rfl
  | lookup hjoin | lookupVerdict hjoin | listing hjoin =>
    rw [sent_of_compose_error h hjoin (hearly (by decide))]; rfl
  | choice hlisted | endpoint hlisted | body hlisted =>
    obtain ⟨uri, hjoin⟩ := hlisted.joined
    rw [sent_of_compose_error h hjoin (hearly (by decide))]; rfl
  | answer hcomposed | verdict hcomposed | reading hcomposed =>
    rw [sent_of_composed h hcomposed]; rfl

/-- What an operation sends and how it ends, over any transport: the requests are a prefix
of the lookup and the request composed from its reply, which is sent exactly when there is
one; a product needs both and a reply that can be read; an error is that of the first
stage that fails, with the requests before that stage sent. -/
theorem perform_passes_stages (c : Client) (op : Operation) (h : op.asksNothing = false)
    (t : Transport σ) (s : σ) :
    let run := (c.perform op).run t s
    (∃ request, run.sent <+: [c.caller.lookup, request]) ∧
    (∀ request, run.sent = [c.caller.lookup, request] ↔ Composed c op t s request) ∧
    (∀ product, run.result = .ok product ↔ ∃ request reply, Composed c op t s request ∧
      t.answer (t.after s [c.caller.lookup]) request = .ok reply ∧
      reply.status.isSuccess = true ∧ op.read reply.body = .ok product) ∧
    (∀ e, run.result = .error e ↔
      ∃ stage, FailsAt c op t s stage e ∧ run.sent.length = stage.requests) := by
  refine ⟨?_, fun request => ⟨fun hsent => ?_, sent_of_composed h⟩,
    fun product => result_perform_eq_ok h, fun e => ?_⟩
  · rcases sent_perform_cases (c := c) (t := t) (s := s) h with
      ⟨_, _, hsent⟩ | ⟨_, _, hsent⟩ | ⟨request, _, hsent⟩
    · exact ⟨c.caller.lookup, by rw [hsent]; exact List.nil_prefix⟩
    · exact ⟨c.caller.lookup, by rw [hsent]; exact List.prefix_append [_] [_]⟩
    · refine ⟨request, ?_⟩
      simp only [hsent, List.prefix_rfl]
  · rcases sent_perform_cases (c := c) (t := t) (s := s) h with
      ⟨_, _, hsent'⟩ | ⟨_, _, hsent'⟩ | ⟨request', hcomposed, hsent'⟩
    · rw [hsent'] at hsent
      cases hsent
    · rw [hsent'] at hsent
      cases hsent
    · rw [hsent'] at hsent
      cases hsent
      exact hcomposed
  · rw [result_perform_eq_error h]
    exact exists_congr fun stage =>
      ⟨fun hfails => ⟨hfails, hfails.length_sent h⟩, fun hfails => hfails.1⟩

/-- Both requests of an operation are sent, and the second is left without an answer. -/
theorem perform_passes_stages_getFile :
    let c : Client := .new (.internal "a:") (some "t")
    let op : Operation := .getFile "s" "d" 7
    let replies : List ScriptedReply :=
      [.reply 200 "" ∅ (Utf8.encode "[\x7b\"role\":\"file-broker\",\"uri\":\"b:\"\x7d]") none,
        .failure "closed"]
    let run := (c.perform op).run .scripted replies
    op.asksNothing = false ∧
      run.sent = [c.caller.lookup, ⟨.get, "b:/sessions/s/datasets/d", op.headers c, none⟩] ∧
      run.result = .error (.transport "b:/sessions/s/datasets/d" "closed") := by
  intro c op replies run
  have hparse : Json.parseList (Utf8.encode "[\x7b\"role\":\"file-broker\",\"uri\":\"b:\"\x7d]") =
      .ok [.object [("role", .string "file-broker"), ("uri", .string "b:")]] := by cbv
  have hlocator : Endpoint.join "a:" Endpoint.services = .ok "a:/services" := rfl
  have haddress : Endpoint.join "b:" (Endpoint.dataset "s" "d") = .ok "b:/sessions/s/datasets/d" :=
    rfl
  have hlisted : Listed c .scripted replies
      [.object [("role", .string "file-broker"), ("uri", .string "b:")]] :=
    ⟨⟨_, hlocator⟩, _, rfl, rfl, hparse⟩
  have hcomposed : Composed c op .scripted replies
      ⟨.get, "b:/sessions/s/datasets/d", op.headers c, none⟩ :=
    ⟨⟨_, "b:", hlisted, rfl, haddress⟩, rfl, rfl, rfl⟩
  obtain ⟨_, hsent, _, herror⟩ := perform_passes_stages c op rfl .scripted replies
  have htwo := (hsent _).mpr hcomposed
  refine ⟨rfl, htwo, (herror _).mpr ⟨.answer, .answer hcomposed rfl, ?_⟩⟩
  exact congrArg List.length htwo

end ServiceLocator
