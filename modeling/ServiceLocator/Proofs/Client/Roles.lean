import ServiceLocator.Proofs.Client.Stages
import ServiceLocator.Proofs.Text.Numeral
import ServiceLocator.Transport.Http

/-!
Roles. A caller's role decides which address of a service is used and how a failure status
is worded, and nothing else: where the locator gives one address to all, an external and an
internal caller send the same requests, get the same products and fail alike
(`Counterparts`), with the same status.
-/
namespace ServiceLocator

variable {σ : Type}

/-! ## Errors -/

/-- Whether an error stems from a failure status. -/
def CallError.fromStatus : CallError → Bool
  | .client _ | .server _ => true
  | _ => false

/-- A failure in one line, with the address that was asked. -/
def HttpError.line (e : HttpError) (uri : String) : String :=
  Numeral.text e.statusCode.toNat ++ " - " ++ e.restCode ++ " (" ++ e.message ++ ") " ++ uri

/-- The status can be read back from the line, whatever the rest of it contains. -/
theorem HttpError.status?_line (e : HttpError) (uri : String) :
    (Presented.message (e.line uri)).status? = some e.statusCode := by
  have hline : (e.line uri).toList = Numeral.decimal e.statusCode.toNat ++ ' ' ::
      ("- " ++ e.restCode ++ " (" ++ e.message ++ ") " ++ uri).toList := by
    simp [line, Numeral.text]
  have hlt : e.statusCode.toNat < 65536 := e.statusCode.toNat_lt
  have hspace : Numeral.decimalDigit? ' ' = none := by decide
  show readStatus? ((e.line uri).toList.takeWhile (· != ' ')) = some e.statusCode
  rw [hline, Numeral.takeWhile_decimal _ hspace, readStatus?, Numeral.unsigned?_decimal]
  simp [hlt]

/-- What an external and an internal caller are told. The same, unless the error stems from
the status of a reply: then one gets a line of text and the other its parts. -/
inductive Counterparts (Replied : Reply → Prop) : CallError → CallError → Prop
  | same {e} : e.fromStatus = false → Counterparts Replied e e
  | client {reply e} : Replied reply →
      reply.outcome =
        .failure ⟨.client, e.statusCode, e.restCode, e.message, reply.requestUri⟩ →
      Counterparts Replied (.client (.message (e.line reply.requestUri))) (.client (.http e))
  | server {reply e} : Replied reply →
      reply.outcome =
        .failure ⟨.server, e.statusCode, e.restCode, e.message, reply.requestUri⟩ →
      Counterparts Replied (.server (.message (e.line reply.requestUri))) (.server (.http e))

namespace Counterparts

variable {Replied : Reply → Prop} {e e' : CallError}

theorem status?_eq (h : Counterparts Replied e e') : e.status? = e'.status? := by
  cases h with
  | same => rfl
  | client => exact HttpError.status?_line _ _
  | server => exact HttpError.status?_line _ _

theorem isTransport_eq (h : Counterparts Replied e e') : e.isTransport = e'.isTransport := by
  cases h <;> rfl

/-- A failure status is told in both forms. -/
theorem of_failure {reply : Reply} {f : Failure} (hreplied : Replied reply)
    (hf : reply.outcome = .failure f) (locator : String) :
    Counterparts Replied (f.toError (.external locator)) (f.toError (.internal locator)) := by
  obtain ⟨kind, status, statusText, message, uri⟩ := f
  -- A failure keeps the address of its reply, also where it drops everything else.
  have huri : uri = reply.requestUri := by
    unfold Reply.outcome at hf
    split at hf
    · cases hf
    · split at hf <;> cases hf <;> rfl
  subst huri
  cases kind with
  | client => exact .client (e := ⟨statusText, status, message⟩) hreplied hf
  | server => exact .server (e := ⟨statusText, status, message⟩) hreplied hf

end Counterparts

/-! ## Errors that stem from no status -/

theorem Endpoint.fromStatus_join {base path : String} {e : CallError}
    (h : join base path = .error e) : e.fromStatus = false := by
  unfold join at h
  split at h
  · cases h
  · cases h
    rfl

theorem Listing.fromStatus_select {services : List Descriptor} {name : String} {caller : Caller}
    {e : CallError} (h : select services name caller = .error e) : e.fromStatus = false := by
  unfold select at h
  split at h
  · cases h
  · cases h
    rfl

theorem Operation.fromStatus_body {op : Operation} {e : CallError} (h : op.body = .error e) :
    e.fromStatus = false := by
  obtain ⟨fault, rfl⟩ := exists_json_of_body h
  rfl

theorem Operation.fromStatus_read {op : Operation} {reply : Bytes} {e : CallError}
    (h : op.read reply = .error e) : e.fromStatus = false := by
  obtain ⟨fault, rfl⟩ := exists_json_of_read h
  rfl

theorem Field.Fault.fromStatus_toError (fault : Field.Fault) :
    fault.toError.fromStatus = false := by
  cases fault <;> rfl

/-- The transports that the library provides. -/
inductive Transport.Provided : {σ : Type} → Transport σ → Prop
  | scripted : Provided scripted
  | http {σ : Type} (settings : HttpSettings) (peer : Peer σ) : Provided (http settings peer)

/-- No transport takes a reply for a failure; that is left to the verdict. -/
theorem Transport.Provided.fromStatus_answer {t : Transport σ} (ht : t.Provided) {s : σ}
    {request : Request} {e : CallError} (h : t.answer s request = .error e) :
    e.fromStatus = false := by
  cases ht with
  | scripted =>
    cases s with
    | nil => cases h; rfl
    | cons reply rest =>
      cases reply with
      | reply => cases h
      | failure => cases h; rfl
  | http settings peer =>
    unfold answer Transport.http at h
    simp only at h
    split at h
    · cases h; rfl
    · split at h
      · cases h; exact Field.Fault.fromStatus_toError _
      · simp only [sendComposed] at h
        split at h
        · simp only [PeerAnswer.toReply] at h
          split at h <;> cases h <;> rfl
        · cases h; rfl

/-! ## Clients of both roles -/

/-- Clients with one locator and one token. Their roles may differ. -/
structure Client.Twins (c c' : Client) : Prop where
  locator : c.caller.locator = c'.caller.locator
  token : c.identity.token = c'.identity.token

theorem Client.Twins.of_roles (locator : String) (token : Option String) :
    Twins (.new (.external locator) token) (.new (.internal locator) token) := ⟨rfl, rfl⟩

theorem Client.Twins.symm {c c' : Client} (h : c.Twins c') : c'.Twins c :=
  ⟨h.locator.symm, h.token.symm⟩

/-- Whatever the locator lists has one address for all. -/
def OneAddress (c : Client) (t : Transport σ) (s : σ) : Prop :=
  ∀ entries, Listed c t s entries → ∀ d ∈ Listing.descriptors entries, d.uri = d.publicUri

/-- A descriptor that gives one address to all. -/
theorem Descriptor.addressFor_eq {d : Descriptor} (h : d.uri = d.publicUri)
    (caller caller' : Caller) : d.addressFor caller = d.addressFor caller' := by
  unfold addressFor
  rw [h, ite_self, ite_self]

theorem Listing.select_eq {services : List Descriptor}
    (h : ∀ d ∈ services, d.uri = d.publicUri) (name : String) (caller caller' : Caller) :
    select services name caller = select services name caller' := by
  unfold select
  cases hfind : services.find? (·.role == name) with
  | none => rfl
  | some d =>
    have hd : d.uri = d.publicUri := h d (List.mem_of_find?_eq_some hfind)
    simp only [Option.bind_some, d.addressFor_eq hd caller caller']

namespace Client.Twins

variable {c c' : Client} {op : Operation} {t : Transport σ} {s : σ}

/-- Twins ask the locator in the same way. -/
theorem lookup (h : c.Twins c') : c.caller.lookup = c'.caller.lookup := by
  unfold Caller.lookup
  rw [h.locator]

theorem listed (h : c.Twins c') {entries : List Json.Value} (hlisted : Listed c t s entries) :
    Listed c' t s entries := by
  obtain ⟨hjoined, hanswered⟩ := hlisted
  rw [h.locator] at hjoined
  rw [h.lookup] at hanswered
  exact ⟨hjoined, hanswered⟩

theorem oneAddress (h : c.Twins c') (hlisting : OneAddress c t s) : OneAddress c' t s :=
  fun entries hlisted => hlisting entries (h.symm.listed hlisted)

/-- Twins compose the same request, if the listing gives one address to all. -/
theorem composed (h : c.Twins c') (hlisting : OneAddress c t s) {request : Request}
    (hcomposed : Composed c op t s request) : Composed c' op t s request := by
  obtain ⟨⟨entries, address, hlisted, hselect, hjoin⟩, hbody, hmethod, hheaders⟩ := hcomposed
  rw [Listing.select_eq (hlisting entries hlisted) _ _ c'.caller] at hselect
  rw [Operation.headers_of_token h.token] at hheaders
  exact ⟨⟨entries, address, h.listed hlisted, hselect, hjoin⟩, hbody, hmethod, hheaders⟩

/-- Twins send the same, if they compose the same request. -/
theorem sent_eq (h : c.Twins c') (hasks : op.asksNothing = false)
    (hcomposed : ∀ request, Composed c op t s request ↔ Composed c' op t s request) :
    ((c.perform op).run t s).sent = ((c'.perform op).run t s).sent := by
  cases hc : c.compose op t s with
  | ok request =>
    have hfirst := composed_iff.mpr hc
    rw [sent_of_composed hasks hfirst, sent_of_composed hasks ((hcomposed request).mp hfirst),
      h.lookup]
  | error e =>
    -- The errors may differ in wording, but neither client goes on.
    cases hc' : c'.compose op t s with
    | ok request =>
      have hfirst := (hcomposed request).mpr (composed_iff.mpr hc')
      rw [composed_iff.mp hfirst] at hc
      cases hc
    | error e' =>
      cases hjoin : Endpoint.join c.caller.locator Endpoint.services with
      | error e'' =>
        have hjoin' := h.locator ▸ hjoin
        rw [sent_of_join_error hasks hjoin, sent_of_join_error hasks hjoin']
      | ok uri =>
        have hjoin' := h.locator ▸ hjoin
        rw [sent_of_compose_error hasks hjoin hc, sent_of_compose_error hasks hjoin' hc', h.lookup]

end Client.Twins

/-! ## Operations -/

/-- A reply answered the last of the requests. -/
def Transport.RepliedLast (t : Transport σ) (s : σ) (requests : List Request) (reply : Reply) :
    Prop :=
  ∃ before request, requests = before ++ [request] ∧ t.answer (t.after s before) request = .ok reply

/-- The last request stays the last one after others. -/
theorem Transport.RepliedLast.after_requests {t : Transport σ} {s s' : σ}
    {first second : List Request} {reply : Reply} (h : t.RepliedLast s' second reply)
    (hs : s' = t.after s first) : t.RepliedLast s (first ++ second) reply := by
  obtain ⟨before, request, rfl, hanswer⟩ := h
  rw [hs, ← after_append] at hanswer
  exact ⟨first ++ before, request, (List.append_assoc ..).symm, hanswer⟩

section Operations

variable {locator : String} {token : Option String} {op : Operation} {t : Transport σ} {s : σ}

/-- Where the operation of an external caller fails, that of an internal caller fails too,
with the counterpart of the error. -/
theorem FailsAt.counterpart (hasks : op.asksNothing = false) (ht : t.Provided)
    (hlisting : OneAddress (.new (.external locator) token) t s) {stage : Stage} {e : CallError}
    (hfails : FailsAt (.new (.external locator) token) op t s stage e) :
    ∃ e', FailsAt (.new (.internal locator) token) op t s stage e' ∧
      Counterparts (t.RepliedLast s
        (((Client.new (.external locator) token).perform op).run t s).sent) e e' := by
  have htwins : Client.Twins _ _ := .of_roles locator token
  have hselect : ∀ {entries}, Listed (.new (.external locator) token) t s entries →
      Listing.select (Listing.descriptors entries) op.service.role (.external locator) =
        Listing.select (Listing.descriptors entries) op.service.role (.internal locator) :=
    fun hlisted => Listing.select_eq (hlisting _ hlisted) _ _ _
  -- Only the two verdicts are worded for the caller; their replies are found in the run.
  cases hfails with
  | locator hjoin => exact ⟨_, .locator hjoin, .same (Endpoint.fromStatus_join hjoin)⟩
  | lookup hjoin hanswer => exact ⟨_, .lookup hjoin hanswer, .same (ht.fromStatus_answer hanswer)⟩
  | @lookupVerdict uri reply f hjoin hanswer hf =>
    have hcompose : Client.compose _ op t s = .error (f.toError (.external locator)) :=
      compose_eq_error.mpr ⟨_, .lookupVerdict hjoin hanswer hf, by decide⟩
    have hsent := sent_of_compose_error hasks hjoin hcompose
    exact ⟨_, .lookupVerdict hjoin hanswer hf, .of_failure ⟨[], _, hsent, hanswer⟩ hf locator⟩
  | listing hjoin hanswer hs hparse => exact ⟨_, .listing hjoin hanswer hs hparse, .same rfl⟩
  | choice hlisted hchoice =>
    have hsame := Listing.fromStatus_select hchoice
    exact ⟨_, .choice (htwins.listed hlisted) ((hselect hlisted).symm.trans hchoice), .same hsame⟩
  | endpoint hlisted hchoice hjoin =>
    have hchoice' := (hselect hlisted).symm.trans hchoice
    exact ⟨_, .endpoint (htwins.listed hlisted) hchoice' hjoin,
      .same (Endpoint.fromStatus_join hjoin)⟩
  | body hlisted hchoice hjoin hbody =>
    have hchoice' := (hselect hlisted).symm.trans hchoice
    exact ⟨_, .body (htwins.listed hlisted) hchoice' hjoin hbody,
      .same (Operation.fromStatus_body hbody)⟩
  | answer hcomposed hanswer =>
    exact ⟨_, .answer (htwins.composed hlisting hcomposed) hanswer,
      .same (ht.fromStatus_answer hanswer)⟩
  | verdict hcomposed hanswer hf =>
    have hsent := sent_of_composed hasks hcomposed
    exact ⟨_, .verdict (htwins.composed hlisting hcomposed) hanswer hf,
      .of_failure ⟨[_], _, hsent, hanswer⟩ hf locator⟩
  | reading hcomposed hanswer hs hread =>
    exact ⟨_, .reading (htwins.composed hlisting hcomposed) hanswer hs hread,
      .same (Operation.fromStatus_read hread)⟩

end Operations

/-- Roles differ in addresses and wording only. If whatever the locator lists has one
address for all, an operation sends the same for an external and an internal caller, has
the same product for both or fails for both, and its errors are counterparts: the same
wherever they stem from no status, and with the same status where they do. -/
theorem roles_differ_in_wording (locator : String) (token : Option String) (op : Operation)
    {t : Transport σ} (ht : t.Provided) (s : σ)
    (hlisting : OneAddress (.new (.external locator) token) t s) :
    let external := ((Client.new (.external locator) token).perform op).run t s
    let internal := ((Client.new (.internal locator) token).perform op).run t s
    external.sent = internal.sent ∧
    (∀ product, external.result = .ok product ↔ internal.result = .ok product) ∧
    ∀ e e', external.result = .error e → internal.result = .error e' →
      Counterparts (t.RepliedLast s external.sent) e e' ∧ e.status? = e'.status? ∧
        e.isTransport = e'.isTransport := by
  intro external internal
  have htwins : Client.Twins _ _ := .of_roles locator token
  cases hasks : op.asksNothing with
  | true =>
    have hboth : external = internal := by
      simp only [external, internal, Client.perform_of_asksNothing hasks]
    have hok : external.result = .ok (.bytes []) := by
      simp only [external, Client.perform_of_asksNothing hasks]
      rfl
    refine ⟨by rw [hboth], fun _ => by rw [hboth], fun e _ he => ?_⟩
    rw [hok] at he
    cases he
  | false =>
    have hcomposed : ∀ request, Composed (.new (.external locator) token) op t s request ↔
        Composed (.new (.internal locator) token) op t s request :=
      fun request =>
        ⟨htwins.composed hlisting, htwins.symm.composed (htwins.oneAddress hlisting)⟩
    refine ⟨htwins.sent_eq hasks hcomposed, fun product => ?_, fun e e' he he' => ?_⟩
    · rw [result_perform_eq_ok hasks, result_perform_eq_ok hasks, ← htwins.lookup]
      simp only [hcomposed]
    · obtain ⟨stage, hfails⟩ := (result_perform_eq_error hasks).mp he
      obtain ⟨e'', hfails', hcounterparts⟩ := hfails.counterpart hasks ht hlisting
      have he'' : internal.result = .error e'' := (result_perform_eq_error hasks).mpr ⟨_, hfails'⟩
      have heq : e' = e'' := by
        rw [he'] at he''
        cases he''
        rfl
      subst heq
      exact ⟨hcounterparts, hcounterparts.status?_eq, hcounterparts.isTransport_eq⟩

/-- A session that is not there, as told to both roles. -/
theorem roles_differ_in_wording_notFound :
    let replies : List ScriptedReply :=
      [.reply 200 "" ∅ (Utf8.encode "[[\"session-db\",\"b:\",\"b:\"]]") none,
        .reply 404 "Not Found" ∅ (Utf8.encode "gone") none]
    let op : Operation := .getSession "7"
    let external := ((Client.new (.external "a:") none).perform op).run .scripted replies
    let internal := ((Client.new (.internal "a:") none).perform op).run .scripted replies
    external.sent = internal.sent ∧
      internal.result = .error (.client (.http ⟨"Not Found", 404, "gone"⟩)) ∧
      ∃ e, external.result = .error e ∧ e.status? = some 404 := by
  intro replies op external internal
  have hparse : Json.parseList (Utf8.encode "[[\"session-db\",\"b:\",\"b:\"]]") =
      .ok [.array [.string "session-db", .string "b:", .string "b:"]] := by cbv
  have hlocator : Endpoint.join "a:" Endpoint.services = .ok "a:/services" := rfl
  have haddress : Endpoint.join "b:" (Endpoint.session "7") = .ok "b:/sessions/7" := rfl
  have hgone : Utf8.decodeLossy (Utf8.encode "gone") = "gone" := by cbv
  have hlisted : Listed (.new (.internal "a:") none) .scripted replies
      [.array [.string "session-db", .string "b:", .string "b:"]] :=
    ⟨⟨_, hlocator⟩, _, rfl, rfl, hparse⟩
  have hlisting : OneAddress (.new (.external "a:") none) .scripted replies := by
    rintro entries ⟨_, reply, hreply, _, hentries⟩
    cases hreply
    rw [hparse] at hentries
    cases hentries
    decide
  have hfails : FailsAt (.new (.internal "a:") none) op .scripted replies .verdict
      (.client (.http ⟨"Not Found", 404, "gone"⟩)) := by
    have hcomposed : Composed (.new (.internal "a:") none) op .scripted replies
        ⟨.get, "b:/sessions/7", ∅, none⟩ :=
      ⟨⟨_, "b:", hlisted, rfl, haddress⟩, rfl, rfl, rfl⟩
    have hverdict := FailsAt.verdict hcomposed rfl rfl
    rw [Reply.text, hgone] at hverdict
    exact hverdict
  have hinternal : internal.result = .error (.client (.http ⟨"Not Found", 404, "gone"⟩)) :=
    (result_perform_eq_error rfl).mpr ⟨_, hfails⟩
  obtain ⟨hsent, hproduct, hcounterparts⟩ :=
    roles_differ_in_wording "a:" none op .scripted replies hlisting
  refine ⟨hsent, hinternal, ?_⟩
  cases hexternal : external.result with
  | ok product =>
    have hok : internal.result = .ok product := (hproduct product).mp hexternal
    rw [hinternal] at hok
    cases hok
  | error e => exact ⟨e, rfl, (hcounterparts e _ hexternal hinternal).2.1⟩

end ServiceLocator
