import ServiceLocator.Proofs.Client.Statuses
import ServiceLocator.Proofs.Locator.Listing

/-!
What an action logs. There is one event for each reply, in their order (`Step.Built.verdicts`). An
error is logged only as the last event, with what a server error does not tell
(`Step.Built.alarms`). What is noted of a listing stands between the reply that lists it and
everything else that follows (`Client.logs_act`).
-/
namespace ServiceLocator

variable {σ α β ρ : Type}

/-! ## Kinds of events -/

namespace Event

/-- The event of a verdict on a reply. -/
def isVerdict (e : Event) : Bool := ["response", "client error", "server error"].contains e.message

/-- The event of an entry that is skipped. -/
def isSkip (e : Event) : Bool := e.message == "skipping locator entry"

/-- The event of a service that is found. -/
def isFound (e : Event) : Bool := e.message == "resolved service"

/-- An event that only a listing gives rise to. -/
def isNote (e : Event) : Bool := e.isSkip || e.isFound

end Event

theorem Reply.isVerdict_event (r : Reply) : r.event.isVerdict = true := by
  unfold event
  dsimp only
  split_ifs <;> rfl

theorem Reply.isNote_event (r : Reply) : r.event.isNote = false := by
  unfold event
  dsimp only
  split_ifs <;> rfl

namespace Listing.Note

variable {e : Event}

theorem isVerdict (h : Note e) : e.isVerdict = false := by
  cases h <;> rfl

theorem level (h : Note e) : e.level ≠ .error := by
  cases h <;> exact nofun

end Listing.Note

namespace Transport

/-- What a transport logs when it gets a request. -/
def logged (t : Transport σ) (s : σ) (request : Request) : List Event :=
  (t.deliver request s).1.events

/-- A transport whose own events are not taken for those of a client. -/
def Discreet (t : Transport σ) : Prop :=
  ∀ s request, ∀ e ∈ t.logged s request,
    e.level ≠ .error ∧ e.isVerdict = false ∧ e.isNote = false

/-- All that a provided transport logs of a request is that it is about to be sent. -/
theorem Provided.eq_event {t : Transport σ} (h : t.Provided) {s : σ} {request : Request}
    {e : Event} (he : e ∈ t.logged s request) : e = request.event := by
  cases h with
  | scripted => cases s <;> cases he
  | http settings peer =>
    have hown : ∀ e ∈ if settings.logging then [request.event] else [], e = request.event := by
      intro e he
      split at he
      · exact List.mem_singleton.mp he
      · cases he
    unfold logged Transport.http at he
    dsimp only at he
    split at he
    · cases he
    · split at he <;> exact hown e he

theorem Provided.discreet {t : Transport σ} (h : t.Provided) : t.Discreet := by
  intro s request e he
  cases h.eq_event he
  exact ⟨nofun, rfl, rfl⟩

/-- The replies to requests, one after the other. A request without one is passed over. -/
def replies (t : Transport σ) : σ → List Request → List Reply
  | _, [] => []
  | s, request :: rest =>
    (t.answer s request).toOption.toList ++ t.replies (t.deliver request s).2 rest

theorem replies_append (t : Transport σ) (s : σ) (first second : List Request) :
    t.replies s (first ++ second) = t.replies s first ++ t.replies (t.after s first) second := by
  induction first generalizing s with
  | nil => rfl
  | cons request rest ih =>
    rw [List.cons_append, replies, replies, ih, List.append_assoc]
    rfl

end Transport

/-! ## Verdicts -/

namespace Step

variable {caller : Caller} {Noted : Event → Prop} {step : Step σ α} {t : Transport σ}

/-- A call logs what its transport logs, and the verdict if there is a reply. -/
theorem events_call (caller : Caller) (request : Request) (t : Transport σ) (s : σ) :
    ((call caller request).run t s).events =
      t.logged s request ++ (t.answer s request).toOption.toList.map Reply.event := by
  rw [run_call]
  cases h : t.answer s request with
  | error e =>
    have hsend : ((send request).run t s).result = .error e := h
    rw [Run.andThen_error hsend]
    exact (List.append_nil _).symm
  | ok reply =>
    have hsend : ((send request).run t s).result = .ok reply := h
    rw [Run.andThen_ok hsend]
    rfl

/-- What holds of all that a transport logs, of verdicts and of what is noted, holds of every event
of a run. -/
theorem Built.forall_event {P : Event → Prop} (h : step.Built caller Noted)
    (ht : ∀ s request, ∀ e ∈ t.logged s request, P e) (hreply : ∀ reply : Reply, P reply.event)
    (hnoted : ∀ e, Noted e → P e) (s : σ) : ∀ e ∈ (step.run t s).events, P e := by
  induction h generalizing s with
  | ofExcept => exact nofun
  | log hevents => exact fun e he => hnoted e (hevents e he)
  | call request =>
    intro e he
    rw [events_call] at he
    rcases List.mem_append.mp he with he | he
    · exact ht s request e he
    · obtain ⟨reply, -, rfl⟩ := List.mem_map.mp he
      exact hreply reply
  | @bind _ _ step next _ _ ih ihnext =>
    rw [run_bind]
    cases hr : (step.run t s).result with
    | error e =>
      rw [Run.andThen_error hr]
      exact ih s
    | ok a =>
      rw [Run.andThen_ok hr]
      exact fun e he => (List.mem_append.mp he).elim (ih s e) (ihnext a _ e)

/-- The verdicts of a run are those on its replies. -/
theorem Built.verdicts (h : step.Built caller Noted) (ht : t.Discreet)
    (hnoted : ∀ e, Noted e → e.isVerdict = false) (s : σ) :
    (step.run t s).events.filter Event.isVerdict =
      (t.replies s (step.run t s).sent).map Reply.event := by
  induction h generalizing s with
  | ofExcept => rfl
  | @log events hevents =>
    show events.filter Event.isVerdict = []
    rw [List.filter_eq_nil_iff]
    exact fun e he => Bool.eq_false_iff.mp (hnoted e (hevents e he))
  | call request =>
    have hown : (t.logged s request).filter Event.isVerdict = [] :=
      List.filter_eq_nil_iff.mpr fun e he => Bool.eq_false_iff.mp (ht s request e he).2.1
    rw [events_call, sent_call, List.filter_append, hown, List.nil_append, Transport.replies,
      Transport.replies, List.append_nil, List.filter_eq_self]
    intro e he
    obtain ⟨reply, -, rfl⟩ := List.mem_map.mp he
    exact reply.isVerdict_event
  | @bind _ _ step next hstep _ ih ihnext =>
    rw [run_bind]
    cases hr : (step.run t s).result with
    | error e =>
      rw [Run.andThen_error hr]
      exact ih s
    | ok a =>
      -- The second part is answered where the first one left the transport.
      rw [Run.andThen_ok hr, List.filter_append, ih, ihnext, hstep.sequential t s,
        Transport.replies_append, List.map_append]

end Step

/-! ## Origins -/

/-- Where the library's own events originate. -/
def Event.ownOrigins : List String :=
  ["locator_rest_client::client::transport", "locator_rest_client::client::classify",
    Listing.origin]

/-- An event of the library's own. It is for debugging if it is no error. -/
structure Event.IsOwn (e : Event) : Prop where
  origin : e.origin ∈ ownOrigins
  level : e.level = .debug ∨ e.level = .error

theorem Request.isOwn_event (r : Request) : r.event.IsOwn := ⟨.head _, .inl rfl⟩

theorem Reply.isOwn_event (r : Reply) : r.event.IsOwn := by
  unfold event
  dsimp only
  split_ifs
  · exact ⟨.tail _ (.head _), .inl rfl⟩
  · exact ⟨.tail _ (.head _), .inl rfl⟩
  · exact ⟨.tail _ (.head _), .inr rfl⟩

theorem Listing.Note.isOwn {e : Event} (h : Note e) : e.IsOwn := by
  cases h <;> exact ⟨.tail _ (.tail _ (.head _)), .inl rfl⟩

/-- Over a provided transport all events are the library's own. -/
theorem Step.Built.isOwn {caller : Caller} {step : Step σ α} {t : Transport σ}
    (h : step.Built caller Listing.Note) (ht : t.Provided) (s : σ) :
    ∀ e ∈ (step.run t s).events, e.IsOwn :=
  h.forall_event (fun _ request _ he => ht.eq_event he ▸ request.isOwn_event) Reply.isOwn_event
    (fun _ => Listing.Note.isOwn) s

/-! ## Alarms -/

/-- The event of a reply that its caller is told nothing of. -/
def Reply.alarm (r : Reply) : Event :=
  ⟨.error, "locator_rest_client::client::classify", "server error",
    [("status", .number r.status.toNat), ("status_text", .plain r.statusText),
      ("uri", .plain r.requestUri), ("body", .plain (Utf8.decodeLossy r.body))]⟩

/-- A reply is logged as an error exactly if it is told as a server error. -/
theorem Reply.alarm_cases (r : Reply) (caller : Caller) :
    (r.event = r.alarm ∧ ∃ shown, r.verdict caller = .error (.server shown)) ∨
      (r.event.level ≠ .error ∧ ∀ shown, r.verdict caller ≠ .error (.server shown)) := by
  unfold verdict outcome event
  dsimp only
  split_ifs
  · exact .inr ⟨nofun, nofun⟩
  · exact .inr ⟨nofun, nofun⟩
  · exact .inl ⟨rfl, _, rfl⟩

/-- A run logs no error and does not end in a server error, or it ends in one, and the last reply
is what it logs as an error, at the end. -/
inductive Alarmed (t : Transport σ) (s : σ) (run : Run σ α) : Prop
  | quiet : (∀ e ∈ run.events, e.level ≠ .error) →
      (∀ shown, run.result ≠ .error (.server shown)) → Alarmed t s run
  | raised {shown before reply} : run.result = .error (.server shown) →
      run.events = before ++ [reply.alarm] → (∀ e ∈ before, e.level ≠ .error) →
      t.RepliedLast s run.sent reply → Alarmed t s run

namespace Alarmed

variable {t : Transport σ} {s : σ} {run : Run σ α}

theorem iff (h : Alarmed t s run) :
    (∃ e ∈ run.events, e.level = .error) ↔ ∃ shown, run.result = .error (.server shown) := by
  cases h with
  | quiet hquiet hresult =>
    refine iff_of_false ?_ (not_exists.mpr hresult)
    rintro ⟨e, he, hlevel⟩
    exact hquiet e he hlevel
  | @raised shown before reply hresult hevents =>
    refine iff_of_true ⟨reply.alarm, ?_, rfl⟩ ⟨shown, hresult⟩
    rw [hevents]
    exact List.mem_append_right before List.mem_cons_self

theorem of_server (h : Alarmed t s run) {shown : Presented}
    (hresult : run.result = .error (.server shown)) :
    ∃ before reply, t.RepliedLast s run.sent reply ∧ run.events = before ++ [reply.alarm] ∧
      ∀ e ∈ before, e.level ≠ .error := by
  cases h with
  | quiet _ hquiet => exact absurd hresult (hquiet shown)
  | raised _ hevents hbefore hreplied => exact ⟨_, _, hreplied, hevents, hbefore⟩

end Alarmed

namespace Step

variable {caller : Caller} {Noted : Event → Prop} {step : Step σ α} {t : Transport σ}

theorem alarmed_call (ht : t.Discreet) (himpartial : t.Impartial) (caller : Caller)
    (request : Request) (s : σ) : Alarmed t s ((call caller request).run t s) := by
  have hown : ∀ e ∈ t.logged s request, e.level ≠ .error := fun e he => (ht s request e he).1
  have hevents := events_call caller request t s
  have hresult := result_call caller request t s
  cases hanswer : t.answer s request with
  | error e =>
    rw [hanswer] at hevents hresult
    refine .quiet ?_ fun shown => ?_
    · rw [hevents]
      exact (List.append_nil (t.logged s request)).symm ▸ hown
    · rw [hresult]
      rintro ⟨⟩
      cases himpartial s request _ hanswer
  | ok reply =>
    rw [hanswer] at hevents hresult
    have hresult : ((call caller request).run t s).result = reply.verdict caller := hresult
    rcases reply.alarm_cases caller with ⟨halarm, shown, hverdict⟩ | ⟨hlevel, hverdict⟩
    · refine .raised (hresult.trans hverdict) ?_ hown ⟨[], request, sent_call _ _ t s, hanswer⟩
      rw [hevents, ← halarm]
      rfl
    · refine .quiet ?_ fun shown => hresult ▸ hverdict shown
      rw [hevents]
      rintro e he
      rcases List.mem_append.mp he with he | he
      · exact hown e he
      · cases List.mem_singleton.mp he
        exact hlevel

/-- If the first part goes well it raises no alarm, and the second part is what matters. -/
theorem alarmed_bind {next : α → Step σ β} (hseq : step.Sequential) {s : σ}
    (h : Alarmed t s (step.run t s))
    (hnext : ∀ a s', Alarmed t s' ((next a).run t s')) : Alarmed t s ((step >>= next).run t s) := by
  rw [run_bind]
  cases hr : (step.run t s).result with
  | error e =>
    rw [Run.andThen_error hr]
    cases h with
    | quiet hquiet hresult =>
      exact .quiet hquiet fun shown h => hresult shown (hr.trans (by cases h; rfl))
    | raised hresult hevents hbefore hreplied =>
      exact .raised (by rw [hresult] at hr; cases hr; rfl) hevents hbefore hreplied
  | ok a =>
    rw [Run.andThen_ok hr]
    cases h with
    | raised hresult => rw [hr] at hresult; cases hresult
    | quiet hquiet =>
      cases hnext a (step.run t s).state with
      | quiet hlater hresult =>
        refine .quiet (fun e he => ?_) hresult
        exact (List.mem_append.mp he).elim (hquiet e) (hlater e)
      | @raised shown before reply hresult hevents hbefore hreplied =>
        have hsplit : (step.run t s).events ++ ((next a).run t (step.run t s).state).events =
            ((step.run t s).events ++ before) ++ [reply.alarm] := by
          rw [hevents, List.append_assoc]
        refine .raised hresult hsplit (fun e he => ?_) (hreplied.after_requests (hseq t s))
        exact (List.mem_append.mp he).elim (hquiet e) (hbefore e)

theorem Built.alarms (h : step.Built caller Noted) (ht : t.Discreet) (himpartial : t.Impartial)
    (hnoted : ∀ e, Noted e → e.level ≠ .error) (s : σ) : Alarmed t s (step.run t s) := by
  induction h generalizing s with
  | ofExcept hr =>
    refine .quiet nofun fun shown h => ?_
    cases hr _ h
  | log hevents => exact .quiet (fun e he => hnoted e (hevents e he)) nofun
  | call request => exact alarmed_call ht himpartial caller request s
  | bind hstep _ ih ihnext => exact alarmed_bind hstep.sequential (ih s) ihnext

/-- Only what is noted of a listing looks like that. -/
theorem Built.notes (h : step.Built caller Noted) (ht : t.Discreet) (s : σ) :
    ∀ e ∈ (step.run t s).events, e.isNote = true → Noted e := by
  refine h.forall_event (P := fun e => e.isNote = true → Noted e)
    (fun s request e he hnote => ?_) (fun reply hnote => ?_) (fun _ hnoted _ => hnoted) s
  · rw [(ht s request e he).2.2] at hnote
    cases hnote
  · rw [reply.isNote_event] at hnote
    cases hnote

theorem Built.isNote_eq_false (h : step.Built caller fun _ => False) (ht : t.Discreet) (s : σ) :
    ∀ e ∈ (step.run t s).events, e.isNote = false :=
  fun e he => Bool.eq_false_iff.mpr (h.notes ht s e he)

theorem events_choose {body : Bytes} {entries : List Json.Value}
    (h : Json.parseList body = .ok entries) (name : String) (caller : Caller) (t : Transport σ)
    (s : σ) :
    ((choose body name caller).run t s).events = Listing.skipEvents entries ++
      Listing.selectEvents (Listing.descriptors entries) name caller := by
  rw [choose, h]
  show _ ++ (_ ++ []) = _
  rw [List.append_nil]

theorem events_choose_of_error {body : Bytes} {fault : Json.Fault}
    (h : Json.parseList body = .error fault) (name : String) (caller : Caller) (t : Transport σ)
    (s : σ) : ((choose body name caller).run t s).events = [] := by
  rw [choose, h]
  rfl

/-- With an address to ask, a lookup is a call and a choice. -/
theorem run_resolve_of_join {uri : String}
    (h : Endpoint.join caller.locator Endpoint.services = .ok uri) (name : String)
    (t : Transport σ) (s : σ) :
    (resolve caller name).run t s =
      ((call caller caller.lookup).run t s).andThen fun body s =>
        (choose body name caller).run t s := by
  rw [resolve_eq, run_bind, run_ofExcept, h, Run.of_andThen, run_bind]
  cases Endpoint.eq_joined_of_join h
  rfl

end Step

/-! ## Notes -/

namespace Listing

/-- What becomes of the entries of a listing: each describes a service or is noted as skipped. -/
inductive Sifts : List Json.Value → List Descriptor → List Event → Prop
  | nil : Sifts [] [] []
  | take {v d entries ds events} : Descriptor.ofValue v = .ok d → Sifts entries ds events →
      Sifts (v :: entries) (d :: ds) events
  | skip {v cause entries ds events} : Descriptor.ofValue v = .error cause →
      Sifts entries ds events → Sifts (v :: entries) ds (skipEvent cause :: events)

theorem sifts (entries : List Json.Value) :
    Sifts entries (descriptors entries) (skipEvents entries) := by
  induction entries with
  | nil => exact .nil
  | cons v entries ih =>
    rw [skipEvents, List.filterMap_cons]
    cases hv : Descriptor.ofValue v with
    | ok d =>
      rw [descriptors_cons_of_ok hv]
      exact .take hv ih
    | error cause =>
      rw [descriptors_cons_of_error hv]
      exact .skip hv ih

variable {entries : List Json.Value} {services : List Descriptor} {name : String}
  {caller : Caller} {e : Event}

theorem Sifts.exists_cause {events : List Event} (h : Sifts entries services events) :
    ∀ e ∈ events, ∃ cause, e = skipEvent cause := by
  induction h with
  | nil => exact nofun
  | take _ _ ih => exact ih
  | skip _ _ ih => exact List.forall_mem_cons.mpr ⟨⟨_, rfl⟩, ih⟩

theorem mem_selectEvents : e ∈ selectEvents services name caller ↔
    ∃ address, select services name caller = .ok address ∧ e = foundEvent name address caller := by
  unfold selectEvents
  cases select services name caller <;> simp

theorem length_selectEvents (services : List Descriptor) (name : String) (caller : Caller) :
    (selectEvents services name caller).length ≤ 1 := by
  unfold selectEvents
  cases select services name caller with
  | ok => exact Nat.le_refl 1
  | error => exact Nat.zero_le 1

end Listing

variable {c : Client} {t : Transport σ} {s : σ} {name : String}

theorem Listed.unique {entries entries' : List Json.Value} (h : Listed c t s entries)
    (h' : Listed c t s entries') : entries = entries' := by
  obtain ⟨reply, hanswer, -, hparse⟩ := h.answered
  obtain ⟨reply', hanswer', -, hparse'⟩ := h'.answered
  cases hanswer.symm.trans hanswer'
  exact Except.ok.inj (hparse.symm.trans hparse')

/-- What a lookup logs. The notes on a listing follow the verdict on the reply that lists it;
without a listing there are none. -/
inductive LookupLogs (c : Client) (name : String) (t : Transport σ) (s : σ) : List Event → Prop
  | unlisted {events} : (∀ entries, ¬Listed c t s entries) → (∀ e ∈ events, e.isNote = false) →
      LookupLogs c name t s events
  | listed {entries reply before} : Listed c t s entries →
      t.answer s c.caller.lookup = .ok reply → (∀ e ∈ before, e.isNote = false) →
      LookupLogs c name t s (before ++ reply.event :: (Listing.skipEvents entries ++
        Listing.selectEvents (Listing.descriptors entries) name c.caller))

theorem Client.logs_resolve (c : Client) (name : String) (ht : t.Discreet) (s : σ) :
    LookupLogs c name t s ((c.resolve name).run t s).events := by
  unfold resolve
  cases hjoin : Endpoint.join c.caller.locator Endpoint.services with
  | error e =>
    rw [Step.resolve_eq, Step.run_bind, Step.run_ofExcept, hjoin]
    refine .unlisted (fun entries hlisted => ?_) (List.forall_mem_nil _)
    obtain ⟨uri, huri⟩ := hlisted.joined
    cases hjoin.symm.trans huri
  | ok uri =>
    rw [Step.run_resolve_of_join hjoin]
    have hcall : ∀ e ∈ ((Step.call c.caller c.caller.lookup).run t s).events, e.isNote = false :=
      (Step.Built.call c.caller.lookup).isNote_eq_false ht s
    have hresult := Step.result_call c.caller c.caller.lookup t s
    cases hr : ((Step.call c.caller c.caller.lookup).run t s).result with
    | error e =>
      rw [Run.andThen_error hr]
      refine .unlisted (fun entries hlisted => ?_) hcall
      obtain ⟨reply, hanswer, hs, -⟩ := hlisted.answered
      rw [hr, hanswer, ok_bind, Reply.verdict_eq_ok.mpr ⟨hs, rfl⟩] at hresult
      cases hresult
    | ok body =>
      rw [hr] at hresult
      obtain ⟨reply, hanswer, hverdict⟩ := bind_eq_ok.mp hresult.symm
      obtain ⟨hs, rfl⟩ := Reply.verdict_eq_ok.mp hverdict
      rw [Run.andThen_ok hr]
      cases hparse : Json.parseList reply.body with
      | error fault =>
        rw [Step.events_choose_of_error hparse, List.append_nil]
        refine .unlisted (fun entries hlisted => ?_) hcall
        obtain ⟨reply', hanswer', -, hparse'⟩ := hlisted.answered
        cases hanswer.symm.trans hanswer'
        cases hparse.symm.trans hparse'
      | ok entries =>
        rw [Step.events_choose hparse, Step.events_call, hanswer, List.append_assoc]
        exact .listed ⟨⟨_, hjoin⟩, reply, hanswer, hs, hparse⟩ hanswer fun e he =>
          (ht s _ e he).2.2

/-- What an action logs of its lookup comes first. -/
theorem Client.logs_act (c : Client) {action : Action ρ} (h : action.lookup? = some name)
    (ht : t.Discreet) (s : σ) :
    ∃ events after, ((c.act action).run t s).events = events ++ after ∧
      LookupLogs c name t s events ∧ ∀ e ∈ after, e.isNote = false := by
  rcases c.act_cases action with ⟨hnone, -⟩ | ⟨name', next, hname, haction, hnext⟩
  · cases hnone.symm.trans h
  · cases hname.symm.trans h
    have hlogs := c.logs_resolve name ht s
    rw [haction, Step.run_bind]
    cases hr : ((c.resolve name).run t s).result with
    | error e =>
      rw [Run.andThen_error hr]
      dsimp only
      exact ⟨_, [], (List.append_nil _).symm, hlogs, List.forall_mem_nil _⟩
    | ok address =>
      rw [Run.andThen_ok hr]
      exact ⟨_, _, rfl, hlogs, (hnext address).isNote_eq_false ht _⟩

/-- An action notes of a listing only what its lookup makes of it. -/
theorem Client.note_iff (c : Client) (action : Action ρ) (ht : t.Discreet) (s : σ) {e : Event}
    (he : e.isNote = true) :
    e ∈ ((c.act action).run t s).events ↔ ∃ name entries, action.lookup? = some name ∧
      Listed c t s entries ∧ (e ∈ Listing.skipEvents entries ∨
        e ∈ Listing.selectEvents (Listing.descriptors entries) name c.caller) := by
  have hnot : ∀ events : List Event, (∀ e ∈ events, e.isNote = false) → e ∉ events := by
    intro events hevents hmem
    rw [hevents e hmem] at he
    cases he
  cases hname : action.lookup? with
  | none =>
    rcases c.act_cases action with ⟨-, hbuilt⟩ | ⟨name, next, hsome, -⟩
    · refine iff_of_false (hnot _ (hbuilt.isNote_eq_false ht s)) ?_
      rintro ⟨_, _, ⟨⟩, -⟩
    · cases hname.symm.trans hsome
  | some name =>
    obtain ⟨events, after, hevents, hlogs, hafter⟩ := c.logs_act hname ht s
    rw [hevents, List.mem_append, or_iff_left (hnot after hafter)]
    cases hlogs with
    | unlisted hnone hmute =>
      refine iff_of_false (hnot events hmute) ?_
      rintro ⟨_, entries, -, hlisted, -⟩
      exact hnone entries hlisted
    | @listed entries reply before hlisted hanswer hbefore =>
      have hreply : e ≠ reply.event := by
        rintro rfl
        rw [reply.isNote_event] at he
        cases he
      rw [List.mem_append, or_iff_right (hnot before hbefore), List.mem_cons,
        or_iff_right hreply, List.mem_append]
      constructor
      · exact fun h => ⟨name, entries, rfl, hlisted, h⟩
      · rintro ⟨_, entries', ⟨⟩, hlisted', h⟩
        cases hlisted.unique hlisted'
        exact h

/-- Events account for replies. Over a transport that does not log in the client's name and takes no
reply for a failure, such as those provided, there is one verdict for each reply and none where
there is no reply. An error is logged exactly if the action ends in a server error, and then it is
the last event and tells what came with the last reply. For a listing one event is noted for each
entry that describes nothing, right after the verdict on the reply that lists them; it is noted
that a service is found exactly if its lookup succeeds, and then after those. -/
theorem events_account_for_replies :
    (∀ {σ : Type} {t : Transport σ}, t.Provided → t.Discreet ∧ t.Impartial) ∧
    ∀ {σ ρ : Type} (t : Transport σ) (s : σ) (c : Client) (action : Action ρ),
      t.Discreet → t.Impartial →
      let run := (c.act action).run t s
      run.events.filter Event.isVerdict = (t.replies s run.sent).map Reply.event ∧
      ((∃ e ∈ run.events, e.level = .error) ↔ ∃ shown, run.result = .error (.server shown)) ∧
      (∀ shown, run.result = .error (.server shown) →
        ∃ before reply, t.RepliedLast s run.sent reply ∧ run.events = before ++ [reply.alarm] ∧
          ∀ e ∈ before, e.level ≠ .error) ∧
      (∀ e ∈ run.events, e.isSkip = true →
        ∃ name entries, action.lookup? = some name ∧ Listed c t s entries) ∧
      (∀ name entries, action.lookup? = some name → Listed c t s entries →
        ∃ reply before skips found after, t.answer s c.caller.lookup = .ok reply ∧
          run.events = before ++ reply.event :: (skips ++ found) ++ after ∧
          Listing.Sifts entries (Listing.descriptors entries) skips ∧
          (∀ e ∈ skips, e.isSkip = true) ∧
          (∀ e ∈ found, e.isFound = true) ∧ found.length ≤ 1 ∧
          ∀ e ∈ before ++ after, e.isSkip = false ∧ e.isFound = false) ∧
      ∀ e, e.isFound = true → (e ∈ run.events ↔ ∃ name address, action.lookup? = some name ∧
        ((c.resolve name).run t s).result = .ok address ∧
        e = Listing.foundEvent name address c.caller) := by
  refine ⟨fun h => ⟨h.discreet, h.impartial⟩, ?_⟩
  intro σ ρ t s c action ht himpartial run
  have hbuilt : (c.act action).Built (σ := σ) c.caller Listing.Note := .act c action
  have halarm : Alarmed t s run := hbuilt.alarms ht himpartial (fun _ h => h.level) s
  refine ⟨hbuilt.verdicts ht (fun _ h => h.isVerdict) s, halarm.iff, fun shown => halarm.of_server,
    fun e he hskip => ?_, fun name entries hname hlisted => ?_, fun e hfound => ?_⟩
  · have hnote : e.isNote = true := Bool.or_eq_true_iff.mpr (.inl hskip)
    obtain ⟨name, entries, hname, hlisted, -⟩ := (c.note_iff action ht s hnote).mp he
    exact ⟨name, entries, hname, hlisted⟩
  · obtain ⟨events, after, hevents, hlogs, hafter⟩ := c.logs_act hname ht s
    cases hlogs with
    | unlisted hnone => exact absurd hlisted (hnone entries)
    | @listed entries' reply before hlisted' hanswer hbefore =>
      cases hlisted.unique hlisted'
      have hsifts := Listing.sifts entries
      refine ⟨reply, before, _, _, after, hanswer, hevents, hsifts, fun e he => ?_,
        fun e he => ?_, Listing.length_selectEvents .., fun e he => ?_⟩
      · obtain ⟨cause, rfl⟩ := hsifts.exists_cause e he
        rfl
      · obtain ⟨address, -, rfl⟩ := Listing.mem_selectEvents.mp he
        rfl
      · exact Bool.or_eq_false_iff.mp ((List.mem_append.mp he).elim (hbefore e) (hafter e))
  · have hnote : e.isNote = true := Bool.or_eq_true_iff.mpr (.inr hfound)
    rw [c.note_iff action ht s hnote]
    simp only [resolve_eq_ok]
    constructor
    · rintro ⟨name, entries, hname, hlisted, hskip | hmem⟩
      · obtain ⟨cause, rfl⟩ := (Listing.sifts entries).exists_cause e hskip
        cases hfound
      · obtain ⟨address, hselect, rfl⟩ := Listing.mem_selectEvents.mp hmem
        exact ⟨name, address, hname, ⟨entries, hlisted, hselect⟩, rfl⟩
    · rintro ⟨name, address, hname, ⟨entries, hlisted, hselect⟩, rfl⟩
      exact ⟨name, entries, hname, hlisted, .inr (Listing.mem_selectEvents.mpr ⟨_, hselect, rfl⟩)⟩

/-- A session is deleted, and its service is down. One entry of the listing describes nothing. -/
theorem events_account_for_replies_deleteSession :
    let replies : List ScriptedReply :=
      [.reply 200 "" ∅ (Utf8.encode "[null,[\"session-db\",\"i:\",\"p:\"]]") none,
        .reply 503 "Busy" ∅ (Utf8.encode "db 7 down") none]
    let c : Client := .new (.external "a:") none
    let deletion : Action Unit := .perform (.deleteSession "7")
    let run := (c.act deletion).run .scripted replies
    (run.events.filter Event.isVerdict).length = 2 ∧
      (∃ e ∈ run.events, e.isSkip = true) ∧
      Listing.foundEvent "session-db" "p:" c.caller ∈ run.events ∧
      ∃ before, run.events = before ++ [⟨.error, "locator_rest_client::client::classify",
        "server error", [("status", .number 503), ("status_text", .plain "Busy"),
          ("uri", .plain "p:/sessions/7"), ("body", .plain "db 7 down")]⟩] := by
  intro replies c deletion run
  have hparse : Json.parseList (Utf8.encode "[null,[\"session-db\",\"i:\",\"p:\"]]") =
      .ok [.null, .array [.string "session-db", .string "i:", .string "p:"]] := by cbv
  have hlocator : Endpoint.join "a:" Endpoint.services = .ok "a:/services" := rfl
  have haddress : Endpoint.join "p:" (Endpoint.session "7") = .ok "p:/sessions/7" := rfl
  let request : Request := ⟨.delete, "p:/sessions/7", ∅, none⟩
  let reply : Reply := ⟨503, "Busy", ∅, Utf8.encode "db 7 down", "p:/sessions/7"⟩
  have hlisted : Listed c .scripted replies
      [.null, .array [.string "session-db", .string "i:", .string "p:"]] :=
    ⟨⟨_, hlocator⟩, _, rfl, rfl, hparse⟩
  have hcomposed : Composed c (.deleteSession "7") .scripted replies request :=
    ⟨⟨_, "p:", hlisted, rfl, haddress⟩, rfl, rfl, rfl⟩
  have hsent : run.sent = [c.caller.lookup] ++ [request] := by
    show ((Answer.product <$> c.perform _).run _ _).sent = _
    rw [Step.sent_map]
    exact sent_of_composed rfl hcomposed
  have hanswer : Transport.scripted.answer (Transport.scripted.after replies [c.caller.lookup])
      request = .ok reply := rfl
  have hbody : Utf8.decodeLossy reply.body = "db 7 down" := by cbv
  have hresult : run.result = .error (.server (.message
      "500 - Internal Server Error (unable to retrieve resource) p:/sessions/7")) := by
    have hfails := FailsAt.verdict hcomposed hanswer rfl
    show ((Answer.product <$> c.perform _).run _ _).result = _
    rw [Step.result_map, (result_perform_eq_error rfl).mpr ⟨_, hfails⟩]
    cbv
  have hlocated : ((c.resolve "session-db").run .scripted replies).result = .ok "p:" :=
    resolve_eq_ok.mpr ⟨_, hlisted, rfl⟩
  obtain ⟨hprovided, hevents⟩ := events_account_for_replies
  obtain ⟨hdiscreet, himpartial⟩ := hprovided .scripted
  obtain ⟨hverdicts, -, hserver, -, hnotes, hfound⟩ :=
    hevents .scripted replies c deletion hdiscreet himpartial
  refine ⟨?_, ?_, (hfound _ rfl).mpr ⟨_, _, rfl, hlocated, rfl⟩, ?_⟩
  · rw [hverdicts, hsent]
    rfl
  · obtain ⟨_, before, skips, found, after, -, hsplit, hsifts, -⟩ := hnotes _ _ rfl hlisted
    rw [hsplit]
    generalize Listing.descriptors _ = services at hsifts
    cases hsifts with
    | take hnull => cases hnull
    | @skip _ cause => exact ⟨Listing.skipEvent cause, by simp, rfl⟩
  · obtain ⟨before, last, ⟨earlier, request', hsplit, hlast⟩, hbefore, -⟩ := hserver _ hresult
    obtain ⟨rfl, hrequest⟩ := List.append_inj' (hsent.symm.trans hsplit) rfl
    cases hrequest
    cases hanswer.symm.trans hlast
    rw [Reply.alarm, hbody] at hbefore
    exact ⟨before, hbefore⟩

end ServiceLocator
