import Mathlib
import ServiceLocator.Proofs.Client.Addresses
import ServiceLocator.Proofs.Client.Parts
import ServiceLocator.Proofs.Transport.Wire

/-!
What a failure discloses. Of a reply that is neither a success nor a client error nothing gets
through but the address that was asked: runs that differ in such replies send the same and end
in the same way (`Transport.SameVerdicts`), and what an action makes of the last reply it gets
is settled by the verdict on that reply (`Step.Heeds`).
-/
namespace ServiceLocator

open List (Forall₂)

variable {σ σ' α β ρ : Type}

/-! ## Replies -/

/-- A status that is neither of the 2xx nor of the 4xx class. -/
def Status.isOther (s : Status) : Bool := !s.isSuccess && !s.isClientError

theorem Status.isSuccess_eq_false {s : Status} (h : s.isClientError = true) :
    s.isSuccess = false := by
  simp only [isClientError, isSuccess, Bool.and_eq_true, decide_eq_true_eq, Bool.and_eq_false_iff,
    decide_eq_false_iff_not, UInt16.le_iff_toNat_le] at *
  exact .inr fun hle => absurd (Nat.le_trans h.1 hle) (by decide)

/-- A failure as its caller is told of it: in one line with the address that was asked, or in
its parts. -/
def HttpError.shownTo (e : HttpError) (uri : String) : Caller → Presented
  | .external _ => .message (e.line uri)
  | .internal _ => .http e

/-- What is told of every failure that is no client error. -/
def HttpError.general : HttpError := ⟨"Internal Server Error", 500, "unable to retrieve resource"⟩

theorem HttpError.status?_shownTo (e : HttpError) (uri : String) (caller : Caller) :
    (e.shownTo uri caller).status? = some e.statusCode := by
  cases caller with
  | external => exact e.status?_line uri
  | internal => rfl

/-- Answers on which the verdict is the same: the same answer, or replies to one address that
are both neither a success nor a client error. -/
inductive SameVerdict : Except CallError Reply → Except CallError Reply → Prop
  | same (answer) : SameVerdict answer answer
  | failing {r r' : Reply} : r.status.isOther = true → r'.status.isOther = true →
      r.requestUri = r'.requestUri → SameVerdict (.ok r) (.ok r')

namespace Reply

variable {r : Reply}

theorem verdict_of_isOther (h : r.status.isOther = true) (caller : Caller) :
    r.verdict caller = .error (.server (HttpError.general.shownTo r.requestUri caller)) := by
  obtain ⟨hsuccess, hclient⟩ : r.status.isSuccess = false ∧ r.status.isClientError = false := by
    simpa [Status.isOther] using h
  unfold verdict outcome
  simp only [hsuccess, hclient, Bool.false_eq_true, if_false, Outcome.toResult, Failure.toError]
  cases caller <;> rfl

theorem verdict_of_isClientError (h : r.status.isClientError = true) (caller : Caller) :
    r.verdict caller = .error (.client
      ((⟨r.statusText, r.status, r.text⟩ : HttpError).shownTo r.requestUri caller)) := by
  have hsuccess : r.status.isSuccess = false := Status.isSuccess_eq_false h
  unfold verdict outcome
  simp only [hsuccess, h, Bool.false_eq_true, if_false, if_true, Outcome.toResult, Failure.toError]
  cases caller <;> rfl

end Reply

/-- What is made of a verdict does not depend on what the verdict drops. -/
theorem SameVerdict.bind {a a' : Except CallError Reply} (h : SameVerdict a a') (caller : Caller)
    (next : Bytes → Except CallError α) :
    (do let reply ← a; let body ← reply.verdict caller; next body) =
      (do let reply ← a'; let body ← reply.verdict caller; next body) := by
  cases h with
  | same => rfl
  | failing hr hr' huri =>
    rw [ok_bind, ok_bind, Reply.verdict_of_isOther hr, Reply.verdict_of_isOther hr', huri]

/-! ## Runs that differ in failures -/

namespace Transport

/-- Transports that answer alike, in states reached by the same requests. -/
def SameVerdicts (t : Transport σ) (s : σ) (t' : Transport σ') (s' : σ') : Prop :=
  ∀ before request,
    SameVerdict (t.answer (t.after s before) request) (t'.answer (t'.after s' before) request)

/-- A relation of states that is kept with every request, and in which answers are alike. -/
theorem SameVerdicts.of_related {t : Transport σ} {t' : Transport σ'} {R : σ → σ' → Prop}
    (hanswer : ∀ {s s'}, R s s' → ∀ request,
      SameVerdict (t.answer s request) (t'.answer s' request))
    (hkept : ∀ {s s'}, R s s' → ∀ request, R (t.deliver request s).2 (t'.deliver request s').2)
    {s : σ} {s' : σ'} (h : R s s') : SameVerdicts t s t' s' := by
  intro before request
  induction before generalizing s s' with
  | nil => exact hanswer h request
  | cons first before ih => exact ih (hkept h first)

end Transport

namespace Transport.SameVerdicts

variable {t : Transport σ} {s : σ} {t' : Transport σ'} {s' : σ'} {c : Client}

theorem result_resolve (h : SameVerdicts t s t' s') (name : String) :
    ((c.resolve name).run t s).result = ((c.resolve name).run t' s').result := by
  unfold Client.resolve
  rw [Step.result_resolve, Step.result_resolve]
  exact congrArg _ (funext fun _ => (h [] c.caller.lookup).bind c.caller _)

theorem compose (h : SameVerdicts t s t' s') (op : Operation) :
    c.compose op t s = c.compose op t' s' := by
  unfold Client.compose
  rw [h.result_resolve]

theorem sameCourse (h : SameVerdicts t s t' s') (op : Operation) :
    Client.SameCourse op c t s c t' s' :=
  ⟨c.sent_resolve_eq _ t s t' s', h.compose op,
    fun request => (h [c.caller.lookup] request).bind c.caller op.read⟩

theorem result_act (h : SameVerdicts t s t' s') (action : Action ρ) :
    ((c.act action).run t s).result = ((c.act action).run t' s').result := by
  cases action with
  | resolve name => simp only [Client.act, Step.result_map, h.result_resolve]
  | perform op => simp only [Client.act, Step.result_map, (h.sameCourse op).result_perform]
  | fetch read uri =>
    have hfetch := (h [] (c.fetchRequest uri)).bind c.caller fun body =>
      (read body).mapError CallError.json
    simp only [Client.act, Step.result_map, Client.result_fetch]
    exact congrArg _ hfetch
  | call request =>
    have hcall := (h [] request).bind c.caller pure
    simp only [bind_pure] at hcall
    simp only [Client.act, Step.result_map, Client.call, Step.result_call]
    exact congrArg _ hcall
  | withToken token => rfl
  | diagnose => rfl

theorem sent_act (h : SameVerdicts t s t' s') (action : Action ρ) :
    ((c.act action).run t s).sent = ((c.act action).run t' s').sent := by
  cases action with
  | resolve name =>
    simp only [Client.act, Step.sent_map]
    exact c.sent_resolve_eq name t s t' s'
  | perform op => simp only [Client.act, Step.sent_map, (h.sameCourse op).sent_perform]
  | fetch read uri => simp only [Client.act, Step.sent_map, Client.sent_fetch]
  | call request => simp only [Client.act, Step.sent_map, Client.call, Step.sent_call]
  | withToken token => rfl
  | diagnose => rfl

end Transport.SameVerdicts

/-! ## Replies that were made up -/

/-- The same made-up reply, or replies under one address that are both neither a success nor a
client error. -/
inductive ScriptedReply.SameVerdict : ScriptedReply → ScriptedReply → Prop
  | same (reply) : SameVerdict reply reply
  | failing {status status' : Status} {text text' headers headers' body body' uri} :
      status.isOther = true → status'.isOther = true →
      SameVerdict (.reply status text headers body uri) (.reply status' text' headers' body' uri)

/-- The same answer of the far end, or complete ones that are both neither a success nor a client
error. -/
inductive PeerAnswer.SameVerdict : PeerAnswer → PeerAnswer → Prop
  | same (answer) : SameVerdict answer answer
  | failing {status status' : Status} {lines lines' body body'} :
      status.isOther = true → status'.isOther = true →
      SameVerdict (.complete status lines body) (.complete status' lines' body')

theorem ScriptedReply.SameVerdict.answer {reply reply' : ScriptedReply}
    (h : reply.SameVerdict reply') (request : Request) :
    ServiceLocator.SameVerdict (reply.answer request) (reply'.answer request) := by
  cases h with
  | same => exact .same _
  | failing hs hs' => exact .failing hs hs' rfl

theorem PeerAnswer.SameVerdict.toReply {answer answer' : PeerAnswer}
    (h : answer.SameVerdict answer') (request : Request) (url : Url) :
    ServiceLocator.SameVerdict (answer.toReply request url) (answer'.toReply request url) := by
  cases h with
  | same => exact .same _
  | failing hs hs' => exact .failing hs hs' rfl

theorem Peer.scripted_sameVerdict {a b : Script}
    (h : Forall₂ PeerAnswer.SameVerdict a.answers b.answers) (wire : WireRequest) :
    PeerAnswer.SameVerdict (scripted.answer wire a).1 (scripted.answer wire b).1 ∧
      Forall₂ PeerAnswer.SameVerdict (scripted.answer wire a).2.answers
        (scripted.answer wire b).2.answers := by
  obtain ⟨answers, received⟩ := a
  obtain ⟨answers', received'⟩ := b
  cases h with
  | nil => exact ⟨.same _, .nil⟩
  | cons hanswer hrest => exact ⟨hanswer, hrest⟩

namespace Transport.SameVerdicts

theorem scripted {replies replies' : List ScriptedReply}
    (h : Forall₂ ScriptedReply.SameVerdict replies replies') :
    SameVerdicts .scripted replies .scripted replies' := by
  refine of_related (R := Forall₂ ScriptedReply.SameVerdict) (fun h request => ?_)
    (fun h request => ?_) h
  · cases h with
    | nil => exact .same _
    | cons hreply => exact hreply.answer request
  · cases h with
    | nil => exact .nil
    | cons _ hrest => exact hrest

/-- Over HTTP a request is handed to both far ends or to neither. -/
theorem http (settings : HttpSettings) {script script' : Peer.Script}
    (h : Forall₂ PeerAnswer.SameVerdict script.answers script'.answers) :
    SameVerdicts (.http settings Peer.scripted) script (.http settings Peer.scripted) script' := by
  refine of_related (R := fun a b => Forall₂ PeerAnswer.SameVerdict a.answers b.answers)
    (fun {a b} hab request => ?_) (fun {a b} hab request => ?_) h
  · simp only [Transport.answer, Transport.http, sendComposed]
    split
    · exact .same _
    · rename_i url _
      split
      · exact .same _
      · rename_i fields _
        split
        · exact ((Peer.scripted_sameVerdict hab _).1).toReply request url
        · exact .same _
  · rw [state_deliver_http, state_deliver_http]
    split
    · exact (Peer.scripted_sameVerdict hab _).2
    · exact hab

end Transport.SameVerdicts

/-! ## Replies that are consumed -/

namespace Step

/-- A step ends with the first reply that is a failure, and with the error of that failure. -/
def Heeds (caller : Caller) (step : Step σ α) : Prop :=
  ∀ t s before request after reply f, (step.run t s).sent = before ++ request :: after →
    t.answer (t.after s before) request = .ok reply → reply.outcome = .failure f →
      (step.run t s).result = .error (f.toError caller) ∧ after = []

variable {caller : Caller}

theorem Heeds.of_sent_eq_nil {step : Step σ α} (h : ∀ t s, (step.run t s).sent = []) :
    step.Heeds caller := by
  intro t s before request after reply f hsent
  rw [h] at hsent
  cases before <;> cases hsent

/-- The one request of a call. -/
theorem eq_of_sent_call {request request' : Request} {t : Transport σ} {s : σ}
    {before after : List Request}
    (h : ((call caller request).run t s).sent = before ++ request' :: after) :
    before = [] ∧ request' = request ∧ after = [] := by
  rw [sent_call] at h
  simpa [List.append_eq_singleton_iff] using h.symm

theorem Heeds.call (caller : Caller) (request : Request) :
    Heeds (σ := σ) caller (Step.call caller request) := by
  intro t s before request' after reply f hsent hanswer hf
  obtain ⟨rfl, rfl, rfl⟩ := eq_of_sent_call hsent
  have hverdict : reply.verdict caller = .error (f.toError caller) :=
    Reply.verdict_eq_error.mpr ⟨f, hf, rfl⟩
  refine ⟨?_, rfl⟩
  rw [result_call]
  exact (congrArg (· >>= _) hanswer).trans hverdict

theorem Heeds.bind {step : Step σ α} {next : α → Step σ β} (h : step.Heeds caller)
    (hseq : step.Sequential) (hnext : ∀ a, (next a).Heeds caller) :
    (step >>= next).Heeds caller := by
  intro t s before request after reply f hsent hanswer hf
  rw [run_bind] at hsent ⊢
  cases hr : (step.run t s).result with
  | error e =>
    rw [Run.andThen_error hr] at hsent ⊢
    obtain ⟨herror, hafter⟩ := h t s before request after reply f hsent hanswer hf
    rw [hr] at herror
    cases herror
    exact ⟨rfl, hafter⟩
  | ok a =>
    rw [Run.andThen_ok hr] at hsent ⊢
    -- The first part went well, so the failure is not among its replies.
    have hsecond : ∃ later, before = (step.run t s).sent ++ later ∧
        ((next a).run t (step.run t s).state).sent = later ++ request :: after := by
      rcases List.append_eq_append_iff.mp hsent with
        ⟨later, hbefore, hlater⟩ | ⟨more, hmore, hlater⟩
      · exact ⟨later, hbefore, hlater⟩
      · cases more with
        | nil => exact ⟨[], by simpa using hmore.symm, hlater.symm⟩
        | cons first more =>
          cases hlater
          have hfirst := h t s before request more reply f hmore hanswer hf
          rw [hr] at hfirst
          cases hfirst.1
    obtain ⟨later, rfl, hlater⟩ := hsecond
    rw [Transport.after_append, ← hseq t s] at hanswer
    exact hnext a t _ later request after reply f hlater hanswer hf

theorem Built.heeds {Noted : Event → Prop} {step : Step σ α} (h : step.Built caller Noted) :
    step.Heeds caller := by
  induction h with
  | ofExcept | log => exact .of_sent_eq_nil fun _ _ => rfl
  | call request => exact .call _ request
  | bind hstep _ ih ihnext => exact ih.bind hstep.sequential ihnext

theorem Heeds.act (c : Client) (action : Action ρ) : Heeds (σ := σ) c.caller (c.act action) :=
  (Built.act c action).heeds

end Step

/-! ## What is told -/

section Told

variable {c : Client} {t : Transport σ} {s : σ} {before after : List Request} {request : Request}
  {reply : Reply}

/-- The verdict on a reply that is a failure is how the action ends. -/
theorem result_act_of_verdict {action : Action ρ} {e : CallError}
    (hsent : ((c.act action).run t s).sent = before ++ request :: after)
    (hanswer : t.answer (t.after s before) request = .ok reply)
    (hverdict : reply.verdict c.caller = .error e) :
    ((c.act action).run t s).result = .error e := by
  obtain ⟨f, hf, rfl⟩ := Reply.verdict_eq_error.mp hverdict
  exact (Step.Heeds.act c action t s before request after reply f hsent hanswer hf).1

/-- A reply of success to an operation's own request is read. -/
theorem result_perform_of_success {op : Operation}
    (hsent : ((c.perform op).run t s).sent = [c.caller.lookup] ++ request :: after)
    (hanswer : t.answer (t.after s [c.caller.lookup]) request = .ok reply)
    (hs : reply.status.isSuccess = true) :
    ((c.perform op).run t s).result = op.read reply.body := by
  have hcomposed : Composed c op t s request := composed_of_sent (by rw [hsent]; rfl)
  have hasks : op.asksNothing = false := by
    by_contra hasks
    rw [Client.perform_of_asksNothing (Bool.eq_true_of_not_eq_false hasks)] at hsent
    cases hsent
  have hverdict : reply.verdict c.caller = .ok reply.body := Reply.verdict_eq_ok.mpr ⟨hs, rfl⟩
  rw [Client.result_perform hasks, composed_iff.mp hcomposed, ok_bind, hanswer, ok_bind, hverdict,
    ok_bind]

end Told

/-- Failures disclose nothing but the address. Two runs of an action, over made-up replies or
over HTTP, whose replies differ only where both are neither a success nor a client error, send
the same and have the same result; such a reply, once it is consumed, makes the result a server
error of status 500 that says the same of all of them. A client error is told with its status,
its status text and its body, and a success hands the body on, unless it is not asked for. -/
theorem failures_disclose_nothing (c : Client) (action : Action ρ) :
    (∀ replies replies', Forall₂ ScriptedReply.SameVerdict replies replies' →
      let run := (c.act action).run .scripted replies
      let run' := (c.act action).run .scripted replies'
      run.sent = run'.sent ∧ run.result = run'.result) ∧
    (∀ settings script script', Forall₂ PeerAnswer.SameVerdict script.answers script'.answers →
      let run := (c.act action).run (.http settings Peer.scripted) script
      let run' := (c.act action).run (.http settings Peer.scripted) script'
      run.sent = run'.sent ∧ run.result = run'.result) ∧
    ∀ (t : Transport σ) (s : σ) before request after reply,
      let run := (c.act action).run t s
      run.sent = before ++ request :: after →
      t.answer (t.after s before) request = .ok reply →
        (reply.status.isOther = true → ∃ e, run.result = .error e ∧ e.status? = some 500 ∧
          e = .server (HttpError.general.shownTo reply.requestUri c.caller)) ∧
        (reply.status.isClientError = true → run.result = .error (.client
          (HttpError.shownTo ⟨reply.statusText, reply.status, Utf8.decodeLossy reply.body⟩
            reply.requestUri c.caller))) ∧
        (reply.status.isSuccess = true →
          (∀ session, action = .perform (.deleteSession session) → before = [c.caller.lookup] →
            run.result = .ok (.product .done)) ∧
          (∀ session dataset max, action = .perform (.getFile session dataset max) →
            before = [c.caller.lookup] → run.result = .ok (.product (.bytes reply.body))) ∧
          ∀ request, action = .call request → run.result = .ok (.bytes reply.body)) := by
  refine ⟨fun replies replies' h => ?_, fun settings script script' h => ?_, ?_⟩
  · have hsame := Transport.SameVerdicts.scripted h
    exact ⟨hsame.sent_act action, hsame.result_act action⟩
  · have hsame := Transport.SameVerdicts.http settings h
    exact ⟨hsame.sent_act action, hsame.result_act action⟩
  intro t s before request after reply run hsent hanswer
  refine ⟨fun hs => ?_, fun hs => ?_, fun hs => ⟨?_, ?_, ?_⟩⟩
  · have hresult := result_act_of_verdict hsent hanswer (Reply.verdict_of_isOther hs c.caller)
    exact ⟨_, hresult, HttpError.general.status?_shownTo _ _, rfl⟩
  · exact result_act_of_verdict hsent hanswer (Reply.verdict_of_isClientError hs c.caller)
  · rintro session rfl rfl
    simp only [run, Client.act, Step.sent_map] at hsent
    simp only [run, Client.act, Step.result_map, result_perform_of_success hsent hanswer hs]
    rfl
  · rintro session dataset max rfl rfl
    simp only [run, Client.act, Step.sent_map] at hsent
    simp only [run, Client.act, Step.result_map, result_perform_of_success hsent hanswer hs]
    rfl
  · rintro request' rfl
    simp only [run, Client.act, Step.sent_map, Client.call] at hsent
    obtain ⟨rfl, rfl, rfl⟩ := Step.eq_of_sent_call hsent
    have hverdict : reply.verdict c.caller = .ok reply.body := Reply.verdict_eq_ok.mpr ⟨hs, rfl⟩
    have hcall : (t.answer s request >>= fun reply => reply.verdict c.caller) = .ok reply.body :=
      (congrArg (· >>= _) hanswer).trans hverdict
    simp only [run, Client.act, Step.result_map, Client.call, Step.result_call, hcall]
    rfl

/-- A session is deleted from outside. Where its service is down and where it has moved, the
caller is told the same; a refusal is told in full; and on success the body is left alone. -/
theorem failures_disclose_nothing_deleteSession :
    let answered (status : Status) (text body : String) : List ScriptedReply :=
      [.reply 200 "" ∅ (Utf8.encode "[[\"session-db\",\"i:\",\"p:\"]]") none,
        .reply status text ∅ (Utf8.encode body) none]
    let c : Client := .new (.external "a:") none
    let deletion : Action Unit := .perform (.deleteSession "7")
    let run (replies : List ScriptedReply) := (c.act deletion).run .scripted replies
    (run (answered 503 "Busy" "db 7 down")).sent = (run (answered 302 "Moved" "db 8")).sent ∧
      (run (answered 302 "Moved" "db 8")).result = .error (.server (.message
        "500 - Internal Server Error (unable to retrieve resource) p:/sessions/7")) ∧
      (run (answered 404 "Gone" "no 7")).result =
        .error (.client (.message "404 - Gone (no 7) p:/sessions/7")) ∧
      (run (answered 204 "" "ignored")).result = .ok (.product .done) := by
  intro answered c deletion run
  have hparse : Json.parseList (Utf8.encode "[[\"session-db\",\"i:\",\"p:\"]]") =
      .ok [.array [.string "session-db", .string "i:", .string "p:"]] := by cbv
  have hlocator : Endpoint.join "a:" Endpoint.services = .ok "a:/services" := rfl
  have haddress : Endpoint.join "p:" (Endpoint.session "7") = .ok "p:/sessions/7" := rfl
  have hfailed : HttpError.general.line "p:/sessions/7" =
      "500 - Internal Server Error (unable to retrieve resource) p:/sessions/7" := by cbv
  have hgone : HttpError.line ⟨"Gone", 404, Utf8.decodeLossy (Utf8.encode "no 7")⟩
      "p:/sessions/7" = "404 - Gone (no 7) p:/sessions/7" := by cbv
  let request : Request := ⟨.delete, "p:/sessions/7", ∅, none⟩
  let reply (status : Status) (text body : String) : Reply :=
    ⟨status, text, ∅, Utf8.encode body, "p:/sessions/7"⟩
  have hsent : ∀ status text body,
      (run (answered status text body)).sent = [c.caller.lookup] ++ request :: [] := by
    intro status text body
    have hlisted : Listed c .scripted (answered status text body)
        [.array [.string "session-db", .string "i:", .string "p:"]] :=
      ⟨⟨_, hlocator⟩, _, rfl, rfl, hparse⟩
    have hcomposed : Composed c (.deleteSession "7") .scripted (answered status text body)
        request := ⟨⟨_, "p:", hlisted, rfl, haddress⟩, rfl, rfl, rfl⟩
    show ((Answer.product <$> c.perform _).run _ _).sent = _
    rw [Step.sent_map]
    exact sent_of_composed rfl hcomposed
  have hanswer : ∀ status text body,
      Transport.scripted.answer (Transport.scripted.after (answered status text body)
        [c.caller.lookup]) request = .ok (reply status text body) := fun _ _ _ => rfl
  obtain ⟨hscripted, -, htold⟩ :=
    failures_disclose_nothing (σ := List ScriptedReply) c deletion
  obtain ⟨hsame, hresult⟩ := hscripted (answered 503 "Busy" "db 7 down")
    (answered 302 "Moved" "db 8") (.cons (.same _) (.cons (.failing rfl rfl) .nil))
  obtain ⟨hother, -, -⟩ := htold _ _ _ _ _ _ (hsent 503 "Busy" "db 7 down") (hanswer _ _ _)
  obtain ⟨-, hclient, -⟩ := htold _ _ _ _ _ _ (hsent 404 "Gone" "no 7") (hanswer _ _ _)
  obtain ⟨-, -, hsuccess⟩ := htold _ _ _ _ _ _ (hsent 204 "" "ignored") (hanswer _ _ _)
  obtain ⟨_, hserver, -, rfl⟩ := hother rfl
  rw [← hfailed, ← hgone]
  exact ⟨hsame, hresult.symm.trans hserver, hclient rfl, (hsuccess rfl).1 "7" rfl rfl⟩

end ServiceLocator
