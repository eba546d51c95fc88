import ServiceLocator.Proofs.Client.Parts

/-!
The status that an error tells. A failure keeps its status in either presentation. What an
action ends with is blamed on its last reply, or stems from no status at all (`Step.Blames`); so
a client error tells the status of that reply, a server error tells 500, and everything else
tells none.
-/
namespace ServiceLocator

variable {σ α β ρ : Type}

/-! ## Failures -/

/-- A failure keeps its status, however it is presented. -/
theorem Failure.status?_toError (f : Failure) (caller : Caller) :
    (f.toError caller).status? = some f.status := by
  have hpresent : (f.present caller).status? = some f.status := by
    cases caller with
    | external => exact HttpError.status?_line ⟨f.statusText, f.status, f.message⟩ f.requestUri
    | internal => rfl
  cases hkind : f.kind <;> simp only [Failure.toError, hkind, CallError.status?, hpresent]

/-- A failure is a client error with the status of its reply, or a server error of status 500. -/
theorem Reply.failure_cases {reply : Reply} {f : Failure} (h : reply.outcome = .failure f) :
    f.kind = .client ∧ reply.status.isClientError = true ∧ f.status = reply.status ∨
      f.kind = .server ∧ f.status = 500 := by
  unfold outcome at h
  split at h
  · cases h
  · split at h
    · rename_i hclient
      cases h
      exact .inl ⟨rfl, hclient, rfl⟩
    · cases h
      exact .inr ⟨rfl, rfl⟩

theorem CallError.status?_eq_none {e : CallError} (h : e.fromStatus = false) :
    e.status? = none := by
  cases e with
  | client => cases h
  | server => cases h
  | _ => rfl

/-! ## Blame -/

/-- A transport whose own errors stem from no status: it leaves the verdict on a reply to the
client. -/
def Transport.Impartial (t : Transport σ) : Prop :=
  ∀ s request e, t.answer s request = .error e → e.fromStatus = false

theorem Transport.Provided.impartial {t : Transport σ} (h : t.Provided) : t.Impartial :=
  fun _ _ _ => h.fromStatus_answer

/-- An error is the failure that the last reply is taken for, or it stems from no status. -/
inductive Blamed (caller : Caller) (Replied : Reply → Prop) (e : CallError) : Prop
  | reply {reply f} : Replied reply → reply.outcome = .failure f → e = f.toError caller →
      Blamed caller Replied e
  | other : e.fromStatus = false → Blamed caller Replied e

namespace Step

/-- Whatever a step fails with can be blamed on its last reply, unless it stems from no status. -/
def Blames (caller : Caller) (step : Step σ α) : Prop :=
  ∀ t : Transport σ, t.Impartial → ∀ s e, (step.run t s).result = .error e →
    Blamed caller (t.RepliedLast s (step.run t s).sent) e

variable {caller : Caller}

theorem Blames.ofExcept {r : Except CallError α} (h : ∀ e, r = .error e → e.fromStatus = false) :
    Blames (σ := σ) caller (ofExcept r) :=
  fun _ _ _ e he => .other (h e he)

theorem Blames.log (caller : Caller) (events : List Event) :
    Blames (σ := σ) caller (Step.log events) :=
  fun _ _ _ _ => nofun

theorem Blames.call (caller : Caller) (request : Request) :
    Blames (σ := σ) caller (Step.call caller request) := by
  intro t ht s e he
  rw [result_call, bind_eq_error] at he
  rcases he with hanswer | ⟨reply, hanswer, hverdict⟩
  · exact .other (ht s request e hanswer)
  · obtain ⟨f, hf, rfl⟩ := Reply.verdict_eq_error.mp hverdict
    have hreplied : t.RepliedLast s ((Step.call caller request).run t s).sent reply :=
      ⟨[], request, sent_call caller request t s, hanswer⟩
    exact .reply hreplied hf rfl

theorem Blames.bind {step : Step σ α} {next : α → Step σ β} (h : step.Blames caller)
    (hseq : step.Sequential) (hnext : ∀ a, (next a).Blames caller) :
    (step >>= next).Blames caller := by
  intro t ht s e he
  rw [run_bind] at he ⊢
  cases hr : (step.run t s).result with
  | error e' =>
    rw [Run.andThen_error hr] at he ⊢
    cases he
    exact h t ht s e hr
  | ok a =>
    rw [Run.andThen_ok hr] at he ⊢
    -- The last reply of the second part is the last one of both.
    cases hnext a t ht _ e he with
    | other hother => exact .other hother
    | reply hreplied hf heq => exact .reply (hreplied.after_requests (hseq t s)) hf heq

theorem Built.blames {Noted : Event → Prop} {step : Step σ α} (h : step.Built caller Noted) :
    step.Blames caller := by
  induction h with
  | ofExcept hr => exact .ofExcept hr
  | log => exact .log _ _
  | call request => exact .call _ request
  | bind hstep _ ih ihnext => exact ih.bind hstep.sequential ihnext

theorem Blames.act (c : Client) (action : Action ρ) :
    Blames (σ := σ) c.caller (c.act action) :=
  (Built.act c action).blames

end Step

/-! ## What is told -/

/-- What an error tells of the last reply. -/
inductive Tells (Replied : Reply → Prop) : CallError → Option Status → Prop
  | client {reply shown} : Replied reply → reply.status.isClientError = true →
      Tells Replied (.client shown) (some reply.status)
  | server {shown} : Tells Replied (.server shown) (some 500)
  | other {e} : e.fromStatus = false → Tells Replied e none

theorem Blamed.tells {caller : Caller} {Replied : Reply → Prop} {e : CallError}
    (h : Blamed caller Replied e) : Tells Replied e e.status? := by
  cases h with
  | other hother =>
    rw [CallError.status?_eq_none hother]
    exact .other hother
  | @reply reply f hreplied hf heq =>
    subst heq
    rw [f.status?_toError caller]
    rcases Reply.failure_cases hf with ⟨hkind, hclient, hstatus⟩ | ⟨hkind, hstatus⟩
    · simp only [Failure.toError, hkind, hstatus]
      exact .client hreplied hclient
    · simp only [Failure.toError, hkind, hstatus]
      exact .server

/-- Each kind of error is known by what it tells. -/
theorem Tells.exactly {Replied : Reply → Prop} {e : CallError} {told : Option Status}
    (h : Tells Replied e told) :
    ((∃ n, told = some n ∧ 400 ≤ n ∧ n ≤ 499) ↔ ∃ shown, e = .client shown) ∧
    (∀ shown, e = .client shown → ∃ reply, Replied reply ∧ told = some reply.status) ∧
    (told = some 500 ↔ ∃ shown, e = .server shown) ∧
    (told = none ↔ (∀ shown, e ≠ .client shown) ∧ ∀ shown, e ≠ .server shown) := by
  cases h with
  | @client reply shown hreplied hclient =>
    have hrange : 400 ≤ reply.status ∧ reply.status ≤ 499 := by
      simpa [Status.isClientError] using hclient
    refine ⟨⟨fun _ => ⟨shown, rfl⟩, fun _ => ⟨_, rfl, hrange⟩⟩,
      fun _ _ => ⟨reply, hreplied, rfl⟩, ⟨fun h500 => ?_, ?_⟩, ⟨?_, ?_⟩⟩
    · rw [Option.some.inj h500] at hrange
      exact absurd hrange (by decide)
    · rintro ⟨_, ⟨⟩⟩
    · rintro ⟨⟩
    · rintro ⟨hnot, -⟩
      exact absurd rfl (hnot shown)
  | @server shown =>
    refine ⟨⟨?_, ?_⟩, ?_, ⟨fun _ => ⟨shown, rfl⟩, fun _ => rfl⟩, ⟨?_, ?_⟩⟩
    · rintro ⟨n, hn, hrange⟩
      rw [← Option.some.inj hn] at hrange
      exact absurd hrange (by decide)
    · rintro ⟨_, ⟨⟩⟩
    · rintro _ ⟨⟩
    · rintro ⟨⟩
    · rintro ⟨-, hnot⟩
      exact absurd rfl (hnot shown)
  | other hother =>
    have hclient : ∀ shown, e ≠ .client shown := by
      rintro shown rfl
      cases hother
    have hserver : ∀ shown, e ≠ .server shown := by
      rintro shown rfl
      cases hother
    refine ⟨⟨?_, ?_⟩, fun shown hshown => absurd hshown (hclient shown), ⟨?_, ?_⟩,
      ⟨fun _ => ⟨hclient, hserver⟩, fun _ => rfl⟩⟩
    · rintro ⟨_, ⟨⟩, -⟩
    · rintro ⟨shown, hshown⟩
      exact absurd hshown (hclient shown)
    · rintro ⟨⟩
    · rintro ⟨shown, hshown⟩
      exact absurd hshown (hserver shown)

/-- Statuses are kept. A failure has the same status however it is presented. The error of an
action, over any transport that takes no reply for a failure, such as those provided, tells a
status of the 4xx class exactly if it is a client error, and then that of the last reply; it
tells 500 exactly if it is a server error, and nothing exactly if it is neither. -/
theorem statuses_are_kept :
    (∀ (f : Failure) caller, (f.toError caller).status? = some f.status) ∧
    (∀ {σ : Type} {t : Transport σ}, t.Provided → t.Impartial) ∧
    ∀ {σ ρ : Type} (t : Transport σ) (s : σ) (c : Client) (action : Action ρ) (e : CallError),
      t.Impartial →
      let run := (c.act action).run t s
      run.result = .error e →
        ((∃ n, e.status? = some n ∧ 400 ≤ n ∧ n ≤ 499) ↔ ∃ shown, e = .client shown) ∧
        (∀ shown, e = .client shown →
          ∃ reply, t.RepliedLast s run.sent reply ∧ e.status? = some reply.status) ∧
        (e.status? = some 500 ↔ ∃ shown, e = .server shown) ∧
        (e.status? = none ↔ (∀ shown, e ≠ .client shown) ∧ ∀ shown, e ≠ .server shown) := by
  refine ⟨Failure.status?_toError, fun h => h.impartial, ?_⟩
  intro σ ρ t s c action e ht run he
  have htells : Tells (t.RepliedLast s run.sent) e e.status? :=
    (Step.Blames.act c action t ht s e he).tells
  exact htells.exactly

/-- An external caller calls a service over made-up replies. A refusal whose body looks like
another refusal tells its own status; a failure of the service tells 500, whatever its status. -/
theorem statuses_are_kept_call :
    let c : Client := .new (.external "a:") none
    let request : Request := .get "b:"
    let run (status : Status) (body : String) : Run (List ScriptedReply) (Answer Unit) :=
      (c.act (.call request)).run .scripted [.reply status "" ∅ (Utf8.encode body) none]
    (∃ e, (run 404 "403 - (").result = .error e ∧ e.status? = some 404) ∧
      ∃ e, (run 503 "404").result = .error e ∧ e.status? = some 500 := by
  intro c request run
  obtain ⟨-, himpartial, hkept⟩ := statuses_are_kept
  refine ⟨⟨_, rfl, ?_⟩, ⟨_, rfl, ?_⟩⟩
  · obtain ⟨-, hclient, -⟩ := hkept .scripted _ c (.call request : Action Unit) _
      (himpartial .scripted) (rfl : (run 404 "403 - (").result = _)
    obtain ⟨reply, ⟨before, request', hsent, hanswer⟩, hstatus⟩ := hclient _ rfl
    -- One request was sent, so its reply is the last one.
    have hsplit : [] ++ [request] = before ++ [request'] := hsent
    obtain ⟨rfl, hlast⟩ := List.append_inj' hsplit rfl
    cases hlast
    cases hanswer
    exact hstatus
  · obtain ⟨-, -, hserver, -⟩ := hkept .scripted _ c (.call request : Action Unit) _
      (himpartial .scripted) (rfl : (run 503 "404").result = _)
    exact hserver.mpr ⟨_, rfl⟩

end ServiceLocator
