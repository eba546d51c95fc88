import ServiceLocator.Proofs.Client.Stages
import ServiceLocator.Proofs.Secrecy.Transport

/-!
Sessions that differ in secrets. Over a blind transport, what a session leaves behind
depends on tokens, usernames and passwords in the value of the credentials it sends and in
nothing else: this holds of every step of a client (`Step.Alike`), and so of every session.
-/
namespace ServiceLocator

open List (Forall₂)

variable {σ α β ρ : Type}

/-- Clients of one caller that differ in their token at most: both have one, or neither. -/
structure Client.Alike (c c' : Client) : Prop where
  caller : c.caller = c'.caller
  token : c.identity.token.isSome = c'.identity.token.isSome

/-- Operations that differ in a username and a password at most. -/
inductive Operation.Alike : Operation → Operation → Prop
  | same (op) : Alike op op
  | issueToken (username password username' password') :
      Alike (.issueToken username password) (.issueToken username' password')

/-- Actions that differ in a token, a username or a password at most. -/
inductive Action.Alike : Action ρ → Action ρ → Prop
  | same (action) : Alike action action
  | perform {op op'} : op.Alike op' → Alike (.perform op) (.perform op')
  | withToken (token token') : Alike (.withToken token) (.withToken token')

/-- Whether an action begins with a request to the locator. -/
def Action.looksUp : Action ρ → Bool
  | .resolve _ | .perform _ => true
  | _ => false

/-- Runs with the same result and the same events, whose requests differ in credentials at
most, in related states. -/
structure Run.Alike (R : σ → σ → Prop) (x y : Run σ α) : Prop where
  result : x.result = y.result
  sent : Forall₂ Request.Alike x.sent y.sent
  events : x.events = y.events
  state : R x.state y.state

/-- Moments of which the client is shown alike and the locator is asked in exactly the same
way. -/
structure Moment.Alike (R : σ → σ → Prop) (m m' : Moment σ ρ) : Prop where
  run : m.run.Alike R m'.run
  lookup : m.action.looksUp = true → m.run.sent.head? = m'.run.sent.head?
  shown : m.client.shown = m'.client.shown

/-- Steps that lead to alike runs from related states. -/
def Step.Alike (t : Transport σ) (R : σ → σ → Prop) (step step' : Step σ α) : Prop :=
  ∀ s s', R s s' → (step.run t s).Alike R (step'.run t s')

/-! ## Steps -/

namespace Step

variable {t : Transport σ} {R : σ → σ → Prop}

theorem Alike.ofExcept (r : Except CallError α) : Alike t R (ofExcept r) (ofExcept r) :=
  fun _ _ hs => ⟨rfl, .nil, rfl, hs⟩

theorem Alike.pure (a : α) : Alike t R (pure a : Step σ α) (pure a) :=
  fun _ _ hs => ⟨rfl, .nil, rfl, hs⟩

theorem Alike.log (events : List Event) : Alike t R (log events) (log events) :=
  fun _ _ hs => ⟨rfl, .nil, rfl, hs⟩

theorem Alike.send (ht : t.Blind R) {r r' : Request} (hr : r.Alike r') :
    Alike t R (send r) (send r') := by
  intro s s' hs
  obtain ⟨hdelivery, hstate⟩ := ht r r' s s' hr hs
  refine ⟨?_, .cons hr .nil, ?_, hstate⟩
  · exact congrArg Delivery.answer hdelivery
  · exact congrArg Delivery.events hdelivery

theorem Alike.bind {step step' : Step σ α} {next next' : α → Step σ β}
    (h : Alike t R step step') (hnext : ∀ a, Alike t R (next a) (next' a)) :
    Alike t R (step >>= next) (step' >>= next') := by
  intro s s' hs
  have hfirst := h s s' hs
  rw [run_bind, run_bind]
  cases hr : (step.run t s).result with
  | error e =>
    rw [Run.andThen_error hr, Run.andThen_error (hfirst.result ▸ hr)]
    exact ⟨rfl, hfirst.sent, hfirst.events, hfirst.state⟩
  | ok a =>
    -- Both go on with the same result, from states that are still related.
    rw [Run.andThen_ok hr, Run.andThen_ok (hfirst.result ▸ hr)]
    have hsecond := hnext a _ _ hfirst.state
    refine ⟨hsecond.result, List.rel_append hfirst.sent hsecond.sent, ?_, hsecond.state⟩
    exact congrArg₂ (· ++ ·) hfirst.events hsecond.events

theorem Alike.map (f : α → β) {step step' : Step σ α} (h : Alike t R step step') :
    Alike t R (f <$> step) (f <$> step') :=
  h.bind fun a => .pure (f a)

theorem Alike.call (ht : t.Blind R) (caller : Caller) {r r' : Request} (hr : r.Alike r') :
    Alike t R (Step.call caller r) (Step.call caller r') :=
  (Alike.send ht hr).bind fun reply => (Alike.log _).bind fun _ =>
    .ofExcept (reply.verdict caller)

theorem Alike.resolve (ht : t.Blind R) (caller : Caller) (name : String) :
    Alike t R (Step.resolve caller name) (Step.resolve caller name) :=
  (Alike.ofExcept _).bind fun _ => (Alike.call ht caller (.refl _)).bind fun _ =>
    (Alike.ofExcept _).bind fun _ => (Alike.log _).bind fun _ => (Alike.log _).bind fun _ =>
      .ofExcept _

end Step

/-! ## Clients -/

namespace Client

variable {c c' : Client} {h h' : Headers}

theorem Alike.after (hc : c.Alike c') {a a' : Action ρ} (ha : a.Alike a') :
    (c.after a).Alike (c'.after a') := by
  cases ha with
  | same =>
    cases a with
    | withToken token => exact ⟨hc.caller, rfl⟩
    | _ => exact hc
  | perform => exact hc
  | withToken => exact ⟨hc.caller, rfl⟩

/-- A client is shown without its token. -/
theorem Alike.shown (hc : c.Alike c') : c.shown = c'.shown := by
  obtain ⟨⟨caller, token⟩⟩ := c
  obtain ⟨⟨caller', token'⟩⟩ := c'
  obtain ⟨hcaller, htoken⟩ := hc
  cases hcaller
  cases token with
  | none =>
    cases token' with
    | none => rfl
    | some _ => cases htoken
  | some _ =>
    cases token' with
    | none => cases htoken
    | some _ => rfl

theorem Alike.authorize (hc : c.Alike c') (h : Headers) :
    (c.authorize h).Alike Credential.headerName (c'.authorize h) := by
  have htoken := hc.token
  unfold Client.authorize
  cases hs : c.identity.token with
  | none =>
    cases hs' : c'.identity.token with
    | none => exact .refl _ h
    | some _ => rw [hs, hs'] at htoken; cases htoken
  | some _ =>
    cases hs' : c'.identity.token with
    | none => rw [hs, hs'] at htoken; cases htoken
    | some _ => exact (Headers.Alike.refl _ h).attach _ _ _ _

end Client

/-! ## Operations -/

namespace Operation

variable {op op' : Operation} {c c' : Client}

theorem Alike.service (ho : op.Alike op') : op.service = op'.service := by
  cases ho <;> rfl

theorem Alike.asksNothing (ho : op.Alike op') : op.asksNothing = op'.asksNothing := by
  cases ho <;> rfl

theorem Alike.read (ho : op.Alike op') : op.read = op'.read := by
  cases ho <;> rfl

/-- The headers of alike operations of alike clients differ in the credentials only. -/
theorem Alike.headers (ho : op.Alike op') (hc : c.Alike c') :
    (op.headers c).Alike Credential.headerName (op'.headers c') := by
  cases ho with
  | issueToken => exact (Headers.Alike.refl _ ∅).attach _ _ _ _
  | same =>
    cases op with
    | issueToken username password => exact .refl _ _
    | createSession payload => exact (hc.authorize ∅).insert (.inl rfl)
    | getFile session dataset max => exact hc.authorize _
    | _ => exact hc.authorize ∅

/-- Their requests are alike, or there is none for the same reason. -/
theorem Alike.request (ho : op.Alike op') (hc : c.Alike c') (address : String) :
    (∃ e, op.request c address = .error e ∧ op'.request c' address = .error e) ∨
      ∃ r r', op.request c address = .ok r ∧ op'.request c' address = .ok r' ∧ r.Alike r' := by
  have hpath : op.path = op'.path := by cases ho <;> rfl
  have hbody : op.body = op'.body := by cases ho <;> rfl
  have hmethod : op.method = op'.method := by cases ho <;> rfl
  unfold Operation.request
  rw [← hpath, ← hbody, ← hmethod]
  cases Endpoint.join address op.path with
  | error e => exact .inl ⟨e, rfl, rfl⟩
  | ok uri =>
    cases op.body with
    | error e => exact .inl ⟨e, rfl, rfl⟩
    | ok body => exact .inr ⟨_, _, rfl, rfl, rfl, rfl, ho.headers hc, rfl⟩

end Operation

/-! ## Sessions -/

section Sessions

variable {t : Transport σ} {R : σ → σ → Prop} {c c' : Client}

theorem Client.Alike.perform (ht : t.Blind R) (hc : c.Alike c') {op op' : Operation}
    (ho : op.Alike op') : Step.Alike t R (c.perform op) (c'.perform op') := by
  cases h : op.asksNothing with
  | true =>
    rw [Client.perform_of_asksNothing h, Client.perform_of_asksNothing (ho.asksNothing ▸ h)]
    exact .pure _
  | false =>
    rw [Client.perform_eq h, Client.perform_eq (ho.asksNothing ▸ h)]
    unfold Client.resolve Client.exchange
    rw [← ho.service, ← hc.caller]
    refine (Step.Alike.resolve ht _ _).bind fun address => ?_
    rcases ho.request hc address with ⟨e, he, he'⟩ | ⟨r, r', hr, hr', hrr⟩
    · rw [he, he']
      exact fun _ _ hs => ⟨rfl, .nil, rfl, hs⟩
    · rw [hr, hr', ← ho.read]
      unfold Client.call
      rw [← hc.caller]
      exact (Step.Alike.call ht _ hrr).bind fun _ => .ofExcept _

/-- Alike clients do alike actions alike. -/
theorem Client.Alike.act (ht : t.Blind R) (hc : c.Alike c') {a a' : Action ρ}
    (ha : a.Alike a') : Step.Alike t R (c.act a) (c'.act a') := by
  cases ha with
  | withToken => exact .pure _
  | perform ho => exact (hc.perform ht ho).map _
  | same =>
    cases a with
    | resolve name =>
      simp only [Client.act, Client.resolve, ← hc.caller]
      exact (Step.Alike.resolve ht _ _).map _
    | perform op => exact (hc.perform ht (.same op)).map _
    | fetch read uri =>
      refine Step.Alike.map _ ?_
      unfold Client.fetch Client.call
      rw [← hc.caller]
      refine (Step.Alike.call ht _ ?_).bind fun _ => .ofExcept _
      exact ⟨rfl, rfl, hc.authorize ∅, rfl⟩
    | call request =>
      simp only [Client.act, Client.call, ← hc.caller]
      exact (Step.Alike.call ht _ (.refl _)).map _
    | withToken token => exact .pure _
    | diagnose =>
      simp only [Client.act, hc.shown]
      exact .pure _

/-- The locator is asked in a way that depends on the caller only. -/
theorem Client.Alike.head?_sent (hc : c.Alike c') {a a' : Action ρ} (ha : a.Alike a')
    (h : a.looksUp = true) (t : Transport σ) (s s' : σ) :
    ((c.act a).run t s).sent.head? = ((c'.act a').run t s').sent.head? := by
  -- The requests of the two operations differ, but those of their lookups do not.
  have hperform : ∀ {op op' : Operation}, op.Alike op' →
      ((c.act (.perform op : Action ρ)).run t s).sent.head? =
        ((c'.act (.perform op' : Action ρ)).run t s').sent.head? := by
    intro op op' ho
    simp only [Client.act, Step.sent_map]
    cases hn : op.asksNothing with
    | true =>
      rw [Client.perform_of_asksNothing hn, Client.perform_of_asksNothing (ho.asksNothing ▸ hn)]
      rfl
    | false =>
      rw [Client.head?_sent_perform hn, Client.head?_sent_perform (ho.asksNothing ▸ hn), hc.caller]
  cases ha with
  | perform ho => exact hperform ho
  | withToken => cases h
  | same =>
    cases a with
    | resolve name =>
      simp only [Client.act, Step.sent_map, Client.resolve, Step.sent_resolve, hc.caller]
    | perform op => exact hperform (.same op)
    | _ => cases h

/-- Sessions of alike actions with alike clients stay alike, if they begin in related
states. -/
theorem session_alike (ht : t.Blind R) (hc : c.Alike c') {actions actions' : List (Action ρ)}
    (hactions : Forall₂ Action.Alike actions actions') {s s' : σ} (hs : R s s') :
    Forall₂ (Moment.Alike R) (session t c s actions) (session t c' s' actions') := by
  -- The clients and the states change with each action; both relations are kept.
  induction hactions generalizing c c' s s' with
  | nil => exact .nil
  | @cons a a' rest rest' ha _ ih =>
    have hrun := hc.act ht ha s s' hs
    have hafter := hc.after ha
    refine .cons ⟨hrun, fun h => ?_, hafter.shown⟩ (ih hafter hrun.state)
    exact hc.head?_sent ha h t s s'

end Sessions

/-- Secrets stay in credentials. Two sessions that differ in tokens, usernames and
passwords only go alike from action to action, both over made-up replies and over HTTP
with a far end that answers from a list: same results, same events, same diagnostics, the
same requests but for the value of the credentials, and the very same requests to the
locator. -/
theorem secrets_stay_in_credentials (c c' : Client) (hc : c.Alike c')
    (actions actions' : List (Action ρ)) (hactions : Forall₂ Action.Alike actions actions') :
    (∀ replies, Forall₂ (Moment.Alike Eq) (session .scripted c replies actions)
      (session .scripted c' replies actions')) ∧
    ∀ settings script, Forall₂ (Moment.Alike Peer.Script.Alike)
      (session (.http settings Peer.scripted) c script actions)
      (session (.http settings Peer.scripted) c' script actions') := by
  refine ⟨fun replies => ?_, fun settings script => ?_⟩
  · exact session_alike Transport.scripted_blind hc hactions rfl
  · exact session_alike (Transport.http_scripted_blind settings) hc hactions (.refl script)

/-- What two operations send, if the second one is done with a new token. -/
theorem sent_session_withToken {t : Transport σ} {s : σ} {c : Client} {op op' : Operation}
    {token : String} {request request' : Request} (hasks : op.asksNothing = false)
    (hasks' : op'.asksNothing = false) (hop : Composed c op t s request)
    (hop' : Composed (c.withToken token) op' t (t.after s [c.caller.lookup, request]) request') :
    (session t c s [.perform op, .withToken token, (.perform op' : Action ρ)]).map (·.run.sent) =
      [[c.caller.lookup, request], [], [c.caller.lookup, request']] := by
  have hsent := sent_of_composed hasks hop
  have hstate : (((c.act (.perform op : Action ρ)).run t s).state) =
      t.after s [c.caller.lookup, request] := by
    rw [← hsent, Client.act, (Step.Sequential.perform c op).map _ t s, Step.sent_map]
  have hsent' := sent_of_composed hasks' hop'
  rw [← hstate] at hsent'
  simp only [session, List.map_cons, List.map_nil, Client.act, Step.sent_map, hsent]
  exact congrArg (fun last => [[c.caller.lookup, request], [], last]) hsent'

/-- Two sessions that issue a token, go on with it and list the sessions. Both send four requests,
and two of these have different credentials. -/
theorem secrets_stay_in_credentials_issueToken :
    let listing := Utf8.encode "[[\"auth\",\"b:\"],[\"session-db\",\"c:\"]]"
    let hosts := Utf8.encode "[[\"auth\",\"http://b\"],[\"session-db\",\"http://c\"]]"
    let replies : List ScriptedReply :=
      [.reply 200 "" ∅ listing none, .reply 200 "" ∅ [0x31] none, .reply 200 "" ∅ listing none]
    let script : Peer.Script :=
      ⟨[.complete 200 [] hosts, .complete 200 [] [0x31], .complete 200 [] hosts], []⟩
    let client (locator token : String) : Client := .new (.internal locator) (some token)
    let actions (username password token : String) : List (Action Json.Value) :=
      [.perform (.issueToken username password), .withToken token, .perform .listSessions]
    let requests (username password token : String) : List (List Request) :=
      [[(Caller.internal "a:").lookup, ⟨.post, "b:/tokens/",
        (∅ : Headers).insert "Authorization" (Credential.basic username password), none⟩], [],
        [(Caller.internal "a:").lookup, ⟨.get, "c:/sessions/",
          (∅ : Headers).insert "Authorization" (Credential.basic "token" token), none⟩]]
    let ours := session .scripted (client "a:" "t") replies (actions "n" "p" "v")
    let theirs := session .scripted (client "a:" "u") replies (actions "m" "q" "w")
    ours.map (·.run.sent) = requests "n" "p" "v" ∧ theirs.map (·.run.sent) = requests "m" "q" "w" ∧
      requests "n" "p" "v" ≠ requests "m" "q" "w" ∧ Forall₂ (Moment.Alike Eq) ours theirs ∧
      Forall₂ (Moment.Alike Peer.Script.Alike)
        (session (.http .default Peer.scripted) (client "http://a" "t") script
          (actions "n" "p" "v"))
        (session (.http .default Peer.scripted) (client "http://a" "u") script
          (actions "m" "q" "w")) := by
  intro listing hosts replies script client actions requests ours theirs
  have hparse : Json.parseList (Utf8.encode "[[\"auth\",\"b:\"],[\"session-db\",\"c:\"]]") =
      .ok [.array [.string "auth", .string "b:"],
        .array [.string "session-db", .string "c:"]] := by cbv
  have hlocator : Endpoint.join "a:" Endpoint.services = .ok "a:/services" := rfl
  have hauth : Endpoint.join "b:" Endpoint.tokens = .ok "b:/tokens/" := rfl
  have hdb : Endpoint.join "c:" Endpoint.sessions = .ok "c:/sessions/" := rfl
  have hsent (username password token token' : String) :
      (session .scripted (client "a:" token) replies (actions username password token')).map
        (·.run.sent) = requests username password token' := by
    have hissue : Composed (client "a:" token) (.issueToken username password) .scripted replies
        ⟨.post, "b:/tokens/",
          (∅ : Headers).insert "Authorization" (Credential.basic username password), none⟩ :=
      ⟨⟨_, "b:", ⟨⟨_, hlocator⟩, _, rfl, rfl, hparse⟩, rfl, hauth⟩, rfl, rfl, rfl⟩
    have hlist : Composed ((client "a:" token).withToken token') .listSessions .scripted
        (Transport.scripted.after replies [(client "a:" token).caller.lookup, ⟨.post, "b:/tokens/",
          (∅ : Headers).insert "Authorization" (Credential.basic username password), none⟩])
        ⟨.get, "c:/sessions/",
          (∅ : Headers).insert "Authorization" (Credential.basic "token" token'), none⟩ :=
      ⟨⟨_, "c:", ⟨⟨_, hlocator⟩, _, rfl, rfl, hparse⟩, rfl, hdb⟩, rfl, rfl, rfl⟩
    exact sent_session_withToken rfl rfl hissue hlist
  have hclient (locator : String) : (client locator "t").Alike (client locator "u") := ⟨rfl, rfl⟩
  have hactions : Forall₂ Action.Alike (actions "n" "p" "v") (actions "m" "q" "w") :=
    .cons (.perform (.issueToken ..)) (.cons (.withToken ..) (.cons (.same _) .nil))
  have hdiffer : requests "n" "p" "v" ≠ requests "m" "q" "w" := by decide
  refine ⟨hsent "n" "p" "t" "v", hsent "m" "q" "u" "w", hdiffer, ?_, ?_⟩
  · exact (secrets_stay_in_credentials _ _ (hclient "a:") _ _ hactions).1 replies
  · exact (secrets_stay_in_credentials _ _ (hclient "http://a") _ _ hactions).2 .default script

end ServiceLocator
