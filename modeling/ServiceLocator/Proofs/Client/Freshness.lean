import ServiceLocator.Client.Session
import ServiceLocator.Proofs.Client.Stages

/-!
Freshness. Nothing is kept from one action of a session to the next but the token and what
is left of the transport: each action goes as with a new client that has the latest token,
over a transport that has already answered the earlier requests.
-/
namespace ServiceLocator

variable {σ ρ : Type}

/-- The token that an action gives to the client. -/
def Action.token? : Action ρ → Option String
  | .withToken token => some token
  | _ => none

/-- The last token that was given, or the one that a session began with. -/
def latestToken (token : Option String) (actions : List (Action ρ)) : Option String :=
  (actions.filterMap Action.token?).getLast?.or token

/-- The requests of moments, in order. -/
def requestsOf (moments : List (Moment σ ρ)) : List Request :=
  moments.flatMap (·.run.sent)

/-- The moment at which a client in a state of the transport does something. -/
def Client.moment (c : Client) (t : Transport σ) (s : σ) (action : Action ρ) : Moment σ ρ :=
  ⟨action, (c.act action).run t s, c.after action⟩

theorem requestsOf_cons (m : Moment σ ρ) (moments : List (Moment σ ρ)) :
    requestsOf (m :: moments) = m.run.sent ++ requestsOf moments := List.flatMap_cons

/-! ## Actions -/

open Step in
/-- An action moves its transport on by its requests and in no other way. -/
theorem Step.Sequential.act (c : Client) (action : Action ρ) :
    Sequential (σ := σ) (c.act action) := by
  cases action with
  | resolve name => exact (Sequential.resolve _ _).map _
  | perform op => exact (Sequential.perform c op).map _
  | fetch read uri => exact ((Sequential.call _ _).bind fun _ => .ofExcept _).map _
  | call request => exact (Sequential.call _ _).map _
  | withToken token => exact .pure _
  | diagnose => exact .pure _

/-- A client keeps its caller and the latest token. -/
theorem Client.after_eq (c : Client) (action : Action ρ) :
    c.after action = new c.caller (latestToken c.identity.token [action]) := by
  cases action <;> rfl

/-- What was given first counts only if nothing is given later. -/
theorem latestToken_cons (token : Option String) (action : Action ρ) (rest : List (Action ρ)) :
    latestToken token (action :: rest) = latestToken (latestToken token [action]) rest := by
  unfold latestToken
  rw [List.filterMap_cons, List.filterMap_cons]
  cases action.token? with
  | none => rfl
  | some given =>
    show ((given :: _).getLast?).or token = _
    rw [List.getLast?_cons]
    cases (rest.filterMap Action.token?).getLast? <;> rfl

/-! ## Sessions -/

theorem session_cons (t : Transport σ) (c : Client) (s : σ) (action : Action ρ)
    (rest : List (Action ρ)) :
    session t c s (action :: rest) = c.moment t s action ::
      session t (c.after action) (t.after s (c.moment t s action).run.sent) rest := by
  have hstate : (c.moment t s action).run.state = t.after s (c.moment t s action).run.sent :=
    Step.Sequential.act c action t s
  rw [← hstate]
  rfl

/-- Every action of a session goes as with a new client, after the requests of the earlier
actions. -/
theorem session_getElem? (t : Transport σ) (c : Client) (s : σ) (actions : List (Action ρ))
    (k : Nat) :
    (session t c s actions)[k]? = actions[k]?.map fun action =>
      (Client.new c.caller (latestToken c.identity.token (actions.take k))).moment t
        (t.after s (requestsOf ((session t c s actions).take k))) action := by
  induction actions generalizing c s k with
  | nil => rfl
  | cons action rest ih =>
    rw [session_cons]
    cases k with
    | zero => rfl
    | succ k =>
      -- The first action leaves the transport after its requests and the client with its token.
      rw [List.getElem?_cons_succ, List.getElem?_cons_succ, List.take_succ_cons,
        List.take_succ_cons, ih, latestToken_cons, requestsOf_cons,
        Transport.after_append, c.after_eq]
      rfl

/-- A request of an operation's own goes to an address from the listing that answered the
request before it. -/
theorem address_of_sent {c : Client} {op : Operation} {replies : List ScriptedReply}
    {request : Request} (h : ((c.perform op).run .scripted replies).sent[1]? = some request) :
    ∃ reply entries address,
      replies.head?.map (·.answer c.caller.lookup) = some (.ok reply) ∧
      reply.status.isSuccess = true ∧ Json.parseList reply.body = .ok entries ∧
      Listing.select (Listing.descriptors entries) op.service.role c.caller = .ok address ∧
      Endpoint.join address op.path = .ok request.uri := by
  cases hasks : op.asksNothing with
  | true =>
    rw [Client.perform_of_asksNothing hasks] at h
    cases h
  | false =>
    rcases sent_perform_cases (c := c) (t := .scripted) (s := replies) hasks with
      ⟨_, _, hsent⟩ | ⟨_, _, hsent⟩ | ⟨request', hcomposed, hsent⟩
    · rw [hsent] at h
      cases h
    · rw [hsent] at h
      cases h
    · rw [hsent] at h
      cases h
      obtain ⟨entries, address, hlisted, hselect, hjoin⟩ := hcomposed.located
      obtain ⟨reply, hanswer, hs, hparse⟩ := hlisted.answered
      refine ⟨reply, entries, address, ?_, hs, hparse, hselect, hjoin⟩
      cases replies with
      | nil => cases hanswer
      | cons first rest => exact congrArg some hanswer

/-- Every action of a session starts afresh. Over made-up replies it goes as with a new
client that has the latest token, from the first reply on that no earlier request has used
up; and an operation's own request goes to an address from the listing in that reply. -/
theorem session_starts_afresh (caller : Caller) (token : Option String)
    (replies : List ScriptedReply) (actions : List (Action ρ)) (k : Nat) :
    let moments := session .scripted (Client.new caller token) replies actions
    let used := (requestsOf (moments.take k)).length
    moments[k]? = actions[k]?.map
      ((Client.new caller (latestToken token (actions.take k))).moment .scripted
        (replies.drop used)) ∧
    ∀ op m request, moments[k]? = some m → m.action = .perform op →
      m.run.sent[1]? = some request → ∃ reply entries address,
        replies[used]?.map (·.answer caller.lookup) = some (.ok reply) ∧
        reply.status.isSuccess = true ∧ Json.parseList reply.body = .ok entries ∧
        Listing.select (Listing.descriptors entries) op.service.role caller = .ok address ∧
        Endpoint.join address op.path = .ok request.uri := by
  intro moments used
  have hmoments : moments[k]? = actions[k]?.map
      ((Client.new caller (latestToken token (actions.take k))).moment .scripted
        (replies.drop used)) := by
    have hgo := session_getElem? .scripted (Client.new caller token) replies actions k
    rw [Transport.after_scripted] at hgo
    exact hgo
  refine ⟨hmoments, fun op m request hm haction hrequest => ?_⟩
  rw [hmoments, Option.map_eq_some_iff] at hm
  obtain ⟨action, _, rfl⟩ := hm
  cases haction
  rw [Client.moment, Client.act, Step.sent_map] at hrequest
  obtain ⟨reply, entries, address, hanswer, hrest⟩ := address_of_sent hrequest
  rw [List.head?_drop] at hanswer
  exact ⟨reply, entries, address, hanswer, hrest⟩

/-- The same session is asked for twice. In between the token changes, and the service has
moved. -/
theorem session_starts_afresh_getSession :
    let op : Operation := .getSession "7"
    let actions : List (Action Json.Value) := [.perform op, .withToken "v", .perform op]
    let replies : List ScriptedReply :=
      [.reply 200 "" ∅ (Utf8.encode "[[\"session-db\",\"b:\"]]") none,
        .reply 200 "" ∅ (Utf8.encode "1") none,
        .reply 200 "" ∅ (Utf8.encode "[[\"session-db\",\"c:\"]]") none]
    let caller : Caller := .internal "a:"
    let moments := session .scripted (.new caller (some "u")) replies actions
    moments[2]? = some ((Client.new caller (some "v")).moment .scripted (replies.drop 2)
      (.perform op)) ∧
    moments[2]?.map (·.run.sent) = some [caller.lookup,
      ⟨.get, "c:/sessions/7", op.headers (.new caller (some "v")), none⟩] := by
  intro op actions replies caller moments
  have hlocator : Endpoint.join "a:" Endpoint.services = .ok "a:/services" := rfl
  have hcomposed : Composed (.new caller (some "u")) op .scripted replies
      ⟨.get, "b:/sessions/7", op.headers (.new caller (some "u")), none⟩ := by
    have hparse : Json.parseList (Utf8.encode "[[\"session-db\",\"b:\"]]") =
        .ok [.array [.string "session-db", .string "b:"]] := by cbv
    have haddress : Endpoint.join "b:" (Endpoint.session "7") = .ok "b:/sessions/7" := rfl
    exact ⟨⟨_, "b:", ⟨⟨_, hlocator⟩, _, rfl, rfl, hparse⟩, rfl, haddress⟩, rfl, rfl, rfl⟩
  have hcomposed' : Composed (.new caller (some "v")) op .scripted (replies.drop 2)
      ⟨.get, "c:/sessions/7", op.headers (.new caller (some "v")), none⟩ := by
    have hparse : Json.parseList (Utf8.encode "[[\"session-db\",\"c:\"]]") =
        .ok [.array [.string "session-db", .string "c:"]] := by cbv
    have haddress : Endpoint.join "c:" (Endpoint.session "7") = .ok "c:/sessions/7" := rfl
    exact ⟨⟨_, "c:", ⟨⟨_, hlocator⟩, _, rfl, rfl, hparse⟩, rfl, haddress⟩, rfl, rfl, rfl⟩
  -- From here on only what the replies say counts, not how they are written.
  clear_value replies
  have hused : (requestsOf (moments.take 2)).length = 2 := by
    have hfirst := sent_of_composed rfl hcomposed
    simp only [moments, actions, session_cons, List.take_succ_cons, List.take_zero, requestsOf_cons,
      Client.moment, Client.act, Step.sent_map, hfirst]
    rfl
  obtain ⟨hmoments, _⟩ := session_starts_afresh caller (some "u") replies actions 2
  rw [hused] at hmoments
  have hmoment : moments[2]? = some ((Client.new caller (some "v")).moment .scripted
      (replies.drop 2) (.perform op)) := hmoments
  refine ⟨hmoment, ?_⟩
  rw [hmoment, Option.map_some, Client.moment, Client.act, Step.sent_map,
    sent_of_composed rfl hcomposed']
  rfl

end ServiceLocator
