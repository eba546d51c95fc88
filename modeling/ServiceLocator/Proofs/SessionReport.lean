import ServiceLocator.Proofs.Client.Credentials
import ServiceLocator.Proofs.Client.Events
import ServiceLocator.Proofs.Client.Fetched
import ServiceLocator.Proofs.Json.Object
import ServiceLocator.Proofs.Json.Printer
import ServiceLocator.Proofs.Logging
import ServiceLocator.SessionReport

/-!
The session report as a whole. It takes four requests, each of which follows only if those
before it came to something (`SessionReport.four_requests_make_a_report`). The report succeeds
if all four did, and then has one line for each session, with one tab in it. Before it stands what
was logged, which is every event unless the environment says otherwise
(`SessionReport.passed_log_none`).
-/
namespace ServiceLocator

variable {σ : Type}

/-! ## The course of a report -/

namespace SessionReport

/-- The client that logs in: it is on the outside, and has no token. -/
def visitor (locator : String) : Client := .new (.external locator) none

/-- The request for the locator's listing. -/
def listingRequest (locator : String) : Request :=
  ⟨.get, Endpoint.joined locator "/services", ∅, none⟩

/-- The request for a token. -/
def tokenRequest (auth username password : String) : Request :=
  ⟨.post, Endpoint.joined auth "/tokens/",
    (∅ : Headers).insert "Authorization" (Credential.basic username password), none⟩

/-- The request for the sessions. -/
def sessionsRequest (db key : String) : Request :=
  ⟨.get, Endpoint.joined db "/sessions/",
    (∅ : Headers).insert "Authorization" (Credential.basic "token" key), none⟩

/-- The requests of a report that succeeds. -/
def plan (locator username password auth key db : String) : List Request :=
  [listingRequest locator, tokenRequest auth username password, listingRequest locator,
    sessionsRequest db key]

/-- The locator's listing gives a service this public address. -/
def Publishes (t : Transport σ) (s : σ) (locator name address : String) : Prop :=
  ∃ entries d, t.Yields s (listingRequest locator) (.array entries) ∧
    d ∈ Listing.descriptors entries ∧ d.role = name ∧ d.publicUri = some address

/-- The reply to a request is an object with this text as the token's key. -/
def Issues (t : Transport σ) (s : σ) (request : Request) (key : String) : Prop :=
  ∃ members, t.Yields s request (.object members) ∧
    members.lookup "tokenKey" = some (.string key)

theorem Publishes.of_offers {locator name address : String} {c : Client} {t : Transport σ} {s : σ}
    (hc : c.caller = .external locator) (h : Offers c t s name address) :
    Publishes t s locator name address := by
  obtain ⟨entries, d, hlisted, hd, hrole, haddress⟩ := h.listed
  have hyields := hlisted.yields
  rw [hc] at hyields haddress
  exact ⟨entries, d, hyields, hd, hrole, haddress⟩

variable {locator username password : String} {t : Transport σ} {s : σ} {sent : List Request}
  {result : Except Problem (List Json.Value)}

/-- Logging in. -/
def login (locator username password : String) : Step σ Product :=
  (visitor locator).perform (.issueToken username password)

/-- Listing the sessions after logging in. -/
def listing (locator key : String) : Step σ Product :=
  ((visitor locator).withToken key).perform .listSessions

/-- The token's key, if there is one to go on with. -/
def keyOf : Except CallError Product → Except Problem String
  | .error e => .error (.ofError .login e)
  | .ok token =>
    match (token.toValue.get "tokenKey").string? with
    | none => .error .noTokenKey
    | some key => .ok key

/-- What a report makes of the sessions. -/
def conclude : Except CallError Product → Except Problem (List Json.Value)
  | .ok sessions => .ok sessions.toValue.items
  | .error e => .error (.ofError .listing e)

theorem keyOf_eq_ok {token : Except CallError Product} {key : String} :
    keyOf token = .ok key ↔
      ∃ product, token = .ok product ∧ (product.toValue.get "tokenKey").string? = some key := by
  cases token with
  | error e => simp [keyOf]
  | ok product =>
    cases hkey : (product.toValue.get "tokenKey").string? <;> simp [keyOf, hkey]

/-- How a report goes: the requests and what comes of it. -/
inductive Course (locator username password : String) (t : Transport σ) (s : σ) :
    List Request → Except Problem (List Json.Value) → Prop
  | refused {problem} :
      keyOf ((login locator username password).run t s).result = .error problem →
      Course locator username password t s ((login locator username password).run t s).sent
        (.error problem)
  | admitted {key} :
      keyOf ((login locator username password).run t s).result = .ok key →
      Course locator username password t s
        (((login locator username password).run t s).sent ++
          ((listing locator key).run t ((login locator username password).run t s).state).sent)
        (conclude
          ((listing locator key).run t ((login locator username password).run t s).state).result)

/-- What follows an attempt to log in. -/
def afterLogin (locator : String) :
    Except Problem String → Step σ (Except Problem (List Json.Value))
  | .error problem => pure (.error problem)
  | .ok key => (listing locator key).attempt >>= fun sessions => pure (conclude sessions)

theorem sessions_eq (locator username password : String) :
    (sessions locator username password : Step σ (Except Problem (List Json.Value))) =
      (login locator username password).attempt >>= fun token =>
        afterLogin locator (keyOf token) := by
  refine bind_congr fun token => ?_
  cases token with
  | error e => rfl
  | ok product =>
    dsimp only [keyOf]
    cases (product.toValue.get "tokenKey").string? with
    | none => rfl
    | some key =>
      refine bind_congr fun sessions => ?_
      cases sessions <;> rfl

variable {key : String}

theorem result_sessions (h : keyOf ((login locator username password).run t s).result = .ok key) :
    ((sessions locator username password).run t s).result = .ok (conclude
      ((listing locator key).run t ((login locator username password).run t s).state).result) := by
  rw [sessions_eq, Step.result_attempt_bind, h, afterLogin, Step.result_attempt_bind]
  rfl

theorem sent_sessions (h : keyOf ((login locator username password).run t s).result = .ok key) :
    ((sessions locator username password).run t s).sent =
      ((login locator username password).run t s).sent ++
        ((listing locator key).run t ((login locator username password).run t s).state).sent := by
  rw [sessions_eq, Step.sent_attempt_bind, h, afterLogin, Step.sent_attempt_bind, Step.run_pure,
    Run.of_sent, List.append_nil]

/-- A report always has a result. -/
theorem exists_course (locator username password : String) (t : Transport σ) (s : σ) :
    ∃ result, ((sessions locator username password).run t s).result = .ok result ∧
      Course locator username password t s
        ((sessions locator username password).run t s).sent result := by
  cases hkey : keyOf ((login locator username password).run t s).result with
  | error problem =>
    have hcourse := Course.refused hkey
    rw [← List.append_nil ((login locator username password).run t s).sent] at hcourse
    rw [sessions_eq, Step.result_attempt_bind, Step.sent_attempt_bind, hkey]
    exact ⟨.error problem, rfl, hcourse⟩
  | ok key =>
    rw [result_sessions hkey, sent_sessions hkey]
    exact ⟨_, rfl, .admitted hkey⟩

/-! ## Requests -/

/-- A key is one that was issued, after the authentication service was looked up. -/
theorem exists_auth
    (h : keyOf ((login locator username password).run t s).result = .ok key) :
    ∃ auth, ((login locator username password).run t s).sent =
        [listingRequest locator, tokenRequest auth username password] ∧
      Publishes t s locator "auth" auth ∧
      Issues t (t.after s [listingRequest locator]) (tokenRequest auth username password) key := by
  have hfetches := Operation.Fetches.issueToken username password
  obtain ⟨product, hproduct, hkey⟩ := keyOf_eq_ok.mp h
  obtain ⟨request, v, hsent, hyields, rfl⟩ := hfetches.result_eq_ok.mp hproduct
  obtain ⟨members, rfl, hmember⟩ := Json.Value.string?_get_eq_some.mp hkey
  have hcomposed := composed_of_sent hsent
  obtain ⟨auth, hoffers, rfl⟩ := hfetches.eq_bare hcomposed
  exact ⟨auth, sent_of_composed hfetches.asks hcomposed, .of_offers rfl hoffers,
    members, hyields, hmember⟩

/-- The sessions are listed where logging in has left the transport. -/
theorem state_login (locator username password : String) (t : Transport σ) (s : σ) :
    ((login locator username password).run t s).state =
      t.after s ((login locator username password).run t s).sent :=
  Step.Sequential.perform _ _ t s

theorem length_sent_login_le (locator username password : String) (t : Transport σ) (s : σ) :
    ((login locator username password).run t s).sent.length ≤ 2 := by
  obtain ⟨_, hsent, -⟩ :=
    (Operation.Fetches.issueToken username password).sent_begins (visitor locator) t s
  exact hsent.length_le

/-- Requests are the first ones of a plan, and each of them has what it needs. -/
structure Planned (locator username password auth key db : String) (t : Transport σ) (s : σ)
    (sent : List Request) : Prop where
  begins : sent <+: plan locator username password auth key db
  auth_published : 2 ≤ sent.length → Publishes t s locator "auth" auth
  key_issued : 3 ≤ sent.length →
    Issues t (t.after s (sent.take 1)) (tokenRequest auth username password) key
  db_published : 4 ≤ sent.length → Publishes t (t.after s (sent.take 2)) locator "session-db" db

theorem Course.exists_planned (h : Course locator username password t s sent result) :
    ∃ auth key db, Planned locator username password auth key db t s sent := by
  cases h with
  | refused =>
    obtain ⟨auth, hsent, hauth⟩ :=
      (Operation.Fetches.issueToken username password).sent_begins (visitor locator) t s
    have hlength := length_sent_login_le locator username password t s
    exact ⟨auth, "", "", hsent.trans (List.prefix_append [_, _] [_, _]),
      fun htwo => .of_offers rfl (hauth htwo), fun hthree => by omega, fun hfour => by omega⟩
  | @admitted key hkey =>
    obtain ⟨auth, hlogin, hauth, hissues⟩ := exists_auth hkey
    rw [state_login, hlogin]
    obtain ⟨db, hsent, hdb⟩ := Operation.Fetches.listSessions.sent_begins
      ((visitor locator).withToken key) t
      (t.after s [listingRequest locator, tokenRequest auth username password])
    have hplan := (List.prefix_append_right_inj
      [listingRequest locator, tokenRequest auth username password]).mpr hsent
    refine ⟨auth, key, db, hplan, fun _ => hauth, fun _ => hissues, fun hfour => ?_⟩
    rw [List.length_append] at hfour
    exact .of_offers rfl (hdb (Nat.le_of_add_le_add_left hfour))

/-! ## Results -/

theorem exists_login_iff :
    (∃ product, ((login locator username password).run t s).result = .ok product) ↔
      ((login locator username password).run t s).sent.length = 2 ∧
        t.Fulfils s ((login locator username password).run t s).sent :=
  (Operation.Fetches.issueToken username password).exists_product_iff

theorem exists_listing_iff :
    (∃ product, ((listing locator key).run t s).result = .ok product) ↔
      ((listing locator key).run t s).sent.length = 2 ∧
        t.Fulfils s ((listing locator key).run t s).sent :=
  Operation.Fetches.listSessions.exists_product_iff

theorem exists_conclude_iff {product : Except CallError Product} :
    (∃ sessions, conclude product = .ok sessions) ↔ ∃ p, product = .ok p := by
  cases product <;> simp [conclude]

section

variable {request : Request} {v : Json.Value}

theorem sent_listing (h : ((listing locator key).run t s).sent[1]? = some request) :
    ((listing locator key).run t s).sent = [listingRequest locator, request] :=
  sent_of_composed Operation.Fetches.listSessions.asks (composed_of_sent h)

theorem result_listing (h : ((listing locator key).run t s).sent[1]? = some request)
    (hyields : t.Yields (t.after s [listingRequest locator]) request v) :
    ((listing locator key).run t s).result = .ok (.value v) :=
  Operation.Fetches.listSessions.result_eq_ok.mpr ⟨request, v, h, hyields, rfl⟩

/-- The reply to the fourth request decides. -/
theorem Course.result_eq (h : Course locator username password t s sent result)
    (hrequest : sent[3]? = some request)
    (hyields : t.Yields (t.after s (sent.take 3)) request v) : result = .ok v.items := by
  cases h with
  | refused =>
    have hlength := length_sent_login_le locator username password t s
    rw [List.getElem?_eq_none (by omega)] at hrequest
    cases hrequest
  | @admitted key hkey =>
    obtain ⟨auth, hlogin, -⟩ := exists_auth hkey
    rw [state_login, hlogin] at hrequest hyields ⊢
    have hown : ((listing locator key).run t (t.after s
        [listingRequest locator, tokenRequest auth username password])).sent[1]? =
          some request := by
      simpa only [List.cons_append, List.nil_append, List.getElem?_cons_succ] using hrequest
    rw [sent_listing hown] at hyields
    rw [result_listing hown hyields]
    rfl

end

/-- A report succeeds exactly if all four requests are sent and answered with values. -/
theorem Course.exists_ok_iff (h : Course locator username password t s sent result) :
    (∃ sessions, result = .ok sessions) ↔ sent.length = 4 ∧ t.Fulfils s sent := by
  cases h with
  | refused =>
    have hlength := length_sent_login_le locator username password t s
    exact ⟨nofun, fun hfour => by omega⟩
  | @admitted key hkey =>
    obtain ⟨product, hproduct, -⟩ := keyOf_eq_ok.mp hkey
    obtain ⟨htwo, hfulfils⟩ := exists_login_iff.mp ⟨product, hproduct⟩
    rw [exists_conclude_iff, exists_listing_iff, List.length_append, htwo, Transport.fulfils_append,
      and_iff_right hfulfils, state_login]
    exact and_congr_left' (by omega)

/-! ## Lines -/

/-- The line of a session without its end. -/
def row (session : Json.Value) : List Char :=
  (session.get "sessionId").chars ++ '\t' :: (session.get "name").chars

/-- A text has one line for each session, in their order, and one tab in each of them. -/
structure Table (sessions : List Json.Value) (output : String) : Prop where
  lines : output.toList.splitOn '\n' = sessions.map row ++ [[]]
  tabs : ∀ session ∈ sessions, (row session).count '\t' = 1

theorem toList_line (session : Json.Value) : (line session).toList = row session ++ ['\n'] := by
  simp [line, row, Json.Value.text]

theorem newline_notMem_row (session : Json.Value) : '\n' ∉ row session := by
  have hcell (v : Json.Value) : '\n' ∉ v.chars := v.controlFree_chars.notMem (by decide)
  simp [row, hcell]

theorem count_tab_row (session : Json.Value) : (row session).count '\t' = 1 := by
  have hcell (v : Json.Value) : v.chars.count '\t' = 0 :=
    List.count_eq_zero.mpr (v.controlFree_chars.notMem (by decide))
  simp [row, hcell]

theorem table_join_line (sessions : List Json.Value) :
    Table sessions (String.join (sessions.map line)) := by
  refine ⟨?_, fun session _ => count_tab_row session⟩
  rw [String.toList_join]
  induction sessions with
  | nil => rfl
  | cons session rest ih =>
    rw [List.map_cons, List.flatMap_cons, toList_line, List.append_assoc, List.singleton_append,
      List.splitOn_append_cons_self_of_not_mem (newline_notMem_row session), ih]
    rfl

/-! ## Credentials -/

/-- These credentials and no others travel with a request. -/
def Carries (request : Request) (credentials : List String) : Prop :=
  ∀ settings wire, Transport.wire? settings request = some wire →
    wire.authorizations = credentials

theorem carries_tokenRequest (auth username password : String) :
    Carries (tokenRequest auth username password) [Credential.basic username password] := by
  intro settings wire hwire
  have hheaders : (tokenRequest auth username password).headers =
      (Operation.issueToken username password).headers (visitor "") := rfl
  exact authorizations_of_credential? hwire hheaders rfl

theorem carries_sessionsRequest (db key : String) :
    Carries (sessionsRequest db key) [Credential.basic "token" key] := by
  intro settings wire hwire
  have hheaders : (sessionsRequest db key).headers =
      Operation.listSessions.headers ((visitor "").withToken key) := rfl
  exact authorizations_of_credential? hwire hheaders rfl

/-- A locator without a login is asked without one. -/
theorem carries_listingRequest (hlogin : ∀ url, Url.parse locator = .ok url →
    url.username = "" ∧ url.password = "") : Carries (listingRequest locator) [] := by
  intro settings wire hwire
  obtain ⟨url, hurl, hspecial, hvalues⟩ := authorizations_of_wire? hwire
  have hnone : WireRequest.loginValue? url = none := by
    by_cases hbare : Endpoint.Bare locator
    · exact loginValue?_of_bare Endpoint.toList_services hurl hspecial hbare (by decide)
    · obtain ⟨base, hbase, hsame⟩ :=
        Endpoint.sameAuthority_of_joined Endpoint.toList_services hurl hspecial hbare
      obtain ⟨husername, hpassword⟩ := hlogin base hbase
      rw [WireRequest.loginValue?, hsame.credentials?,
        Url.credentials?_eq_none husername hpassword]
      rfl
  rw [hvalues, hnone]
  rfl

/-! ## Logs -/

theorem isTarget_library : Directive.IsTarget "locator_rest_client" :=
  ⟨by decide, by decide, by decide, by decide⟩

/-- Where the environment does not say, the events of the library are logged. -/
theorem log_none : log none = ⟨some ⟨[⟨"locator_rest_client", some .debug⟩]⟩⟩ := by
  have hdirective :
      directive = "locator_rest_client" ++ "=" ++ Threshold.word (some .debug) := by decide
  show (⟨some (Filter.parse directive)⟩ : Log) = _
  rw [hdirective, Filter.parse_level isTarget_library]

theorem passed_log_none {events : List Event} (h : ∀ e ∈ events, e.IsOwn) :
    (log none).passed events = events := by
  have happlies : ∀ origin ∈ Event.ownOrigins,
      Directive.appliesTo ⟨"locator_rest_client", some .debug⟩ origin = true := by decide
  have hallows : ∀ level, level = .debug ∨ level = .error →
      Threshold.allows (some .debug) level = true := by
    rintro _ (rfl | rfl) <;> rfl
  rw [log_none]
  refine List.filter_eq_self.mpr fun e he => Filter.allows_singleton.mpr ?_
  exact ⟨happlies _ (h e he).origin, hallows _ (h e he).level⟩

/-- The filter of the program stays, whatever is installed after it. -/
theorem installAll_log (environment : Option String) (later : List Filter) :
    (log environment).installAll later = (later.map fun _ => false, log environment) :=
  Log.installAll_open _ later

/-- The log can be turned off. -/
theorem passed_log_off (events : List Event) : (log (some "off")).passed events = [] := by
  have hlog : log (some "off") = ⟨some ⟨[⟨"", none⟩]⟩⟩ := by decide
  rw [hlog]
  refine List.filter_eq_nil_iff.mpr fun e _ hallows => ?_
  obtain ⟨-, hnone⟩ := Filter.allows_singleton.mp hallows
  cases hnone

theorem isOwn_of_mem_perform (c : Client) (op : Operation) (ht : t.Provided) (s : σ) :
    ∀ e ∈ ((c.perform op).run t s).events, e.IsOwn := by
  have hact := (Step.Built.act (ρ := Unit) c (.perform op)).isOwn ht s
  rwa [Client.act, Step.events_map] at hact

theorem isOwn_of_mem_sessions (locator username password : String) (ht : t.Provided) (s : σ) :
    ∀ e ∈ ((sessions locator username password).run t s).events, e.IsOwn := by
  have hlogin := isOwn_of_mem_perform (visitor locator) (.issueToken username password) ht s
  rw [sessions_eq, Step.events_attempt_bind]
  intro e he
  rcases List.mem_append.mp he with he | he
  · exact hlogin e he
  · cases hkey : keyOf ((login locator username password).run t s).result with
    | error problem =>
      rw [hkey] at he
      cases he
    | ok key =>
      rw [hkey, afterLogin, Step.events_attempt_bind] at he
      rcases List.mem_append.mp he with he | he
      · exact isOwn_of_mem_perform _ .listSessions ht _ e he
      · cases he

/-! ## Exits -/

theorem Problem.code_ne_zero (problem : Problem) : problem.code ≠ 0 := by
  have hone : (1 : UInt32) ≠ 0 := by decide
  have hcrash : (101 : UInt32) ≠ 0 := by decide
  cases problem <;> assumption

variable {logged : String}

/-- The exit tells whether there are sessions to report. -/
theorem code_of_eq_zero_iff :
    (Exit.of logged result).code = 0 ↔ ∃ sessions, result = .ok sessions := by
  cases result with
  | ok sessions => exact iff_of_true rfl ⟨sessions, rfl⟩
  | error problem => exact iff_of_false problem.code_ne_zero nofun

theorem output_of (logged : String) (result : Except Problem (List Json.Value)) :
    (Exit.of logged result).output = logged ++ report result := by
  cases result <;> rfl

theorem report_of_code_ne (h : (Exit.of logged result).code ≠ 0) : report result = "" := by
  cases result with
  | ok sessions => exact absurd rfl h
  | error problem => rfl

theorem find_of_length_ne {args : List String} (h : args.length ≠ 3) :
    (find args : Step σ (Except Problem (List Json.Value))) = pure (.error .usage) := by
  unfold find
  split
  · exact absurd rfl h
  · rfl

/-- Sessions are asked for, or the arguments are no good. -/
theorem find_cases {P : Step σ (Except Problem (List Json.Value)) → Prop}
    (husage : P (pure (.error .usage)))
    (hsessions : ∀ locator username password, P (sessions locator username password))
    (args : List String) : P (find args) := by
  unfold find
  split
  · exact hsessions _ _ _
  · exact husage

/-- Whatever the arguments are, something is found or there is a problem. -/
theorem exists_found (args : List String) (t : Transport σ) (s : σ) :
    ∃ result, ((find args).run t s).result = .ok result := by
  refine find_cases (P := fun step => ∃ result, (step.run t s).result = .ok result) ⟨_, rfl⟩
    (fun locator username password => ?_) args
  obtain ⟨result, hresult, -⟩ := exists_course locator username password t s
  exact ⟨result, hresult⟩

theorem isOwn_of_mem_find (args : List String) (ht : t.Provided) (s : σ) :
    ∀ e ∈ ((find args).run t s).events, e.IsOwn :=
  find_cases (P := fun step => ∀ e ∈ (step.run t s).events, e.IsOwn) (List.forall_mem_nil _)
    (fun locator username password => isOwn_of_mem_sessions locator username password ht s) args

end SessionReport

end ServiceLocator
