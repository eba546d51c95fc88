import ServiceLocator.Proofs.Client.Addresses
import ServiceLocator.Proofs.Client.Hosts

/-!
Slashes at the ends of addresses. A path is joined to what is left of a base without its last
slashes, so addresses that differ in these only (`SameButSlashes`) lead to the same requests and
the same results, for the locator's address as for those in its listing. An address of slashes
alone is still an address; the empty one is none.
-/
namespace ServiceLocator

open List (Forall₂)

variable {σ σ' : Type}

/-! ## Texts -/

/-- Texts that differ in nothing but the slashes at their ends. -/
def SameButSlashes (a b : String) : Prop :=
  ∃ stem m n, a.toList = stem ++ List.replicate m '/' ∧ b.toList = stem ++ List.replicate n '/'

/-- A URI is that of a base and a path, with one slash where they meet. -/
def JoinedOnce (base path uri : String) : Prop :=
  ∃ stem n back, base.toList = stem ++ List.replicate n '/' ∧ stem.getLast? ≠ some '/' ∧
    path.toList = '/' :: back ∧ back.head? ≠ some '/' ∧ uri.toList = stem ++ '/' :: back

namespace Endpoint

theorem trimSlashes_append (cs : List Char) (n : Nat) :
    trimSlashes (cs ++ List.replicate n '/') = trimSlashes cs := by
  induction n with
  | zero => rw [List.replicate_zero, List.append_nil]
  | succ n ih =>
    rw [List.replicate_succ', ← List.append_assoc, ← ih]
    exact List.rdropWhile_concat_pos _ _ _ (beq_self_eq_true '/')

theorem getLast?_trimSlashes (cs : List Char) : (trimSlashes cs).getLast? ≠ some '/' := by
  intro h
  have hne : trimSlashes cs ≠ [] := by
    intro hnil
    rw [hnil] at h
    cases h
  have hlast := List.rdropWhile_last_not (· == '/') cs hne
  rw [List.getLast?_eq_some_getLast hne, Option.some.injEq] at h
  exact hlast (beq_iff_eq.mpr h)

theorem joinedOnce_joined {base path : String} {back : List Char}
    (hpath : path.toList = '/' :: back) (hback : back.head? ≠ some '/') :
    JoinedOnce base path (joined base path) := by
  obtain ⟨n, hbase⟩ := exists_trimSlashes_append base.toList
  exact ⟨_, n, back, hbase, getLast?_trimSlashes _, hpath, hback, by rw [toList_joined, hpath]⟩

/-- An address of nothing but slashes has no scheme. -/
theorem join_slashes {base path : String} {n : Nat} (hbase : base.toList = List.replicate n '/')
    {back : List Char} (hpath : path.toList = '/' :: back) :
    join base path = .error (.invalidUri Url.Fault.relative.message) := by
  have htrim : trimSlashes base.toList = [] := by
    rw [hbase]
    exact trimSlashes_append [] n
  have htidy : Url.tidy (joined base path).toList = '/' :: Url.trailing back := by
    rw [tidy_joined hpath, stem, htrim]
    rfl
  have hparse : Url.parse (joined base path) = .error .relative := by
    unfold Url.parse
    rw [htidy]
    rfl
  unfold join
  rw [hparse]

end Endpoint

namespace SameButSlashes

variable {a b : String}

theorem trimSlashes_eq (h : SameButSlashes a b) :
    Endpoint.trimSlashes a.toList = Endpoint.trimSlashes b.toList := by
  obtain ⟨stem, m, n, ha, hb⟩ := h
  rw [ha, hb, Endpoint.trimSlashes_append, Endpoint.trimSlashes_append]

theorem joined (h : SameButSlashes a b) (path : String) :
    Endpoint.joined a path = Endpoint.joined b path := by
  unfold Endpoint.joined
  rw [h.trimSlashes_eq]

theorem join (h : SameButSlashes a b) (path : String) :
    Endpoint.join a path = Endpoint.join b path := by
  unfold Endpoint.join
  rw [h.joined]

end SameButSlashes

/-- Every endpoint opens with one slash. -/
theorem Operation.exists_path_eq (op : Operation) :
    ∃ back, op.path.toList = '/' :: back ∧ back.head? ≠ some '/' := by
  cases op <;>
    simp [path, Endpoint.tokens, Endpoint.sessions, Endpoint.session, Endpoint.datasets,
      Endpoint.dataset, String.toList_append]

/-! ## Callers and clients -/

/-- Callers of one role whose locators differ in slashes at most. -/
inductive Caller.SameButSlashes : Caller → Caller → Prop
  | external {a b} : ServiceLocator.SameButSlashes a b → SameButSlashes (.external a) (.external b)
  | internal {a b} : ServiceLocator.SameButSlashes a b → SameButSlashes (.internal a) (.internal b)

namespace Caller.SameButSlashes

variable {caller caller' : Caller}

theorem locator (h : caller.SameButSlashes caller') :
    ServiceLocator.SameButSlashes caller.locator caller'.locator := by
  cases h <;> assumption

theorem isExternal (h : caller.SameButSlashes caller') :
    caller.isExternal = caller'.isExternal := by
  cases h <;> rfl

theorem lookup (h : caller.SameButSlashes caller') : caller.lookup = caller'.lookup := by
  unfold Caller.lookup
  rw [h.locator.joined]

/-- A failure is worded for a role, not for a locator. -/
theorem verdict (h : caller.SameButSlashes caller') (reply : Reply) :
    reply.verdict caller = reply.verdict caller' := by
  unfold Reply.verdict
  cases reply.outcome with
  | success => rfl
  | failure f => cases h <;> rfl

end Caller.SameButSlashes

/-- Clients of one role with one token whose locators differ in slashes at most. -/
structure Client.SameButSlashes (c c' : Client) : Prop where
  caller : c.caller.SameButSlashes c'.caller
  token : c.identity.token = c'.identity.token

theorem Client.SameButSlashes.request {c c' : Client} (h : c.SameButSlashes c') {a b : String}
    (haddress : ServiceLocator.SameButSlashes a b) (op : Operation) :
    op.request c a = op.request c' b := by
  unfold Operation.request
  rw [haddress.join, Operation.headers_of_token h.token]

/-! ## Listings -/

/-- What two listings give as an address: the same, or texts that differ in slashes at most and
are not empty. -/
inductive SameAddress : Option String → Option String → Prop
  | same (address) : SameAddress address address
  | slashes {a b} : a ≠ "" → b ≠ "" → SameButSlashes a b → SameAddress (some a) (some b)

/-- Descriptors of one role whose addresses differ in slashes at most. -/
structure Descriptor.SameButSlashes (d d' : Descriptor) : Prop where
  role : d.role = d'.role
  uri : SameAddress d.uri d'.uri
  publicUri : SameAddress d.publicUri d'.publicUri

theorem Descriptor.SameButSlashes.refl (d : Descriptor) : d.SameButSlashes d :=
  ⟨rfl, .same _, .same _⟩

/-- Bodies that are listings of the same roles, with addresses that differ in slashes at most. -/
def SameListingButSlashes (body body' : Bytes) : Prop :=
  ∃ entries entries', Json.parseList body = .ok entries ∧ Json.parseList body' = .ok entries' ∧
    Forall₂ Descriptor.SameButSlashes (Listing.descriptors entries) (Listing.descriptors entries')

/-- An address is found in both or in neither. -/
theorem SameAddress.filter {a b : Option String} (h : SameAddress a b) :
    Option.Rel SameButSlashes (a.filter (· ≠ "")) (b.filter (· ≠ "")) := by
  cases h with
  | same =>
    cases a.filter (· ≠ "") with
    | none => exact .none
    | some a => exact .some ⟨a.toList, 0, 0, by simp, by simp⟩
  | slashes ha hb hab =>
    rw [Option.filter_some_pos (by simpa using ha), Option.filter_some_pos (by simpa using hb)]
    exact .some hab

theorem Descriptor.SameButSlashes.addressFor {d d' : Descriptor} (h : d.SameButSlashes d')
    {caller caller' : Caller} (hcaller : caller.isExternal = caller'.isExternal) :
    Option.Rel ServiceLocator.SameButSlashes (d.addressFor caller) (d'.addressFor caller') := by
  unfold Descriptor.addressFor
  rw [hcaller]
  cases caller'.isExternal with
  | true => exact h.publicUri.filter
  | false => exact h.uri.filter

namespace Listing

variable {services services' : List Descriptor} {c c' : Client}

/-- The first descriptor of a role stands at the same place in both. -/
theorem find?_sameButSlashes (h : Forall₂ Descriptor.SameButSlashes services services')
    (hclient : c.SameButSlashes c') (name : String) :
    Option.Rel SameButSlashes
      ((services.find? (·.role == name)).bind (·.addressFor c.caller))
      ((services'.find? (·.role == name)).bind (·.addressFor c'.caller)) := by
  induction h with
  | nil => exact .none
  | @cons d d' _ _ hd _ ih =>
    rw [List.find?_cons, List.find?_cons, ← hd.role]
    cases d.role == name with
    | true => exact hd.addressFor hclient.caller.isExternal
    | false => exact ih

/-- Whatever is chosen, the request that it leads to is the same. -/
theorem select_bind_request (h : Forall₂ Descriptor.SameButSlashes services services')
    (hclient : c.SameButSlashes c') (name : String) (op : Operation) :
    (select services name c.caller >>= op.request c) =
      (select services' name c'.caller >>= op.request c') := by
  have hfound := find?_sameButSlashes h hclient name
  unfold select
  generalize (services.find? (·.role == name)).bind (·.addressFor c.caller) = found at hfound ⊢
  generalize (services'.find? (·.role == name)).bind (·.addressFor c'.caller) = found' at hfound ⊢
  cases hfound with
  | none => rw [error_bind, error_bind]
  | some hab =>
    rw [ok_bind, ok_bind]
    exact hclient.request hab op

theorem choose_bind_request {body body' : Bytes} (h : SameListingButSlashes body body')
    (hclient : c.SameButSlashes c') (name : String) (op : Operation) :
    (choose body name c.caller >>= op.request c) =
      (choose body' name c'.caller >>= op.request c') := by
  obtain ⟨entries, entries', hparse, hparse', hsame⟩ := h
  unfold choose
  rw [hparse, hparse']
  simp only [Except.mapError, ok_bind]
  exact select_bind_request hsame hclient name op

/-- The same body leads both clients to the same request, if to any. -/
theorem choose_bind_request_self (body : Bytes) (hclient : c.SameButSlashes c') (name : String)
    (op : Operation) :
    (choose body name c.caller >>= op.request c) =
      (choose body name c'.caller >>= op.request c') := by
  cases hparse : Json.parseList body with
  | error fault =>
    unfold choose
    rw [hparse]
    simp only [Except.mapError, error_bind]
  | ok entries =>
    have hsame : SameListingButSlashes body body :=
      ⟨entries, entries, hparse, hparse, List.forall₂_same.mpr fun d _ => .refl d⟩
    exact choose_bind_request hsame hclient name op

end Listing

/-! ## Runs -/

/-- Answers to a lookup: the same, or replies of success that differ in their listing only, and
there in the slashes of its addresses. -/
inductive Respelling : Except CallError Reply → Except CallError Reply → Prop
  | same (answer) : Respelling answer answer
  | listing {reply : Reply} {body' : Bytes} : reply.status.isSuccess = true →
      SameListingButSlashes reply.body body' →
      Respelling (.ok reply) (.ok { reply with body := body' })

/-- Runs of clients whose locators differ in slashes at most, with lookups that are answered
with listings that do, and with the same answers to what is asked later. -/
structure Respelled (c : Client) (t : Transport σ) (s : σ) (c' : Client) (t' : Transport σ')
    (s' : σ') : Prop where
  client : c.SameButSlashes c'
  lookup : Respelling (t.answer s c.caller.lookup) (t'.answer s' c'.caller.lookup)
  later : ∀ request, t.answer (t.after s [c.caller.lookup]) request =
    t'.answer (t'.after s' [c'.caller.lookup]) request

/-- What a lookup comes to leads to the same request. -/
theorem Respelling.request {answer answer' : Except CallError Reply}
    (h : Respelling answer answer') {c c' : Client} (hclient : c.SameButSlashes c')
    (op : Operation) :
    (do
      let reply ← answer
      let body ← reply.verdict c.caller
      let address ← Listing.choose body op.service.role c.caller
      op.request c address) =
    (do
      let reply ← answer'
      let body ← reply.verdict c'.caller
      let address ← Listing.choose body op.service.role c'.caller
      op.request c' address) := by
  cases h with
  | same =>
    refine congrArg _ (funext fun reply => ?_)
    rw [hclient.caller.verdict]
    exact congrArg _ (funext fun body => Listing.choose_bind_request_self body hclient _ op)
  | @listing reply body' hs hsame =>
    have hbody : reply.verdict c.caller = .ok reply.body := Reply.verdict_eq_ok.mpr ⟨hs, rfl⟩
    have hbody' : Reply.verdict { reply with body := body' } c'.caller = .ok body' :=
      Reply.verdict_eq_ok.mpr ⟨hs, rfl⟩
    rw [ok_bind, ok_bind, hbody, hbody', ok_bind, ok_bind]
    exact Listing.choose_bind_request hsame hclient _ op

namespace Respelled

variable {c c' : Client} {t : Transport σ} {s : σ} {t' : Transport σ'} {s' : σ'}

/-- Made-up replies of which the first differs in the slashes of its listing. -/
theorem scripted (hclient : c.SameButSlashes c') {first first' : ScriptedReply}
    (h : Respelling (first.answer c.caller.lookup) (first'.answer c.caller.lookup))
    (rest : List ScriptedReply) :
    Respelled c .scripted (first :: rest) c' .scripted (first' :: rest) := by
  rw [hclient.caller.lookup] at h
  exact ⟨hclient, hclient.caller.lookup ▸ h, fun _ => rfl⟩

theorem sent_resolve (hclient : c.SameButSlashes c') (name : String) :
    ((c.resolve name).run t s).sent = ((c'.resolve name).run t' s').sent := by
  unfold Client.resolve
  rw [Step.sent_resolve, Step.sent_resolve, hclient.caller.locator.join, hclient.caller.lookup]

theorem compose (h : Respelled c t s c' t' s') (op : Operation) :
    c.compose op t s = c'.compose op t' s' := by
  unfold Client.compose Client.resolve
  simp only [Step.result_resolve, bind_assoc]
  rw [h.client.caller.locator.join]
  exact congrArg _ (funext fun _ => h.lookup.request h.client op)

theorem sameCourse (h : Respelled c t s c' t' s') (op : Operation) :
    Client.SameCourse op c t s c' t' s' where
  asked := sent_resolve h.client _
  composed := h.compose op
  concluded request := by
    rw [h.later]
    exact congrArg _ (funext fun reply => by rw [h.client.caller.verdict])

end Respelled

section

variable {c : Client} {op : Operation} {t : Transport σ} {s : σ}

/-- Wherever a request goes, its base and its path meet in one slash. -/
theorem joinedOnce_of_sent {request : Request}
    (h : request ∈ ((c.perform op).run t s).sent) :
    JoinedOnce c.caller.locator Endpoint.services request.uri ∨
      ∃ address, Offers c t s op.service.role address ∧
        JoinedOnce address op.path request.uri := by
  cases hasks : op.asksNothing with
  | true =>
    rw [Client.perform_of_asksNothing hasks] at h
    cases h
  | false =>
    have hlookup : JoinedOnce c.caller.locator Endpoint.services c.caller.lookup.uri :=
      Endpoint.joinedOnce_joined Endpoint.toList_services (by decide)
    rcases sent_perform_cases (c := c) (t := t) (s := s) hasks with
      ⟨_, _, hsent⟩ | ⟨_, _, hsent⟩ | ⟨own, hcomposed, hsent⟩ <;> rw [hsent] at h
    · cases h
    · rw [List.mem_singleton] at h
      rw [h]
      exact .inl hlookup
    · rcases List.mem_pair.mp h with rfl | rfl
      · exact .inl hlookup
      · obtain ⟨address, hoffers, huri⟩ := hcomposed.offers
        obtain ⟨back, hpath, hback⟩ := op.exists_path_eq
        rw [huri]
        exact .inr ⟨address, hoffers, Endpoint.joinedOnce_joined hpath hback⟩

/-- What the descriptor of a service gives for a caller is what is chosen. -/
theorem select_of_find? {services : List Descriptor} {name : String} {d : Descriptor}
    (h : services.find? (·.role == name) = some d) (caller : Caller) :
    Listing.select services name caller =
      match d.addressFor caller with
      | some address => .ok address
      | none => .error (.serviceNotFound name) := by
  unfold Listing.select
  rw [h]
  rfl

end

/-- Slashes at the ends of addresses do not matter. Runs of clients and over listings that
differ in these only send the same and have the same result; in whatever they send, base and
path meet in one slash. The empty address is not one of slashes: it counts as none, where one
of slashes alone is refused as relative. -/
theorem trailing_slashes_do_not_matter {c c' : Client} {t : Transport σ} {s : σ}
    {t' : Transport σ'} {s' : σ'} (h : Respelled c t s c' t' s') (op : Operation) :
    let run := (c.perform op).run t s
    let run' := (c'.perform op).run t' s'
    (run.sent = run'.sent ∧ run.result = run'.result) ∧
    (∀ request ∈ run.sent, JoinedOnce c.caller.locator Endpoint.services request.uri ∨
      ∃ address, Offers c t s op.service.role address ∧ JoinedOnce address op.path request.uri) ∧
    ∀ entries d, op.asksNothing = false → Listed c t s entries →
      (Listing.descriptors entries).find? (·.role == op.service.role) = some d →
        (d.listedFor c.caller = some "" →
          run.result = .error (.serviceNotFound op.service.role)) ∧
        ∀ address n, d.listedFor c.caller = some address →
          address.toList = List.replicate (n + 1) '/' →
            run.result = .error (.invalidUri Url.Fault.relative.message) := by
  refine ⟨⟨(h.sameCourse op).sent_perform, (h.sameCourse op).result_perform⟩,
    fun _ => joinedOnce_of_sent, fun entries d hasks hlisted hfind => ⟨fun hempty => ?_,
      fun address n haddress hslashes => ?_⟩⟩
  · have hnone : d.addressFor c.caller = none := by
      refine Option.eq_none_iff_forall_ne_some.mpr fun address haddress => ?_
      obtain ⟨hlisted, hne⟩ := Descriptor.addressFor_eq_some.mp haddress
      rw [hempty, Option.some.injEq] at hlisted
      exact hne hlisted.symm
    have hselect := select_of_find? hfind c.caller
    rw [hnone] at hselect
    exact (result_perform_eq_error hasks).mpr ⟨_, .choice hlisted hselect⟩
  · have hne : address ≠ "" := by
      rintro rfl
      cases hslashes
    have hselect := select_of_find? hfind c.caller
    rw [Descriptor.addressFor_eq_some.mpr ⟨haddress, hne⟩] at hselect
    obtain ⟨back, hpath, -⟩ := op.exists_path_eq
    have hjoin := Endpoint.join_slashes hslashes hpath
    exact (result_perform_eq_error hasks).mpr ⟨_, .endpoint hlisted hselect hjoin⟩

/-- Two clients, one with slashes after everything that is no empty address. Their requests for
a session are the same, a service with an empty address is none, and one at a slash is refused. -/
theorem trailing_slashes_do_not_matter_getSession :
    let c : Client := .new (.external "a:") none
    let c' : Client := .new (.external "a://") none
    let replies : List ScriptedReply := [.reply 200 "" ∅ (Utf8.encode
      "[[\"session-db\",null,\"p:\"],[\"auth\",null,\"\"],[\"file-broker\",null,\"/\"]]") none]
    let replies' : List ScriptedReply := [.reply 200 "" ∅ (Utf8.encode
      "[[\"session-db\",null,\"p:///\"],[\"auth\",null,\"\"],[\"file-broker\",null,\"//\"]]") none]
    Respelled c .scripted replies c' .scripted replies' ∧
      ((c'.perform (.getSession "7")).run .scripted replies').sent =
        [⟨.get, "a:/services", ∅, none⟩, ⟨.get, "p:/sessions/7", ∅, none⟩] ∧
      ((c.perform (.issueToken "u" "w")).run .scripted replies).result =
        .error (.serviceNotFound "auth") ∧
      ((c.perform (.getFile "7" "8" 1)).run .scripted replies).result =
        .error (.invalidUri "relative URL without a base") := by
  intro c c' replies replies'
  have hparse : Json.parseList (Utf8.encode
      "[[\"session-db\",null,\"p:\"],[\"auth\",null,\"\"],[\"file-broker\",null,\"/\"]]") =
      .ok [.array [.string "session-db", .null, .string "p:"],
        .array [.string "auth", .null, .string ""],
        .array [.string "file-broker", .null, .string "/"]] := by cbv
  have hparse' : Json.parseList (Utf8.encode
      "[[\"session-db\",null,\"p:///\"],[\"auth\",null,\"\"],[\"file-broker\",null,\"//\"]]") =
      .ok [.array [.string "session-db", .null, .string "p:///"],
        .array [.string "auth", .null, .string ""],
        .array [.string "file-broker", .null, .string "//"]] := by cbv
  have hclient : c.SameButSlashes c' := ⟨.external ⟨"a:".toList, 0, 2, rfl, rfl⟩, rfl⟩
  have hbroker : SameAddress (some "/") (some "//") :=
    .slashes (by decide) (by decide) ⟨[], 1, 2, rfl, rfl⟩
  have hsession : SameAddress (some "p:") (some "p:///") :=
    .slashes (by decide) (by decide) ⟨"p:".toList, 0, 3, rfl, rfl⟩
  have hsame : SameListingButSlashes (Utf8.encode _) (Utf8.encode _) :=
    ⟨_, _, hparse, hparse', .cons ⟨rfl, .same _, hsession⟩
      (.cons ⟨rfl, .same _, .same _⟩ (.cons ⟨rfl, .same _, hbroker⟩ .nil))⟩
  have hrespelled : Respelled c .scripted replies c' .scripted replies' := by
    refine .scripted hclient ?_ []
    exact .listing rfl hsame
  have hlocator : Endpoint.join "a:" Endpoint.services = .ok "a:/services" := rfl
  have haddress : Endpoint.join "p:" (Endpoint.session "7") = .ok "p:/sessions/7" := rfl
  have hlisted := (⟨⟨_, hlocator⟩, _, rfl, rfl, hparse⟩ : Listed c .scripted replies _)
  have hcomposed : Composed c (.getSession "7") .scripted replies
      ⟨.get, "p:/sessions/7", ∅, none⟩ :=
    ⟨⟨_, "p:", hlisted, rfl, haddress⟩, rfl, rfl, rfl⟩
  obtain ⟨⟨hsent, -⟩, -⟩ := trailing_slashes_do_not_matter hrespelled (.getSession "7")
  obtain ⟨-, -, htoken⟩ := trailing_slashes_do_not_matter hrespelled (.issueToken "u" "w")
  obtain ⟨-, -, hfile⟩ := trailing_slashes_do_not_matter hrespelled (.getFile "7" "8" 1)
  obtain ⟨hnone, -⟩ := htoken _ ⟨"auth", none, some ""⟩ rfl hlisted rfl
  obtain ⟨-, hrelative⟩ := hfile _ ⟨"file-broker", none, some "/"⟩ rfl hlisted rfl
  have hlookup : c.caller.lookup = ⟨.get, "a:/services", ∅, none⟩ := by
    rw [Endpoint.eq_joined_of_join hlocator]
    rfl
  have hboth := sent_of_composed rfl hcomposed
  rw [hlookup] at hboth
  exact ⟨hrespelled, hsent.symm.trans hboth, hnone rfl, hrelative "/" 0 rfl rfl⟩

end ServiceLocator
