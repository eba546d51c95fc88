import ServiceLocator.Proofs.Client.Addresses
import ServiceLocator.Proofs.Locator.Joined

/-!
Where requests go. A client asks the host that its locator's address names, and then the host
of an address that the listing offers. The one way around this is a base without a host
(`Endpoint.Bare`); any other base that is no URL is refused before it is asked.
-/
namespace ServiceLocator

open Url (Fault)

variable {σ : Type}

namespace Endpoint

/-- A URI goes to the host that a base names, unless the base is bare. -/
def Reaches (base uri : String) : Prop :=
  ∀ url, Url.parse uri = .ok url → url.IsSpecial → ¬Bare base →
    ∃ baseUrl, Url.parse base = .ok baseUrl ∧ url.SameAuthority baseUrl

/-- A base that is no URL and cannot be mistaken for one. -/
structure Unusable (base : String) : Prop where
  fault : ∃ fault, Url.parse base = .error fault
  special : SpecialIfAny base
  notBare : ¬Bare base

theorem reaches_joined {base path : String} {back : List Char} (hpath : path.toList = '/' :: back) :
    Reaches base (joined base path) :=
  fun _ hurl hspecial hbare => sameAuthority_of_joined hpath hurl hspecial hbare

/-- A joined address leaves the host of its base exactly if the base is bare. -/
theorem sameAuthority_iff {base path uri : String} {back : List Char}
    (hpath : path.toList = '/' :: back) (hjoin : join base path = .ok uri) {url : Url}
    (hurl : Url.parse uri = .ok url) (hspecial : url.IsSpecial) :
    (∃ baseUrl, Url.parse base = .ok baseUrl ∧ url.SameAuthority baseUrl) ↔ ¬Bare base := by
  obtain ⟨rfl, -⟩ := join_eq_ok.mp hjoin
  constructor
  · rintro ⟨baseUrl, hbase, -⟩ hbare
    rw [hbare.parse_eq] at hbase
    cases hbase
  · exact sameAuthority_of_joined hpath hurl hspecial

theorem toList_services : services.toList = '/' :: "services".toList := rfl

end Endpoint

/-- Every endpoint of a service is below its address. -/
theorem Operation.exists_toList_path (op : Operation) : ∃ back, op.path.toList = '/' :: back := by
  cases op <;>
    simp [path, Endpoint.tokens, Endpoint.sessions, Endpoint.session, Endpoint.datasets,
      Endpoint.dataset, String.toList_append]

variable {c : Client} {op : Operation} {t : Transport σ} {s : σ}

/-! ## Requests -/

theorem sent_resolve_subset (name : String) :
    ((c.resolve name).run t s).sent ⊆ [c.caller.lookup] := by
  unfold Client.resolve
  rw [Step.sent_resolve]
  split <;> simp

theorem sent_resolve_of_join {uri : String}
    (h : Endpoint.join c.caller.locator Endpoint.services = .ok uri) (name : String) :
    ((c.resolve name).run t s).sent = [c.caller.lookup] := by
  unfold Client.resolve
  rw [Step.sent_resolve, h]

/-- A request of an operation is the lookup or goes to an address that the listing offers. -/
theorem sent_perform_mem {request : Request} (h : request ∈ ((c.perform op).run t s).sent) :
    request = c.caller.lookup ∨ ∃ address, Offers c t s op.service.role address ∧
      request.uri = Endpoint.joined address op.path := by
  cases hasks : op.asksNothing with
  | true =>
    rw [Client.perform_of_asksNothing hasks] at h
    cases h
  | false =>
    rcases sent_perform_cases (c := c) (t := t) (s := s) hasks with
      ⟨_, _, hsent⟩ | ⟨_, _, hsent⟩ | ⟨own, hcomposed, hsent⟩
    · rw [hsent] at h
      cases h
    · rw [hsent] at h
      exact .inl (List.mem_singleton.mp h)
    · rw [hsent, List.mem_pair] at h
      rcases h with rfl | rfl
      · exact .inl rfl
      · exact .inr hcomposed.offers

/-! ## Addresses that are no URLs -/

namespace Endpoint.Unusable

theorem join_eq_invalidUri {base path : String} (h : Unusable base) {back : List Char}
    (hpath : path.toList = '/' :: back) :
    ∃ reason, join base path = .error (.invalidUri reason) := by
  obtain ⟨fault, hfault⟩ := h.fault
  exact Endpoint.join_eq_invalidUri hpath hfault h.special h.notBare

/-- A locator without a usable address is not asked. -/
theorem resolve (h : Unusable c.caller.locator) (name : String) :
    (∃ reason, ((c.resolve name).run t s).result = .error (.invalidUri reason)) ∧
      ((c.resolve name).run t s).sent = [] := by
  obtain ⟨reason, hjoin⟩ := h.join_eq_invalidUri toList_services
  unfold Client.resolve
  rw [Step.sent_resolve, Step.result_resolve, hjoin]
  exact ⟨⟨reason, rfl⟩, rfl⟩

theorem perform (h : Unusable c.caller.locator) (hasks : op.asksNothing = false) :
    (∃ reason, ((c.perform op).run t s).result = .error (.invalidUri reason)) ∧
      ((c.perform op).run t s).sent = [] := by
  obtain ⟨reason, hjoin⟩ := h.join_eq_invalidUri toList_services
  exact ⟨⟨reason, (result_perform_eq_error hasks).mpr ⟨_, .locator hjoin⟩⟩,
    sent_of_join_error hasks hjoin⟩

/-- A service without a usable address is not asked. -/
theorem perform_listed {entries : List Json.Value} {address : String} (h : Unusable address)
    (hasks : op.asksNothing = false) (hlisted : Listed c t s entries)
    (hselect : Listing.select (Listing.descriptors entries) op.service.role c.caller =
      .ok address) :
    (∃ reason, ((c.perform op).run t s).result = .error (.invalidUri reason)) ∧
      ((c.perform op).run t s).sent = [c.caller.lookup] := by
  obtain ⟨back, hpath⟩ := op.exists_toList_path
  obtain ⟨reason, hjoin⟩ := h.join_eq_invalidUri hpath
  have hfails : FailsAt c op t s .endpoint (.invalidUri reason) :=
    .endpoint hlisted hselect hjoin
  obtain ⟨uri, hlocator⟩ := hlisted.joined
  exact ⟨⟨reason, (result_perform_eq_error hasks).mpr ⟨_, hfails⟩⟩,
    sent_of_compose_error hasks hlocator (compose_eq_error.mpr ⟨_, hfails, by decide⟩)⟩

end Endpoint.Unusable

/-- A joined address has the scheme, login, host and port of its base exactly if the base is
not bare. So lookups go to the locator's host and everything else to the host of an address
that the listing offers, and an address that is neither a URL nor bare is refused before it is
asked. -/
theorem joined_stays_with_host (c : Client) (op : Operation) (t : Transport σ) (s : σ) :
    (∀ base path uri url back, path.toList = '/' :: back → Endpoint.join base path = .ok uri →
      Url.parse uri = .ok url → url.IsSpecial →
        ((∃ baseUrl, Url.parse base = .ok baseUrl ∧ url.SameAuthority baseUrl) ↔
          ¬Endpoint.Bare base)) ∧
    (∀ name, ∀ request ∈ ((c.resolve name).run t s).sent,
      Endpoint.Reaches c.caller.locator request.uri) ∧
    (∀ request ∈ ((c.perform op).run t s).sent,
      request = c.caller.lookup ∧ Endpoint.Reaches c.caller.locator request.uri ∨
        ∃ address, Offers c t s op.service.role address ∧
          Endpoint.Reaches address request.uri) ∧
    (Endpoint.Unusable c.caller.locator →
      (∀ name, (∃ reason, ((c.resolve name).run t s).result = .error (.invalidUri reason)) ∧
        ((c.resolve name).run t s).sent = []) ∧
      (op.asksNothing = false →
        (∃ reason, ((c.perform op).run t s).result = .error (.invalidUri reason)) ∧
          ((c.perform op).run t s).sent = [])) ∧
    ∀ entries address, Listed c t s entries →
      Listing.select (Listing.descriptors entries) op.service.role c.caller = .ok address →
      Endpoint.Unusable address → op.asksNothing = false →
        (∃ reason, ((c.perform op).run t s).result = .error (.invalidUri reason)) ∧
          ((c.perform op).run t s).sent = [c.caller.lookup] := by
  have hlocator : Endpoint.Reaches c.caller.locator c.caller.lookup.uri :=
    Endpoint.reaches_joined Endpoint.toList_services
  refine ⟨fun base path uri url back hpath hjoin hurl hspecial =>
      Endpoint.sameAuthority_iff hpath hjoin hurl hspecial,
    fun name request hrequest => ?_, fun request hrequest => ?_,
    fun hunusable => ⟨hunusable.resolve, hunusable.perform⟩,
    fun entries address hlisted hselect hunusable hasks =>
      hunusable.perform_listed hasks hlisted hselect⟩
  · rw [List.mem_singleton.mp (sent_resolve_subset name hrequest)]
    exact hlocator
  · rcases sent_perform_mem hrequest with rfl | ⟨address, hoffers, huri⟩
    · exact .inl ⟨rfl, hlocator⟩
    · obtain ⟨back, hpath⟩ := op.exists_toList_path
      exact .inr ⟨address, hoffers, huri ▸ Endpoint.reaches_joined hpath⟩

/-- A client reaches its locator, a session below the address of a service does not leave the
host of that address, and neither a service nor a locator whose address is a mere word is
asked. -/
theorem joined_stays_with_host_getFile :
    let c : Client := .new (.internal "http://u:p@[::1]//") none
    let replies : List ScriptedReply :=
      [.reply 200 "" ∅ (Utf8.encode "[[\"file-broker\",\"files\"]]") none]
    let lost : Client := .new (.internal "locator") none
    let op : Operation := .getFile "x" "y" 1
    (∃ baseUrl, Url.parse "http://[::2]" = .ok baseUrl ∧
      Url.SameAuthority ⟨"http", "", "", some (.ipv6 [0, 0, 0, 0, 0, 0, 0, 2]), none,
        .segments ["sessions", "x"], none, none⟩ baseUrl) ∧
      Endpoint.Reaches c.caller.locator c.caller.lookup.uri ∧
      ((c.perform op).run .scripted replies).sent = [c.caller.lookup] ∧
      ((lost.perform op).run .scripted replies).sent = [] := by
  intro c replies lost op
  have hword : ∀ word : String, Url.parse word = .error .relative →
      Url.splitScheme? (Url.tidy word.toList) = none → Endpoint.Unusable word := by
    intro word hfault hsplit
    refine ⟨⟨_, hfault⟩, fun scheme rest h => ?_, fun ⟨scheme, port, hopens⟩ => ?_⟩
    · rw [hsplit] at h
      cases h
    · obtain ⟨rest, h, -⟩ := hopens.split
      rw [hsplit] at h
      cases h
  have hnotBare : ¬Endpoint.Bare "http://[::2]" := by
    intro h
    have hparse := h.parse_eq
    cases hparse
  have hjoin : Endpoint.join "http://u:p@[::1]//" Endpoint.services =
      .ok "http://u:p@[::1]/services" := rfl
  have hlookup : c.caller.lookup ∈ ((c.resolve "file-broker").run .scripted replies).sent := by
    rw [sent_resolve_of_join (c := c) hjoin]
    exact List.mem_singleton_self _
  have hparse : Json.parseList (Utf8.encode "[[\"file-broker\",\"files\"]]") =
      .ok [.array [.string "file-broker", .string "files"]] := by cbv
  have hlisted : Listed c .scripted replies
      [.array [.string "file-broker", .string "files"]] :=
    ⟨⟨_, hjoin⟩, _, rfl, rfl, hparse⟩
  obtain ⟨hjoined, hresolve, -, -, haddress⟩ := joined_stays_with_host c op .scripted replies
  obtain ⟨-, -, -, hlocator, -⟩ := joined_stays_with_host lost op .scripted replies
  have hpath : "/sessions/x".toList = '/' :: "sessions/x".toList := rfl
  have hsession : Endpoint.join "http://[::2]" "/sessions/x" = .ok "http://[::2]/sessions/x" := rfl
  have hurl : Url.parse "http://[::2]/sessions/x" =
      .ok ⟨"http", "", "", some (.ipv6 [0, 0, 0, 0, 0, 0, 0, 2]), none,
        .segments ["sessions", "x"], none, none⟩ := rfl
  refine ⟨(hjoined _ _ _ _ _ hpath hsession hurl ⟨80, rfl⟩).mpr hnotBare,
    hresolve _ _ hlookup, ?_, ?_⟩
  · exact (haddress _ _ hlisted rfl (hword "files" rfl rfl) rfl).2
  · exact ((hlocator (hword "locator" rfl rfl)).2 rfl).2

/-- A bare base is no URL, and yet it is asked: its lookup goes to a host that is named like
the endpoint. -/
theorem bare_base_leaves_host :
    let c : Client := .new (.internal "http://") none
    Url.parse "http://" = .error .emptyHost ∧
      Endpoint.join "http://" Endpoint.services = .ok "http:/services" ∧
      Url.parse "http:/services" = .ok ⟨"http", "", "", some (.domain "services"), none,
        .segments [""], none, none⟩ ∧
      ((c.resolve "auth").run .scripted []).sent = [.get "http:/services"] := by
  intro c
  have hbytes : Url.percentDecode ['s', 'e', 'r', 'v', 'i', 'c', 'e', 's'] =
      [0x73, 0x65, 0x72, 0x76, 0x69, 0x63, 0x65, 0x73] := by decide
  have hascii : ∀ x ∈ ([0x73, 0x65, 0x72, 0x76, 0x69, 0x63, 0x65, 0x73] : Bytes), x < 0x80 := by
    simp
  have hname : Url.Domain.toAscii? [0x73, 0x65, 0x72, 0x76, 0x69, 0x63, 0x65, 0x73] =
      some "services" := by
    unfold Url.Domain.toAscii?
    rw [Utf8.chars?_ascii hascii]
    rfl
  have hhost : Url.Host.parse ['s', 'e', 'r', 'v', 'i', 'c', 'e', 's'] =
      .ok (.domain "services") := by
    unfold Url.Host.parse
    rw [hbytes, hname]
    rfl
  have hauth : Url.specialAuthority 80 ['s', 'e', 'r', 'v', 'i', 'c', 'e', 's'] =
      .ok ⟨"", "", .domain "services", none⟩ := by
    show (do
      let host ← Url.Host.parse ['s', 'e', 'r', 'v', 'i', 'c', 'e', 's']
      return ⟨"", "", host, none⟩ : Except Fault Url.Authority) = _
    rw [hhost]
    rfl
  have hopens : Url.Opens "http:/services" "http" 80 ['s', 'e', 'r', 'v', 'i', 'c', 'e', 's'] :=
    ⟨rfl, _, rfl, rfl⟩
  have hparse : Url.parse "http:/services" = .ok ⟨"http", "", "", some (.domain "services"), none,
      .segments [""], none, none⟩ := hopens.parse_eq_ok.mpr ⟨_, hauth, rfl⟩
  have hjoin : Endpoint.join "http://" Endpoint.services = .ok "http:/services" :=
    Endpoint.join_eq_ok.mpr ⟨rfl, _, hparse⟩
  refine ⟨rfl, hjoin, hparse, ?_⟩
  rw [sent_resolve_of_join (c := c) hjoin]
  exact congrArg (fun uri => [Request.get uri]) (Endpoint.eq_joined_of_join hjoin).symm

end ServiceLocator
