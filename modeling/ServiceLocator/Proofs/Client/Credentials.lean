import ServiceLocator.Proofs.Client.Hosts
import ServiceLocator.Proofs.Http.Edit
import ServiceLocator.Proofs.Transport.Wire

/-!
The credentials of operations. A token is asked for with a username and password, whatever
token the client has; all else is done with the client's token and, without one, with the
login of the address that the service is listed under.
-/
namespace ServiceLocator

variable {σ : Type}

/-! ## Logins of addresses -/

namespace Url

/-- A URL without username and password has no login. -/
theorem credentials?_eq_none {url : Url} (husername : url.username = "")
    (hpassword : url.password = "") : url.credentials? = none := by
  unfold credentials?
  rw [husername, hpassword]
  simp [percentDecode, Utf8.decode?, Utf8.chars?]

theorem SameAuthority.credentials? {a b : Url} (h : SameAuthority a b) :
    a.credentials? = b.credentials? := by
  unfold Url.credentials?
  rw [h.username, h.password]

theorem isSpecial_of_isHttpTarget {url : Url} (h : url.isHttpTarget = true) : url.IsSpecial := by
  simp only [isHttpTarget, Bool.and_eq_true, Bool.or_eq_true, beq_iff_eq] at h
  rcases h.1.1 with hscheme | hscheme
  · exact ⟨80, by rw [hscheme]; rfl⟩
  · exact ⟨443, by rw [hscheme]; rfl⟩

/-- The username and password of an authority stand before its last `@`. -/
theorem userinfo_of_specialAuthority {port : Nat} {text : List Char} {auth : Authority}
    (h : specialAuthority port text = .ok auth) :
    (auth.username, auth.password) = userinfo (login text) := by
  unfold specialAuthority at h
  simp only at h
  split at h
  · cases h
  · simp only [Bind.bind, Except.bind] at h
    split at h
    · cases h
    · split at h
      · cases h
      · cases h
        rfl

end Url

/-! ## Credentials of operations -/

namespace Credential

/-- Credentials take the place of all others. -/
theorem lastOf_attach (principal secret : String) (h : Headers) :
    (attach principal secret h).lastOf "authorization" = some (basic principal secret) := by
  rw [Headers.lastOf, filter_attach]
  rfl

end Credential

/-- A header of another name has no credentials. -/
theorem Headers.lastOf_insert (h : Headers) {name : String}
    (hname : sameName name "authorization" = false) (value : String) :
    (h.insert name value).lastOf "authorization" = h.lastOf "authorization" := by
  unfold lastOf insert
  simp only [filter_place_of_neg (sameName · "authorization") hname]

/-- The principal that a client's token goes under, and the token. -/
theorem Client.lastOf_authorize (c : Client) {h : Headers}
    (hnone : h.lastOf "authorization" = none) :
    (c.authorize h).lastOf "authorization" =
      c.identity.token.map (Credential.basic Credential.tokenPrincipal) := by
  unfold authorize
  cases c.identity.token with
  | none => exact hnone
  | some token => exact Credential.lastOf_attach _ _ _

namespace Operation

/-- The principal and the secret of an operation. -/
def credential? (c : Client) : Operation → Option (String × String)
  | .issueToken username password => some (username, password)
  | _ => c.identity.token.map (Credential.tokenPrincipal, ·)

/-- They are in the headers of its request, and nothing else is under that name. -/
theorem lastOf_headers (op : Operation) (c : Client) :
    (op.headers c).lastOf "authorization" =
      (op.credential? c).map fun credential => Credential.basic credential.1 credential.2 := by
  have hnone : (∅ : Headers).lastOf "authorization" = none := rfl
  have htoken : c.identity.token.map (Credential.basic Credential.tokenPrincipal) =
      (c.identity.token.map (Credential.tokenPrincipal, ·)).map fun credential =>
        Credential.basic credential.1 credential.2 := by
    rw [Option.map_map]
    rfl
  cases op with
  | issueToken username password => exact Credential.lastOf_attach _ _ _
  | createSession payload =>
    exact (Headers.lastOf_insert _ (by decide) _).trans ((c.lastOf_authorize hnone).trans htoken)
  | getFile session dataset max =>
    have hrange : ((∅ : Headers).insert "Range" (Credential.byteRange max)).lastOf
        "authorization" = none := (Headers.lastOf_insert _ (by decide) _).trans hnone
    exact (c.lastOf_authorize hrange).trans htoken
  | _ => exact (c.lastOf_authorize hnone).trans htoken

/-- Without a token, all paths are those of sessions. -/
theorem exists_toList_sessions {op : Operation} {c : Client} (h : op.credential? c = none) :
    ∃ more, op.path.toList = '/' :: ("sessions".toList ++ '/' :: more) := by
  cases op with
  | issueToken username password => cases h
  | _ =>
    simp [path, Endpoint.sessions, Endpoint.session, Endpoint.datasets, Endpoint.dataset,
      String.toList_append]

end Operation

/-! ## Credentials of requests -/

/-- The values of all fields of credentials, under any spelling. -/
def WireRequest.authorizations (wire : WireRequest) : List String :=
  (wire.fields.entries.filter (sameName ·.1 "authorization")).map (·.2)

/-- What a request carries is what its headers say last, or the login of its URL. -/
theorem authorizations_of_wire? {settings : HttpSettings} {request : Request} {wire : WireRequest}
    (h : Transport.wire? settings request = some wire) :
    ∃ url, Url.parse request.uri = .ok url ∧ url.IsSpecial ∧
      wire.authorizations = (((request.headers.lastOf "authorization").map Field.trim).or
        (WireRequest.loginValue? url)).toList := by
  obtain ⟨url, fields, hurl, hfields, htarget, rfl⟩ := Transport.wire?_eq_some.mp h
  refine ⟨url, hurl, Url.isSpecial_of_isHttpTarget htarget, ?_⟩
  unfold WireRequest.authorizations
  rw [WireRequest.filter_authorization settings hfields]
  simp

/-- After a bare address, a path without a login where its authority would stand gives none. -/
theorem loginValue?_of_bare {address path : String} {back : List Char}
    (hpath : path.toList = '/' :: back) {url : Url}
    (hurl : Url.parse (Endpoint.joined address path) = .ok url) (hspecial : url.IsSpecial)
    (hbare : Endpoint.Bare address)
    (hback : Url.userinfo (Url.login
      (Url.authorityPart ((Url.trailing back).dropWhile Url.Path.isAnySlash))) = ("", "")) :
    WireRequest.loginValue? url = none := by
  obtain ⟨port, auth, hauth, husername, hpassword⟩ :=
    Endpoint.exists_authority_of_bare hpath hurl hspecial hbare
  have huserinfo := (Url.userinfo_of_specialAuthority hauth).trans hback
  rw [← husername, ← hpassword, Prod.mk.injEq] at huserinfo
  unfold WireRequest.loginValue?
  rw [Url.credentials?_eq_none huserinfo.1 huserinfo.2]
  rfl

/-- There is no login in the path of sessions. -/
theorem userinfo_sessions (more : List Char) :
    Url.userinfo (Url.login (Url.authorityPart
      ((Url.trailing ("sessions".toList ++ '/' :: more)).dropWhile Url.Path.isAnySlash))) =
        ("", "") := by
  have htext : Url.authorityPart ((Url.trailing ("sessions".toList ++ '/' :: more)).dropWhile
      Url.Path.isAnySlash) = "sessions".toList := by
    rw [Url.trailing_append_cons _ (by decide)]
    exact Url.authorityPart_append_cons (by decide) "sessions".toList _
  rw [htext]
  decide

/-- Without credentials of its own, a request carries at most the login of its address. -/
theorem authorizations_of_offers {c : Client} {op : Operation} {request : Request}
    {wire : WireRequest} {settings : HttpSettings} {address : String}
    (hwire : Transport.wire? settings request = some wire)
    (hheaders : request.headers = op.headers c) (hnone : op.credential? c = none)
    (huri : request.uri = Endpoint.joined address op.path) :
    wire.authorizations = [] ∨ ∃ url login, Url.parse address = .ok url ∧
      url.credentials? = some login ∧
      wire.authorizations = [Credential.basic login.1 login.2] := by
  obtain ⟨url, hurl, hspecial, hvalues⟩ := authorizations_of_wire? hwire
  rw [hheaders, op.lastOf_headers, hnone] at hvalues
  rw [huri] at hurl
  obtain ⟨more, hpath⟩ := Operation.exists_toList_sessions hnone
  by_cases hbare : Endpoint.Bare address
  · rw [loginValue?_of_bare hpath hurl hspecial hbare (userinfo_sessions more)] at hvalues
    exact .inl hvalues
  · obtain ⟨base, hbase, hsame⟩ := Endpoint.sameAuthority_of_joined hpath hurl hspecial hbare
    unfold WireRequest.loginValue? at hvalues
    rw [hsame.credentials?] at hvalues
    cases hlogin : base.credentials? with
    | none =>
      rw [hlogin] at hvalues
      exact .inl hvalues
    | some login =>
      rw [hlogin] at hvalues
      exact .inr ⟨base, login, hbase, hlogin, hvalues⟩

/-- With credentials of its own, a request carries these. -/
theorem authorizations_of_credential? {c : Client} {op : Operation} {request : Request}
    {wire : WireRequest} {settings : HttpSettings} {principal secret : String}
    (hwire : Transport.wire? settings request = some wire)
    (hheaders : request.headers = op.headers c)
    (hcredential : op.credential? c = some (principal, secret)) :
    wire.authorizations = [Credential.basic principal secret] := by
  obtain ⟨url, -, -, hvalues⟩ := authorizations_of_wire? hwire
  rw [hheaders, op.lastOf_headers, hcredential] at hvalues
  simpa [Field.trim_basic] using hvalues

/-- One credential travels with a request at most. It is the one under the greatest spelling
of its name and, where there is none, the login of the URL. A far end gets nothing but this
request; an operation with a credential of its own carries it, and one without carries at
most the login of the address that its service is listed under. -/
theorem one_credential_travels (settings : HttpSettings) (request : Request) (wire : WireRequest)
    (hwire : Transport.wire? settings request = some wire) :
    (∀ (peer : Peer σ) (s : σ),
      ((Transport.http settings peer).deliver request s).2 = (peer.answer wire s).2) ∧
    ((∃ spelling value, (spelling, value) ∈ request.headers.entries ∧
        sameName spelling "authorization" = true ∧
        (∀ entry ∈ request.headers.entries,
          sameName entry.1 "authorization" = true → entry.1 ≤ spelling) ∧
        wire.authorizations = [Field.trim value]) ∨
      (∀ entry ∈ request.headers.entries, sameName entry.1 "authorization" = false) ∧
        ∃ url, Url.parse request.uri = .ok url ∧
          wire.authorizations = (url.credentials?.map fun login =>
            Credential.basic login.1 login.2).toList) ∧
    ∀ (c : Client) (op : Operation) (t : Transport σ) (s : σ),
      ((c.perform op).run t s).sent[1]? = some request →
        (∀ principal secret, op.credential? c = some (principal, secret) →
          wire.authorizations = [Credential.basic principal secret]) ∧
        (op.credential? c = none → wire.authorizations = [] ∨
          ∃ address url login, Offers c t s op.service.role address ∧
            request.uri = Endpoint.joined address op.path ∧ Url.parse address = .ok url ∧
            url.credentials? = some login ∧
            wire.authorizations = [Credential.basic login.1 login.2]) := by
  refine ⟨fun peer s => ?_, ?_, fun c op t s hsent => ?_⟩
  · rw [Transport.state_deliver_http, hwire]
  · obtain ⟨url, hurl, -, hvalues⟩ := authorizations_of_wire? hwire
    cases hlast : request.headers.lastOf "authorization" with
    | some value =>
      obtain ⟨spelling, hmem, hname, hgreatest⟩ := Headers.lastOf_eq_some hlast
      rw [hlast] at hvalues
      exact .inl ⟨spelling, value, hmem, hname, hgreatest, hvalues⟩
    | none =>
      rw [hlast] at hvalues
      exact .inr ⟨Headers.lastOf_eq_none.mp hlast, url, hurl, hvalues⟩
  · have hcomposed := composed_of_sent hsent
    refine ⟨fun _ _ => authorizations_of_credential? hwire hcomposed.headers, fun hnone => ?_⟩
    obtain ⟨address, hoffers, huri⟩ := hcomposed.offers
    rcases authorizations_of_offers hwire hcomposed.headers hnone huri with
      hempty | ⟨url, login, hurl, hlogin, hvalues⟩
    · exact .inl hempty
    · exact .inr ⟨address, url, login, hoffers, huri, hurl, hlogin, hvalues⟩

/-- A session is asked for at an address with a login, by a client with a token and by one
without. -/
theorem one_credential_travels_getSession :
    let replies : List ScriptedReply :=
      [.reply 200 "" ∅ (Utf8.encode "[[\"session-db\",\"http://u:p@h\"]]") none]
    let op : Operation := .getSession "x"
    let known : Client := .new (.internal "a:") (some "t")
    let unknown : Client := .new (.internal "a:") none
    let request (c : Client) : Request := ⟨.get, "http://u:p@h/sessions/x", op.headers c, none⟩
    (∃ wire, Transport.wire? .default (request known) = some wire ∧
      ((known.perform op).run .scripted replies).sent[1]? = some (request known) ∧
      wire.authorizations = [Credential.basic "token" "t"]) ∧
    ∃ wire, Transport.wire? .default (request unknown) = some wire ∧
      wire.authorizations = [Credential.basic "u" "p"] := by
  intro replies op known unknown request
  let url : Url := ⟨"http", "u", "p", some (.domain "h"), none, .segments ["sessions", "x"],
    none, none⟩
  have hchars : ∀ b : UInt8, b < 0x80 → Utf8.chars? [b] = some [Char.ofNat b.toNat] := fun b hb =>
    Utf8.chars?_ascii fun x hx => List.mem_singleton.mp hx ▸ hb
  have hhost : Url.Host.parse ['h'] = .ok (.domain "h") := by
    unfold Url.Host.parse Url.Domain.toAscii?
    rw [show Url.percentDecode ['h'] = [0x68] by decide, hchars 0x68 (by decide)]
    rfl
  have hauth : Url.specialAuthority 80 ['u', ':', 'p', '@', 'h'] =
      .ok ⟨"u", "p", .domain "h", none⟩ := by
    show (do
      let host ← Url.Host.parse ['h']
      return ⟨"u", "p", host, none⟩ : Except Url.Fault Url.Authority) = _
    rw [hhost]
    rfl
  have hopens : Url.Opens "http://u:p@h/sessions/x" "http" 80
      (['u', ':', 'p', '@', 'h'] ++ "/sessions/x".toList) := ⟨rfl, _, rfl, rfl⟩
  have hurl : Url.parse "http://u:p@h/sessions/x" = .ok url :=
    hopens.parse_eq_ok.mpr ⟨_, hauth, rfl⟩
  have hlogin : url.credentials? = some ("u", "p") := by
    have husername : Utf8.decode? (Url.percentDecode "u".toList) = some "u" := by
      unfold Utf8.decode?
      rw [show Url.percentDecode "u".toList = [0x75] by decide, hchars 0x75 (by decide)]
      rfl
    have hpassword : Utf8.decode? (Url.percentDecode "p".toList) = some "p" := by
      unfold Utf8.decode?
      rw [show Url.percentDecode "p".toList = [0x70] by decide, hchars 0x70 (by decide)]
      rfl
    unfold Url.credentials?
    rw [husername, if_neg (by decide), hpassword]
    rfl
  have htarget : url.isHttpTarget = true := by
    unfold Url.isHttpTarget Url.target
    rw [hlogin]
    decide
  have hparse : Json.parseList (Utf8.encode "[[\"session-db\",\"http://u:p@h\"]]") =
      .ok [.array [.string "session-db", .string "http://u:p@h"]] := by cbv
  have hlocator : Endpoint.join "a:" Endpoint.services = .ok "a:/services" := rfl
  have hlisted : Listed known .scripted replies
      [.array [.string "session-db", .string "http://u:p@h"]] :=
    ⟨⟨_, hlocator⟩, _, rfl, rfl, hparse⟩
  have hpath : op.path = "/sessions/x" := by decide
  have hjoin : Endpoint.join "http://u:p@h" op.path = .ok "http://u:p@h/sessions/x" :=
    Endpoint.join_eq_ok.mpr ⟨by rw [hpath]; rfl, _, hurl⟩
  have hcomposed : Composed known op .scripted replies (request known) :=
    ⟨⟨_, _, hlisted, rfl, hjoin⟩, rfl, rfl, rfl⟩
  have hsent : ((known.perform op).run .scripted replies).sent[1]? = some (request known) := by
    rw [sent_of_composed rfl hcomposed]
    rfl
  have hknown : ∃ wire, Transport.wire? .default (request known) = some wire :=
    ⟨_, Transport.wire?_eq_some.mpr ⟨url, _, hurl, rfl, htarget, rfl⟩⟩
  have hunknown : ∃ wire, Transport.wire? .default (request unknown) = some wire :=
    ⟨_, Transport.wire?_eq_some.mpr ⟨url, _, hurl, rfl, htarget, rfl⟩⟩
  obtain ⟨wire, hwire⟩ := hknown
  obtain ⟨wire', hwire'⟩ := hunknown
  obtain ⟨-, -, hoperation⟩ := one_credential_travels .default (request known) wire hwire
  obtain ⟨-, hvalue, -⟩ :=
    one_credential_travels (σ := Unit) .default (request unknown) wire' hwire'
  refine ⟨⟨wire, hwire, hsent, (hoperation known op _ _ hsent).1 "token" "t" rfl⟩,
    wire', hwire', ?_⟩
  rcases hvalue with ⟨_, _, hmem, _⟩ | ⟨_, url', hurl', hvalue⟩
  · cases hmem
  · rw [hurl] at hurl'
    cases hurl'
    rw [hvalue, hlogin]
    rfl

end ServiceLocator
