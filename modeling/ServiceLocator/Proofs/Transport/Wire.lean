import Mathlib
import ServiceLocator.Proofs.Http.Field
import ServiceLocator.Proofs.Http.Legal
import ServiceLocator.Proofs.Transport.Run
import ServiceLocator.Transport.Http

/-!
What travels. An HTTP transport hands at most one request to the far end for each that it is
given (`Transport.wire?`), and that request has at most one field of credentials
(`WireRequest.filter_authorization`): the one that was set last under any spelling of its
name, or else the login of the URL.
-/
namespace ServiceLocator

variable {σ : Type}

/-! ## Requests that leave -/

namespace Transport

/-- The request that leaves for the far end, if any does. -/
def wire? (settings : HttpSettings) (request : Request) : Option WireRequest :=
  match Url.parse request.uri, Field.ofHeaders request.headers with
  | .ok url, .ok fields =>
    if url.isHttpTarget then some (.compose settings url fields request) else none
  | _, _ => none

theorem wire?_eq_some {settings : HttpSettings} {request : Request} {wire : WireRequest} :
    wire? settings request = some wire ↔ ∃ url fields, Url.parse request.uri = .ok url ∧
      Field.ofHeaders request.headers = .ok fields ∧ url.isHttpTarget = true ∧
      wire = .compose settings url fields request := by
  unfold wire?
  constructor
  · intro h
    split at h
    · rename_i url fields hurl hfields
      obtain ⟨htarget, hwire⟩ := Option.ite_none_right_eq_some.mp h
      exact ⟨url, fields, hurl, hfields, htarget, (Option.some.inj hwire).symm⟩
    · cases h
  · rintro ⟨url, fields, hurl, hfields, htarget, rfl⟩
    rw [hurl, hfields]
    exact if_pos htarget

/-- The far end is asked for nothing else, and changes with nothing else. -/
theorem state_deliver_http (settings : HttpSettings) (peer : Peer σ) (request : Request) (s : σ) :
    ((http settings peer).deliver request s).2 =
      match wire? settings request with
      | some wire => (peer.answer wire s).2
      | none => s := by
  simp only [wire?, http]
  cases Url.parse request.uri with
  | error fault => rfl
  | ok url =>
    cases Field.ofHeaders request.headers with
    | error fault => rfl
    | ok fields =>
      simp only [sendComposed]
      split <;> rfl

/-- What the far end answers to the request that leaves becomes the reply. -/
theorem exists_answer_http {settings : HttpSettings} {request : Request} {wire : WireRequest}
    (hwire : wire? settings request = some wire) (peer : Peer σ) (s : σ) :
    ∃ url, (http settings peer).answer s request = (peer.answer wire s).1.toReply request url := by
  obtain ⟨url, fields, hurl, hfields, htarget, rfl⟩ := wire?_eq_some.mp hwire
  refine ⟨url, ?_⟩
  simp only [answer, http, hurl, hfields, sendComposed, if_pos htarget]

end Transport

/-! ## Credentials -/

namespace WireRequest

theorem lower_supply {fields : Headers} (h : fields.Lower) {name : String}
    (hname : asciiLower name = name) (value : String) : (supply fields name value).Lower := by
  unfold supply
  split
  · exact h
  · exact h.insert hname value

theorem get?_supply (fields : Headers) (name value other : String) :
    (supply fields name value).get? other =
      (fields.get? other).or (if other = name then some value else none) := by
  unfold supply
  by_cases hother : other = name
  · subst hother
    cases hfield : fields.get? other with
    | none => simp [Headers.get?_insert]
    | some given => simp [hfield]
  · rw [if_neg hother, Option.or_none]
    split
    · rfl
    · rw [Headers.get?_insert, if_neg hother]

/-- The login of a URL, as a field value. -/
def loginValue? (url : Url) : Option String :=
  url.credentials?.map fun login => Credential.basic login.1 login.2

theorem lower_fieldsFor (settings : HttpSettings) (url : Url) {given : Headers}
    (h : given.Lower) (body : Bytes) : (fieldsFor settings url given body).Lower := by
  have haccept : asciiLower "accept" = "accept" := by decide
  have hagent : asciiLower "user-agent" = "user-agent" := by decide
  have hhost : asciiLower "host" = "host" := by decide
  have hlength : asciiLower "content-length" = "content-length" := by decide
  have hfields := lower_supply (lower_supply (lower_supply h haccept "*/*") hagent
    settings.userAgent) hhost url.hostText
  have hall : (if body.isEmpty then supply (supply (supply given "accept" "*/*") "user-agent"
        settings.userAgent) "host" url.hostText
      else supply (supply (supply (supply given "accept" "*/*") "user-agent" settings.userAgent)
        "host" url.hostText) "content-length" (Numeral.text body.length)).Lower := by
    split
    · exact hfields
    · exact lower_supply hfields hlength _
  unfold fieldsFor
  cases url.credentials? with
  | none => exact hall
  | some login => exact lower_supply hall (by decide) _

/-- Credentials that were given stand before those of the URL. -/
theorem get?_fieldsFor (settings : HttpSettings) (url : Url) (given : Headers) (body : Bytes) :
    (fieldsFor settings url given body).get? "authorization" =
      (given.get? "authorization").or (loginValue? url) := by
  unfold fieldsFor loginValue?
  cases url.credentials? with
  | none =>
    simp only
    split <;> simp [get?_supply]
  | some login =>
    simp only [get?_supply]
    split <;> simp [get?_supply]

theorem entries_trimmed (fields : Headers) :
    (trimmed fields).entries = fields.entries.map fun entry => (entry.1, Field.trim entry.2) :=
  Headers.entries_ofList (List.pairwise_map.mpr fields.sorted)

/-- The credentials of a request that travels, and nothing else under that name. -/
theorem filter_authorization (settings : HttpSettings) {url : Url} {fields : Headers}
    {request : Request} (h : Field.ofHeaders request.headers = .ok fields) :
    (compose settings url fields request).fields.entries.filter (sameName ·.1 "authorization") =
      (((request.headers.lastOf "authorization").map Field.trim).or
        (loginValue? url)).toList.map ("authorization", ·) := by
  have hname : asciiLower "authorization" = "authorization" := by decide
  have hlower := lower_fieldsFor settings url (Field.lower_ofHeaders h) (request.body.getD [])
  have hvalue := get?_fieldsFor settings url fields (request.body.getD [])
  rw [Field.get?_ofHeaders h hname] at hvalue
  have hfilter := Headers.filter_sameName
    (fieldsFor settings url fields (request.body.getD [])).sorted hlower hname
  have hlogin : (loginValue? url).map Field.trim = loginValue? url := by
    unfold loginValue?
    cases url.credentials? with
    | none => rfl
    | some login => exact congrArg some (Field.trim_basic _ _)
  unfold compose
  simp only [entries_trimmed, List.filter_map, Function.comp_def]
  rw [hfilter]
  show (((fieldsFor settings url fields (request.body.getD [])).get? "authorization").toList.map
    ("authorization", ·)).map _ = _
  rw [hvalue]
  cases request.headers.lastOf "authorization" with
  | some value => rfl
  | none =>
    -- Nothing was given, so it is the login, which needs no trimming.
    cases hvalue : loginValue? url with
    | none => rfl
    | some value =>
      rw [hvalue] at hlogin
      simpa using hlogin

end WireRequest

end ServiceLocator
