import ServiceLocator.Http.Edit
import ServiceLocator.Proofs.Http.Field

/-!
Requests that are put together step by step. Credentials take the place of all others and leave
the other headers alone (`Credential.get?_attach`). So the last ones that are set are the only
ones, as long as no later step touches their header in another way (`Request.carries_editAll`).
-/
namespace ServiceLocator

/-! ## Credentials in headers -/

namespace Credential

variable (principal secret principal' secret' : String) (h : Headers)

theorem sameName_headerName (name : String) :
    sameName name headerName = sameName name "authorization" := by
  unfold sameName
  rw [show asciiLower headerName = asciiLower "authorization" by decide]

theorem get?_attach (name : String) :
    (attach principal secret h).get? name =
      if name = headerName then some (basic principal secret)
      else if sameName name "authorization" then none else h.get? name := by
  rw [attach, Headers.get?_insert, Headers.get?_filter, sameName_headerName]
  cases sameName name "authorization" <;> rfl

/-- Credentials stand under one spelling of their name, and under no other. -/
theorem filter_attach :
    (attach principal secret h).entries.filter (sameName ·.1 "authorization") =
      [(headerName, basic principal secret)] := by
  refine Headers.filter_place_of_pos (sameName · "authorization") (by decide) _ ?_
  intro entry hentry
  have hkept := (List.mem_filter.mp hentry).2
  simpa [sameName_headerName] using hkept

/-- The other headers are what they were. -/
theorem mem_attach {name value : String} (hname : sameName name "authorization" = false) :
    (name, value) ∈ (attach principal secret h).entries ↔ (name, value) ∈ h.entries := by
  have hne : name ≠ headerName := by
    rintro rfl
    exact absurd hname (by decide)
  rw [← Headers.get?_eq_some, ← Headers.get?_eq_some, get?_attach, if_neg hne, hname,
    if_neg Bool.false_ne_true]

theorem attach_attach :
    attach principal' secret' (attach principal secret h) = attach principal' secret' h := by
  refine Headers.ext_get? fun name => ?_
  rw [get?_attach, get?_attach, get?_attach]
  by_cases hname : name = headerName
  · rw [if_pos hname, if_pos hname]
  · rw [if_neg hname, if_neg hname, if_neg hname]
    split_ifs <;> rfl

theorem attach_insert {name : String} (hname : sameName name "authorization" = false)
    (value : String) :
    attach principal secret (h.insert name value) =
      (attach principal secret h).insert name value := by
  refine Headers.ext_get? fun other => ?_
  rw [get?_attach, Headers.get?_insert, Headers.get?_insert, get?_attach]
  by_cases hother : other = name
  · -- This is not the header of credentials.
    have hne : other ≠ headerName := by
      rintro rfl
      exact absurd (hother ▸ hname) (by decide)
    rw [if_neg hne, hother, hname, if_neg Bool.false_ne_true, if_pos rfl, if_pos rfl]
  · rw [if_neg hother, if_neg hother]

end Credential

/-! ## Steps -/

namespace Edit

/-- The credentials that a step sets. -/
def credential? : Edit → Option String
  | .credentials principal secret => some (Credential.basic principal secret)
  | .token secret => some (Credential.basic Credential.tokenPrincipal secret)
  | _ => none

/-- Whether a step sets the header of credentials, if at all, only to set credentials. -/
def isCareful : Edit → Bool
  | .headers _ => false
  | .header name _ => !sameName name "authorization"
  | _ => true

/-- The credentials that are set last. -/
def lastCredential? (edits : List Edit) : Option String := (edits.filterMap credential?).getLast?

variable {e : Edit} {value : String}

theorem getD_lastCredential?_cons (e : Edit) (rest : List Edit) (value : String) :
    (lastCredential? (e :: rest)).getD value =
      (lastCredential? rest).getD (e.credential?.getD value) := by
  unfold lastCredential?
  rw [List.filterMap_cons]
  cases e.credential? with
  | none => rfl
  | some set =>
    simp only [List.getLast?_cons]
    rfl

theorem lastCredential?_append (he : e.credential? = some value) (before after : List Edit) :
    lastCredential? (before ++ e :: after) = some ((lastCredential? after).getD value) := by
  unfold lastCredential?
  rw [List.filterMap_append, List.filterMap_cons, he, List.getLast?_append, List.getLast?_cons]
  rfl

end Edit

/-- Headers have these credentials, and nothing else under that name. -/
def Headers.Carries (h : Headers) (value : String) : Prop :=
  h.entries.filter (sameName ·.1 "authorization") = [(Credential.headerName, value)]

/-- Where they can be sent, they are the one field of that name. -/
theorem Headers.Carries.field {h fields : Headers} {value : String} (hcarries : h.Carries value)
    (hfields : Field.ofHeaders h = .ok fields) :
    fields.entries.filter (sameName ·.1 "authorization") = [("authorization", value)] := by
  have hname : asciiLower "authorization" = "authorization" := by decide
  rw [Headers.filter_sameName fields.sorted (Field.lower_ofHeaders hfields) hname]
  show (fields.get? "authorization").toList.map _ = _
  rw [Field.get?_ofHeaders hfields hname, Headers.lastOf, hcarries]
  rfl

namespace Request

variable {r : Request} {e : Edit} {value : String}

theorem carries_edit_of_credential? (he : e.credential? = some value) (r : Request) :
    (r.edit e).headers.Carries value := by
  cases e with
  | credentials principal secret =>
    cases he
    exact Credential.filter_attach principal secret r.headers
  | token secret =>
    cases he
    exact Credential.filter_attach _ secret r.headers
  | _ => cases he

/-- A careful step replaces credentials or leaves them in place. -/
theorem carries_edit (h : r.headers.Carries value) (he : e.isCareful = true) :
    (r.edit e).headers.Carries (e.credential?.getD value) := by
  cases e with
  | headers => cases he
  | header name v =>
    have hname : sameName name "authorization" = false := by simpa [Edit.isCareful] using he
    exact (Headers.filter_place_of_neg (sameName · "authorization") hname v _).trans h
  | credentials => exact carries_edit_of_credential? rfl r
  | token => exact carries_edit_of_credential? rfl r
  | body => exact h

theorem carries_editAll {edits : List Edit} (h : r.headers.Carries value)
    (hedits : ∀ e ∈ edits, e.isCareful = true) :
    (r.editAll edits).headers.Carries ((Edit.lastCredential? edits).getD value) := by
  induction edits generalizing r value with
  | nil => exact h
  | cons e rest ih =>
    obtain ⟨hfirst, hrest⟩ := List.forall_mem_cons.mp hedits
    rw [Edit.getD_lastCredential?_cons]
    exact ih (carries_edit h hfirst) hrest

/-- What was set before the last credentials does not matter. -/
theorem carries_editAll_append (he : e.credential? = some value) {after : List Edit}
    (hafter : ∀ x ∈ after, x.isCareful = true) (r : Request) (before : List Edit) :
    (r.editAll (before ++ e :: after)).headers.Carries
      ((Edit.lastCredential? after).getD value) := by
  have hsplit : r.editAll (before ++ e :: after) = ((r.editAll before).edit e).editAll after :=
    List.foldl_append
  rw [hsplit]
  exact carries_editAll (carries_edit_of_credential? he _) hafter

end Request

/-- Credentials replace credentials and nothing else. They stand under one spelling of their name;
every other header is kept with its value, and none is added. Of credentials that are set one
after the other only the last are left, and other headers can be set before or after. So when a
request is put together in any way, and after some step that sets credentials neither all headers
nor that header are set otherwise, the request is sent with the credentials that were set last. -/
theorem credentials_replace_credentials (principal secret : String) (h : Headers) :
    let attached := Credential.attach principal secret h
    attached.entries.filter (sameName ·.1 "authorization") =
      [("Authorization", Credential.basic principal secret)] ∧
    (∀ name value, sameName name "authorization" = false →
      ((name, value) ∈ attached.entries ↔ (name, value) ∈ h.entries)) ∧
    (∀ principal' secret', Credential.attach principal' secret' attached =
      Credential.attach principal' secret' h) ∧
    (∀ (r : Request) name value, r.headers = h → sameName name "authorization" = false →
      (r.withHeader name value).edit (.credentials principal secret) =
        (r.withHeaders attached).withHeader name value) ∧
    ∀ (r : Request) before e after, e.credential?.isSome = true →
      (∀ x ∈ after, x.isCareful = true) →
      ∃ value, Edit.lastCredential? (before ++ e :: after) = some value ∧
        ∀ fields, Field.ofHeaders (r.editAll (before ++ e :: after)).headers = .ok fields →
          fields.entries.filter (sameName ·.1 "authorization") = [("authorization", value)] := by
  intro attached
  refine ⟨Credential.filter_attach principal secret h,
    fun name value => Credential.mem_attach principal secret h,
    fun principal' secret' => Credential.attach_attach principal secret principal' secret' h,
    ?_, ?_⟩
  · rintro r name value rfl hname
    exact congrArg r.withHeaders (Credential.attach_insert principal secret r.headers hname value)
  · intro r before e after he hafter
    obtain ⟨value, he⟩ := Option.isSome_iff_exists.mp he
    exact ⟨_, Edit.lastCredential?_append he before after,
      fun fields => (Request.carries_editAll_append he hafter r before).field⟩

/-- Credentials are set over two spellings of their header; a range is kept. Then a token takes
their place, and a type is set. -/
theorem credentials_replace_credentials_spellings :
    let h := Headers.ofList [("AUTHORIZATION", "x"), ("Range", "bytes=0-9"), ("authorization", "y")]
    let r := (Request.get "http://a/").editAll
      [.headers h, .credentials "alice" "secret", .header "authorization" "z", .token "t-1",
        .header "Accept" "*/*"]
    (Credential.attach "alice" "secret" h).entries.filter (sameName ·.1 "authorization") =
      [("Authorization", "Basic YWxpY2U6c2VjcmV0")] ∧
    ("Range", "bytes=0-9") ∈ (Credential.attach "alice" "secret" h).entries ∧
    ∃ fields, Field.ofHeaders r.headers = .ok fields ∧
      fields.entries.filter (sameName ·.1 "authorization") =
        [("authorization", "Basic dG9rZW46dC0x")] := by
  intro h r
  have halice : Credential.basic "alice" "secret" = "Basic YWxpY2U6c2VjcmV0" := by decide
  have htoken : Credential.basic "token" "t-1" = "Basic dG9rZW46dC0x" := by decide
  obtain ⟨hone, hothers, -, -, hsent⟩ := credentials_replace_credentials "alice" "secret" h
  obtain ⟨value, hlast, hfields⟩ := hsent (Request.get "http://a/")
    [.headers h, .credentials "alice" "secret", .header "authorization" "z"] (.token "t-1")
    [.header "Accept" "*/*"] rfl (by decide)
  have hvalue : value = Credential.basic "token" "t-1" := (Option.some.inj hlast).symm
  have hlegal : ∀ entry ∈ r.headers.entries, Field.Legal entry := by decide
  have haccepted := Field.ofHeaders_of_legal (h := r.headers) (by decide) hlegal
  refine ⟨halice ▸ hone, (hothers _ _ (by decide)).mpr (by decide), _, haccepted, ?_⟩
  rw [← htoken, ← hvalue]
  exact hfields _ haccepted

end ServiceLocator
