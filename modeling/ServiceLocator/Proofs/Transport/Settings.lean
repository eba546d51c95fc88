import ServiceLocator.Proofs.Transport.Wire

/-!
Settings of which a transport can be built. A check names what is wrong with settings, the proxy
first (`HttpSettings.check_eq_error`); where none are given, nothing is wrong
(`HttpSettings.check_default`). What passed the check can be sent: besides the host no field of a
request that leaves has a value that is not legal (`HttpSettings.sound_of_wire?`).
-/
namespace ServiceLocator

/-! ## Checks -/

namespace HttpSettings

/-- A text is a URL with a host. -/
def NamesHost (text : String) : Prop := ∃ url, Url.parse text = .ok url ∧ url.hasHost = true

/-- A proxy is named by a URL with a host. If a text is no URL for want of a scheme, or one without
a host, it may name a proxy after the scheme of HTTP. -/
theorem isProxy_iff {text : String} : isProxy text = true ↔
    NamesHost text ∨ NamesHost ("http://" ++ text) ∧
      ∀ fault, Url.parse text = .error fault → fault = .relative := by
  unfold isProxy NamesHost
  cases Url.parse text with
  | ok url => cases Url.parse ("http://" ++ text) <;> simp
  | error fault => cases Url.parse ("http://" ++ text) <;> cases fault <;> simp

/-- What is wrong with settings. -/
inductive Wrong (s : HttpSettings) : String → Prop
  | proxy : s.proxy ≠ "" → isProxy s.proxy = false → Wrong s "invalid proxy url: builder error"
  | userAgent : (s.proxy ≠ "" → isProxy s.proxy = true) → Field.isValue s.userAgent = false →
      Wrong s "failed to build http client: builder error"

variable {s : HttpSettings} {e : CallError}

theorem check_eq_error : s.check = .error e ↔ ∃ text, s.Wrong text ∧ e = .config text := by
  unfold check
  simp only [Bool.not_eq_true']
  constructor
  · intro h
    split_ifs at h with hproxy hagent <;> cases h
    · exact ⟨_, .proxy hproxy.1 hproxy.2, rfl⟩
    · refine ⟨_, .userAgent (fun hne => ?_) hagent, rfl⟩
      exact Bool.of_not_eq_false fun hnot => hproxy ⟨hne, hnot⟩
  · rintro ⟨text, hwrong, rfl⟩
    cases hwrong with
    | proxy hne hproxy => exact if_pos ⟨hne, hproxy⟩
    | userAgent hproxy hagent =>
      rw [if_neg (fun h => by simp [hproxy h.1] at h), if_pos hagent]

/-- Settings are in order if nothing is wrong with them. -/
theorem check_eq_ok : s.check = .ok () ↔ ∀ text, ¬s.Wrong text := by
  cases hcheck : s.check with
  | ok =>
    refine iff_of_true rfl fun text hwrong => ?_
    cases hcheck.symm.trans (check_eq_error.mpr ⟨text, hwrong, rfl⟩)
  | error e =>
    obtain ⟨text, hwrong, -⟩ := check_eq_error.mp hcheck
    exact iff_of_false nofun fun hnone => hnone text hwrong

/-- Nothing is wrong where no settings are given. -/
theorem check_default : default.check = .ok () := by decide

theorem isValue_userAgent (h : s.check = .ok ()) : Field.isValue s.userAgent = true := by
  refine Bool.of_not_eq_false fun hagent => ?_
  have hnone := check_eq_ok.mp h
  refine hnone _ (.userAgent (fun hne => ?_) hagent)
  exact Bool.of_not_eq_false fun hproxy => hnone _ (.proxy hne hproxy)

end HttpSettings

/-! ## What is sent -/

/-- All values of fields are legal but that of the host, which is the URL's. -/
def Field.Sound (fields : Headers) : Prop :=
  ∀ entry ∈ fields.entries, entry.1 = "host" ∨ Field.isValue entry.2 = true

namespace Field

variable {fields : Headers} {name value : String}

theorem Sound.insert (h : Sound fields) (hvalue : name = "host" ∨ isValue value = true) :
    Sound (fields.insert name value) := by
  intro entry hentry
  rcases Headers.mem_insert hentry with rfl | hentry
  · exact hvalue
  · exact h entry hentry

theorem Sound.supply (h : Sound fields) (hvalue : name = "host" ∨ isValue value = true) :
    Sound (WireRequest.supply fields name value) := by
  unfold WireRequest.supply
  split
  · exact h
  · exact h.insert hvalue

theorem sound_ofHeaders {h : Headers} (hfields : ofHeaders h = .ok fields) : Sound fields := by
  rintro ⟨name, value⟩ hentry
  obtain ⟨spelling, hgiven, -⟩ := (mem_ofHeaders hfields).mp hentry
  exact .inr (legal_of_ofHeaders hfields _ hgiven).2

theorem Sound.trimmed (h : Sound fields) : Sound (WireRequest.trimmed fields) := by
  intro entry hentry
  rw [WireRequest.entries_trimmed] at hentry
  obtain ⟨given, hgiven, rfl⟩ := List.mem_map.mp hentry
  exact (h given hgiven).imp_right isValue_trim

theorem Sound.fieldsFor {settings : HttpSettings} (hagent : isValue settings.userAgent = true)
    (h : Sound fields) (url : Url) (body : Bytes) :
    Sound (WireRequest.fieldsFor settings url fields body) := by
  have haccept : isValue "*/*" = true := by decide
  unfold WireRequest.fieldsFor
  dsimp only
  have hhost : Sound (WireRequest.supply (WireRequest.supply (WireRequest.supply fields "accept"
      "*/*") "user-agent" settings.userAgent) "host" url.hostText) :=
    ((h.supply (.inr haccept)).supply (.inr hagent)).supply (.inl rfl)
  generalize WireRequest.supply _ "host" url.hostText = supplied at hhost ⊢
  have hlength : Sound (if body.isEmpty then supplied else
      WireRequest.supply supplied "content-length" (Numeral.text body.length)) := by
    split
    · exact hhost
    · exact hhost.supply (.inr (isValue_text _))
  cases url.credentials? with
  | none => exact hlength
  | some login => exact hlength.supply (.inr (isValue_basic _ _))

end Field

/-- Over a transport of which the settings passed the check, the values of a request that leaves
are legal, also those that it was not given. -/
theorem HttpSettings.sound_of_wire? {settings : HttpSettings} (hcheck : settings.check = .ok ())
    {request : Request} {wire : WireRequest}
    (hwire : Transport.wire? settings request = some wire) : Field.Sound wire.fields := by
  obtain ⟨url, given, -, hgiven, -, rfl⟩ := Transport.wire?_eq_some.mp hwire
  exact ((Field.sound_ofHeaders hgiven).fieldsFor (isValue_userAgent hcheck) url _).trimmed

end ServiceLocator
