import ServiceLocator.Proofs.Transport.Wire

/-!
Requests that stay where they are. A request over HTTP is turned down for its URI or, if that is a
URL, for the first of its headers that cannot be sent, unless there are too many of them: then the
program crashes (`Request.Unsent`). The far end sees nothing of such a request. What is wrong with
any other request is wrong on the way.
-/
namespace ServiceLocator

variable {σ : Type}

/-- Why a request is not sent: its URI is no URL, or it is one and the headers cannot be sent. -/
inductive Request.Unsent (request : Request) : CallError → Prop
  | uri {fault} : Url.parse request.uri = .error fault → Unsent request (.invalidUri fault.message)
  | headers {url fault} : Url.parse request.uri = .ok url →
      Field.ofHeaders request.headers = .error fault → Unsent request fault.toError

/-- The URI of a request is a URL, and its headers can be sent. -/
def Request.InOrder (request : Request) : Prop :=
  (∃ url, Url.parse request.uri = .ok url) ∧
    ∃ fields, Field.ofHeaders request.headers = .ok fields

/-- An error with which requests are not sent. -/
def CallError.isRefusal : CallError → Bool
  | .invalidUri _ | .header _ | .crash _ => true
  | _ => false

namespace Transport

variable {settings : HttpSettings} {request : Request} {e : CallError}

theorem answer_http_of_unsent (h : request.Unsent e) (peer : Peer σ) (s : σ) :
    (http settings peer).answer s request = .error e := by
  cases h with
  | uri hurl => simp only [answer, http, hurl]
  | headers hurl hfields => simp only [answer, http, hurl, hfields]

/-- Nothing leaves of a request that is not sent. -/
theorem wire?_of_unsent (h : request.Unsent e) : wire? settings request = none := by
  cases h with
  | uri hurl => simp only [wire?, hurl]
  | headers hurl hfields => simp only [wire?, hurl, hfields]

theorem state_http_of_unsent (h : request.Unsent e) (peer : Peer σ) (s : σ) :
    ((http settings peer).deliver request s).2 = s := by
  rw [state_deliver_http, wire?_of_unsent h]

/-- A request that is in order can only be lost on the way. -/
theorem isRefusal_answer_http (h : request.InOrder) {peer : Peer σ} {s : σ}
    (herror : (http settings peer).answer s request = .error e) : e.isRefusal = false := by
  obtain ⟨⟨url, hurl⟩, fields, hfields⟩ := h
  simp only [answer, http, hurl, hfields, sendComposed] at herror
  split at herror
  · simp only [PeerAnswer.toReply] at herror
    split at herror <;> cases herror <;> rfl
  · cases herror
    rfl

end Transport

/-- Bad requests are turned down before anything is sent, and always for the same reason. A URI
that is no URL comes first. Then comes the number of headers: where there is no room for them the
program crashes, whatever they are. Then comes the header that is wrong and has the least name in
the order of bytes; it is called by its name as given if that is wrong, and else by its name in
lower case. Whatever else the request holds, the far end sees nothing of it. If the URI is a URL,
there is room for the headers and none of them is wrong, each field has the value under the
greatest spelling of its name, there are no other fields, and the request is not turned down. -/
theorem bad_requests_stay_unsent (settings : HttpSettings) (peer : Peer σ) (request : Request)
    (s : σ) :
    let t := Transport.http settings peer
    (∀ fault, Url.parse request.uri = .error fault →
      t.answer s request = .error (.invalidUri fault.message) ∧ (t.deliver request s).2 = s) ∧
    ∀ url, Url.parse request.uri = .ok url →
      (Field.maxCount < request.headers.entries.length →
        (∃ reason, t.answer s request = .error (.crash reason)) ∧ (t.deliver request s).2 = s) ∧
      (request.headers.entries.length ≤ Field.maxCount →
        ((∃ entry ∈ request.headers.entries, ¬Field.Legal entry) →
          ∃ name value, (name, value) ∈ request.headers.entries ∧ ¬Field.Legal (name, value) ∧
            (∀ entry ∈ request.headers.entries, Utf8.encode entry.1 < Utf8.encode name →
              Field.Legal entry) ∧
            (Field.isName name = false →
              t.answer s request = .error (.header (name ++ ": invalid HTTP header name"))) ∧
            (Field.isName name = true → t.answer s request =
              .error (.header (asciiLower name ++ ": failed to parse header value"))) ∧
            (t.deliver request s).2 = s) ∧
        ((∀ entry ∈ request.headers.entries, Field.Legal entry) →
          (∃ fields, Field.ofHeaders request.headers = .ok fields ∧
            ∀ name value, (name, value) ∈ fields.entries ↔
              ∃ spelling, (spelling, value) ∈ request.headers.entries ∧
                asciiLower spelling = name ∧
                ∀ entry ∈ request.headers.entries, asciiLower entry.1 = name →
                  Utf8.encode entry.1 ≤ Utf8.encode spelling) ∧
          ∀ e, t.answer s request = .error e → e.isRefusal = false)) := by
  intro t
  have hunsent : ∀ {e}, request.Unsent e → t.answer s request = .error e ∧
      (t.deliver request s).2 = s := fun h =>
    ⟨Transport.answer_http_of_unsent h peer s, Transport.state_http_of_unsent h peer s⟩
  refine ⟨fun fault hurl => hunsent (.uri hurl),
    fun url hurl => ⟨fun hmany => ?_, fun hcount => ⟨?_, fun hlegal => ?_⟩⟩⟩
  · obtain ⟨hanswer, hstate⟩ := hunsent (.headers hurl (Field.ofHeaders_eq_tooMany.mpr hmany))
    exact ⟨⟨_, hanswer⟩, hstate⟩
  · rintro ⟨entry, hentry, hillegal⟩
    obtain ⟨fault, hfault⟩ := Field.exists_add_eq_error hentry hillegal ∅
    rw [← Field.ofHeaders_of_le hcount] at hfault
    obtain ⟨hanswer, hstate⟩ := hunsent (.headers hurl hfault)
    obtain ⟨⟨name, value⟩, hmem, hwrong, hfirst⟩ := (Field.ofHeaders_eq_error hcount).mp hfault
    simp only [← Utf8.encode_lt_iff] at hfirst
    refine ⟨name, value, hmem, hwrong.not_legal, hfirst, fun hbad => ?_, fun hname => ?_, hstate⟩
    · rw [hanswer, hwrong.unique (.name hbad)]
      rfl
    · cases hwrong with
      | name hbad => simp [hbad] at hname
      | value => exact hanswer
  · have hfields := Field.ofHeaders_of_legal hcount hlegal
    have horder : request.InOrder := ⟨⟨url, hurl⟩, _, hfields⟩
    refine ⟨⟨_, hfields, fun name value => ?_⟩, fun e => Transport.isRefusal_answer_http horder⟩
    simp only [Utf8.encode_le_iff]
    exact Field.mem_ofHeaders hfields

/-- A request with a bad URI, one with a bad name and a bad value, of which the latter has the
lesser name, and one with two spellings of a name, of which the second is the greater. -/
theorem bad_requests_stay_unsent_spellings :
    let t := Transport.http .default Peer.scripted
    let script : Peer.Script := ⟨[.silent], []⟩
    let bad := Headers.ofList [("a b", "1"), ("B", "\n"), ("c", "2")]
    let spellings := Headers.ofList [("a", "1"), ("A", "2")]
    t.answer script ⟨.get, "x", bad, none⟩ = .error (.invalidUri "relative URL without a base") ∧
      t.answer script ⟨.get, "a:", bad, none⟩ =
        .error (.header "b: failed to parse header value") ∧
      (t.deliver ⟨.get, "a:", bad, none⟩ script).2 = script ∧
      ∃ fields, Field.ofHeaders spellings = .ok fields ∧ ("a", "1") ∈ fields.entries ∧
        ("a", "2") ∉ fields.entries := by
  intro t script bad spellings
  have hrelative : Url.parse "x" = .error .relative := rfl
  have hurl : Url.parse "a:" = .ok ⟨"a", "", "", none, none, .rootless "", none, none⟩ := rfl
  have hbad : bad.entries = [("B", "\n"), ("a b", "1"), ("c", "2")] := by decide
  have hspellings : spellings.entries = [("A", "2"), ("a", "1")] := by decide
  obtain ⟨huri, -⟩ := bad_requests_stay_unsent .default Peer.scripted ⟨.get, "x", bad, none⟩ script
  obtain ⟨-, hheaders⟩ :=
    bad_requests_stay_unsent .default Peer.scripted ⟨.get, "a:", bad, none⟩ script
  obtain ⟨-, hroom⟩ := hheaders _ hurl
  obtain ⟨hwrong, -⟩ := hroom (by decide)
  obtain ⟨-, hfields⟩ :=
    bad_requests_stay_unsent .default Peer.scripted ⟨.get, "a:", spellings, none⟩ script
  obtain ⟨-, hroom⟩ := hfields _ hurl
  obtain ⟨-, hlegal⟩ := hroom (by decide)
  obtain ⟨name, value, hmem, -, hfirst, -, hvalue, hstate⟩ := hwrong (by decide)
  obtain ⟨⟨fields, hok, hentries⟩, -⟩ := hlegal (by decide)
  have hname : name = "B" := by
    simp only [hbad, List.mem_cons, Prod.mk.injEq, List.not_mem_nil, or_false] at hmem
    rcases hmem with ⟨rfl, -⟩ | ⟨rfl, -⟩ | ⟨rfl, -⟩
    · rfl
    · exact absurd (hfirst ("B", "\n") (by decide) (by decide)) (by decide)
    · exact absurd (hfirst ("B", "\n") (by decide) (by decide)) (by decide)
  subst hname
  refine ⟨(huri _ hrelative).1, hvalue (by decide), hstate, fields, hok, ?_, ?_⟩
  · exact (hentries "a" "1").mpr ⟨"a", by decide, by decide, by decide⟩
  · rw [hentries]
    rintro ⟨spelling, hmem, -, hgreatest⟩
    have ha := hgreatest ("a", "1") (by decide) (by decide)
    simp only [hspellings, List.mem_cons, Prod.mk.injEq, List.not_mem_nil, or_false] at hmem
    rcases hmem with ⟨rfl, -⟩ | ⟨rfl, hother⟩
    · exact absurd ha (by decide)
    · exact absurd hother (by decide)

/-! ## A header too many -/

namespace Headers

/-- Names of three characters, in the order of their numbers. -/
def shortName (n : Nat) : String :=
  let digit (k : Nat) : Char := Char.ofNat (0x30 + k)
  String.ofList [digit (n / 1024), digit (n / 32 % 32), digit (n % 32)]

theorem shortName_lt {m n : Nat} (hless : m < n) (hn : n < 32768) :
    shortName m < shortName n := by
  have hdigit : ∀ i < 32, ∀ j < 32, i < j → Char.ofNat (0x30 + i) < Char.ofNat (0x30 + j) := by
    decide
  rw [shortName, shortName, String.lt_iff_toList_lt, String.toList_ofList, String.toList_ofList]
  simp only [List.cons_lt_cons_iff]
  rcases Nat.lt_or_eq_of_le (Nat.div_le_div_right hless.le : m / 1024 ≤ n / 1024) with h | h
  · exact .inl (hdigit _ (by omega) _ (by omega) h)
  · refine .inr ⟨by rw [h], ?_⟩
    rcases Nat.lt_or_ge (m / 32 % 32) (n / 32 % 32) with h | h
    · exact .inl (hdigit _ (by omega) _ (by omega) h)
    · have hsame : m / 32 % 32 = n / 32 % 32 := by omega
      exact .inr ⟨by rw [hsame], .inl (hdigit _ (by omega) _ (by omega) (by omega))⟩

/-- One header more than there is room for. -/
def overfull : Headers :=
  .ofList ((List.range (Field.maxCount + 1)).map fun n => (shortName n, ""))

theorem entries_overfull :
    overfull.entries = (List.range (Field.maxCount + 1)).map fun n => (shortName n, "") := by
  have hbound : Field.maxCount + 1 ≤ 32768 := by decide
  refine entries_ofList (List.pairwise_map.mpr ?_)
  exact List.pairwise_lt_range.imp_of_mem fun _ hn hless =>
    shortName_lt hless ((List.mem_range.mp hn).trans_le hbound)

end Headers

/-- One header too many keeps a bad name from being reported. -/
theorem overfull_headers_go_unreported :
    (∃ url, Url.parse "a:" = .ok url) ∧ ("00:", "") ∈ Headers.overfull.entries ∧
      ¬Field.Legal ("00:", "") ∧
      ∀ text, (Transport.http .default .absent).answer () ⟨.get, "a:", .overfull, none⟩ ≠
        .error (.header text) := by
  have hurl : Url.parse "a:" = .ok ⟨"a", "", "", none, none, .rootless "", none, none⟩ := rfl
  have hmany : Field.maxCount < Headers.overfull.entries.length := by
    rw [Headers.entries_overfull, List.length_map, List.length_range]
    exact Nat.lt_succ_self _
  have hbad : ("00:", "") ∈ Headers.overfull.entries := by
    rw [Headers.entries_overfull]
    exact List.mem_map.mpr ⟨10, List.mem_range.mpr (by decide), by decide⟩
  have hunsent : Request.Unsent ⟨.get, "a:", .overfull, none⟩ (Field.Fault.toError .tooMany) :=
    .headers hurl (Field.ofHeaders_eq_tooMany.mpr hmany)
  refine ⟨⟨_, hurl⟩, hbad, by decide, fun text => ?_⟩
  rw [Transport.answer_http_of_unsent hunsent]
  rintro ⟨⟩

end ServiceLocator
