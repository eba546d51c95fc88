import ServiceLocator.Proofs.Client.Credentials
import ServiceLocator.Proofs.Locator.Folder

/-!
Ids of sessions and datasets as segments of paths. An id is put into the path of an endpoint as
it is. It travels as one segment that is decoded to it exactly if it is plain: an id with a
slash, say, travels as two segments.
-/
namespace ServiceLocator

open List (Forall₂)
open Url (percentDecode percentEncode pathSet)

variable {σ : Type}

/-! ## Segments of operations -/

/-- The segments that paths of endpoints consist of. -/
inductive Segment where
  | tokens
  | sessions
  | datasets
  | empty
  | id (text : String)

namespace Segment

/-- The segment in the path of an endpoint. Nothing follows the last slash of a collection. -/
def text : Segment → String
  | tokens => "tokens"
  | sessions => "sessions"
  | datasets => "datasets"
  | empty => ""
  | id text => text

/-- What a segment looks like in a URL: an id is anything that is decoded to it. -/
def WrittenAs : Segment → String → Prop
  | id text, written => percentDecode written.toList = Utf8.encode text
  | word, written => written = word.text

theorem percentDecode_of_writtenAs {segment : Segment} {written : String}
    (h : segment.WrittenAs written) :
    percentDecode written.toList = Utf8.bytes segment.text.toList := by
  cases segment with
  | id text => exact h
  | _ =>
    cases h
    decide

/-- What is true of the words is true of a segment if it is true of its id. -/
theorem of_words {p : String → Bool}
    (hwords : ["tokens", "sessions", "datasets", ""].all p = true) (segment : Segment)
    (hid : ∀ text, segment = .id text → p text = true) : p segment.text = true := by
  cases segment with
  | id text => exact hid text rfl
  | _ => exact List.all_eq_true.mp hwords _ (by simp [text])

theorem writtenAs_percentEncode {segment : Segment}
    (h : Url.Path.isKept segment.text.toList = true) :
    segment.WrittenAs (percentEncode pathSet segment.text.toList) := by
  cases segment with
  | id text => exact Url.Path.percentDecode_of_isKept h
  | _ =>
    show percentEncode pathSet _ = _
    decide

end Segment

namespace Operation

/-- The segments of an operation's endpoint. -/
def segments : Operation → List Segment
  | .issueToken .. => [.tokens, .empty]
  | .listSessions | .createSession _ => [.sessions, .empty]
  | .getSession session | .deleteSession session => [.sessions, .id session]
  | .listDatasets session => [.sessions, .id session, .datasets, .empty]
  | .getDataset session dataset | .getFile session dataset _ =>
    [.sessions, .id session, .datasets, .id dataset]

/-- The texts of these segments. -/
def texts (op : Operation) : List String := op.segments.map Segment.text

theorem texts_ne_nil (op : Operation) : op.texts.map String.toList ≠ [] := by
  cases op <;> exact List.cons_ne_nil _ _

theorem toList_path (op : Operation) :
    op.path.toList = '/' :: Endpoint.slashed (op.texts.map String.toList) := by
  cases op <;>
    simp [path, texts, segments, Segment.text, Endpoint.tokens, Endpoint.sessions,
      Endpoint.session, Endpoint.datasets, Endpoint.dataset, String.toList_append,
      Endpoint.slashed_cons_cons, Endpoint.slashed_singleton]

theorem exists_segment {op : Operation} {text : List Char} (h : text ∈ op.texts.map String.toList) :
    ∃ segment ∈ op.segments, segment.text.toList = text := by
  simpa [texts] using h

/-- The ids of an operation can be told from its path: none has a mark, is a dot segment or has
an escape, and none that the path ends with ends in a blank. -/
structure Plain (op : Operation) : Prop where
  unmarked : ∀ id, .id id ∈ op.segments → ∀ c ∈ id.toList, Endpoint.isMark c = false
  tight : ∀ id, .id id ∈ op.segments.getLast? → Endpoint.Tight id
  kept : ∀ id, .id id ∈ op.segments → Url.Path.isKept id.toList = true

/-- The words of a path are plain in any case. -/
theorem plain_iff {op : Operation} : op.Plain ↔ Endpoint.Plain (op.texts.map String.toList) := by
  constructor
  · intro h
    refine ⟨fun text htext => ?_, fun text htext => ?_, fun text htext => ?_⟩
    · obtain ⟨segment, hsegment, rfl⟩ := exists_segment htext
      have hall := Segment.of_words (p := fun text => text.toList.all (!Endpoint.isMark ·))
        (by decide) segment fun id hid => by simpa using h.unmarked id (hid ▸ hsegment)
      simpa using hall
    · unfold texts at htext
      rw [List.map_map, List.getLast?_map] at htext
      obtain ⟨segment, hsegment, rfl⟩ := Option.map_eq_some_iff.mp htext
      have hall := Segment.of_words (p := fun text => text.toList.getLast?.all (!Url.isBlank ·))
        (by decide) segment fun id hid => by
          simpa [Option.all_eq_true, Endpoint.Tight] using h.tight id (hid ▸ hsegment)
      simpa [Option.all_eq_true] using hall
    · obtain ⟨segment, hsegment, rfl⟩ := exists_segment htext
      exact Segment.of_words (p := fun text => Url.Path.isKept text.toList) (by decide)
        segment fun id hid => h.kept id (hid ▸ hsegment)
  · intro h
    have hmem : ∀ {id}, .id id ∈ op.segments → id.toList ∈ op.texts.map String.toList := by
      intro id hid
      exact List.mem_map_of_mem (List.mem_map_of_mem (f := Segment.text) hid)
    refine ⟨fun id hid => h.unmarked _ (hmem hid), fun id hid => h.tight _ ?_,
      fun id hid => h.kept _ (hmem hid)⟩
    unfold texts
    rw [List.map_map, List.getLast?_map, Option.mem_def.mp hid]
    rfl

/-- A URL asks for the endpoint of an operation below a folder, segment by segment. -/
def AskedAt (op : Operation) (folder : List String) (url : Url) : Prop :=
  url.query = none ∧ ∃ written, url.path = .segments (folder ++ written) ∧
    Forall₂ Segment.WrittenAs op.segments written

end Operation

/-- Segments that are written in a URL are decoded to all their bytes. -/
theorem weight_of_writtenAs {segments : List Segment} {written : List String}
    (h : Forall₂ Segment.WrittenAs segments written) :
    Url.Path.weight written =
      (Utf8.bytes ((segments.map Segment.text).map String.toList).flatten).length := by
  induction h with
  | nil => rfl
  | @cons segment first segments later hfirst _ ih =>
    rw [Url.Path.weight_cons, ih, Segment.percentDecode_of_writtenAs hfirst]
    simp only [List.map_cons, List.flatten_cons, Utf8.bytes_append, List.length_append]

namespace Operation

section

variable {base : String} {url : Url} (hbase : Url.parse base = .ok url) (hspecial : url.IsSpecial)
  (hquery : url.query = none) (hfragment : url.fragment = none)
include hbase hspecial hquery hfragment

/-- A plain operation is asked for by its segments, each of them encoded. -/
theorem Plain.path_eq {op : Operation} (hplain : op.Plain) {url' : Url}
    (h : Url.parse (Endpoint.joined base op.path) = .ok url') :
    url'.query = none ∧ url'.path = .segments (Endpoint.folder base ++
      op.texts.map fun text => percentEncode pathSet text.toList) := by
  obtain ⟨hpath, hquery⟩ := Endpoint.path_joined hbase hspecial hquery hfragment op.toList_path h
  rw [(plain_iff.mp hplain).dropWhile_trailing] at hquery
  rw [(plain_iff.mp hplain).resolve op.texts_ne_nil, List.map_map] at hpath
  exact ⟨hquery, hpath⟩

/-- Plain operations, and no others, are asked for segment by segment. -/
theorem askedAt_iff {op : Operation} {url' : Url}
    (h : Url.parse (Endpoint.joined base op.path) = .ok url') :
    op.AskedAt (Endpoint.folder base) url' ↔ op.Plain := by
  constructor
  · rintro ⟨-, written, hwritten, hsegments⟩
    obtain ⟨hpath, -⟩ := Endpoint.path_joined hbase hspecial hquery hfragment op.toList_path h
    rw [hwritten, Url.Path.segments.injEq] at hpath
    have hweight := congrArg Url.Path.weight hpath
    rw [Url.Path.weight_append, weight_of_writtenAs hsegments] at hweight
    exact plain_iff.mpr (.of_weight op.texts_ne_nil hweight.le)
  · intro hplain
    obtain ⟨hnone, hpath⟩ := hplain.path_eq hbase hspecial hquery hfragment h
    refine ⟨hnone, _, hpath, ?_⟩
    unfold texts
    rw [List.map_map, List.forall₂_map_right_iff, List.forall₂_same]
    intro segment hsegment
    refine Segment.writtenAs_percentEncode ((plain_iff.mp hplain).kept _ ?_)
    exact List.mem_map_of_mem (List.mem_map_of_mem hsegment)

/-- Plain operations ask for the same only if all their segments are the same. -/
theorem path_eq_iff {op op' : Operation} (hplain : op.Plain) (hplain' : op'.Plain)
    {url' url'' : Url} (h : Url.parse (Endpoint.joined base op.path) = .ok url')
    (h' : Url.parse (Endpoint.joined base op'.path) = .ok url'') :
    url'.path = url''.path ↔ op.texts = op'.texts := by
  rw [(hplain.path_eq hbase hspecial hquery hfragment h).2,
    (hplain'.path_eq hbase hspecial hquery hfragment h').2]
  constructor
  · intro hpath
    have hencoded := List.append_cancel_left (Url.Path.segments.inj hpath)
    have hdecode : ∀ {op : Operation}, op.Plain →
        (op.texts.map fun text => percentEncode pathSet text.toList).map
          (fun written => percentDecode written.toList) = op.texts.map Utf8.encode := by
      intro op hplain
      rw [List.map_map]
      refine List.map_congr_left fun text htext => ?_
      rw [Function.comp_apply, Utf8.encode_eq_bytes]
      have hkept := (plain_iff.mp hplain).kept _ (List.mem_map_of_mem htext)
      exact Url.Path.percentDecode_of_isKept hkept
    have hbytes := congrArg (List.map fun written => percentDecode written.toList) hencoded
    rw [hdecode hplain, hdecode hplain'] at hbytes
    refine List.map_injective_iff.mpr (fun a b hab => ?_) hbytes
    exact String.toList_inj.mp (Utf8.bytes_inj hab)
  · intro htexts
    rw [htexts]

end

end Operation

/-! ## Segments of requests -/

variable {c : Client} {op : Operation} {t : Transport σ} {s : σ}

/-- The second request of an operation goes to the address that its service is found at. -/
theorem uri_of_sent {request : Request} {address : String}
    (hresolve : ((c.resolve op.service.role).run t s).result = .ok address)
    (hsent : ((c.perform op).run t s).sent[1]? = some request) :
    request.uri = Endpoint.joined address op.path := by
  obtain ⟨entries, address', hlisted, hselect, hjoin⟩ := (composed_of_sent hsent).located
  rw [resolve_eq_ok.mpr ⟨entries, hlisted, hselect⟩] at hresolve
  cases hresolve
  exact Endpoint.eq_joined_of_join hjoin

/-- A request that travels has the path and the query of its URL. -/
theorem exists_url_of_wire? {settings : HttpSettings} {request : Request} {wire : WireRequest}
    (hwire : Transport.wire? settings request = some wire) :
    ∃ url, Url.parse request.uri = .ok url ∧ url.IsSpecial ∧ wire.url.path = url.path ∧
      wire.url.query = url.query := by
  obtain ⟨url, fields, hurl, -, htarget, rfl⟩ := Transport.wire?_eq_some.mp hwire
  exact ⟨url, hurl, Url.isSpecial_of_isHttpTarget htarget, rfl, rfl⟩

/-- An operation without a body is asked for at the address that is listed for its service. -/
theorem Listed.asked {entries : List Json.Value} (hlisted : Listed c t s entries) {address : String}
    (hselect : Listing.select (Listing.descriptors entries) op.service.role c.caller =
      .ok address)
    (hasks : op.asksNothing = false) (hbody : op.body = .ok none) {url : Url} {fields : Headers}
    (hurl : Url.parse (Endpoint.joined address op.path) = .ok url)
    (htarget : url.isHttpTarget = true) (hfields : Field.ofHeaders (op.headers c) = .ok fields)
    (settings : HttpSettings) :
    ((c.resolve op.service.role).run t s).result = .ok address ∧
      ∃ request wire, ((c.perform op).run t s).sent[1]? = some request ∧
        Transport.wire? settings request = some wire ∧ wire.url.path = url.path := by
  let request : Request := ⟨op.method, Endpoint.joined address op.path, op.headers c, none⟩
  have hjoin : Endpoint.join address op.path = .ok request.uri :=
    Endpoint.join_eq_ok.mpr ⟨rfl, _, hurl⟩
  have hcomposed : Composed c op t s request :=
    ⟨⟨_, _, hlisted, hselect, hjoin⟩, hbody, rfl, rfl⟩
  refine ⟨resolve_eq_ok.mpr ⟨_, hlisted, hselect⟩, request, _, ?_,
    Transport.wire?_eq_some.mpr ⟨url, fields, hurl, hfields, htarget, rfl⟩, rfl⟩
  rw [sent_of_composed hasks hcomposed]
  rfl

/-- A URL of a host that has a single letter for its name. -/
theorem parse_of_letter (text : String) (after : List Char)
    (h : Url.Opens text "http" 80 ('h' :: '/' :: after)) :
    Url.parse text =
      .ok (Url.ofSpecial "http" ⟨"", "", .domain "h", none⟩ ('/' :: after)) := by
  have hchars : Utf8.chars? [0x68] = some ['h'] := Utf8.chars?_ascii (by simp)
  have hhost : Url.Host.parse ['h'] = .ok (.domain "h") := by
    unfold Url.Host.parse Url.Domain.toAscii?
    rw [show percentDecode ['h'] = [0x68] by decide, hchars]
    rfl
  have hauth : Url.specialAuthority 80 ['h'] = .ok ⟨"", "", .domain "h", none⟩ := by
    show (do
      let host ← Url.Host.parse ['h']
      return ⟨"", "", host, none⟩ : Except Url.Fault Url.Authority) = _
    rw [hhost]
    rfl
  exact h.parse_eq_ok.mpr ⟨_, hauth, rfl⟩

/-- Below an address without query and fragment there is one folder for all endpoints, and it
is the path of the address up to slashes and blanks at the end. The ids of an operation travel
as single segments below it, each decoded to the id, exactly if the operation is plain; and
plain operations with different segments ask for different paths. -/
theorem ids_travel_as_segments (c : Client) (op : Operation) (t : Transport σ) (s : σ)
    (settings : HttpSettings) (address : String) (url : Url) (request : Request)
    (wire : WireRequest)
    (hresolve : ((c.resolve op.service.role).run t s).result = .ok address)
    (hurl : Url.parse address = .ok url) (hquery : url.query = none)
    (hfragment : url.fragment = none)
    (hsent : ((c.perform op).run t s).sent[1]? = some request)
    (hwire : Transport.wire? settings request = some wire) :
    (Endpoint.Tight address →
      ∃ n, url.path = .segments (Endpoint.folder address ++ List.replicate n "")) ∧
    (op.AskedAt (Endpoint.folder address) wire.url ↔ op.Plain) ∧
    ∀ (op' : Operation) (settings' : HttpSettings) (request' : Request) (wire' : WireRequest),
      request'.uri = Endpoint.joined address op'.path →
      Transport.wire? settings' request' = some wire' → op.Plain → op'.Plain →
        (wire.url.path = wire'.url.path ↔ op.texts = op'.texts) := by
  have huri := uri_of_sent hresolve hsent
  obtain ⟨own, hown, hownSpecial, hpath, hnone⟩ := exists_url_of_wire? hwire
  rw [huri] at hown
  have hspecial : url.IsSpecial :=
    Endpoint.isSpecial_of_joined op.toList_path hown hownSpecial hurl
  refine ⟨Endpoint.exists_path_eq_folder hurl hspecial hquery hfragment, ?_, ?_⟩
  · unfold Operation.AskedAt
    rw [hpath, hnone]
    exact Operation.askedAt_iff hurl hspecial hquery hfragment hown
  · intro op' settings' request' wire' huri' hwire' hplain hplain'
    obtain ⟨other, hother, -, hpath', -⟩ := exists_url_of_wire? hwire'
    rw [huri'] at hother
    rw [hpath, hpath']
    exact Operation.path_eq_iff hurl hspecial hquery hfragment hplain hplain' hown hother

/-- A session with a space in its id is asked for at an address with a path. -/
theorem ids_travel_as_segments_getSession :
    let replies : List ScriptedReply :=
      [.reply 200 "" ∅ (Utf8.encode "[[\"session-db\",\"http://h/a/\"]]") none]
    let c : Client := .new (.internal "a:") none
    let op : Operation := .getSession "x y"
    ∃ request wire, ((c.perform op).run .scripted replies).sent[1]? = some request ∧
      Transport.wire? .default request = some wire ∧
      wire.url.path = .segments ["a", "sessions", "x%20y"] ∧
      op.AskedAt (Endpoint.folder "http://h/a/") wire.url := by
  intro replies c op
  have hparse : Json.parseList (Utf8.encode "[[\"session-db\",\"http://h/a/\"]]") =
      .ok [.array [.string "session-db", .string "http://h/a/"]] := by cbv
  have hlocator : Endpoint.join "a:" Endpoint.services = .ok "a:/services" := rfl
  have hlisted : Listed c .scripted replies
      [.array [.string "session-db", .string "http://h/a/"]] :=
    ⟨⟨_, hlocator⟩, _, rfl, rfl, hparse⟩
  have haddress := parse_of_letter "http://h/a/" ['a', '/'] ⟨rfl, _, rfl, rfl⟩
  have hpath : op.path = "/sessions/x y" := by decide
  have hopens : Url.Opens (Endpoint.joined "http://h/a/" op.path) "http" 80
      ('h' :: '/' :: "a/sessions/x y".toList) := by
    rw [hpath]
    exact ⟨rfl, _, rfl, rfl⟩
  have hurl := parse_of_letter _ _ hopens
  have htarget : (Url.ofSpecial "http" ⟨"", "", .domain "h", none⟩
      ('/' :: "a/sessions/x y".toList)).isHttpTarget = true := by
    unfold Url.isHttpTarget Url.target
    rw [Url.credentials?_eq_none rfl rfl]
    decide
  have hid : ∀ {id}, .id id ∈ op.segments → id = "x y" := by
    simp [op, Operation.segments]
  have hmarks : "x y".toList.all (!Endpoint.isMark ·) = true := by decide
  have hplain : op.Plain := by
    refine ⟨fun id h c hc => ?_, fun id h c hc => ?_, fun id h => ?_⟩
    · rw [hid h] at hc
      simpa only [Bool.not_eq_true'] using List.all_eq_true.mp hmarks c hc
    · rw [hid (List.mem_of_getLast? h)] at hc
      obtain rfl : 'y' = c := Option.some.inj hc
      decide
    · rw [hid h]
      decide
  obtain ⟨hresolve, request, wire, hsent, hwire, hwirePath⟩ :=
    hlisted.asked rfl rfl rfl hurl htarget rfl .default
  obtain ⟨-, hasked, -⟩ := ids_travel_as_segments c op .scripted replies .default "http://h/a/" _
    request wire hresolve haddress rfl rfl hsent hwire
  exact ⟨request, wire, hsent, hwire, hwirePath, hasked.mpr hplain⟩

/-- An id with a slash travels as two segments, of which neither is decoded to it. Addresses
are not always kept either: a blank at the end becomes part of the folder, and so does an
empty segment that a dot segment at the end protects from being cut off. -/
theorem segments_are_not_kept :
    let replies : List ScriptedReply :=
      [.reply 200 "" ∅ (Utf8.encode "[[\"session-db\",\"http://h/\"]]") none]
    let c : Client := .new (.internal "a:") none
    let op : Operation := .getSession "a/b"
    ((c.resolve op.service.role).run .scripted replies).result = .ok "http://h/" ∧
      Url.parse "http://h/" = .ok ⟨"http", "", "", some (.domain "h"), none, .segments [""],
        none, none⟩ ∧
      (∃ request wire, ((c.perform op).run .scripted replies).sent[1]? = some request ∧
        Transport.wire? .default request = some wire ∧
        wire.url.path = .segments ["sessions", "a", "b"] ∧
        ∀ written, wire.url.path ≠ .segments ["sessions", written]) ∧
      (∃ base url, Url.parse "http://h/a " = .ok base ∧ base.path = .segments ["a"] ∧
        Url.parse (Endpoint.joined "http://h/a " "/sessions/x") = .ok url ∧
        url.path = .segments ["a%20", "sessions", "x"]) ∧
      ∃ base url, Url.parse "http://h/a//." = .ok base ∧ base.path = .segments ["a", "", ""] ∧
        Url.parse (Endpoint.joined "http://h/a//." "/sessions/x") = .ok url ∧
        url.path = .segments ["a", "", "sessions", "x"] := by
  intro replies c op
  have hparse : Json.parseList (Utf8.encode "[[\"session-db\",\"http://h/\"]]") =
      .ok [.array [.string "session-db", .string "http://h/"]] := by cbv
  have hlocator : Endpoint.join "a:" Endpoint.services = .ok "a:/services" := rfl
  have hlisted : Listed c .scripted replies
      [.array [.string "session-db", .string "http://h/"]] :=
    ⟨⟨_, hlocator⟩, _, rfl, rfl, hparse⟩
  have haddress := parse_of_letter "http://h/" [] ⟨rfl, _, rfl, rfl⟩
  have hpath : op.path = "/sessions/a/b" := by decide
  have hopens : Url.Opens (Endpoint.joined "http://h/" op.path) "http" 80
      ('h' :: '/' :: "sessions/a/b".toList) := by
    rw [hpath]
    exact ⟨rfl, _, rfl, rfl⟩
  have hurl := parse_of_letter _ _ hopens
  have htarget : (Url.ofSpecial "http" ⟨"", "", .domain "h", none⟩
      ('/' :: "sessions/a/b".toList)).isHttpTarget = true := by
    unfold Url.isHttpTarget Url.target
    rw [Url.credentials?_eq_none rfl rfl]
    decide
  obtain ⟨hresolve, request, wire, hsent, hwire, hwirePath⟩ :=
    hlisted.asked rfl rfl rfl hurl htarget rfl .default
  have hblank := parse_of_letter "http://h/a " ['a'] ⟨rfl, _, rfl, rfl⟩
  have hblank' := parse_of_letter (Endpoint.joined "http://h/a " "/sessions/x")
    "a /sessions/x".toList ⟨rfl, _, rfl, rfl⟩
  have hdot := parse_of_letter "http://h/a//." "a//.".toList ⟨rfl, _, rfl, rfl⟩
  have hdot' := parse_of_letter (Endpoint.joined "http://h/a//." "/sessions/x")
    "a//./sessions/x".toList ⟨rfl, _, rfl, rfl⟩
  refine ⟨hresolve, haddress, ⟨request, wire, hsent, hwire, hwirePath, fun written heq => ?_⟩,
    ⟨_, _, hblank, rfl, hblank', rfl⟩, _, _, hdot, rfl, hdot', rfl⟩
  rw [hwirePath] at heq
  cases heq

end ServiceLocator
