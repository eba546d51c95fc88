import ServiceLocator.Proofs.Transport.Wire

/-!
The headers of a reply. Its lines are taken in one after the other; a line that can be read
replaces what earlier lines of its name said, and any other line changes nothing. So a header says
what the last line of its name says that can be read (`Field.get?_ofLines`), wherever the lines of
other names stand.
-/
namespace ServiceLocator

variable {σ : Type}

/-- The last thing that is kept of a list, and where it is from. -/
theorem getLast?_filterMap_eq_some {α β : Type} {f : α → Option β} {l : List α} {b : β} :
    (l.filterMap f).getLast? = some b ↔
      ∃ before a after, l = before ++ a :: after ∧ f a = some b ∧ ∀ x ∈ after, f x = none := by
  rw [List.getLast?_eq_some_iff]
  constructor
  · rintro ⟨kept, h⟩
    obtain ⟨front, back, rfl, -, hback⟩ := List.filterMap_eq_append_iff.mp h
    obtain ⟨between, a, after, rfl, -, ha, hafter⟩ := List.filterMap_eq_cons_iff.mp hback
    exact ⟨front ++ between, a, after, (List.append_assoc ..).symm, ha,
      List.filterMap_eq_nil_iff.mp hafter⟩
  · rintro ⟨before, a, after, rfl, ha, hafter⟩
    refine ⟨before.filterMap f, ?_⟩
    rw [List.filterMap_append, List.filterMap_cons_some ha, List.filterMap_eq_nil_iff.mpr hafter]

namespace Field

/-! ## Lines -/

/-- A line can be read: its value is visible ASCII, spaces and tabs. -/
def Line.Readable (line : Line) : Prop :=
  ∀ b ∈ line.value, 0x20 ≤ b ∧ b < 0x7F ∨ b = 0x09

/-- What a line says that can be read: the characters of its bytes, without the spaces and tabs at
both ends. -/
structure Line.Says (line : Line) (value : String) : Prop where
  readable : line.Readable
  within : ∃ before after, (line.value.map fun b => Char.ofNat b.toNat) =
    before ++ value.toList ++ after ∧ ∀ c ∈ before ++ after, c = ' ' ∨ c = '\t'
  first : ∀ c ∈ value.toList.head?, c ≠ ' ' ∧ c ≠ '\t'
  last : ∀ c ∈ value.toList.getLast?, c ≠ ' ' ∧ c ≠ '\t'

theorem isPadding_eq_true {c : Char} : isPadding c = true ↔ c = ' ' ∨ c = '\t' := by
  simp [isPadding]

theorem isPadding_eq_false {c : Char} : isPadding c = false ↔ c ≠ ' ' ∧ c ≠ '\t' := by
  simp [isPadding]

theorem toList_trim (cs : List Char) :
    (trim (String.ofList cs)).toList = (cs.dropWhile isPadding).rdropWhile isPadding := by
  rw [trim_eq, String.toList_ofList, String.toList_ofList]
  rfl

/-- What is left of a text has other characters at its ends, and only blanks are gone. -/
theorem trim_eq_iff {cs : List Char} {value : String} :
    trim (String.ofList cs) = value ↔
      (∃ before after, cs = before ++ value.toList ++ after ∧
        ∀ c ∈ before ++ after, c = ' ' ∨ c = '\t') ∧
      (∀ c ∈ value.toList.head?, c ≠ ' ' ∧ c ≠ '\t') ∧
      ∀ c ∈ value.toList.getLast?, c ≠ ' ' ∧ c ≠ '\t' := by
  simp only [← isPadding_eq_true, ← isPadding_eq_false]
  constructor
  · rintro rfl
    rw [toList_trim]
    refine ⟨⟨cs.takeWhile isPadding, (cs.dropWhile isPadding).rtakeWhile isPadding, ?_, ?_⟩, ?_, ?_⟩
    · rw [List.append_assoc, List.rdropWhile_append_rtakeWhile, List.takeWhile_append_dropWhile]
    · intro c hc
      rcases List.mem_append.mp hc with hc | hc
      · exact List.mem_takeWhile_imp hc
      · exact List.mem_rtakeWhile_imp hc
    · intro c hc
      obtain ⟨rest, hrest⟩ := List.head?_eq_some_iff.mp hc
      obtain ⟨more, hmore⟩ := List.rdropWhile_prefix isPadding (cs.dropWhile isPadding)
      have hhead := List.head?_dropWhile_not isPadding cs
      rw [← hmore, hrest] at hhead
      exact hhead
    · intro c hc
      obtain ⟨hne, rfl⟩ := List.mem_getLast?_eq_getLast hc
      exact Bool.eq_false_iff.mpr (List.rdropWhile_last_not _ _ hne)
  · rintro ⟨⟨before, after, rfl, hblanks⟩, hfirst, hlast⟩
    obtain ⟨hbefore, hafter⟩ := List.forall_mem_append.mp hblanks
    have hkeep : value.toList.rdropWhile isPadding = value.toList := by
      refine List.rdropWhile_eq_self_iff.mpr fun hne => ?_
      exact Bool.eq_false_iff.mp (hlast _ (List.getLast?_eq_some_getLast hne))
    refine String.toList_injective ?_
    rw [toList_trim, List.append_assoc, List.dropWhile_append_of_pos hbefore]
    cases hvalue : value.toList with
    | nil =>
      rw [List.nil_append, List.dropWhile_eq_nil_iff.mpr hafter]
      rfl
    | cons c rest =>
      rw [hvalue] at hfirst hkeep
      have hc : isPadding c = false := hfirst c rfl
      rw [List.cons_append, List.dropWhile_cons_of_neg (by simp [hc]), ← List.cons_append]
      unfold List.rdropWhile at hkeep ⊢
      rw [List.reverse_append, List.dropWhile_append_of_pos fun x hx =>
        hafter x (List.mem_reverse.mp hx), hkeep]

theorem readable_iff {line : Line} : line.value.all isReadable = true ↔ line.Readable := by
  simp [Line.Readable, isReadable]

instance (line : Line) : Decidable line.Readable := decidable_of_iff _ readable_iff

theorem text?_eq_some {line : Line} {value : String} :
    line.text? = some value ↔ line.Says value := by
  unfold Line.text?
  rw [Option.ite_none_right_eq_some, Option.some.injEq, readable_iff, trim_eq_iff]
  exact ⟨fun ⟨hreadable, hwithin, hfirst, hlast⟩ => ⟨hreadable, hwithin, hfirst, hlast⟩,
    fun h => ⟨h.readable, h.within, h.first, h.last⟩⟩

theorem text?_eq_none {line : Line} : line.text? = none ↔ ¬line.Readable := by
  unfold Line.text?
  rw [← readable_iff]
  split <;> simp_all

/-! ## Headers -/

/-- What a line says about a header. -/
def Line.about? (name : String) (line : Line) : Option String :=
  if asciiLower line.name = name then line.text? else none

/-- A line replaces what was said about a header, if it says anything. -/
theorem get?_addLine (h : Headers) (line : Line) (name : String) :
    (addLine h line).get? name = (line.about? name).or (h.get? name) := by
  unfold addLine Line.about?
  cases line.text? with
  | none => simp
  | some value =>
    simp only [Headers.get?_insert, eq_comm (a := name)]
    split <;> simp

/-- After all lines, a header says what was said last. -/
theorem get?_ofLines (lines : List Line) (name : String) :
    (ofLines lines).get? name = (lines.filterMap (Line.about? name)).getLast? := by
  induction lines using List.reverseRecOn with
  | nil => rfl
  | append_singleton lines line ih =>
    unfold ofLines at ih ⊢
    rw [List.foldl_concat, get?_addLine, ih, List.filterMap_append]
    cases h : line.about? name with
    | none => simp [h]
    | some value => simp [h]

/-- The last of the lines of a name that can be read says this. -/
def LastSays (lines : List Line) (name value : String) : Prop :=
  ∃ before line after, lines = before ++ line :: after ∧ sameName line.name name = true ∧
    line.Says value ∧ ∀ later ∈ after, sameName later.name name = true → ¬later.Readable

section

variable {line : Line} {lines : List Line} {name value : String}

theorem sameName_iff (hname : asciiLower name = name) :
    sameName line.name name = true ↔ asciiLower line.name = name := by
  rw [sameName, hname, beq_iff_eq]

theorem about?_eq_some (hname : asciiLower name = name) :
    line.about? name = some value ↔ sameName line.name name = true ∧ line.Says value := by
  rw [Line.about?, Option.ite_none_right_eq_some, sameName_iff hname, text?_eq_some]

theorem about?_eq_none (hname : asciiLower name = name) :
    line.about? name = none ↔ (sameName line.name name = true → ¬line.Readable) := by
  rw [Line.about?, ite_eq_right_iff, sameName_iff hname, text?_eq_none]

/-- Headers have names in lower case. -/
theorem about?_of_not_lower (hname : asciiLower name ≠ name) : line.about? name = none := by
  refine if_neg fun h => hname ?_
  rw [← h, asciiLower_asciiLower]

theorem mem_ofLines :
    (name, value) ∈ (ofLines lines).entries ↔
      asciiLower name = name ∧ LastSays lines name value := by
  rw [← Headers.get?_eq_some, get?_ofLines]
  by_cases hname : asciiLower name = name
  · simp only [getLast?_filterMap_eq_some, about?_eq_some hname, about?_eq_none hname, hname,
      true_and, LastSays, and_assoc]
  · have hnone : lines.filterMap (Line.about? name) = [] :=
      List.filterMap_eq_nil_iff.mpr fun _ _ => about?_of_not_lower hname
    simp [hnone, hname]

/-- A header is there if one of its lines can be read. -/
theorem mem_names_ofLines :
    name ∈ (ofLines lines).names ↔ asciiLower name = name ∧
      ∃ line ∈ lines, sameName line.name name = true ∧ line.Readable := by
  have hnames : name ∈ (ofLines lines).names ↔
      ∃ value, (name, value) ∈ (ofLines lines).entries := by
    simp [Headers.names]
  rw [hnames]
  constructor
  · rintro ⟨value, hmem⟩
    obtain ⟨hname, before, line, after, rfl, hsame, hsays, -⟩ := mem_ofLines.mp hmem
    exact ⟨hname, line, List.mem_append_right _ List.mem_cons_self, hsame, hsays.readable⟩
  · rintro ⟨hname, line, hline, hsame, hreadable⟩
    cases hlast : (ofLines lines).get? name with
    | some value => exact ⟨value, Headers.get?_eq_some.mp hlast⟩
    | none =>
      rw [get?_ofLines, List.getLast?_eq_none_iff, List.filterMap_eq_nil_iff] at hlast
      exact absurd hreadable ((about?_eq_none hname).mp (hlast line hline) hsame)

/-- Only the order of the lines of one name matters. -/
theorem ofLines_congr {lines' : List Line}
    (h : ∀ name, lines.filter (sameName ·.name name) = lines'.filter (sameName ·.name name)) :
    ofLines lines = ofLines lines' := by
  have hfilter : ∀ (name : String) (lines : List Line),
      (lines.filter (sameName ·.name name)).filterMap (Line.about? name) =
        lines.filterMap (Line.about? name) := by
    intro name lines
    rw [List.filterMap_filter]
    refine List.filterMap_congr fun line _ => ite_eq_left_iff.mpr fun hother => ?_
    refine (if_neg fun hname => hother ?_).symm
    rw [sameName, ← hname, asciiLower_asciiLower, beq_self_eq_true]
  refine Headers.ext_get? fun name => ?_
  rw [get?_ofLines, get?_ofLines, ← hfilter, h, hfilter]

end

end Field

/-- The headers of a complete reply are folded without mixing. A header is there exactly if its
name is in lower case and one of the lines of that name, in any case, is visible ASCII, spaces and
tabs; it says what the last such line of its name says, whatever lines before, between or after
cannot be read. So the order of lines of different names makes no difference to the reply. -/
theorem headers_are_folded_by_name (settings : HttpSettings) (peer : Peer σ) (request : Request)
    (wire : WireRequest) (s : σ) (status : Status) (lines : List Field.Line) (body : Bytes)
    (hwire : Transport.wire? settings request = some wire)
    (hanswer : (peer.answer wire s).1 = .complete status lines body) :
    ∃ reply, (Transport.http settings peer).answer s request = .ok reply ∧
      (∀ name, name ∈ reply.headers.names ↔ asciiLower name = name ∧
        ∃ line ∈ lines, sameName line.name name = true ∧ line.Readable) ∧
      (∀ name value, (name, value) ∈ reply.headers.entries ↔
        asciiLower name = name ∧ Field.LastSays lines name value) ∧
      ∀ (peer' : Peer σ) (s' : σ) lines', (peer'.answer wire s').1 = .complete status lines' body →
        (∀ name, lines.filter (sameName ·.name name) = lines'.filter (sameName ·.name name)) →
        (Transport.http settings peer').answer s' request = .ok reply := by
  have hreply : ∀ (peer : Peer σ) (s : σ) lines,
      (peer.answer wire s).1 = .complete status lines body →
      (Transport.http settings peer).answer s request =
        .ok ⟨status, status.reason, Field.ofLines lines, body, request.uri⟩ := by
    intro peer s lines hanswer
    obtain ⟨url, hurl⟩ := Transport.exists_answer_http hwire peer s
    rw [hurl, hanswer]
    rfl
  refine ⟨_, hreply peer s lines hanswer, fun name => Field.mem_names_ofLines,
    fun name value => Field.mem_ofLines, fun peer' s' lines' hanswer' hlines => ?_⟩
  rw [hreply peer' s' lines' hanswer', Field.ofLines_congr hlines]

/-- A header whose last line cannot be read keeps what the line before it says, between whose
spellings another header stands. -/
theorem headers_are_folded_by_name_unreadable :
    let lines : List Field.Line :=
      [⟨"X-Trace", [0x61]⟩, ⟨"Other", [0x62]⟩, ⟨"x-TRACE", [0x20, 0x63, 0x09]⟩,
        ⟨"x-trace", [0x63, 0xFF]⟩, ⟨"bad", [0x00]⟩]
    let script : Peer.Script := ⟨[.complete 200 lines []], []⟩
    let request : Request := .get "http://[::1]/"
    (∃ wire, Transport.wire? .default request = some wire ∧
      (Peer.scripted.answer wire script).1 = .complete 200 lines []) ∧
    ∃ reply, (Transport.http .default Peer.scripted).answer script request = .ok reply ∧
      ("x-trace", "c") ∈ reply.headers.entries ∧ "other" ∈ reply.headers.names ∧
      "X-Trace" ∉ reply.headers.names ∧ "bad" ∉ reply.headers.names := by
  intro lines script request
  have hurl : Url.parse "http://[::1]/" = .ok ⟨"http", "", "",
      some (.ipv6 [0, 0, 0, 0, 0, 0, 0, 1]), none, .segments [""], none, none⟩ := rfl
  have htarget : Url.isHttpTarget ⟨"http", "", "", some (.ipv6 [0, 0, 0, 0, 0, 0, 0, 1]), none,
      .segments [""], none, none⟩ = true := by cbv
  have hwire : ∃ wire, Transport.wire? .default request = some wire :=
    ⟨_, Transport.wire?_eq_some.mpr ⟨_, _, hurl, rfl, htarget, rfl⟩⟩
  obtain ⟨wire, hwire⟩ := hwire
  obtain ⟨reply, hreply, hnames, hentries, -⟩ := headers_are_folded_by_name .default Peer.scripted
    request wire script 200 lines [] hwire rfl
  refine ⟨⟨wire, hwire, rfl⟩, reply, hreply, (hentries _ _).mpr ⟨by decide, ?_⟩,
    (hnames _).mpr ⟨by decide, ⟨"Other", [0x62]⟩, by decide, by decide, by decide⟩, ?_, ?_⟩
  · refine ⟨[⟨"X-Trace", [0x61]⟩, ⟨"Other", [0x62]⟩], ⟨"x-TRACE", [0x20, 0x63, 0x09]⟩,
      [⟨"x-trace", [0x63, 0xFF]⟩, ⟨"bad", [0x00]⟩], rfl, by decide,
      ⟨by decide, ⟨[' '], ['\t'], by decide, by simp⟩, by simp, by simp⟩, by decide⟩
  · rw [hnames]
    decide
  · rw [hnames]
    decide

end ServiceLocator
