import ServiceLocator.Proofs.Text.Utf8.Character

/-!
Reading any bytes as text. Bytes fall in one way into characters and maximal ill-formed subparts
(`Utf8.Decoded`), where a subpart is as much of a character as there is, or a single byte where
there is nothing of one. The lossy reader takes them apart in this way
(`Utf8.decoded_iff`), which makes it the only faithful one (`Utf8.faithful_iff`).
-/
namespace ServiceLocator.Utf8

/-! ## Ill-formed bytes -/

/-- The bytes of some text. -/
def WellFormed (bytes : Bytes) : Prop := ∃ s, encode s = bytes

/-- A character that is cut short: at least one of its bytes, from the first on, but not all. -/
def Truncated (part : Bytes) : Prop :=
  part ≠ [] ∧ ∃ c, part <+: String.utf8EncodeChar c ∧ part ≠ String.utf8EncodeChar c

/-- A byte with which no character begins. -/
def Stray (b : UInt8) : Prop := ∀ c, ¬[b] <+: String.utf8EncodeChar c

/-- A maximal ill-formed subpart, with what follows it: a truncated character where no character
stands and no longer truncated one does, or else a single stray byte. -/
inductive Subpart : Bytes → Bytes → Prop
  | truncated {part rest} : Truncated part → (∀ c, ¬String.utf8EncodeChar c <+: part ++ rest) →
      (∀ other, other <+: part ++ rest → Truncated other → other.length ≤ part.length) →
      Subpart part rest
  | stray {b} (rest) : Stray b → Subpart [b] rest

/-- Bytes, and the characters that they are read as: those whose bytes they are, and one
replacement character for each maximal ill-formed subpart. -/
inductive Decoded : Bytes → List Char → Prop
  | nil : Decoded [] []
  | character {rest cs} (c) : Decoded rest cs → Decoded (String.utf8EncodeChar c ++ rest) (c :: cs)
  | subpart {part rest cs} : Subpart part rest → Decoded rest cs →
      Decoded (part ++ rest) (replacement :: cs)

/-- A way to read any bytes that is faithful to them. -/
structure Faithful (decode : Bytes → String) : Prop where
  /-- The bytes of a text, and no others, can be had back. -/
  lossless_iff : ∀ bytes, encode (decode bytes) = bytes ↔ WellFormed bytes
  /-- A text is read as it is, whatever follows it. -/
  text_append : ∀ s rest, decode (encode s ++ rest) = s ++ decode rest
  /-- Each maximal ill-formed subpart is replaced by one character. -/
  subpart_append : ∀ part rest, Subpart part rest →
    decode (part ++ rest) = String.singleton replacement ++ decode rest
  /-- Nothing of a character is lost to what is ill-formed before it. -/
  subpart_character : ∀ part c rest, (Truncated part ∨ ∃ b, Stray b ∧ part = [b]) →
    decode (part ++ (String.utf8EncodeChar c ++ rest)) =
      String.singleton replacement ++ (String.singleton c ++ decode rest)
  /-- What was replaced is not replaced again. -/
  again : ∀ bytes, decode (encode (decode bytes)) = decode bytes

/-! ## Subparts -/

/-- A truncated character is a first byte with less than it asks for. -/
theorem truncated_iff {b : UInt8} {part : Bytes} :
    Truncated (b :: part) ↔
      ∃ lead, lead? b = some lead ∧ lead.Takes part ∧ part.length ≤ lead.more := by
  constructor
  · rintro ⟨-, c, ⟨more, hmore⟩, hpart⟩
    have hne : more ≠ [] := by
      rintro rfl
      rw [List.append_nil] at hmore
      exact hpart hmore
    have hc : String.utf8EncodeChar c = b :: (part ++ more) := hmore.symm
    rcases exists_utf8EncodeChar_iff.mp ⟨c, hc⟩ with ⟨-, hnil⟩ | ⟨lead, hlead, htakes, hlength⟩
    · exact absurd (List.append_eq_nil_iff.mp hnil).2 hne
    · have hpos := List.length_pos_iff.mpr hne
      rw [List.length_append] at hlength
      exact ⟨lead, hlead, htakes.of_append, by omega⟩
  · rintro ⟨lead, hlead, htakes, hlength⟩
    obtain ⟨more, hfull, hall⟩ := htakes.exists_append hlead (Nat.le_succ_of_le hlength)
    obtain ⟨c, hc⟩ := hfull.exists_char hlead hall
    refine ⟨List.cons_ne_nil _ _, c, ⟨more, hc.symm⟩, fun heq => ?_⟩
    rw [hc, List.cons.injEq, List.self_eq_append_right] at heq
    rw [heq.2, List.append_nil] at hall
    omega

/-- No more is taken than what the next byte does not add to. -/
theorem Lead.Takes.length_le {lead : Lead} {taken rest bytes : Bytes} (h : lead.Takes bytes)
    (hbytes : bytes <+: taken ++ rest) (hhead : ∀ x ∈ rest.head?, ¬lead.Takes (taken ++ [x])) :
    bytes.length ≤ taken.length := by
  by_contra hlonger
  obtain ⟨excess, rfl⟩ : taken <+: bytes :=
    List.prefix_of_prefix_length_le (List.prefix_append _ _) hbytes (by omega)
  cases excess with
  | nil => exact hlonger (Nat.le_of_eq (congrArg List.length (List.append_nil taken)))
  | cons x excess =>
    obtain ⟨rest', rfl⟩ := (List.prefix_append_right_inj taken).mp hbytes
    rw [List.append_cons] at h
    exact hhead x rfl h.of_append

/-- A first byte with some of what it asks for is a subpart, if the next byte is not asked for. -/
theorem Subpart.of_takes {b : UInt8} {lead : Lead} {taken rest : Bytes}
    (hlead : lead? b = some lead) (htakes : lead.Takes taken) (hlength : taken.length ≤ lead.more)
    (hhead : ∀ x ∈ rest.head?, ¬lead.Takes (taken ++ [x])) : Subpart (b :: taken) rest := by
  refine .truncated (truncated_iff.mpr ⟨lead, hlead, htakes, hlength⟩) ?_ ?_
  · rintro c ⟨after, hafter⟩
    obtain ⟨b', more, hc, -⟩ := next_utf8EncodeChar c []
    rw [hc] at hafter
    obtain ⟨rfl, hmore⟩ := List.cons.inj hafter
    rcases exists_utf8EncodeChar_iff.mp ⟨c, hc⟩ with ⟨hascii, -⟩ | ⟨lead', hlead', htakes', hall⟩
    · exact absurd (UInt8.lt_of_le_of_lt (le_of_lead? hlead) hascii) (by decide)
    · cases hlead.symm.trans hlead'
      have hle := htakes'.length_le ⟨after, hmore⟩ hhead
      omega
  · intro other hother hcut
    cases other with
    | nil => exact absurd rfl hcut.1
    | cons b' other =>
      obtain ⟨rfl, hprefix⟩ := List.cons_prefix_cons.mp hother
      obtain ⟨lead', hlead', htakes', -⟩ := truncated_iff.mp hcut
      cases hlead.symm.trans hlead'
      exact Nat.succ_le_succ (htakes'.length_le hprefix hhead)

/-- Nothing of a character begins at a stray byte. -/
theorem Stray.not_prefix {b : UInt8} (h : Stray b) {part rest : Bytes} (hne : part ≠ [])
    (hpart : part <+: b :: rest) (c : Char) : ¬part <+: String.utf8EncodeChar c := by
  cases part with
  | nil => exact absurd rfl hne
  | cons b' more =>
    obtain ⟨rfl, -⟩ := List.cons_prefix_cons.mp hpart
    exact fun hc => h c (List.IsPrefix.trans ⟨more, rfl⟩ hc)

namespace Subpart

variable {part part' rest rest' : Bytes}

theorem ne_nil (h : Subpart part rest) : part ≠ [] := by
  cases h with
  | truncated hcut => exact hcut.1
  | stray => exact List.cons_ne_nil _ _

/-- No character stands where a subpart does. -/
theorem no_character (h : Subpart part rest) (c : Char) :
    ¬String.utf8EncodeChar c <+: part ++ rest := by
  cases h with
  | truncated _ hnone => exact hnone c
  | stray _ hstray =>
    have hne : String.utf8EncodeChar c ≠ [] :=
      List.ne_nil_of_length_pos (length_utf8EncodeChar_pos c)
    exact fun hc => hstray.not_prefix hne hc c List.prefix_rfl

/-- Bytes begin with one subpart at most. -/
theorem unique (h : Subpart part rest) (h' : Subpart part' rest')
    (heq : part ++ rest = part' ++ rest') : rest = rest' := by
  have hpart : part <+: part' ++ rest' := ⟨rest, heq⟩
  have hpart' : part' <+: part ++ rest := ⟨rest', heq.symm⟩
  have hlength : part.length = part'.length := by
    cases h with
    | truncated hcut _ hlongest =>
      cases h' with
      | truncated hcut' _ hlongest' =>
        exact Nat.le_antisymm (hlongest' _ hpart hcut) (hlongest _ hpart' hcut')
      | stray _ hstray' =>
        obtain ⟨hne, c, hc, -⟩ := hcut
        exact absurd hc (hstray'.not_prefix hne hpart c)
    | stray _ hstray =>
      cases h' with
      | truncated hcut' =>
        obtain ⟨hne, c, hc, -⟩ := hcut'
        exact absurd hc (hstray.not_prefix hne hpart' c)
      | stray => rfl
  exact (List.append_inj heq hlength).2

end Subpart

/-- A truncated character is a subpart before any character. -/
theorem Truncated.subpart {part : Bytes} (h : Truncated part) (c : Char) (rest : Bytes) :
    Subpart part (String.utf8EncodeChar c ++ rest) := by
  cases part with
  | nil => exact absurd rfl h.1
  | cons b taken =>
    obtain ⟨lead, hlead, htakes, hlength⟩ := truncated_iff.mp h
    obtain ⟨x, more, hc, -⟩ := next_utf8EncodeChar c []
    refine .of_takes hlead htakes hlength fun y hy hmore => ?_
    rw [hc] at hy
    cases hy
    exact not_continues_of_utf8EncodeChar hc (hmore.continues hlead x (by simp))

/-! ## What the reader makes of bytes -/

/-- What is read as no character is a subpart. -/
theorem exists_subpart_of_next_none {b : UInt8} {rest rest' : Bytes}
    (h : next b rest = (none, rest')) : ∃ part, b :: rest = part ++ rest' ∧ Subpart part rest' := by
  have hbegins := begins_next b rest
  rw [h] at hbegins
  cases hbegins with
  | stray hb hlead =>
    exact ⟨[b], rfl, .stray rest (not_prefix_of_lead?_eq_none hb hlead)⟩
  | truncated taken hlead htakes hlength hhead =>
    exact ⟨b :: taken, rfl, .of_takes hlead htakes hlength hhead⟩

theorem lossyChars_nil : lossyChars [] = [] := by rw [lossyChars]

theorem lossyChars_char_append (c : Char) (rest : Bytes) :
    lossyChars (String.utf8EncodeChar c ++ rest) = c :: lossyChars rest := by
  obtain ⟨b, more, hc, hnext⟩ := next_utf8EncodeChar c rest
  rw [hc, List.cons_append, lossyChars, hnext]
  rfl

theorem lossyChars_subpart_append {part rest : Bytes} (h : Subpart part rest) :
    lossyChars (part ++ rest) = replacement :: lossyChars rest := by
  cases part with
  | nil => exact absurd rfl h.ne_nil
  | cons b more =>
    rw [List.cons_append, lossyChars]
    cases hnext : next b (more ++ rest) with
    | mk char rest' =>
      cases char with
      | some c => exact absurd ⟨rest', (eq_of_next_some hnext).symm⟩ (h.no_character c)
      | none =>
        obtain ⟨part', heq, hpart'⟩ := exists_subpart_of_next_none hnext
        rw [h.unique hpart' heq]
        rfl

/-- The reader takes bytes apart into characters and subparts, and there is no other way to. -/
theorem decoded_iff {bytes : Bytes} {cs : List Char} :
    Decoded bytes cs ↔ lossyChars bytes = cs := by
  constructor
  · intro h
    induction h with
    | nil => exact lossyChars_nil
    | character c _ ih => rw [lossyChars_char_append, ih]
    | subpart hpart _ ih => rw [lossyChars_subpart_append hpart, ih]
  · rintro rfl
    induction bytes using lossyChars.induct with
    | case1 =>
      rw [lossyChars_nil]
      exact .nil
    | case2 b rest ih =>
      rw [lossyChars]
      cases hnext : next b rest with
      | mk char rest' =>
        rw [hnext] at ih
        cases char with
        | some c =>
          rw [eq_of_next_some hnext]
          exact .character c ih
        | none =>
          obtain ⟨part, heq, hpart⟩ := exists_subpart_of_next_none hnext
          rw [heq]
          exact .subpart hpart ih

theorem lossyChars_bytes_append (cs : List Char) (rest : Bytes) :
    lossyChars (bytes cs ++ rest) = cs ++ lossyChars rest := by
  induction cs with
  | nil => rfl
  | cons c cs ih => rw [bytes_cons, List.append_assoc, lossyChars_char_append, ih, List.cons_append]

theorem decodeLossy_encode_append (s : String) (rest : Bytes) :
    decodeLossy (encode s ++ rest) = s ++ decodeLossy rest := by
  rw [decodeLossy, encode_eq_bytes, lossyChars_bytes_append, String.ofList_append,
    String.ofList_toList, decodeLossy]

theorem decodeLossy_nil : decodeLossy [] = "" := by
  rw [decodeLossy, lossyChars_nil, String.ofList_nil]

theorem decodeLossy_encode (s : String) : decodeLossy (encode s) = s := by
  have happend := decodeLossy_encode_append s []
  rwa [List.append_nil, decodeLossy_nil, String.append_empty] at happend

/-! ## Faithful readers -/

theorem faithful_decodeLossy : Faithful decodeLossy where
  lossless_iff bytes := by
    refine ⟨fun h => ⟨_, h⟩, ?_⟩
    rintro ⟨s, rfl⟩
    rw [decodeLossy_encode]
  text_append := decodeLossy_encode_append
  subpart_append part rest h := by
    rw [decodeLossy, lossyChars_subpart_append h, String.ofList_cons, decodeLossy]
  subpart_character part c rest h := by
    have hpart : Subpart part (String.utf8EncodeChar c ++ rest) := by
      rcases h with hcut | ⟨b, hstray, rfl⟩
      · exact hcut.subpart c rest
      · exact .stray _ hstray
    rw [decodeLossy, lossyChars_subpart_append hpart, lossyChars_char_append, String.ofList_cons,
      String.ofList_cons, decodeLossy]
  again bytes := decodeLossy_encode _

/-- Whoever is faithful reads what bytes fall into. -/
theorem Faithful.decode_eq {decode : Bytes → String} (h : Faithful decode) {bytes : Bytes}
    {cs : List Char} (hdecoded : Decoded bytes cs) : decode bytes = String.ofList cs := by
  induction hdecoded with
  | nil =>
    have hnil : encode (decode []) = encode "" := (h.lossless_iff []).mpr ⟨"", rfl⟩
    exact encode_inj.mp hnil
  | @character rest cs c _ ih =>
    have htext := h.text_append (String.singleton c) rest
    rw [encode_eq_bytes, String.toList_singleton, bytes_singleton] at htext
    rw [htext, ih, String.ofList_cons]
  | subpart hpart _ ih => rw [h.subpart_append _ _ hpart, ih, String.ofList_cons]

/-- The lossy reader is the faithful one. -/
theorem faithful_iff {decode : Bytes → String} : Faithful decode ↔ decode = decodeLossy := by
  refine ⟨fun h => funext fun bytes => h.decode_eq (decoded_iff.mpr rfl), ?_⟩
  rintro rfl
  exact faithful_decodeLossy

end ServiceLocator.Utf8
