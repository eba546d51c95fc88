import Mathlib.Data.List.Basic
import ServiceLocator.Text.Utf8

/-!
Reading and writing UTF-8. A byte begins a character that is all there, one that is cut short, or
none (`Utf8.begins_next`). Bytes beyond ASCII only make up characters beyond ASCII, so a byte
of ASCII is a character of its own wherever it stands (`Utf8.mem_chars?`). Every character
takes at least one byte, so a text that loses characters loses bytes
(`Utf8.length_bytes_le_of_sublist`), and its bytes are read as the character again
(`Utf8.next_utf8EncodeChar`). Texts are in the order of their bytes (`Utf8.encode_lt_iff`).
-/
namespace ServiceLocator.Utf8

/-! ## Reading -/

/-- What follows a first byte is no byte of ASCII. -/
theorem low_of_lead? {b : UInt8} {lead : Lead} (h : lead? b = some lead) : 0x80 ≤ lead.low := by
  unfold lead? at h
  repeat' split at h
  all_goals cases h
  all_goals decide

/-- Bytes that may follow a first byte: one within its bounds, and continuation bytes. -/
def Lead.Takes (lead : Lead) : Bytes → Prop
  | [] => True
  | c :: more => (lead.low ≤ c ∧ c ≤ lead.high) ∧ ∀ x ∈ more, 0x80 ≤ x ∧ x ≤ 0xBF

theorem Lead.Takes.of_append {lead : Lead} {bytes more : Bytes} (h : lead.Takes (bytes ++ more)) :
    lead.Takes bytes := by
  cases bytes with
  | nil => trivial
  | cons c bytes => exact ⟨h.1, fun x hx => h.2 x (List.mem_append_left _ hx)⟩

/-- A first byte is neither a byte of ASCII nor a continuation byte. -/
theorem le_of_lead? {b : UInt8} {lead : Lead} (h : lead? b = some lead) : 0xC2 ≤ b := by
  by_contra hb
  rw [lead?, if_pos (UInt8.not_le.mp hb)] at h
  cases h

/-- The bounds are in order, and they are those of a continuation byte or narrower. -/
theorem bounds_of_lead? {b : UInt8} {lead : Lead} (h : lead? b = some lead) :
    lead.low ≤ lead.high ∧ lead.high ≤ 0xBF := by
  unfold lead? at h
  repeat' split at h
  all_goals cases h
  all_goals decide

/-- What a first byte takes are continuation bytes. -/
theorem Lead.Takes.continues {b : UInt8} {lead : Lead} (hlead : lead? b = some lead)
    {bytes : Bytes} (h : lead.Takes bytes) : ∀ x ∈ bytes, 0x80 ≤ x ∧ x ≤ 0xBF := by
  cases bytes with
  | nil => exact List.forall_mem_nil _
  | cons c more =>
    refine List.forall_mem_cons.mpr ⟨⟨?_, ?_⟩, h.2⟩
    · exact UInt8.le_trans (low_of_lead? hlead) h.1.1
    · exact UInt8.le_trans h.1.2 (bounds_of_lead? hlead).2

/-- What a byte begins: a character of ASCII, nothing, or a character of more bytes, which are
all there or are there up to some point. With it, what it is read as and what is left. -/
inductive Begins (b : UInt8) : Bytes → Option Char × Bytes → Prop
  | ascii {rest} : b < 0x80 → Begins b rest (some (Char.ofNat b.toNat), rest)
  | stray {rest} : 0x80 ≤ b → lead? b = none → Begins b rest (none, rest)
  | whole {lead rest c} (taken) : lead? b = some lead → lead.Takes taken →
      taken.length = lead.more + 1 → Begins b (taken ++ rest) (some c, rest)
  | truncated {lead rest} (taken) : lead? b = some lead → lead.Takes taken →
      taken.length ≤ lead.more → (∀ x ∈ rest.head?, ¬lead.Takes (taken ++ [x])) →
      Begins b (taken ++ rest) (none, rest)

/-- Continuation bytes are read as long as they are asked for. -/
theorem finish_cases (more code : Nat) (bytes : Bytes) :
    ∃ read rest, bytes = read ++ rest ∧ (∀ x ∈ read, 0x80 ≤ x ∧ x ≤ 0xBF) ∧
      ((read.length = more ∧ ∃ c, finish more code bytes = (some c, rest)) ∨
        (read.length < more ∧ (∀ x ∈ rest.head?, ¬(0x80 ≤ x ∧ x ≤ 0xBF)) ∧
          finish more code bytes = (none, rest))) := by
  fun_induction finish more code bytes with
  | case1 code rest => exact ⟨[], rest, rfl, List.forall_mem_nil _, .inl ⟨rfl, _, rfl⟩⟩
  | case2 more code =>
    refine ⟨[], [], rfl, List.forall_mem_nil _, .inr ⟨Nat.succ_pos more, ?_, rfl⟩⟩
    rintro x ⟨⟩
  | case3 more code b rest hb ih =>
    obtain ⟨read, rest', rfl, hread, hend⟩ := ih
    refine ⟨b :: read, rest', rfl, List.forall_mem_cons.mpr ⟨hb, hread⟩, ?_⟩
    rcases hend with ⟨hlength, hchar⟩ | ⟨hlength, hhead, hnone⟩
    · exact .inl ⟨congrArg (· + 1) hlength, hchar⟩
    · exact .inr ⟨Nat.succ_lt_succ hlength, hhead, hnone⟩
  | case4 more code b rest hb =>
    refine ⟨[], b :: rest, rfl, List.forall_mem_nil _, .inr ⟨Nat.succ_pos more, ?_, rfl⟩⟩
    rintro x ⟨⟩
    exact hb

theorem begins_next (b : UInt8) (rest : Bytes) : Begins b rest (next b rest) := by
  unfold next
  split_ifs with hascii
  · exact .ascii hascii
  · have hb : 0x80 ≤ b := UInt8.not_lt.mp hascii
    split
    · rename_i hlead
      exact .stray hb hlead
    · rename_i lead hlead
      refine .truncated [] hlead trivial (Nat.zero_le _) ?_
      rintro x ⟨⟩
    · rename_i lead c rest hlead
      split_ifs with hbounds
      · obtain ⟨read, rest', rfl, hread, hend⟩ :=
          finish_cases lead.more (leadBits b * 64 + (c.toNat - 0x80)) rest
        rcases hend with ⟨hlength, char, hchar⟩ | ⟨hlength, hhead, hnone⟩
        · rw [hchar]
          exact .whole (c :: read) hlead ⟨hbounds, hread⟩ (congrArg (· + 1) hlength)
        · rw [hnone]
          refine .truncated (c :: read) hlead ⟨hbounds, hread⟩ hlength fun x hx h => ?_
          exact hhead x hx (h.2 x (List.mem_append_right _ List.mem_cons_self))
      · refine .truncated [] hlead trivial (Nat.zero_le _) ?_
        rintro x ⟨⟩ h
        exact hbounds h.1

/-- What belongs to a unit beside its first byte is no byte of ASCII. -/
theorem exists_next_append (b : UInt8) (rest : Bytes) :
    ∃ read, rest = read ++ (next b rest).2 ∧ ∀ x ∈ read, 0x80 ≤ x := by
  have hbegins := begins_next b rest
  generalize next b rest = unit at hbegins ⊢
  cases hbegins with
  | ascii => exact ⟨[], rfl, List.forall_mem_nil _⟩
  | stray => exact ⟨[], rfl, List.forall_mem_nil _⟩
  | whole taken hlead htakes => exact ⟨taken, rfl, fun x hx => (htakes.continues hlead x hx).1⟩
  | truncated taken hlead htakes =>
    exact ⟨taken, rfl, fun x hx => (htakes.continues hlead x hx).1⟩

/-- A byte of ASCII is the unit that is read, or still to be read. -/
theorem mem_next {x b : UInt8} (hx : x < 0x80) {rest : Bytes} {c : Char}
    (h : (next b rest).1 = some c) (hmem : x ∈ b :: rest) :
    c = Char.ofNat x.toNat ∨ x ∈ (next b rest).2 := by
  rcases List.mem_cons.mp hmem with rfl | hmem
  · left
    unfold next at h
    rw [if_pos hx] at h
    cases h
    rfl
  · right
    obtain ⟨read, hread, hhigh⟩ := exists_next_append b rest
    rw [hread] at hmem
    rcases List.mem_append.mp hmem with hmem | hmem
    · exact absurd (hhigh x hmem) (UInt8.not_le.mpr hx)
    · exact hmem

/-- A byte of ASCII is a character of the text. -/
theorem mem_chars? {x : UInt8} (hx : x < 0x80) {bytes : Bytes} {cs : List Char}
    (h : chars? bytes = some cs) (hmem : x ∈ bytes) : Char.ofNat x.toNat ∈ cs := by
  fun_induction chars? bytes generalizing cs with
  | case1 => cases hmem
  | case2 b rest ih =>
    obtain ⟨c, hc, hcs⟩ := Option.bind_eq_some_iff.mp h
    obtain ⟨later, hlater, rfl⟩ := Option.map_eq_some_iff.mp hcs
    rcases mem_next hx hc hmem with rfl | hrest
    · exact List.mem_cons_self
    · exact List.mem_cons_of_mem _ (ih hlater hrest)

/-- Bytes of ASCII are the characters of these codes. -/
theorem chars?_ascii {bytes : Bytes} (h : ∀ x ∈ bytes, x < 0x80) :
    chars? bytes = some (bytes.map fun x => Char.ofNat x.toNat) := by
  induction bytes with
  | nil => rw [chars?, List.map_nil]
  | cons b rest ih =>
    have hb : next b rest = (some (Char.ofNat b.toNat), rest) := by
      unfold next
      rw [if_pos (h b List.mem_cons_self)]
    rw [chars?, hb, ih fun x hx => h x (List.mem_cons_of_mem _ hx)]
    rfl

/-! ## Writing -/

/-- The bytes of characters. -/
def bytes (cs : List Char) : Bytes := cs.flatMap String.utf8EncodeChar

theorem encode_eq_bytes (s : String) : encode s = bytes s.toList := rfl

theorem bytes_cons (c : Char) (cs : List Char) :
    bytes (c :: cs) = String.utf8EncodeChar c ++ bytes cs := List.flatMap_cons

theorem bytes_append (cs cs' : List Char) : bytes (cs ++ cs') = bytes cs ++ bytes cs' :=
  List.flatMap_append

theorem bytes_singleton (c : Char) : bytes [c] = String.utf8EncodeChar c := List.append_nil _

/-- Texts with the same bytes are the same. -/
theorem bytes_inj {cs cs' : List Char} (h : bytes cs = bytes cs') : cs = cs' := by
  have htext : String.ofList cs = String.ofList cs' :=
    String.toByteArray_inj.mp (congrArg List.toByteArray h)
  exact String.ofList_inj.mp htext

theorem length_utf8EncodeChar_pos (c : Char) : 0 < (String.utf8EncodeChar c).length := by
  rw [String.length_utf8EncodeChar]
  exact c.utf8Size_pos

/-- With each character that is left out, a byte is left out. -/
theorem length_bytes_le_of_sublist {cs cs' : List Char} (h : cs.Sublist cs') :
    (bytes cs).length + cs'.length ≤ (bytes cs').length + cs.length := by
  induction h with
  | slnil => exact Nat.le_refl _
  | @cons cs cs' c h ih =>
    have hc := length_utf8EncodeChar_pos c
    rw [bytes_cons, List.length_append, List.length_cons]
    omega
  | @cons_cons cs cs' c h ih =>
    simp only [bytes_cons, List.length_append, List.length_cons]
    omega

theorem eq_of_sublist_of_length_bytes_le {cs cs' : List Char} (h : cs.Sublist cs')
    (hlength : (bytes cs').length ≤ (bytes cs).length) : cs = cs' := by
  have hle := length_bytes_le_of_sublist h
  exact h.eq_of_length_le (by omega)

theorem utf8EncodeChar_of_ascii {c : Char} (h : c.toNat < 0x80) :
    String.utf8EncodeChar c = [UInt8.ofNat c.toNat] := by
  unfold String.utf8EncodeChar
  exact if_pos (Nat.le_of_lt_succ h)

theorem le_ofNat {n : Nat} (hlow : 0x80 ≤ n) (hhigh : n < 0x100) :
    (0x80 : UInt8) ≤ UInt8.ofNat n := by
  rw [UInt8.le_iff_toNat_le, UInt8.toNat_ofNat', Nat.mod_eq_of_lt hhigh]
  exact hlow

/-- No byte of a character beyond ASCII is one of ASCII. -/
theorem le_of_mem_utf8EncodeChar {c : Char} (h : 0x80 ≤ c.toNat) {b : UInt8}
    (hb : b ∈ String.utf8EncodeChar c) : 0x80 ≤ b := by
  have hcode : ¬c.val.toNat ≤ 0x7F := Nat.not_le.mpr h
  unfold String.utf8EncodeChar at hb
  simp only [if_neg hcode] at hb
  -- Two, three or four bytes, each of them a remainder above the mark of its place.
  split_ifs at hb <;> simp only [List.mem_cons, List.not_mem_nil, or_false] at hb
  · rcases hb with rfl | rfl <;> exact le_ofNat (by omega) (by omega)
  · rcases hb with rfl | rfl | rfl <;> exact le_ofNat (by omega) (by omega)
  · rcases hb with rfl | rfl | rfl | rfl <;> exact le_ofNat (by omega) (by omega)

/-- The first byte of a character is its code, or is beyond ASCII. -/
theorem toNat_eq_or_le_of_utf8EncodeChar {c : Char} {b : UInt8} {more : Bytes}
    (h : String.utf8EncodeChar c = b :: more) : b.toNat = c.toNat ∨ 0x80 ≤ b := by
  by_cases hc : c.toNat < 0x80
  · left
    rw [utf8EncodeChar_of_ascii hc] at h
    cases h
    rw [UInt8.toNat_ofNat', Nat.mod_eq_of_lt (Nat.lt_trans hc (by decide))]
  · right
    exact le_of_mem_utf8EncodeChar (Nat.le_of_not_lt hc) (h ▸ List.mem_cons_self)

/-! ## Reading what was written -/

theorem toNat_ofNat_of_lt {n : Nat} (h : n < 0x100) : (UInt8.ofNat n).toNat = n := by
  rw [UInt8.toNat_ofNat', Nat.mod_eq_of_lt h]

/-- A continuation byte brings six bits. -/
theorem finish_cons {x : Nat} (hx : x < 0x40) (more code : Nat) (rest : Bytes) :
    finish (more + 1) code (UInt8.ofNat (x + 0x80) :: rest) = finish more (code * 64 + x) rest := by
  have hbyte : (UInt8.ofNat (x + 0x80)).toNat = x + 0x80 := toNat_ofNat_of_lt (by omega)
  have hcontinues : 0x80 ≤ UInt8.ofNat (x + 0x80) ∧ UInt8.ofNat (x + 0x80) ≤ 0xBF := by
    rw [UInt8.le_iff_toNat_le, UInt8.le_iff_toNat_le, hbyte]
    exact ⟨Nat.le_add_left _ _, Nat.add_le_of_le_sub (by decide) (Nat.le_of_lt_succ hx)⟩
  rw [finish, if_pos hcontinues, hbyte, Nat.add_sub_cancel]

/-- What a first byte asks for, in numbers. -/
def Lead.demands (lead : Lead) : Nat × Nat × Nat := (lead.low.toNat, lead.high.toNat, lead.more)

/-- The byte after a first byte is taken if it is within the bounds. -/
theorem next_of_demands {b : UInt8} {low high more x : Nat}
    (h : (lead? b).map Lead.demands = some (low, high, more)) (hx : x < 0x40)
    (hlow : low ≤ x + 0x80) (hhigh : x + 0x80 ≤ high) (rest : Bytes) :
    next b (UInt8.ofNat (x + 0x80) :: rest) = finish more (leadBits b * 64 + x) rest := by
  obtain ⟨lead, hlead, hdemands⟩ := Option.map_eq_some_iff.mp h
  cases hdemands
  have hbyte : (UInt8.ofNat (x + 0x80)).toNat = x + 0x80 := toNat_ofNat_of_lt (by omega)
  have hb : ¬b < 0x80 := UInt8.not_lt.mpr (UInt8.le_trans (by decide) (le_of_lead? hlead))
  have hbounds : lead.low ≤ UInt8.ofNat (x + 0x80) ∧ UInt8.ofNat (x + 0x80) ≤ lead.high := by
    rw [UInt8.le_iff_toNat_le, UInt8.le_iff_toNat_le, hbyte]
    exact ⟨hlow, hhigh⟩
  unfold next
  rw [if_neg hb, hlead]
  simp only [if_pos hbounds, hbyte, Nat.add_sub_cancel]

theorem demands_two : ∀ a < 0x20, 2 ≤ a →
    (lead? (UInt8.ofNat (a + 0xC0))).map Lead.demands = some (0x80, 0xBF, 0) ∧
      leadBits (UInt8.ofNat (a + 0xC0)) = a := by decide

theorem demands_three : ∀ a < 0x10,
    (lead? (UInt8.ofNat (a + 0xE0))).map Lead.demands =
      some (if a = 0 then 0xA0 else 0x80, if a = 0xD then 0x9F else 0xBF, 1) ∧
      leadBits (UInt8.ofNat (a + 0xE0)) = a := by decide

theorem demands_four : ∀ a < 5,
    (lead? (UInt8.ofNat (a + 0xF0))).map Lead.demands =
      some (if a = 0 then 0x90 else 0x80, if a = 4 then 0x8F else 0xBF, 2) ∧
      leadBits (UInt8.ofNat (a + 0xF0)) = a := by decide

section Characters

variable {v : Nat}

theorem next_one (h : v ≤ 0x7F) (rest : Bytes) :
    next (UInt8.ofNat v) rest = (some (Char.ofNat v), rest) := by
  have hascii : UInt8.ofNat v < 0x80 := by
    rw [UInt8.lt_iff_toNat_lt, toNat_ofNat_of_lt (by omega)]
    exact Nat.lt_succ_of_le h
  unfold next
  rw [if_pos hascii, toNat_ofNat_of_lt (by omega)]

theorem next_two (h : 0x7F < v) (h' : v ≤ 0x7FF) (rest : Bytes) :
    next (UInt8.ofNat (v / 64 % 32 + 0xC0)) (UInt8.ofNat (v % 64 + 0x80) :: rest) =
      (some (Char.ofNat v), rest) := by
  obtain ⟨hdemands, hbits⟩ := demands_two (v / 64 % 32) (by omega) (by omega)
  have hcode : v / 64 % 32 * 64 + v % 64 = v := by omega
  rw [next_of_demands hdemands (by omega) (by omega) (by omega), hbits, hcode, finish]

theorem next_three (h : 0x7FF < v) (h' : v ≤ 0xFFFF) (hvalid : v.isValidChar) (rest : Bytes) :
    next (UInt8.ofNat (v / 4096 % 16 + 0xE0))
        (UInt8.ofNat (v / 64 % 64 + 0x80) :: UInt8.ofNat (v % 64 + 0x80) :: rest) =
      (some (Char.ofNat v), rest) := by
  obtain ⟨hdemands, hbits⟩ := demands_three (v / 4096 % 16) (by omega)
  have hlow : (if v / 4096 % 16 = 0 then 0xA0 else 0x80) ≤ v / 64 % 64 + 0x80 := by
    split_ifs <;> omega
  -- The code points of surrogates are left out here.
  have hhigh : v / 64 % 64 + 0x80 ≤ if v / 4096 % 16 = 0xD then 0x9F else 0xBF := by
    split_ifs <;> omega
  have hcode : (v / 4096 % 16 * 64 + v / 64 % 64) * 64 + v % 64 = v := by omega
  rw [next_of_demands hdemands (by omega) hlow hhigh, hbits, finish_cons (by omega), hcode, finish]

theorem next_four (h : 0xFFFF < v) (hvalid : v.isValidChar) (rest : Bytes) :
    next (UInt8.ofNat (v / 262144 % 8 + 0xF0)) (UInt8.ofNat (v / 4096 % 64 + 0x80) ::
        UInt8.ofNat (v / 64 % 64 + 0x80) :: UInt8.ofNat (v % 64 + 0x80) :: rest) =
      (some (Char.ofNat v), rest) := by
  obtain ⟨hdemands, hbits⟩ := demands_four (v / 262144 % 8) (by omega)
  have hlow : (if v / 262144 % 8 = 0 then 0x90 else 0x80) ≤ v / 4096 % 64 + 0x80 := by
    split_ifs <;> omega
  have hhigh : v / 4096 % 64 + 0x80 ≤ if v / 262144 % 8 = 4 then 0x8F else 0xBF := by
    split_ifs <;> omega
  have hcode : ((v / 262144 % 8 * 64 + v / 4096 % 64) * 64 + v / 64 % 64) * 64 + v % 64 = v := by
    omega
  rw [next_of_demands hdemands (by omega) hlow hhigh, hbits, finish_cons (by omega),
    finish_cons (by omega), hcode, finish]

/-- The bytes of a character are read as the character, whatever follows them. -/
theorem next_utf8EncodeChar (c : Char) (rest : Bytes) :
    ∃ b more, String.utf8EncodeChar c = b :: more ∧ next b (more ++ rest) = (some c, rest) := by
  have hread : ∀ {b : UInt8} {more : Bytes},
      next b (more ++ rest) = (some (Char.ofNat c.toNat), rest) →
        next b (more ++ rest) = (some c, rest) := by
    intro b more h
    rwa [c.ofNat_toNat] at h
  unfold String.utf8EncodeChar
  dsimp only
  split_ifs with h1 h2 h3
  · exact ⟨_, _, rfl, hread (next_one h1 rest)⟩
  · exact ⟨_, _, rfl, hread (next_two (Nat.lt_of_not_le h1) h2 rest)⟩
  · exact ⟨_, _, rfl, hread (next_three (Nat.lt_of_not_le h2) h3 c.valid rest)⟩
  · exact ⟨_, _, rfl, hread (next_four (Nat.lt_of_not_le h3) c.valid rest)⟩

end Characters

theorem chars?_bytes (cs : List Char) : chars? (bytes cs) = some cs := by
  induction cs with
  | nil => rw [bytes, List.flatMap_nil, chars?]
  | cons c cs ih =>
    obtain ⟨b, more, hbytes, hnext⟩ := next_utf8EncodeChar c (bytes cs)
    rw [bytes_cons, hbytes, List.cons_append, chars?, hnext, ih]
    rfl

/-- The text of its bytes. -/
theorem decode?_encode (s : String) : decode? (encode s) = some s := by
  rw [decode?, encode_eq_bytes, chars?_bytes, Option.map_some, String.ofList_toList]

theorem encode_inj {s s' : String} : encode s = encode s' ↔ s = s' :=
  ⟨fun h => String.toList_inj.mp (bytes_inj h), congrArg encode⟩

/-! ## Order -/

theorem ofNat_cons_lt {m n : Nat} (hle : m ≤ n) (hn : n < 0x100) {xs ys : Bytes}
    (h : m = n → xs < ys) : UInt8.ofNat m :: xs < UInt8.ofNat n :: ys := by
  rw [List.cons_lt_cons_iff]
  rcases Nat.lt_or_eq_of_le hle with hlt | rfl
  · left
    rwa [UInt8.lt_iff_toNat_lt, toNat_ofNat_of_lt (Nat.lt_of_le_of_lt hle hn), toNat_ofNat_of_lt hn]
  · exact .inr ⟨rfl, h rfl⟩

/-- A character that comes first has bytes that come first, whatever follows them. -/
theorem utf8EncodeChar_append_lt {c d : Char} (h : c < d) (xs ys : Bytes) :
    String.utf8EncodeChar c ++ xs < String.utf8EncodeChar d ++ ys := by
  have hlt : c.val.toNat < d.val.toNat := h
  have hmax : d.val.toNat < 0x110000 := by
    rcases d.valid with hlow | ⟨-, hhigh⟩
    · exact Nat.lt_trans hlow (by decide)
    · exact hhigh
  unfold String.utf8EncodeChar
  dsimp only
  split_ifs
  all_goals refine ofNat_cons_lt (by omega) (by omega) fun hfirst => ?_
  -- The first byte tells how many there are, so where it is the same a later one differs.
  any_goals omega
  · exact ofNat_cons_lt (by omega) (by omega) (by omega)
  · exact ofNat_cons_lt (by omega) (by omega) fun _ =>
      ofNat_cons_lt (by omega) (by omega) (by omega)
  · exact ofNat_cons_lt (by omega) (by omega) fun _ => ofNat_cons_lt (by omega) (by omega) fun _ =>
      ofNat_cons_lt (by omega) (by omega) (by omega)

theorem bytes_lt_of_lt {cs ds : List Char} (h : cs < ds) : bytes cs < bytes ds := by
  induction h with
  | @nil d ds =>
    obtain ⟨b, more, hb⟩ := List.exists_cons_of_length_pos (length_utf8EncodeChar_pos d)
    rw [bytes_cons, hb]
    exact .nil
  | @rel c cs d ds hlt =>
    rw [bytes_cons, bytes_cons]
    exact utf8EncodeChar_append_lt hlt _ _
  | @cons c cs ds _ ih =>
    rw [bytes_cons, bytes_cons]
    exact List.append_left_lt ih

/-- Texts are in the order of their bytes. -/
theorem encode_lt_iff {s s' : String} : encode s < encode s' ↔ s < s' := by
  show bytes s.toList < bytes s'.toList ↔ s.toList < s'.toList
  refine ⟨fun h => Decidable.byContradiction fun hnot => ?_, bytes_lt_of_lt⟩
  rcases List.le_iff_lt_or_eq.mp (List.not_lt.mp hnot) with hlt | heq
  · exact List.lt_asymm h (bytes_lt_of_lt hlt)
  · rw [heq] at h
    exact List.lt_irrefl _ h

theorem encode_le_iff {s s' : String} : encode s ≤ encode s' ↔ s ≤ s' :=
  not_congr encode_lt_iff

end ServiceLocator.Utf8
