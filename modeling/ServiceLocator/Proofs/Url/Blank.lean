import Mathlib.Data.List.Basic
import ServiceLocator.Proofs.Text.Utf8
import ServiceLocator.Proofs.Unicode.Inert
import ServiceLocator.Proofs.Url.Percent
import ServiceLocator.Proofs.Url.Authority

/-!
Blanks in an authority. Trimming only takes blanks off the ends of a URL, so one that ends a
base comes to stand inside the URL when a path is put after it. No authority ends in one
(`exists_specialAuthority_eq_error`): a port has digits only, an address ends in its bracket,
and a blank reaches a domain name unchanged, where it is forbidden.
-/
namespace ServiceLocator.Url

/-! ## Blanks -/

/-- What is true of the first code points is true of blanks. -/
theorem of_isBlank {P : Char → Prop} (h : ∀ n < 0x21, P (Char.ofNat n)) {c : Char}
    (hc : isBlank c = true) : P c := by
  have hcode := h c.toNat (by simpa [isBlank, Nat.lt_succ_iff] using hc)
  rwa [Char.ofNat_toNat] at hcode

section

variable {c : Char} (hc : isBlank c = true)
include hc

theorem endsAuthority_of_isBlank : endsAuthority true c = false :=
  of_isBlank (P := (endsAuthority true · = false)) (by decide) hc

theorem isAnySlash_of_isBlank : Path.isAnySlash c = false :=
  of_isBlank (P := (Path.isAnySlash · = false)) (by decide) hc

theorem isSchemeChar_of_isBlank : isSchemeChar c = false :=
  of_isBlank (P := (isSchemeChar · = false)) (by decide) hc

theorem hexDigit?_of_isBlank : Numeral.hexDigit? c = none :=
  of_isBlank (P := (Numeral.hexDigit? · = none)) (by decide) hc

theorem decimalDigit?_of_isBlank : Numeral.decimalDigit? c = none :=
  of_isBlank (P := (Numeral.decimalDigit? · = none)) (by decide) hc

theorem utf8EncodeChar_of_isBlank : String.utf8EncodeChar c = [UInt8.ofNat c.toNat] :=
  of_isBlank (P := fun c => String.utf8EncodeChar c = [UInt8.ofNat c.toNat]) (by decide) hc

theorem ofNat_toNat_of_isBlank : (UInt8.ofNat c.toNat).toNat = c.toNat :=
  of_isBlank (P := fun c => (UInt8.ofNat c.toNat).toNat = c.toNat) (by decide) hc

/-- A blank is not a mark that a URL gives a meaning. -/
theorem ne_of_isBlank {mark : Char} (hmark : isBlank mark = false) : c ≠ mark := by
  rintro rfl
  rw [hc] at hmark
  cases hmark

end

/-! ## Domains -/

namespace Domain

open Unicode (Row inert_of_le_space)

/-- One row keeps the code points up to `@`. -/
theorem exists_keptRow :
    ∃ row ∈ keptAsciiRows, (row.first == 0 && row.last == 0x40 && row.step == 1) = true :=
  Row.exists_mem_table (by decide +kernel)

theorem mapCode?_of_le_space {code : Nat} (h : code ≤ 0x20) : mapCode? code = some [code] := by
  obtain ⟨row, hmem, hrow⟩ := exists_keptRow
  simp only [Bool.and_eq_true, beq_iff_eq] at hrow
  have hkept : Unicode.inTable keptRows code = true := by
    refine List.any_eq_true.mpr ⟨row, List.mem_append_left _ hmem, ?_⟩
    simp only [Row.covers, hrow, Nat.mod_one, Nat.zero_le, decide_true, beq_self_eq_true,
      Bool.and_true, Bool.true_and, decide_eq_true_iff]
    omega
  unfold mapCode?
  rw [if_pos hkept]

/-- The image of an element is among the images. -/
theorem mem_of_mapM_eq_some {α β : Type} {f : α → Option β} {xs : List α} {ys : List β}
    (h : xs.mapM f = some ys) {x : α} (hx : x ∈ xs) : ∃ y ∈ ys, f x = some y := by
  induction xs generalizing ys with
  | nil => cases hx
  | cons first rest ih =>
    rw [List.mapM_cons] at h
    obtain ⟨y, hy, h⟩ := Option.bind_eq_some_iff.mp h
    obtain ⟨later, hlater, h⟩ := Option.bind_eq_some_iff.mp h
    cases h
    rcases List.mem_cons.mp hx with rfl | hx
    · exact ⟨y, List.mem_cons_self, hy⟩
    · obtain ⟨z, hz, hfz⟩ := ih hlater hx
      exact ⟨z, List.mem_cons_of_mem _ hz, hfz⟩

/-- A control or space is still there once a name is mapped and normalized. -/
theorem mem_mapped? {code : Nat} (hcode : code ≤ 0x20) {codes mapped : List Nat}
    (h : mapped? codes = some mapped) (hmem : code ∈ codes) : code ∈ mapped := by
  obtain ⟨images, himages, rfl⟩ := Option.map_eq_some_iff.mp h
  obtain ⟨image, himage, hmap⟩ := mem_of_mapM_eq_some himages hmem
  rw [mapCode?_of_le_space hcode] at hmap
  cases hmap
  exact (inert_of_le_space hcode).mem_normalize
    (List.mem_flatten.mpr ⟨[code], himage, List.mem_singleton_self code⟩)

/-- What is not a dot stands in a label. -/
theorem mem_labels {code : Nat} (hdot : code ≠ dot) {codes : List Nat} (hmem : code ∈ codes) :
    ∃ label ∈ labels codes, code ∈ label := by
  induction codes with
  | nil => cases hmem
  | cons first rest ih =>
    rw [labels]
    split
    · rcases List.mem_cons.mp hmem with rfl | hmem
      · contradiction
      · obtain ⟨label, hlabel, hcode⟩ := ih hmem
        exact ⟨label, List.mem_cons_of_mem _ hlabel, hcode⟩
    · rcases List.mem_cons.mp hmem with rfl | hmem
      · split <;> exact ⟨_, List.mem_cons_self, List.mem_cons_self⟩
      · obtain ⟨label, hlabel, hcode⟩ := ih hmem
        split
        · rename_i hnone
          rw [hnone] at hlabel
          cases hlabel
        · rename_i head later hsome
          rw [hsome] at hlabel
          rcases List.mem_cons.mp hlabel with rfl | hlabel
          · exact ⟨_, List.mem_cons_self, List.mem_cons_of_mem _ hcode⟩
          · exact ⟨label, List.mem_cons_of_mem _ hlabel, hcode⟩

/-- A label with a forbidden character is refused. -/
theorem label?_eq_none {label : List Nat} {code : Nat} (hmem : code ∈ label)
    (hascii : isAscii code = true) (hforbidden : isForbidden code = true) :
    label? label = none := by
  unfold label?
  rw [if_pos]
  exact List.any_eq_true.mpr ⟨code, hmem, by rw [hascii, hforbidden]; rfl⟩

theorem isForbidden_of_le_space {code : Nat} (h : code ≤ 0x20) : isForbidden code = true := by
  simp [isForbidden, h]

theorem ofPlain?_eq_none {code : Nat} (hcode : code ≤ 0x20) {codes : List Nat}
    (hmem : code ∈ codes) : ofPlain? codes = none := by
  unfold ofPlain?
  rw [if_pos]
  exact List.any_eq_true.mpr ⟨code, hmem, isForbidden_of_le_space hcode⟩

theorem ofMapped?_eq_none {code : Nat} (hcode : code ≤ 0x20) {codes : List Nat}
    (hmem : code ∈ codes) : ofMapped? codes = none := by
  rw [Option.eq_none_iff_forall_ne_some]
  intro name h
  obtain ⟨mapped, hmapped, h⟩ := Option.bind_eq_some_iff.mp h
  obtain ⟨written, hwritten, -⟩ := Option.bind_eq_some_iff.mp h
  have hdot : code ≠ dot := by
    unfold dot
    omega
  obtain ⟨label, hlabel, hcode'⟩ := mem_labels hdot (mem_mapped? hcode hmapped hmem)
  obtain ⟨_, _, hsome⟩ := mem_of_mapM_eq_some hwritten hlabel
  have hascii : isAscii code = true := by
    simp only [isAscii, decide_eq_true_iff]
    omega
  rw [label?_eq_none hcode' hascii (isForbidden_of_le_space hcode)] at hsome
  cases hsome

/-- A name with a blank is no domain. -/
theorem toAscii?_eq_none {c : Char} (hc : isBlank c = true) {name : Bytes}
    (hmem : UInt8.ofNat c.toNat ∈ name) : toAscii? name = none := by
  have hcode : c.toNat ≤ 0x20 := by simpa [isBlank] using hc
  have hbyte : UInt8.ofNat c.toNat < 0x80 := by
    rw [UInt8.lt_iff_toNat_lt, ofNat_toNat_of_isBlank hc]
    exact Nat.lt_of_le_of_lt hcode (by decide)
  rw [Option.eq_none_iff_forall_ne_some]
  intro text h
  obtain ⟨cs, hcs, h⟩ := Option.bind_eq_some_iff.mp h
  have hchar : c ∈ cs := by
    have hread := Utf8.mem_chars? hbyte hcs hmem
    rwa [ofNat_toNat_of_isBlank hc, Char.ofNat_toNat] at hread
  have hlower : c.toNat ∈ cs.map fun c => lowerCode c.toNat := by
    refine List.mem_map.mpr ⟨c, hchar, ?_⟩
    unfold lowerCode
    rw [if_neg]
    omega
  simp only [ofPlain?_eq_none hcode hlower, ofMapped?_eq_none hcode hlower, ite_self] at h
  cases h

end Domain

/-! ## Hosts and ports -/

section

variable {c : Char} (hc : isBlank c = true)
include hc

/-- No host ends in a blank. -/
theorem Host.exists_parse_eq_error (cs : List Char) :
    ∃ fault, Host.parse (cs ++ [c]) = .error fault := by
  unfold Host.parse
  cases hbracket : bracketed? (cs ++ [c]) with
  | some inner =>
    have hinner : inner = .error .invalidIpv6 := by
      cases cs with
      | nil =>
        have hopen : c ≠ '[' := ne_of_isBlank hc (by decide)
        simp [bracketed?, hopen] at hbracket
      | cons first rest =>
        have hclose : c ≠ ']' := ne_of_isBlank hc (by decide)
        rw [List.cons_append] at hbracket
        unfold bracketed? at hbracket
        split at hbracket
        · rename_i heq
          cases heq
          simpa [hclose] using hbracket.symm
        · cases hbracket
    subst hinner
    exact ⟨_, rfl⟩
  | none =>
    have hbyte : UInt8.ofNat c.toNat ∈ percentDecode (cs ++ [c]) := by
      refine mem_percentDecode (ne_of_isBlank hc (by decide)) (hexDigit?_of_isBlank hc)
        (List.mem_append_right _ (List.mem_singleton_self c)) ?_
      rw [utf8EncodeChar_of_isBlank hc]
      exact List.mem_singleton_self _
    simp only [Domain.toAscii?_eq_none hc hbyte]
    exact ⟨_, rfl⟩

/-- No port ends in a blank. -/
theorem exists_portFrom_eq_error (port : Nat) {digits : List Char} (hdigits : Unended digits) :
    ∃ fault, portFrom port (digits ++ [c]) = .error fault := by
  induction digits generalizing port with
  | nil =>
    simp only [List.nil_append, portFrom, decimalDigit?_of_isBlank hc, endsAuthority_of_isBlank hc]
    exact ⟨_, rfl⟩
  | cons first rest ih =>
    have hrest : Unended rest := fun x hx => hdigits x (List.mem_cons_of_mem _ hx)
    have hfirst : endsAuthority true first = false := hdigits first List.mem_cons_self
    rw [List.cons_append, portFrom]
    cases Numeral.decimalDigit? first with
    | none =>
      simp only [hfirst]
      exact ⟨_, rfl⟩
    | some digit =>
      simp only
      split
      · exact ih _ hrest
      · exact ⟨_, rfl⟩

/-- What follows the login ends as the authority does. -/
theorem exists_place_eq_append (text : List Char) :
    ∃ start, place (text ++ [c]) = start ++ [c] ∧ start <:+ text := by
  rcases List.suffix_concat_iff.mp (place_suffix (text ++ [c])) with hnil | hplace
  · -- Then the text would end in its `@`, which is no blank.
    unfold place at hnil
    cases hsplit : splitLastAt? (text ++ [c]) with
    | none => simp [hsplit] at hnil
    | some parts =>
      obtain ⟨login, rest⟩ := parts
      obtain rfl : rest = [] := by simpa [hsplit] using hnil
      have hat : c = '@' := by
        simpa using (List.append_inj' (splitLastAt?_eq_some hsplit) rfl).2
      exact absurd hat (ne_of_isBlank hc (by decide))
  · exact hplace

/-- No authority ends in a blank. -/
theorem exists_specialAuthority_eq_error (port : Nat) {text : List Char} (htext : Unended text) :
    ∃ fault, specialAuthority port (text ++ [c]) = .error fault := by
  obtain ⟨start, hplace, hstart⟩ := exists_place_eq_append hc text
  rcases hsplit : splitHost false (start ++ [c]) with ⟨hostText, afterHost⟩
  have happend : hostText ++ afterHost = start ++ [c] := by
    rw [← splitHost_append false (start ++ [c]), hsplit]
  unfold specialAuthority
  rw [hplace, hsplit]
  simp only
  split
  · exact ⟨_, rfl⟩
  rcases List.suffix_concat_iff.mp ⟨hostText, happend⟩ with rfl | ⟨after, rfl, hafter⟩
  · -- There is no port, so the host ends in the blank.
    rw [List.append_nil] at happend
    obtain ⟨fault, hfault⟩ := Host.exists_parse_eq_error hc start
    rw [happend, hfault]
    exact ⟨fault, rfl⟩
  · have hcolon := head?_splitHost false (start ++ [c])
    rw [hsplit] at hcolon
    cases after with
    | nil => exact absurd (hcolon c rfl) (ne_of_isBlank hc (by decide))
    | cons first digits =>
      obtain rfl : first = ':' := hcolon first rfl
      have hdigits : Unended digits := fun x hx =>
        htext x (hstart.subset (hafter.subset (List.mem_cons_of_mem _ hx)))
      obtain ⟨fault, hfault⟩ := exists_portFrom_eq_error hc 0 hdigits
      simp only [List.cons_append, portOf, hfault]
      cases Host.parse hostText <;> exact ⟨_, rfl⟩

end

end ServiceLocator.Url
