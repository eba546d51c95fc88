import ServiceLocator.Proofs.Text.Utf8

/-!
The bytes of a character: one byte of ASCII, or a first byte with all that it asks for
(`Utf8.exists_utf8EncodeChar_iff`). So the reader takes bytes for a character if they are the bytes
of one (`Utf8.eq_of_next_some`).
-/
namespace ServiceLocator.Utf8

/-! ## Characters of several bytes -/

theorem exists_toNat_eq {v : Nat} (h : v.isValidChar) : ∃ c : Char, c.val.toNat = v :=
  ⟨Char.ofNatAux v h, rfl⟩

/-- A first byte has one of three forms. -/
theorem lead?_cases {b : UInt8} {lead : Lead} (h : lead? b = some lead) :
    (∃ a, 2 ≤ a ∧ a < 0x20 ∧ b = UInt8.ofNat (a + 0xC0)) ∨
      (∃ a < 0x10, b = UInt8.ofNat (a + 0xE0)) ∨ ∃ a < 5, b = UInt8.ofNat (a + 0xF0) := by
  have hlow : 0xC2 ≤ b.toNat := le_of_lead? h
  have hb : ∀ {n}, n = b.toNat → b = UInt8.ofNat n := fun h => (h ▸ UInt8.ofNat_toNat).symm
  have hhigh : b.toNat < 0xF5 := by
    by_contra hlarge
    have hnone : ∀ n < 0xB, lead? (UInt8.ofNat (n + 0xF5)) = none := by decide
    have hbyte := b.toNat_lt
    have habsent := hnone (b.toNat - 0xF5) (by omega)
    rw [← hb (by omega), h] at habsent
    cases habsent
  rcases Nat.lt_or_ge b.toNat 0xE0 with htwo | hmore
  · exact .inl ⟨b.toNat - 0xC0, by omega, by omega, hb (by omega)⟩
  rcases Nat.lt_or_ge b.toNat 0xF0 with hthree | hfour
  · exact .inr (.inl ⟨b.toNat - 0xE0, by omega, hb (by omega)⟩)
  · exact .inr (.inr ⟨b.toNat - 0xF0, by omega, hb (by omega)⟩)

theorem exists_continuation {x : UInt8} (h : 0x80 ≤ x ∧ x ≤ 0xBF) :
    ∃ n < 0x40, x = UInt8.ofNat (n + 0x80) := by
  have hlow : 0x80 ≤ x.toNat := UInt8.le_iff_toNat_le.mp h.1
  have hhigh : x.toNat ≤ 0xBF := UInt8.le_iff_toNat_le.mp h.2
  refine ⟨x.toNat - 0x80, by omega, ?_⟩
  rw [Nat.sub_add_cancel hlow, UInt8.ofNat_toNat]

section Characters

variable {a x y z : Nat}

theorem exists_two (h : 2 ≤ a) (ha : a < 0x20) (hx : x < 0x40) :
    ∃ c, String.utf8EncodeChar c = [UInt8.ofNat (a + 0xC0), UInt8.ofNat (x + 0x80)] := by
  obtain ⟨c, hc⟩ := exists_toNat_eq (v := a * 64 + x) (.inl (by omega))
  refine ⟨c, ?_⟩
  have hfirst : (a * 64 + x) / 64 % 32 = a := by omega
  have hlast : (a * 64 + x) % 64 = x := by omega
  unfold String.utf8EncodeChar
  simp only [hc]
  rw [if_neg (by omega), if_pos (by omega), hfirst, hlast]

theorem exists_three (ha : a < 0x10) (hx : x < 0x40) (hy : y < 0x40)
    (hlow : (if a = 0 then 0xA0 else 0x80) ≤ x + 0x80)
    (hhigh : x + 0x80 ≤ if a = 0xD then 0x9F else 0xBF) :
    ∃ c, String.utf8EncodeChar c =
      [UInt8.ofNat (a + 0xE0), UInt8.ofNat (x + 0x80), UInt8.ofNat (y + 0x80)] := by
  have hlong : a = 0 → 0x20 ≤ x := by
    intro hzero
    rw [if_pos hzero] at hlow
    omega
  -- The code points of surrogates are left out here.
  have hvalid : ((a * 64 + x) * 64 + y).isValidChar := by
    rcases Nat.lt_or_ge a 0xE with hsmall | hlarge
    · refine .inl ?_
      split_ifs at hhigh <;> omega
    · exact .inr (by omega)
  obtain ⟨c, hc⟩ := exists_toNat_eq hvalid
  refine ⟨c, ?_⟩
  have hfirst : ((a * 64 + x) * 64 + y) / 4096 % 16 = a := by omega
  have hmiddle : ((a * 64 + x) * 64 + y) / 64 % 64 = x := by omega
  have hlast : ((a * 64 + x) * 64 + y) % 64 = y := by omega
  unfold String.utf8EncodeChar
  simp only [hc]
  rw [if_neg (by omega), if_neg (by omega), if_pos (by omega), hfirst, hmiddle, hlast]

theorem exists_four (ha : a < 5) (hx : x < 0x40) (hy : y < 0x40) (hz : z < 0x40)
    (hlow : (if a = 0 then 0x90 else 0x80) ≤ x + 0x80)
    (hhigh : x + 0x80 ≤ if a = 4 then 0x8F else 0xBF) :
    ∃ c, String.utf8EncodeChar c = [UInt8.ofNat (a + 0xF0), UInt8.ofNat (x + 0x80),
      UInt8.ofNat (y + 0x80), UInt8.ofNat (z + 0x80)] := by
  have hlong : a = 0 → 0x10 ≤ x := by
    intro hzero
    rw [if_pos hzero] at hlow
    omega
  have hvalid : (((a * 64 + x) * 64 + y) * 64 + z).isValidChar := by
    refine .inr ?_
    split_ifs at hhigh <;> omega
  obtain ⟨c, hc⟩ := exists_toNat_eq hvalid
  refine ⟨c, ?_⟩
  have hfirst : (((a * 64 + x) * 64 + y) * 64 + z) / 262144 % 8 = a := by omega
  have hsecond : (((a * 64 + x) * 64 + y) * 64 + z) / 4096 % 64 = x := by omega
  have hthird : (((a * 64 + x) * 64 + y) * 64 + z) / 64 % 64 = y := by omega
  have hlast : (((a * 64 + x) * 64 + y) * 64 + z) % 64 = z := by omega
  unfold String.utf8EncodeChar
  simp only [hc]
  rw [if_neg (by omega), if_neg (by omega), if_neg (by omega), hfirst, hsecond, hthird, hlast]

end Characters

/-! ## First bytes -/

/-- A first byte that has not got all its bytes can get them. -/
theorem Lead.Takes.exists_append {b : UInt8} {lead : Lead} (hlead : lead? b = some lead)
    {bytes : Bytes} (h : lead.Takes bytes) (hlength : bytes.length ≤ lead.more + 1) :
    ∃ more, lead.Takes (bytes ++ more) ∧ (bytes ++ more).length = lead.more + 1 := by
  have hpadding : ∀ n, ∀ x ∈ List.replicate n (0x80 : UInt8), 0x80 ≤ x ∧ x ≤ 0xBF := by
    intro n x hx
    rw [List.eq_of_mem_replicate hx]
    decide
  cases bytes with
  | nil =>
    refine ⟨lead.low :: List.replicate lead.more 0x80, ⟨⟨UInt8.le_refl _, ?_⟩, hpadding _⟩, ?_⟩
    · exact (bounds_of_lead? hlead).1
    · simp
  | cons c bytes =>
    rw [List.length_cons] at hlength
    refine ⟨List.replicate (lead.more - bytes.length) 0x80, ⟨h.1, fun x hx => ?_⟩, ?_⟩
    · rcases List.mem_append.mp hx with hx | hx
      · exact h.2 x hx
      · exact hpadding _ x hx
    · rw [List.length_append, List.length_cons, List.length_replicate]
      omega

/-- All the bytes that a first byte asks for make up a character with it. -/
theorem Lead.Takes.exists_char {b : UInt8} {lead : Lead} (hlead : lead? b = some lead)
    {bytes : Bytes} (h : lead.Takes bytes) (hlength : bytes.length = lead.more + 1) :
    ∃ c, String.utf8EncodeChar c = b :: bytes := by
  have hcontinues := h.continues hlead
  cases bytes with
  | nil => cases hlength
  | cons c bytes =>
    obtain ⟨⟨x, hx, rfl⟩, hmore⟩ :=
      (List.forall_mem_cons.mp hcontinues).imp_left exists_continuation
    have hbounds := h.1
    have hdemands : ∀ {low high more}, (lead? b).map Lead.demands = some (low, high, more) →
        low ≤ x + 0x80 ∧ x + 0x80 ≤ high ∧ bytes.length = more := by
      intro low high more heq
      rw [hlead] at heq
      cases heq
      rw [UInt8.le_iff_toNat_le, UInt8.le_iff_toNat_le, toNat_ofNat_of_lt (by omega)] at hbounds
      exact ⟨hbounds.1, hbounds.2, Nat.succ.inj hlength⟩
    rcases lead?_cases hlead with ⟨a, htwo, ha, rfl⟩ | ⟨a, ha, rfl⟩ | ⟨a, ha, rfl⟩
    · obtain ⟨-, -, hnone⟩ := hdemands (demands_two a ha htwo).1
      rw [List.length_eq_zero_iff.mp hnone]
      exact exists_two htwo ha hx
    · obtain ⟨hlow, hhigh, hone⟩ := hdemands (demands_three a ha).1
      obtain ⟨d, rfl⟩ := List.length_eq_one_iff.mp hone
      obtain ⟨y, hy, rfl⟩ := exists_continuation (hmore d List.mem_cons_self)
      exact exists_three ha hx hy hlow hhigh
    · obtain ⟨hlow, hhigh, htwo⟩ := hdemands (demands_four a ha).1
      obtain ⟨d, e, rfl⟩ := List.length_eq_two.mp htwo
      obtain ⟨y, hy, rfl⟩ := exists_continuation (hmore d List.mem_cons_self)
      obtain ⟨z, hz, rfl⟩ :=
        exists_continuation (hmore e (List.mem_cons_of_mem _ List.mem_cons_self))
      exact exists_four ha hx hy hz hlow hhigh

/-- Bytes are those of a character if they are one byte of ASCII, or a first byte with all that it
asks for. -/
theorem exists_utf8EncodeChar_iff {b : UInt8} {more : Bytes} :
    (∃ c, String.utf8EncodeChar c = b :: more) ↔
      (b < 0x80 ∧ more = []) ∨
        ∃ lead, lead? b = some lead ∧ lead.Takes more ∧ more.length = lead.more + 1 := by
  constructor
  · rintro ⟨c, hc⟩
    obtain ⟨b', more', hc', hnext⟩ := next_utf8EncodeChar c []
    rw [hc] at hc'
    cases hc'
    rw [List.append_nil] at hnext
    have hbegins := begins_next b more
    rw [hnext] at hbegins
    cases hbegins with
    | ascii hascii => exact .inl ⟨hascii, rfl⟩
    | whole taken hlead htakes hlength =>
      rw [List.append_nil]
      exact .inr ⟨_, hlead, htakes, hlength⟩
  · rintro (⟨hascii, rfl⟩ | ⟨lead, hlead, htakes, hlength⟩)
    · have hb : b.toNat < 0x80 := hascii
      obtain ⟨c, hc⟩ := exists_toNat_eq (v := b.toNat) (.inl (by omega))
      have hchar : c.toNat = b.toNat := hc
      exact ⟨c, by rw [utf8EncodeChar_of_ascii (hchar ▸ hb), hchar, UInt8.ofNat_toNat]⟩
    · exact htakes.exists_char hlead hlength

/-- A character begins with a byte that continues none. -/
theorem not_continues_of_utf8EncodeChar {c : Char} {b : UInt8} {more : Bytes}
    (h : String.utf8EncodeChar c = b :: more) : ¬(0x80 ≤ b ∧ b ≤ 0xBF) := by
  rintro ⟨hlow, hhigh⟩
  rcases exists_utf8EncodeChar_iff.mp ⟨c, h⟩ with ⟨hascii, -⟩ | ⟨lead, hlead, -⟩
  · exact UInt8.not_le.mpr hascii hlow
  · exact absurd (UInt8.le_trans (le_of_lead? hlead) hhigh) (by decide)

/-- Beyond ASCII, a character begins with a first byte only. -/
theorem not_prefix_of_lead?_eq_none {b : UInt8} (hb : 0x80 ≤ b) (h : lead? b = none) (c : Char) :
    ¬[b] <+: String.utf8EncodeChar c := by
  rintro ⟨more, hmore⟩
  rcases exists_utf8EncodeChar_iff.mp ⟨c, hmore.symm⟩ with ⟨hascii, -⟩ | ⟨lead, hlead, -⟩
  · exact UInt8.not_le.mpr hascii hb
  · rw [h] at hlead
    cases hlead

/-- What is read as a character are its bytes. -/
theorem eq_of_next_some {b : UInt8} {rest rest' : Bytes} {c : Char}
    (h : next b rest = (some c, rest')) : b :: rest = String.utf8EncodeChar c ++ rest' := by
  have hchar : ∀ more, rest = more ++ rest' → (∃ d, String.utf8EncodeChar d = b :: more) →
      b :: rest = String.utf8EncodeChar c ++ rest' := by
    rintro more rfl ⟨d, hd⟩
    obtain ⟨b', more', hd', hnext⟩ := next_utf8EncodeChar d rest'
    rw [hd] at hd'
    cases hd'
    rw [h] at hnext
    cases hnext
    rw [hd, List.cons_append]
  have hbegins := begins_next b rest
  rw [h] at hbegins
  cases hbegins with
  | ascii hascii => exact hchar [] rfl (exists_utf8EncodeChar_iff.mpr (.inl ⟨hascii, rfl⟩))
  | whole taken hlead htakes hlength => exact hchar taken rfl (htakes.exists_char hlead hlength)

end ServiceLocator.Utf8
