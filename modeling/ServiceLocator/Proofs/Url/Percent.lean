import Mathlib.Data.List.Basic
import ServiceLocator.Proofs.Text.Utf8
import ServiceLocator.Url.Percent

/-!
Percent-encoding. A character that can be no part of an escape stands for itself. A text is
decoded to its own bytes exactly if it has no escapes, and encoding a text does not change what
it is decoded to, as long as escapes stay as they are (`percentDecode_percentEncode`).
-/
namespace ServiceLocator.Url

/-! ## Characters that stand for themselves -/

/-- A character that is no part of an escape is decoded to its own bytes. -/
theorem mem_percentDecode {c : Char} (hpercent : c ≠ '%') (hdigit : Numeral.hexDigit? c = none)
    {cs : List Char} (hmem : c ∈ cs) {byte : UInt8} (hbyte : byte ∈ String.utf8EncodeChar c) :
    byte ∈ percentDecode cs := by
  fun_induction percentDecode cs with
  | case1 => cases hmem
  | case2 a b rest high low hlow hhigh ih =>
    have ha : c ≠ a := by
      rintro rfl
      rw [hdigit] at hhigh
      cases hhigh
    have hb : c ≠ b := by
      rintro rfl
      rw [hdigit] at hlow
      cases hlow
    simp only [List.mem_cons, hpercent, ha, hb, false_or] at hmem
    exact List.mem_cons_of_mem _ (ih hmem)
  | case3 a b rest _ ih =>
    rcases List.mem_cons.mp hmem with rfl | hmem
    · exact absurd rfl hpercent
    · exact List.mem_cons_of_mem _ (ih hmem)
  | case4 c' rest _ ih =>
    rcases List.mem_cons.mp hmem with rfl | hmem
    · exact List.mem_append_left _ hbyte
    · exact List.mem_append_right _ (ih hmem)

/-! ## Escapes -/

/-- Whether a text begins with a hexadecimal digit. -/
def startsWithDigit (cs : List Char) : Bool := cs.head?.any fun c => (Numeral.hexDigit? c).isSome

/-- Whether a text begins with two hexadecimal digits. -/
def startsWithDigits (cs : List Char) : Bool := startsWithDigit cs && startsWithDigit cs.tail

/-- Whether a `%` in a text is followed by two hexadecimal digits. -/
def hasEscape : List Char → Bool
  | [] => false
  | c :: rest => c == '%' && startsWithDigits rest || hasEscape rest

theorem percentDecode_escape {a b : Char} {high low : Nat} (ha : Numeral.hexDigit? a = some high)
    (hb : Numeral.hexDigit? b = some low) (rest : List Char) :
    percentDecode ('%' :: a :: b :: rest) =
      UInt8.ofNat (high * 16 + low) :: percentDecode rest := by
  rw [percentDecode, ha, hb]

/-- A character that no escape begins with is decoded to its own bytes. -/
theorem percentDecode_cons {c : Char} {rest : List Char}
    (h : (c == '%' && startsWithDigits rest) = false) :
    percentDecode (c :: rest) = String.utf8EncodeChar c ++ percentDecode rest := by
  by_cases hc : c = '%'
  · subst hc
    match rest with
    | [] => rfl
    | [a] => rfl
    | a :: b :: later =>
      rw [percentDecode]
      cases ha : Numeral.hexDigit? a with
      | none => rfl
      | some high =>
        cases hb : Numeral.hexDigit? b with
        | none => rfl
        | some low => simp [startsWithDigits, startsWithDigit, ha, hb] at h
  · rw [percentDecode]
    rintro a b later heq
    exact absurd heq hc

/-- A text begins with an escape or with a character that is not part of one. -/
theorem escapeInduction {motive : List Char → Prop} (nil : motive [])
    (escape : ∀ a b rest high low, Numeral.hexDigit? a = some high →
      Numeral.hexDigit? b = some low → motive rest → motive ('%' :: a :: b :: rest))
    (plain : ∀ c rest, (c == '%' && startsWithDigits rest) = false → motive rest →
      motive (c :: rest))
    (cs : List Char) : motive cs := by
  induction cs using percentDecode.induct with
  | case1 => exact nil
  | case2 a b rest high low hlow hhigh ih => exact escape a b rest high low hhigh hlow ih
  | case3 a b rest hdigits ih =>
    refine plain '%' (a :: b :: rest) ?_ ih
    rw [Bool.eq_false_iff]
    intro h
    obtain ⟨ha, hb⟩ : (Numeral.hexDigit? a).isSome ∧ (Numeral.hexDigit? b).isSome := by
      simpa [startsWithDigits, startsWithDigit] using h
    obtain ⟨high, hhigh⟩ := Option.isSome_iff_exists.mp ha
    obtain ⟨low, hlow⟩ := Option.isSome_iff_exists.mp hb
    exact hdigits high low hhigh hlow
  | case4 c rest hshort ih =>
    refine plain c rest ?_ ih
    rw [Bool.eq_false_iff]
    intro h
    obtain ⟨hc, hdigits⟩ := Bool.and_eq_true_iff.mp h
    match rest with
    | [] => cases hdigits
    | [a] => exact absurd hdigits (by simp [startsWithDigits, startsWithDigit])
    | a :: b :: later => exact hshort a b later (beq_iff_eq.mp hc) rfl

/-- Without escapes, a text is decoded to its own bytes. -/
theorem percentDecode_of_not_hasEscape {cs : List Char} (h : hasEscape cs = false) :
    percentDecode cs = Utf8.bytes cs := by
  induction cs with
  | nil => rfl
  | cons c rest ih =>
    obtain ⟨hc, hrest⟩ := Bool.or_eq_false_iff.mp h
    rw [percentDecode_cons hc, ih hrest, Utf8.bytes_cons]

/-- An escape takes three characters to one byte, so it makes a text shorter. -/
theorem length_percentDecode_le (cs : List Char) :
    (percentDecode cs).length + (hasEscape cs).toNat ≤ (Utf8.bytes cs).length := by
  induction cs using escapeInduction with
  | nil => exact Nat.le_refl _
  | escape a b rest high low ha hb ih =>
    have hmark := Utf8.length_utf8EncodeChar_pos '%'
    have ha' := Utf8.length_utf8EncodeChar_pos a
    have hb' := Utf8.length_utf8EncodeChar_pos b
    have hone := Bool.toNat_le (hasEscape ('%' :: a :: b :: rest))
    simp only [percentDecode_escape ha hb, Utf8.bytes_cons, List.length_append, List.length_cons]
    omega
  | plain c rest hc ih =>
    simp only [percentDecode_cons hc, hasEscape, hc, Bool.false_or, Utf8.bytes_cons,
      List.length_append]
    omega

/-! ## Encoding and decoding -/

theorem hexDigit?_upperHexChar : ∀ n < 16, Numeral.hexDigit? (Numeral.upperHexChar n) = some n := by
  decide

theorem toNat_ofNat_of_ascii : ∀ n < 0x80, (Char.ofNat n).toNat = n := by
  decide

/-- A byte is read back from its written form. -/
theorem percentDecode_encodeByte (set : EncodeSet) {b : UInt8} (hb : b ≠ 0x25) (rest : List Char) :
    percentDecode (encodeByte set b ++ rest) = b :: percentDecode rest := by
  have hlt : b.toNat < 256 := b.toNat_lt
  unfold encodeByte
  split
  · have hhigh := hexDigit?_upperHexChar (b.toNat / 16) (by omega)
    have hlow := hexDigit?_upperHexChar (b.toNat % 16) (by omega)
    show percentDecode ('%' :: _ :: _ :: rest) = _
    rw [percentDecode_escape hhigh hlow, Nat.div_add_mod', UInt8.ofNat_toNat]
  · rename_i hkept
    have hascii : b.toNat < 0x80 := by
      simpa [UInt8.le_iff_toNat_le] using (not_or.mp hkept).1
    have hcode : (Char.ofNat b.toNat).toNat = b.toNat := toNat_ofNat_of_ascii _ hascii
    have hne : Char.ofNat b.toNat ≠ '%' := by
      intro h
      rw [h] at hcode
      exact hb (UInt8.toNat_inj.mp hcode.symm)
    have hbyte : String.utf8EncodeChar (Char.ofNat b.toNat) = [b] := by
      rw [Utf8.utf8EncodeChar_of_ascii (by rwa [hcode]), hcode, UInt8.ofNat_toNat]
    show percentDecode (Char.ofNat b.toNat :: rest) = _
    rw [percentDecode_cons (by simp [hne]), hbyte, List.singleton_append]

theorem percentDecode_encodeBytes (set : EncodeSet) {bytes : Bytes} (h : 0x25 ∉ bytes)
    (rest : List Char) :
    percentDecode (bytes.flatMap (encodeByte set) ++ rest) = bytes ++ percentDecode rest := by
  induction bytes with
  | nil => rfl
  | cons b bytes ih =>
    obtain ⟨hb, hbytes⟩ := not_or.mp (mt List.mem_cons.mpr h)
    rw [List.flatMap_cons, List.append_assoc, percentDecode_encodeByte set (Ne.symm hb), ih hbytes]
    rfl

theorem not_mem_utf8EncodeChar {c : Char} (hc : c ≠ '%') : 0x25 ∉ String.utf8EncodeChar c := by
  intro hmem
  by_cases hascii : c.toNat < 0x80
  · rw [Utf8.utf8EncodeChar_of_ascii hascii, List.mem_singleton] at hmem
    refine hc (Char.toNat_inj.mp ?_)
    have hcode := congrArg UInt8.toNat hmem
    rw [UInt8.toNat_ofNat', Nat.mod_eq_of_lt (by omega)] at hcode
    exact hcode.symm
  · exact absurd (Utf8.le_of_mem_utf8EncodeChar (Nat.not_lt.mp hascii) hmem) (by decide)

/-- The written form of a character. -/
def encodeChar (set : EncodeSet) (c : Char) : List Char :=
  (String.utf8EncodeChar c).flatMap (encodeByte set)

theorem toList_percentEncode (set : EncodeSet) (cs : List Char) :
    (percentEncode set cs).toList = cs.flatMap (encodeChar set) := by
  unfold percentEncode encodeChar
  rw [String.toList_ofList, List.flatMap_assoc]

/-- Neither the mark of an escape nor its digits are to be encoded. -/
structure EncodeSet.KeepsEscapes (set : EncodeSet) : Prop where
  mark : set '%'.toNat = false
  digit : ∀ c, (Numeral.hexDigit? c).isSome = true → set c.toNat = false

theorem encodeChar_of_ascii (set : EncodeSet) {c : Char} (hascii : c.toNat < 0x80) :
    encodeChar set c = if set c.toNat then
      ['%', Numeral.upperHexChar (c.toNat / 16), Numeral.upperHexChar (c.toNat % 16)]
    else [c] := by
  have hcode : (UInt8.ofNat c.toNat).toNat = c.toNat := by
    rw [UInt8.toNat_ofNat', Nat.mod_eq_of_lt (by omega)]
  have hbyte : ¬0x80 ≤ UInt8.ofNat c.toNat := by
    rw [UInt8.le_iff_toNat_le, hcode]
    exact Nat.not_le.mpr hascii
  unfold encodeChar
  rw [Utf8.utf8EncodeChar_of_ascii hascii, List.flatMap_singleton]
  simp only [encodeByte, hcode, hbyte, false_or, Char.ofNat_toNat]

/-- The written form of a character is the character itself or begins with `%`. -/
theorem encodeChar_cases (set : EncodeSet) (c : Char) :
    encodeChar set c = [c] ∨ ∃ rest, encodeChar set c = '%' :: rest := by
  by_cases hascii : c.toNat < 0x80
  · rw [encodeChar_of_ascii set hascii]
    split
    · exact .inr ⟨_, rfl⟩
    · exact .inl rfl
  · right
    unfold encodeChar
    cases hbytes : String.utf8EncodeChar c with
    | nil => exact absurd (Utf8.length_utf8EncodeChar_pos c) (by simp [hbytes])
    | cons b later =>
      have hb : 0x80 ≤ b := Utf8.le_of_mem_utf8EncodeChar (Nat.not_lt.mp hascii)
        (hbytes ▸ List.mem_cons_self)
      rw [List.flatMap_cons]
      unfold encodeByte
      rw [if_pos (.inl hb)]
      exact ⟨_, rfl⟩

theorem ascii_of_hexDigit? {c : Char} (h : (Numeral.hexDigit? c).isSome = true) :
    c.toNat < 0x80 := by
  have hle : ∀ last : Char, c ≤ last → last.toNat < 0x80 → c.toNat < 0x80 := fun last hc =>
    Nat.lt_of_le_of_lt (UInt32.le_iff_toNat_le.mp hc)
  unfold Numeral.hexDigit? at h
  split at h
  · rename_i hc
    exact hle '9' hc.2 (by decide)
  · split at h
    · rename_i hc
      exact hle 'f' hc.2 (by decide)
    · split at h
      · rename_i hc
        exact hle 'F' hc.2 (by decide)
      · cases h

section

variable {set : EncodeSet} (hset : set.KeepsEscapes)
include hset

theorem encodeChar_of_digit {c : Char} (h : (Numeral.hexDigit? c).isSome = true) :
    encodeChar set c = [c] := by
  rw [encodeChar_of_ascii set (ascii_of_hexDigit? h), hset.digit c h]
  rfl

theorem startsWithDigit_flatMap (cs : List Char) :
    startsWithDigit (cs.flatMap (encodeChar set)) = startsWithDigit cs := by
  cases cs with
  | nil => rfl
  | cons c rest =>
    rw [List.flatMap_cons]
    cases hc : (Numeral.hexDigit? c).isSome with
    | true => rw [encodeChar_of_digit hset hc, List.singleton_append]; rfl
    | false =>
      have hfirst : startsWithDigit (c :: rest) = false := hc
      rw [hfirst]
      rcases encodeChar_cases set c with hself | ⟨later, hmark⟩
      · rw [hself]
        exact hc
      · rw [hmark]
        rfl

/-- Whether a `%` begins an escape is the same before and after encoding. -/
theorem startsWithDigits_flatMap (cs : List Char) :
    startsWithDigits (cs.flatMap (encodeChar set)) = startsWithDigits cs := by
  unfold startsWithDigits
  rw [startsWithDigit_flatMap hset]
  cases cs with
  | nil => rfl
  | cons c rest =>
    cases hc : (Numeral.hexDigit? c).isSome with
    | true =>
      rw [List.flatMap_cons, encodeChar_of_digit hset hc]
      exact congrArg _ (startsWithDigit_flatMap hset rest)
    | false =>
      have hfirst : startsWithDigit (c :: rest) = false := hc
      rw [hfirst]
      rfl

/-- Encoding does not change what a text is decoded to. -/
theorem percentDecode_percentEncode (cs : List Char) :
    percentDecode (percentEncode set cs).toList = percentDecode cs := by
  rw [toList_percentEncode]
  have hmark : encodeChar set '%' = ['%'] := by
    rw [encodeChar_of_ascii set (by decide), hset.mark]
    rfl
  induction cs using escapeInduction with
  | nil => rfl
  | escape a b rest high low ha hb ih =>
    have ha' := encodeChar_of_digit hset (c := a) (by rw [ha]; rfl)
    have hb' := encodeChar_of_digit hset (c := b) (by rw [hb]; rfl)
    simp only [List.flatMap_cons, hmark, ha', hb', List.singleton_append]
    rw [percentDecode_escape ha hb, percentDecode_escape ha hb, ih]
  | plain c rest hc ih =>
    rw [List.flatMap_cons, percentDecode_cons hc, ← ih]
    by_cases hpercent : c = '%'
    · subst hpercent
      rw [hmark, List.singleton_append]
      refine percentDecode_cons ?_
      rw [startsWithDigits_flatMap hset]
      exact hc
    · exact percentDecode_encodeBytes set (not_mem_utf8EncodeChar hpercent) _

end

/-- The text of a path keeps its escapes. -/
theorem keepsEscapes_pathSet : pathSet.KeepsEscapes where
  mark := by decide
  digit c h := by
    have hall : ∀ n < 0x80, (Numeral.hexDigit? (Char.ofNat n)).isSome = true →
        pathSet n = false := by decide
    have hcode := hall c.toNat (ascii_of_hexDigit? h)
    rw [Char.ofNat_toNat] at hcode
    exact hcode h

end ServiceLocator.Url
