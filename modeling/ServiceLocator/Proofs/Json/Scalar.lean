import ServiceLocator.Json.Reader
import ServiceLocator.Proofs.Text.Numeral
import ServiceLocator.Proofs.Text.Utf8

/-!
Scalars read back. What is written for an integer or a string is read as the integer or the
string, and the reader stops where it ends.
-/
namespace ServiceLocator.Json

open Utf8 (bytes bytes_cons bytes_append bytes_singleton)

/-! ## Numbers -/

/-- What comes next does not belong to a number. -/
def EndsNumber (rest : Bytes) : Prop :=
  ∀ b ∈ rest.head?, isDigit b = false ∧ b ≠ 0x2E ∧ b ≠ 0x65 ∧ b ≠ 0x45

theorem EndsNumber.nil : EndsNumber [] := by
  rintro b ⟨⟩

theorem EndsNumber.cons {b : UInt8} (h : isDigit b = false ∧ b ≠ 0x2E ∧ b ≠ 0x65 ∧ b ≠ 0x45)
    (rest : Bytes) : EndsNumber (b :: rest) := by
  rintro _ ⟨⟩
  exact h

variable {n : Nat} {rest : Bytes}

theorem EndsNumber.any_isDigit (h : EndsNumber rest) : rest.head?.any isDigit = false := by
  cases rest with
  | nil => rfl
  | cons b rest => exact (h b rfl).1

theorem EndsNumber.dropWhile_isDigit (h : EndsNumber rest) : rest.dropWhile isDigit = rest := by
  cases rest with
  | nil => rfl
  | cons b rest =>
    rw [List.dropWhile_cons, (h b rfl).1]
    rfl

theorem bytes_digit {k : Nat} (hk : k < 10) :
    bytes [Char.ofNat (k + 48)] = [UInt8.ofNat (k + 48)] := by
  have hall : ∀ k < 10, bytes [Char.ofNat (k + 48)] = [UInt8.ofNat (k + 48)] := by decide
  exact hall k hk

theorem isDigit_ofNat {k : Nat} (hk : k < 10) : isDigit (UInt8.ofNat (k + 48)) = true := by
  have hall : ∀ k < 10, isDigit (UInt8.ofNat (k + 48)) = true := by decide
  exact hall k hk

theorem digit_ofNat {k : Nat} (hk : k < 10) : digit (UInt8.ofNat (k + 48)) = k := by
  have hall : ∀ k < 10, digit (UInt8.ofNat (k + 48)) = k := by decide
  exact hall k hk

/-- A digit is read onto a significand if it fits. -/
theorem significandDigits_digit {k : Nat} (hk : k < 10) {m : Nat} (h : m * 10 + k ≤ maxSignificand)
    (count : Nat) :
    significandDigits m count (UInt8.ofNat (k + 48) :: rest) =
      significandDigits (m * 10 + k) (count + 1) rest := by
  rw [significandDigits, isDigit_ofNat hk, digit_ofNat hk, Bool.true_and, if_pos (decide_eq_true h)]

theorem significandDigits_of_endsNumber (h : EndsNumber rest) (m count : Nat) :
    significandDigits m count rest = (m, count, rest) := by
  cases rest with
  | nil => rfl
  | cons b rest =>
    rw [significandDigits, (h b rfl).1]
    rfl

theorem significandDigits_decimal (hn : n ≤ maxSignificand) (rest : Bytes) :
    significandDigits 0 0 (bytes (Numeral.decimal n) ++ rest) =
      significandDigits n (Numeral.decimal n).length rest := by
  induction n using Numeral.decimal.induct generalizing rest with
  | case1 n hlt =>
    rw [Numeral.decimal, if_pos hlt, bytes_digit hlt, List.singleton_append]
    rw [significandDigits_digit hlt]
    · simp
    · simpa using hn
  | case2 n hge ih =>
    -- The last digit is read last, onto the value of the digits before it.
    have hlast : n % 10 < 10 := Nat.mod_lt _ (by decide)
    have hsplit : n / 10 * 10 + n % 10 = n := by omega
    rw [Numeral.decimal, if_neg hge, bytes_append, bytes_digit hlast, List.append_assoc,
      List.singleton_append, ih (by omega), significandDigits_digit hlast (by omega), hsplit]
    simp

theorem exists_decimal_cons (n : Nat) :
    ∃ k ds, k < 10 ∧ Numeral.decimal n = Char.ofNat (k + 48) :: ds ∧ (k = 0 → n = 0) := by
  induction n using Numeral.decimal.induct with
  | case1 n hlt =>
    exact ⟨n, [], hlt, by rw [Numeral.decimal, if_pos hlt], id⟩
  | case2 n hge ih =>
    obtain ⟨k, ds, hk, hds, hzero⟩ := ih
    refine ⟨k, ds ++ [Char.ofNat (n % 10 + 48)], hk, ?_, fun h => ?_⟩
    · rw [Numeral.decimal, if_neg hge, hds, List.cons_append]
    · have := hzero h
      omega

/-- The digits that were read before only count. -/
theorem significandDigits_succ (m count : Nat) (rest : Bytes) :
    significandDigits m (count + 1) rest =
      ((significandDigits m count rest).1, (significandDigits m count rest).2.1 + 1,
        (significandDigits m count rest).2.2) := by
  induction rest generalizing m count with
  | nil => rfl
  | cons b rest ih =>
    rw [significandDigits, significandDigits]
    split
    · exact ih _ _
    · rfl

/-- A number that fits is read to its end. -/
theorem number_decimal (hn : n ≤ maxSignificand) (hrest : EndsNumber rest) (positive : Bool) :
    number positive (bytes (Numeral.decimal n) ++ rest) = afterWhole positive n 0 rest := by
  obtain ⟨k, ds, hk, hds, hzero⟩ := exists_decimal_cons n
  have hbytes : bytes (Numeral.decimal n) ++ rest =
      UInt8.ofNat (k + 48) :: (bytes ds ++ rest) := by
    rw [hds, ← List.singleton_append, bytes_append, bytes_digit hk]
    rfl
  by_cases hk0 : k = 0
  · -- A zero in front is the whole number.
    have hn0 : n = 0 := hzero hk0
    have hzero : bytes (Numeral.decimal n) = [0x30] := by
      rw [hn0, Numeral.decimal]
      rfl
    rw [hzero, List.singleton_append, number, if_pos rfl, hrest.any_isDigit, hn0]
    rfl
  · have hnonzero : UInt8.ofNat (k + 48) ≠ 0x30 := by
      have hall : ∀ k < 10, k ≠ 0 → UInt8.ofNat (k + 48) ≠ 0x30 := by decide
      exact hall k hk hk0
    have hfits : 0 * 10 + k ≤ maxSignificand := by
      rw [maxSignificand]
      omega
    obtain ⟨count, hdigits⟩ :
        ∃ count, significandDigits k 0 (bytes ds ++ rest) = (n, count, rest) := by
      have hread := significandDigits_decimal hn rest
      rw [hbytes, significandDigits_digit hk hfits, significandDigits_succ,
        significandDigits_of_endsNumber hrest, Nat.zero_mul, Nat.zero_add] at hread
      exact ⟨_, Prod.ext (congrArg (·.1) hread) (Prod.ext rfl (congrArg (·.2.2) hread))⟩
    rw [hbytes, number, if_neg hnonzero, if_pos (isDigit_ofNat hk), digit_ofNat hk, hdigits]
    simp only [hrest.dropWhile_isDigit, Nat.sub_self]

theorem afterWhole_of_endsNumber (hrest : EndsNumber rest) (positive : Bool) (n : Nat) :
    afterWhole positive n 0 rest =
      if positive then .ok (.integer n, rest)
      else if n ≠ 0 ∧ n ≤ 1 <<< 63 then .ok (.integer (-n), rest)
      else real false n 0 rest := by
  cases rest with
  | nil => rfl
  | cons b rest =>
    obtain ⟨_, hpoint, he, hE⟩ := hrest b rfl
    unfold afterWhole
    simp only [if_neg hpoint, if_neg (not_or.mpr ⟨he, hE⟩), if_true]

theorem exists_bytes_decimal (n : Nat) :
    ∃ k more, k < 10 ∧ bytes (Numeral.decimal n) = UInt8.ofNat (k + 48) :: more := by
  obtain ⟨k, ds, hk, hds, -⟩ := exists_decimal_cons n
  refine ⟨k, bytes ds, hk, ?_⟩
  rw [hds, ← List.singleton_append, bytes_append, bytes_digit hk]
  rfl

/-- A number without a sign. -/
theorem number_natural (hn : n ≤ maxSignificand) (hrest : EndsNumber rest) :
    number true (bytes (Numeral.decimal n) ++ rest) = .ok (.integer n, rest) := by
  rw [number_decimal hn hrest, afterWhole_of_endsNumber hrest, if_pos rfl]

/-- A number after a minus sign. -/
theorem number_negative (hpos : 0 < n) (hn : n ≤ 0x8000000000000000) (hrest : EndsNumber rest) :
    number false (bytes (Numeral.decimal n) ++ rest) = .ok (.integer (-n), rest) := by
  have hfits : n ≤ maxSignificand := Nat.le_trans hn (by decide)
  rw [number_decimal hfits hrest, afterWhole_of_endsNumber hrest, if_neg Bool.false_ne_true,
    if_pos ⟨Nat.pos_iff_ne_zero.mp hpos, hn⟩]

/-! ## Strings -/

/-- The character in front of what is left of a string. -/
def Content.push (c : Char) (found : Content) : Content := { found with chars := c :: found.chars }

theorem content_quote (rest : Bytes) : content (0x22 :: rest) = .ok ⟨[], none, rest⟩ := by
  rw [content, if_pos rfl]

theorem content_of_escaped {c : Char} {rest after : Bytes} (h : escaped rest = .ok (c, after)) :
    content (0x5C :: rest) = (content after).map (Content.push c) := by
  rw [content, if_neg (by decide), if_pos rfl]
  split
  · rename_i trouble h'
    cases h.symm.trans h'
  · rename_i c' after' h'
    cases h.symm.trans h'
    cases content after <;> rfl

theorem content_of_next {b : UInt8} {c : Char} {rest after : Bytes} (hquote : b ≠ 0x22)
    (hescape : b ≠ 0x5C) (hcontrol : ¬b < 0x20) (h : Utf8.next b rest = (some c, after)) :
    content (b :: rest) = (content after).map (Content.push c) := by
  rw [content, if_neg hquote, if_neg hescape, if_neg hcontrol, h]
  cases content after <;> rfl

/-- A character below the space, by the code that is written for it. -/
theorem unicodeEscape_control {v : Nat} (hv : v < 0x20) (rest : Bytes) :
    unicodeEscape (bytes ['0', '0', Numeral.hexChar (v / 16), Numeral.hexChar (v % 16)] ++ rest) =
      .ok (Char.ofNat v, rest) := by
  have hall : ∀ v < 0x20,
      bytes ['0', '0', Numeral.hexChar (v / 16), Numeral.hexChar (v % 16)] =
        [0x30, 0x30, UInt8.ofNat (Numeral.hexChar (v / 16)).toNat,
          UInt8.ofNat (Numeral.hexChar (v % 16)).toNat] ∧
      hexDigit? (UInt8.ofNat (Numeral.hexChar (v / 16)).toNat) = some (v / 16) ∧
      hexDigit? (UInt8.ofNat (Numeral.hexChar (v % 16)).toNat) = some (v % 16) ∧
      isLowSurrogate v = false ∧ isHighSurrogate v = false := by decide
  obtain ⟨hbytes, hhigh, hlow, hnotLow, hnotHigh⟩ := hall v hv
  have hzero : hexDigit? 0x30 = some 0 := by decide
  have hvalue : ((0 * 16 + 0) * 16 + v / 16) * 16 + v % 16 = v := by omega
  have hhex : hexEscape (bytes ['0', '0', Numeral.hexChar (v / 16), Numeral.hexChar (v % 16)] ++
      rest) = .ok (v, rest) := by
    rw [hbytes]
    simp only [List.cons_append, List.nil_append, hexEscape, hzero, hhigh, hlow, hvalue]
  rw [unicodeEscape, hhex]
  simp only [hnotLow, hnotHigh, Bool.false_eq_true, if_false]

/-- What is written for a character is read as the character. -/
theorem content_escape (c : Char) (rest : Bytes) :
    content (bytes (escape c) ++ rest) = (content rest).map (Content.push c) := by
  unfold escape
  -- Seven characters have a letter of their own.
  iterate 7
    split
    · rename_i h
      subst h
      exact content_of_escaped rfl
  split
  · rename_i hcontrol
    have hread := unicodeEscape_control hcontrol rest
    rw [c.ofNat_toNat] at hread
    exact content_of_escaped hread
  · rename_i hquote hescape _ _ _ _ _ hcontrol
    obtain ⟨b, more, hbytes, hnext⟩ := Utf8.next_utf8EncodeChar c rest
    have hcode := Utf8.toNat_eq_or_le_of_utf8EncodeChar hbytes
    have hne : ∀ mark : Char, c ≠ mark → mark.toNat < 0x80 → b ≠ UInt8.ofNat mark.toNat := by
      rintro mark hmark hascii rfl
      have hmark' : mark.toNat ≠ c.toNat := fun h => hmark (Char.toNat_inj.mp h.symm)
      rw [Utf8.toNat_ofNat_of_lt (by omega), UInt8.le_iff_toNat_le,
        Utf8.toNat_ofNat_of_lt (by omega)] at hcode
      exact hcode.elim hmark' (Nat.not_le_of_lt hascii)
    have hnotControl : ¬b < 0x20 := by
      rw [UInt8.lt_iff_toNat_lt]
      rcases hcode with hcode | hcode
      · rw [hcode]
        exact hcontrol
      · exact Nat.not_lt_of_le (Nat.le_trans (by decide) (UInt8.le_iff_toNat_le.mp hcode))
    rw [bytes_singleton, hbytes]
    exact content_of_next (hne '"' hquote (by decide)) (hne '\\' hescape (by decide)) hnotControl
      hnext

theorem content_flatMap_escape (cs : List Char) (rest : Bytes) :
    content (bytes (cs.flatMap escape) ++ 0x22 :: rest) = .ok ⟨cs, none, rest⟩ := by
  induction cs with
  | nil => exact content_quote rest
  | cons c cs ih =>
    rw [List.flatMap_cons, bytes_append, List.append_assoc, content_escape, ih]
    rfl

/-- A string is read back after its opening quote. -/
theorem string_quoted (s : String) :
    ∃ more, bytes (quoted s) = 0x22 :: more ∧ ∀ rest, string (more ++ rest) = .ok (s, rest) := by
  refine ⟨bytes (s.toList.flatMap escape) ++ [0x22], ?_, fun rest => ?_⟩
  · rw [quoted, bytes_cons, bytes_append]
    rfl
  · rw [List.append_assoc, List.singleton_append, string, content_flatMap_escape]
    show Except.ok (String.ofList s.toList, rest) = _
    rw [String.ofList_toList]

end ServiceLocator.Json
