import ServiceLocator.Json.Skip
import ServiceLocator.Proofs.Text.Utf8

/-!
Scalars passed over. What is read as a number or a string is passed over, and ends at the same
byte (`Json.Skip.number_eq_ok`, `Json.Skip.string_eq_ok`): digits are passed over whether they fit
or not, and characters byte by byte. Whatever is passed over makes the text shorter.
-/
namespace ServiceLocator.Json

variable {rest after tail : Bytes} {n : Number}

/-! ## Numbers -/

theorem dropWhile_significandDigits (m count : Nat) (rest : Bytes) :
    (significandDigits m count rest).2.2.dropWhile isDigit = rest.dropWhile isDigit := by
  fun_induction significandDigits m count rest with
  | case1 m count b rest h ih =>
    rw [Bool.and_eq_true] at h
    rw [ih, List.dropWhile_cons, h.1]
    rfl
  | case2 => rfl
  | case3 => rfl

theorem dropWhile_exponentDigits (e : Nat) (rest : Bytes) :
    (exponentDigits e rest).2.dropWhile isDigit = rest.dropWhile isDigit := by
  fun_induction exponentDigits e rest with
  | case1 e b rest hdigit _ ih =>
    rw [ih, List.dropWhile_cons, hdigit]
    rfl
  | case2 e b rest hdigit _ =>
    rw [List.dropWhile_cons, hdigit]
    rfl
  | case3 => rfl
  | case4 => rfl

/-- An exponent that does not grow too large is read to its end. -/
theorem exponentDigits_eq_some {e e' : Nat} (h : exponentDigits e rest = (some e', after)) :
    after = rest.dropWhile isDigit := by
  fun_induction exponentDigits e rest with
  | case1 e b rest hdigit _ ih =>
    rw [List.dropWhile_cons, hdigit]
    exact ih h
  | case2 e b rest hdigit _ => cases h
  | case3 e b rest hdigit =>
    cases h
    rw [List.dropWhile_cons, if_neg hdigit]
  | case4 =>
    cases h
    rfl

theorem real_eq_ok {positive : Bool} {significand : Nat} {k : Int}
    (h : real positive significand k rest = .ok (n, after)) : after = rest := by
  unfold real at h
  split at h
  · cases h
    rfl
  · cases h

/-- The bytes after a sign, if there is one. -/
def pastSign : Bytes → Bytes
  | b :: rest => if b = 0x2B ∨ b = 0x2D then rest else b :: rest
  | [] => []

/-- An exponent that was read is digits after a sign, all of them. -/
theorem exponent_eq_ok {positive : Bool} {significand : Nat} {k : Int}
    (h : exponent positive significand k rest = .ok (n, after)) :
    ∃ b digits, pastSign rest = b :: digits ∧ isDigit b = true ∧
      after = digits.dropWhile isDigit := by
  unfold exponent at h
  split at h
  rename_i up unsigned hsign
  have hunsigned : unsigned = pastSign rest := by
    split at hsign
    · split_ifs at hsign with hplus hminus <;> cases hsign <;> simp [pastSign, *]
    · cases hsign
      rfl
  subst hunsigned
  split at h
  · cases h
  · rename_i b digits hdigits
    split at h
    · rename_i hb
      refine ⟨b, digits, hdigits, hb, ?_⟩
      split at h
      · rename_i e more hread
        rw [real_eq_ok h, exponentDigits_eq_some hread]
      · rename_i more hread
        have hmore := dropWhile_exponentDigits (digit b) digits
        rw [hread] at hmore
        split at h
        · cases h
        · rw [real_eq_ok h, ← hmore]
    · cases h

namespace Skip

theorem exponent_eq (rest : Bytes) : exponent rest = match pastSign rest with
    | [] => .error (.here .invalidNumber [])
    | b :: after =>
      if isDigit b then .ok (after.dropWhile isDigit) else .error (.here .invalidNumber after) := by
  cases rest <;> rfl

theorem exponent_eq_ok {positive : Bool} {significand : Nat} {k : Int}
    (h : Json.exponent positive significand k rest = .ok (n, after)) :
    exponent rest = .ok after := by
  obtain ⟨b, digits, hdigits, hb, rfl⟩ := Json.exponent_eq_ok h
  rw [exponent_eq, hdigits]
  exact if_pos hb

/-- Digits after a point are passed over with what may follow them. -/
theorem afterDigits_fraction {positive : Bool} {significand : Nat} {k : Int}
    (h : fraction positive significand k rest = .ok (n, after)) :
    afterDigits (0x2E :: rest) = .ok after := by
  unfold fraction at h
  split at h
  · rename_i hdigit
    have hmore := dropWhile_significandDigits significand 0 rest
    rw [afterDigits, if_neg (by decide), if_pos rfl, if_pos hdigit, ← hmore]
    split at h
    rename_i m count digits hread
    rw [hread]
    unfold afterFraction at h
    split at h
    · rename_i b later hlater
      rw [hlater]
      split at h
      · rename_i he
        exact (if_pos he).trans (exponent_eq_ok h)
      · rename_i he
        rw [real_eq_ok h, hlater]
        exact if_neg he
    · rename_i hlater
      rw [hlater, real_eq_ok h]
  · cases h

theorem afterDigits_eq_ok {positive : Bool} {significand dropped : Nat}
    (h : afterWhole positive significand dropped rest = .ok (n, after)) :
    afterDigits rest = .ok after := by
  unfold afterWhole at h
  have hwhole : ∀ {rest : Bytes}, (if dropped = 0 then
      if positive then .ok (.integer significand, rest)
      else if significand ≠ 0 ∧ significand ≤ 1 <<< 63 then .ok (.integer (-significand), rest)
      else real false significand 0 rest
    else real positive significand dropped rest : Reading Number) = .ok (n, after) →
      after = rest := by
    intro rest h
    split_ifs at h
    · cases h
      rfl
    · cases h
      rfl
    · exact real_eq_ok h
    · exact real_eq_ok h
  dsimp only at h
  split at h
  · rename_i b later
    split at h
    · rename_i hpoint
      subst hpoint
      exact afterDigits_fraction h
    · rename_i hpoint
      split at h
      · rename_i he
        exact (if_pos he).trans (exponent_eq_ok h)
      · rename_i he
        rw [hwhole h, afterDigits, if_neg he, if_neg hpoint]
  · rw [hwhole h]
    rfl

/-- A number that was read is passed over. -/
theorem number_eq_ok {positive : Bool} (h : Json.number positive rest = .ok (n, after)) :
    number rest = .ok after := by
  unfold Json.number at h
  split at h
  · cases h
  · rename_i b digits
    rw [number]
    split at h
    · rename_i hzero
      rw [if_pos hzero]
      split at h
      · cases h
      · rename_i hdigit
        rw [if_neg hdigit]
        exact afterDigits_eq_ok h
    · rename_i hzero
      rw [if_neg hzero]
      split at h
      · rename_i hdigit
        rw [if_pos hdigit, ← dropWhile_significandDigits (digit b) 0 digits]
        exact afterDigits_eq_ok h
      · cases h

/-! ## Strings -/

theorem string_plain {b : UInt8} (hquote : b ≠ 0x22) (hbackslash : b ≠ 0x5C) (hcontrol : ¬b < 0x20)
    (rest : Bytes) : string 0 (b :: rest) = string 0 rest := by
  rw [string.eq_def]
  simp only [if_neg hquote, if_neg hbackslash, if_neg hcontrol]

/-- What is no byte of ASCII is passed over. -/
theorem string_of_le {b : UInt8} (h : 0x80 ≤ b) (rest : Bytes) :
    string 0 (b :: rest) = string 0 rest := by
  have hquote : b ≠ 0x22 := by
    rintro rfl
    exact absurd h (by decide)
  have hbackslash : b ≠ 0x5C := by
    rintro rfl
    exact absurd h (by decide)
  exact string_plain hquote hbackslash (UInt8.not_lt.mpr (UInt8.le_trans (by decide) h)) rest

theorem string_append {read : Bytes} (h : ∀ x ∈ read, 0x80 ≤ x) (rest : Bytes) :
    string 0 (read ++ rest) = string 0 rest := by
  induction read with
  | nil => rfl
  | cons x read ih =>
    rw [List.cons_append, string_of_le (h x List.mem_cons_self),
      ih fun y hy => h y (List.mem_cons_of_mem _ hy)]

/-- The bytes of an escape are passed over unseen. -/
theorem string_drop (skip : Nat) {read : Bytes} (h : read.length = skip) (rest : Bytes) :
    string skip (read ++ rest) = string 0 rest := by
  induction read generalizing skip with
  | nil =>
    subst h
    rfl
  | cons x read ih =>
    subst h
    exact ih read.length rfl

theorem hexEscape_eq_ok {code : Nat} (h : hexEscape rest = .ok (code, after)) :
    ∃ read, read.length = 4 ∧ rest = read ++ after := by
  unfold hexEscape at h
  split at h
  · rename_i a b c d rest
    split at h
    · cases h
      exact ⟨[a, b, c, d], rfl, rfl⟩
    · cases h
  · cases h

/-- Four digits after their `\u` are passed over. -/
theorem string_hexEscape {code : Nat} (h : hexEscape rest = .ok (code, after)) :
    string 0 (0x5C :: 0x75 :: rest) = string 0 after := by
  obtain ⟨read, hlength, rfl⟩ := hexEscape_eq_ok h
  have hunseen : string 5 (0x75 :: read ++ after) = string 0 after :=
    string_drop 5 (by rw [List.length_cons, hlength]) after
  rw [string]
  simp only [h]
  exact hunseen

theorem string_lowSurrogate {high : Nat} {c : Char} (h : lowSurrogate high rest = .ok (c, after)) :
    string 0 rest = string 0 after := by
  unfold lowSurrogate at h
  split at h
  · cases h
  · cases h
  · rename_i b u rest
    split at h
    · cases h
    · rename_i hbackslash
      split at h
      · cases h
      · rename_i hu
        split at h
        · cases h
        · rename_i low rest' hlow
          split at h
          · simp only [Except.ok.injEq, Prod.mk.injEq] at h
            obtain ⟨-, rfl⟩ := h
            rw [not_not.mp hbackslash, not_not.mp hu, string_hexEscape hlow]
          · cases h

/-- A code point of two halves is passed over as two escapes. -/
theorem string_unicodeEscape {c : Char} (h : unicodeEscape rest = .ok (c, after)) :
    string 0 (0x5C :: 0x75 :: rest) = string 0 after := by
  unfold unicodeEscape at h
  split at h
  · cases h
  · rename_i code rest' hcode
    rw [string_hexEscape hcode]
    split at h
    · cases h
    · split at h
      · exact string_lowSurrogate h
      · cases h
        rfl

theorem string_escaped {c : Char} (h : escaped rest = .ok (c, after)) :
    string 0 (0x5C :: rest) = string 0 after := by
  unfold escaped at h
  split at h
  · cases h
  · rename_i b rest
    split at h
    · rename_i hu
      rw [hu, string_unicodeEscape h]
    · rename_i hu
      split at h
      · rename_i c' hsimple
        cases h
        rw [string]
        simp only [if_neg hu, hsimple]
        rfl
      · cases h

/-- The characters of a string are passed over byte by byte. -/
theorem string_content {found : Content} (h : content rest = .ok found) :
    string 0 rest = .ok found.rest := by
  induction rest using content.induct generalizing found with
  | case1 =>
    rw [content] at h
    cases h
  | case2 rest =>
    rw [content, if_pos rfl] at h
    cases h
    rfl
  | case3 rest trouble hescape hne =>
    rw [content, if_neg hne, if_pos rfl] at h
    split at h
    · cases h
    · rename_i hescape'
      cases hescape.symm.trans hescape'
  | case4 rest c after hescape hne ih =>
    rw [content, if_neg hne, if_pos rfl] at h
    split at h
    · cases h
    · rename_i hescape'
      cases hescape.symm.trans hescape'
      cases htail : content after with
      | error trouble =>
        rw [htail] at h
        cases h
      | ok tail =>
        rw [htail] at h
        cases h
        rw [string_escaped hescape, ih htail]
  | case5 b rest hquote hbackslash hcontrol =>
    rw [content, if_neg hquote, if_neg hbackslash, if_pos hcontrol] at h
    cases h
  | case6 b rest hquote hbackslash hcontrol ih =>
    rw [content, if_neg hquote, if_neg hbackslash, if_neg hcontrol] at h
    obtain ⟨read, hread, hhigh⟩ := Utf8.exists_next_append b rest
    cases htail : content (Utf8.next b rest).2 with
    | error trouble =>
      rw [htail] at h
      cases h
    | ok tail =>
      rw [htail] at h
      have hrest : tail.rest = found.rest := by
        cases hc : (Utf8.next b rest).1 <;> rw [hc] at h <;> cases h <;> rfl
      have hskip : string 0 rest = string 0 (Utf8.next b rest).2 := by
        conv_lhs => rw [hread]
        exact string_append hhigh _
      rw [string_plain hquote hbackslash hcontrol, hskip, ih htail, hrest]

/-- A string that was read is passed over. -/
theorem string_eq_ok {s : String} (h : Json.string rest = .ok (s, after)) :
    string 0 rest = .ok after := by
  unfold Json.string at h
  cases hfound : content rest with
  | error trouble =>
    rw [hfound] at h
    cases h
  | ok found =>
    rw [hfound] at h
    have hrest : found.rest = after := by
      cases hbroken : found.broken with
      | some left =>
        simp [Bind.bind, Except.bind, hbroken, throw, throwThe, MonadExceptOf.throw] at h
      | none =>
        simp only [Bind.bind, Except.bind, hbroken] at h
        cases h
        rfl
    rw [string_content hfound, hrest]

/-! ## Lengths -/

theorem length_dropWhile_le (p : UInt8 → Bool) (rest : Bytes) :
    (rest.dropWhile p).length ≤ rest.length :=
  (List.dropWhile_sublist p).length_le

theorem length_word_le {expected : Bytes} (h : word expected rest = .ok after) :
    after.length ≤ rest.length := by
  fun_induction word expected rest with
  | case1 rest =>
    cases h
    exact Nat.le_refl _
  | case2 => cases h
  | case3 e expected rest ih => exact Nat.le_succ_of_le (ih h)
  | case4 => cases h

theorem length_exponent_le (h : exponent rest = .ok after) : after.length ≤ rest.length := by
  have hsign : (pastSign rest).length ≤ rest.length := by
    cases rest with
    | nil => exact Nat.le_refl _
    | cons b rest =>
      rw [pastSign]
      split_ifs
      · exact Nat.le_succ _
      · exact Nat.le_refl _
  rw [exponent_eq] at h
  split at h
  · cases h
  · rename_i b digits hdigits
    split_ifs at h
    cases h
    rw [hdigits] at hsign
    exact Nat.le_trans (Nat.le_succ_of_le (length_dropWhile_le _ digits)) hsign

theorem length_afterDigits_le (h : afterDigits rest = .ok after) :
    after.length ≤ rest.length := by
  unfold afterDigits at h
  split at h
  · cases h
    exact Nat.le_refl _
  · rename_i b later
    split_ifs at h
    · exact Nat.le_succ_of_le (length_exponent_le h)
    · have hmore := length_dropWhile_le isDigit later
      split at h
      · cases h
        exact Nat.zero_le _
      · rename_i c last hlast
        rw [hlast] at hmore
        split_ifs at h
        · have hexponent := length_exponent_le h
          simp only [List.length_cons] at hmore ⊢
          omega
        · cases h
          exact Nat.le_succ_of_le hmore
    · cases h
      exact Nat.le_refl _

theorem length_number_lt (h : number rest = .ok after) : after.length < rest.length := by
  unfold number at h
  split at h
  · cases h
  · rename_i b digits
    split_ifs at h
    · exact Nat.lt_succ_of_le (length_afterDigits_le h)
    · exact Nat.lt_succ_of_le
        (Nat.le_trans (length_afterDigits_le h) (length_dropWhile_le isDigit digits))

theorem length_string_lt {skip : Nat} (h : string skip rest = .ok after) :
    after.length < rest.length := by
  induction rest generalizing skip with
  | nil => cases h
  | cons b rest ih =>
    have hrest : ∀ {skip}, string skip rest = .ok after → after.length < (b :: rest).length :=
      fun h => Nat.lt_succ_of_lt (ih h)
    rw [string.eq_def] at h
    cases skip with
    | succ skip => exact hrest h
    | zero =>
      dsimp only at h
      split_ifs at h
      · cases h
        exact Nat.lt_succ_self _
      · split at h
        · cases h
        · split_ifs at h
          · split at h
            · cases h
            · exact hrest h
          · exact hrest h
      · exact hrest h

end Skip

end ServiceLocator.Json
