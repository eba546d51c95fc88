import ServiceLocator.Proofs.Text.Utf8
import ServiceLocator.Text.Base64

/-!
Base64 read back. A text is read as some bytes exactly if it is what is written for them
(`Base64.decode?_eq_some_iff`), so no two texts are read as the same bytes, and no two runs of
bytes are written as the same text.
-/
namespace ServiceLocator.Base64

open Utf8 (toNat_ofNat_of_lt)

/-! ## Digits -/

example : (List.range 64).map digit =
    "ABCDEFGHIJKLMNOPQRSTUVWXYZabcdefghijklmnopqrstuvwxyz0123456789+/".toList := by decide

theorem value?_digit {n : Nat} (hn : n < 64) : value? (digit n) = some n := by
  have hall : ∀ n < 64, value? (digit n) = some n := by decide
  exact hall n hn

theorem digit_ne_pad {n : Nat} (hn : n < 64) : digit n ≠ '=' := by
  have hall : ∀ n < 64, digit n ≠ '=' := by decide
  exact hall n hn

/-- A character with a value is the digit of it. -/
theorem value?_eq_some {c : Char} {n : Nat} (h : value? c = some n) : n < 64 ∧ digit n = c := by
  have hascii : c.toNat < 128 := by
    unfold value? at h
    split_ifs at h with hupper hlower hdecimal hplus hslash
    · exact Nat.lt_of_le_of_lt hupper.2 (by decide)
    · exact Nat.lt_of_le_of_lt hlower.2 (by decide)
    · exact Nat.lt_of_le_of_lt hdecimal.2 (by decide)
    · subst hplus
      decide
    · subst hslash
      decide
  have hall : ∀ code < 128, ∀ n ∈ value? (Char.ofNat code), n < 64 ∧ digit n = Char.ofNat code := by
    decide
  have hcode := hall c.toNat hascii
  rw [c.ofNat_toNat] at hcode
  exact hcode n h

/-! ## Groups -/

theorem ofNat_eq_of_toNat {a : UInt8} {n : Nat} (h : n = a.toNat) : UInt8.ofNat n = a := by
  rw [h, UInt8.ofNat_toNat]

/-- Four digits that are not padded are read as three bytes. -/
theorem decodeChars?_group {p q r s : Nat} (hp : p < 64) (hq : q < 64) (hr : r < 64) (hs : s < 64)
    (rest : List Char) :
    decodeChars? (digit p :: digit q :: digit r :: digit s :: rest) =
      (decodeChars? rest).map (quad p q r s ++ ·) := by
  have hpad : digit s ≠ '=' := digit_ne_pad hs
  rw [decodeChars?, value?_digit hp, value?_digit hq, value?_digit hr, value?_digit hs]
  · cases decodeChars? rest <;> rfl
  · simp [hpad]
  · simp [hpad]

/-- The digits of three bytes are read as the bytes. -/
theorem quad_digits (a b c : UInt8) :
    quad (a.toNat / 4) (a.toNat % 4 * 16 + b.toNat / 16) (b.toNat % 16 * 4 + c.toNat / 64)
      (c.toNat % 64) = [a, b, c] := by
  have hb := b.toNat_lt
  have hc := c.toNat_lt
  rw [quad, ofNat_eq_of_toNat (a := a) (by omega), ofNat_eq_of_toNat (a := b) (by omega),
    ofNat_eq_of_toNat (a := c) (by omega)]

/-! ## Texts -/

/-- What is written is read back. -/
theorem decodeChars?_encodeChars (bytes : Bytes) :
    decodeChars? (encodeChars bytes) = some bytes := by
  fun_induction encodeChars bytes with
  | case1 => rfl
  | case2 a =>
    have ha := a.toNat_lt
    have hspare : a.toNat % 4 * 16 % 16 = 0 := by omega
    have hbytes : quad (a.toNat / 4) (a.toNat % 4 * 16) 0 0 = [a, 0, 0] := quad_digits a 0 0
    rw [decodeChars?, value?_digit (by omega), value?_digit (by omega)]
    show (if a.toNat % 4 * 16 % 16 = 0 then _ else none) = some [a]
    rw [if_pos hspare, hbytes]
    rfl
  | case3 a b =>
    have ha := a.toNat_lt
    have hb := b.toNat_lt
    have hspare : b.toNat % 16 * 4 % 4 = 0 := by omega
    have hpad : digit (b.toNat % 16 * 4) ≠ '=' := digit_ne_pad (by omega)
    have hbytes : quad (a.toNat / 4) (a.toNat % 4 * 16 + b.toNat / 16) (b.toNat % 16 * 4) 0 =
        [a, b, 0] := quad_digits a b 0
    rw [decodeChars?, value?_digit (by omega), value?_digit (by omega), value?_digit (by omega)]
    · show (if b.toNat % 16 * 4 % 4 = 0 then _ else none) = some [a, b]
      rw [if_pos hspare, hbytes]
      rfl
    · exact hpad
  | case4 a b c rest ih =>
    have ha := a.toNat_lt
    have hb := b.toNat_lt
    have hc := c.toNat_lt
    rw [decodeChars?_group (by omega) (by omega) (by omega) (by omega), ih, quad_digits]
    rfl

/-- The digits of three bytes, from the digits that they are read from. -/
theorem encodeChars_quad {p q r s : Nat} (hp : p < 64) (hq : q < 64) (hr : r < 64) (hs : s < 64)
    (rest : Bytes) :
    encodeChars (quad p q r s ++ rest) =
      digit p :: digit q :: digit r :: digit s :: encodeChars rest := by
  have ha : (UInt8.ofNat (p * 4 + q / 16)).toNat = p * 4 + q / 16 := toNat_ofNat_of_lt (by omega)
  have hb : (UInt8.ofNat (q % 16 * 16 + r / 4)).toNat = q % 16 * 16 + r / 4 :=
    toNat_ofNat_of_lt (by omega)
  have hc : (UInt8.ofNat (r % 4 * 64 + s)).toNat = r % 4 * 64 + s := toNat_ofNat_of_lt (by omega)
  have hfirst : (p * 4 + q / 16) / 4 = p := by omega
  have hsecond : (p * 4 + q / 16) % 4 * 16 + (q % 16 * 16 + r / 4) / 16 = q := by omega
  have hthird : (q % 16 * 16 + r / 4) % 16 * 4 + (r % 4 * 64 + s) / 64 = r := by omega
  have hfourth : (r % 4 * 64 + s) % 64 = s := by omega
  simp only [quad, List.cons_append, List.nil_append, encodeChars, ha, hb, hc, hfirst, hsecond,
    hthird, hfourth]

/-- What is read was written. -/
theorem eq_encodeChars {cs : List Char} {bytes : Bytes} (h : decodeChars? cs = some bytes) :
    cs = encodeChars bytes := by
  fun_induction decodeChars? cs generalizing bytes with
  | case1 =>
    cases h
    rfl
  | case2 w x =>
    simp only [Option.bind_eq_bind, Option.bind_eq_some_iff] at h
    obtain ⟨p, hw, q, hx, h⟩ := h
    obtain ⟨hp, rfl⟩ := value?_eq_some hw
    obtain ⟨hq, rfl⟩ := value?_eq_some hx
    split at h
    · rename_i hspare
      cases h
      have hfirst : (p * 4 + q / 16) / 4 = p := by omega
      have hsecond : (p * 4 + q / 16) % 4 * 16 = q := by omega
      simp only [quad, List.take_succ_cons, List.take_zero, encodeChars,
        toNat_ofNat_of_lt (n := p * 4 + q / 16) (by omega), hfirst, hsecond]
    · cases h
  | case3 w x y =>
    simp only [Option.bind_eq_bind, Option.bind_eq_some_iff] at h
    obtain ⟨p, hw, q, hx, r, hy, h⟩ := h
    obtain ⟨hp, rfl⟩ := value?_eq_some hw
    obtain ⟨hq, rfl⟩ := value?_eq_some hx
    obtain ⟨hr, rfl⟩ := value?_eq_some hy
    split at h
    · rename_i hspare
      cases h
      have hfirst : (p * 4 + q / 16) / 4 = p := by omega
      have hsecond : (p * 4 + q / 16) % 4 * 16 + (q % 16 * 16 + r / 4) / 16 = q := by omega
      have hthird : (q % 16 * 16 + r / 4) % 16 * 4 = r := by omega
      simp only [quad, List.take_succ_cons, List.take_zero, encodeChars,
        toNat_ofNat_of_lt (n := p * 4 + q / 16) (by omega),
        toNat_ofNat_of_lt (n := q % 16 * 16 + r / 4) (by omega), hfirst, hsecond, hthird]
    · cases h
  | case4 w x y z rest _ _ ih =>
    simp only [Option.bind_eq_bind, Option.bind_eq_some_iff] at h
    obtain ⟨p, hw, q, hx, r, hy, s, hz, bytes, hrest, h⟩ := h
    obtain ⟨hp, rfl⟩ := value?_eq_some hw
    obtain ⟨hq, rfl⟩ := value?_eq_some hx
    obtain ⟨hr, rfl⟩ := value?_eq_some hy
    obtain ⟨hs, rfl⟩ := value?_eq_some hz
    cases h
    rw [encodeChars_quad hp hq hr hs, ← ih hrest]
  | case5 => cases h

/-- A text is read as bytes exactly if it is what is written for them. -/
theorem decode?_eq_some_iff {s : String} {bytes : Bytes} :
    decode? s = some bytes ↔ s = encode bytes := by
  constructor
  · intro h
    rw [encode, ← eq_encodeChars h, String.ofList_toList]
  · rintro rfl
    rw [decode?, encode, String.toList_ofList, decodeChars?_encodeChars]

theorem encode_inj {bytes bytes' : Bytes} : encode bytes = encode bytes' ↔ bytes = bytes' := by
  constructor
  · intro h
    have hread := decode?_eq_some_iff.mpr h
    rw [decode?_eq_some_iff.mpr rfl] at hread
    exact Option.some.inj hread
  · rintro rfl
    rfl

end ServiceLocator.Base64
