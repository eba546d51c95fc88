import Mathlib.Data.List.Induction
import Mathlib.Data.List.TakeWhile
import Mathlib.Data.Nat.Digits.Defs
import ServiceLocator.Text.Numeral

/-!
Decimal numerals. What is written for a number is made of digits only and is read back as
the number, also where a text goes on after it. Digits are read as the number they denote,
and nothing but digits is read (`Numeral.unsigned?_eq_some`).
-/
namespace ServiceLocator.Numeral

/-- A character that is written for a value below ten. -/
def IsDigit (c : Char) : Prop := ∃ k < 10, c = Char.ofNat (k + 48)

theorem decimalDigit?_digit {k : Nat} (hk : k < 10) :
    decimalDigit? (Char.ofNat (k + 48)) = some k := by
  have hall : ∀ k < 10, decimalDigit? (Char.ofNat (k + 48)) = some k := by decide
  exact hall k hk

theorem IsDigit.ne {c : Char} (hc : IsDigit c) {mark : Char} (hmark : decimalDigit? mark = none) :
    c ≠ mark := by
  rintro rfl
  obtain ⟨k, hk, rfl⟩ := hc
  rw [decimalDigit?_digit hk] at hmark
  cases hmark

/-- One more digit at the end. -/
theorem value?_concat (base : Nat) (digit? : Char → Option Nat) (cs : List Char) (c : Char) :
    value? base digit? (cs ++ [c]) =
      (value? base digit? cs).bind fun n => (digit? c).map (base * n + ·) := by
  rw [value?, List.foldlM_append, value?]
  refine congrArg _ (funext fun n => ?_)
  cases h : digit? c <;> simp [h]

theorem decimal_ne_nil (n : Nat) : decimal n ≠ [] := by
  rw [decimal]
  split
  · exact List.cons_ne_nil _ _
  · exact List.append_ne_nil_of_right_ne_nil _ (List.cons_ne_nil _ _)

theorem isDigit_of_mem_decimal {n : Nat} {c : Char} (h : c ∈ decimal n) : IsDigit c := by
  induction n using decimal.induct with
  | case1 n hn =>
    rw [decimal, if_pos hn, List.mem_singleton] at h
    exact ⟨n, hn, h⟩
  | case2 n hn ih =>
    rw [decimal, if_neg hn, List.mem_append, List.mem_singleton] at h
    rcases h with h | h
    · exact ih h
    · exact ⟨n % 10, Nat.mod_lt _ (by decide), h⟩

/-- What is written for a number is read back. -/
theorem decimal?_decimal (n : Nat) : decimal? (decimal n) = some n := by
  have hvalue : value? 10 decimalDigit? (decimal n) = some n := by
    induction n using decimal.induct with
    | case1 n hn =>
      rw [decimal, if_pos hn]
      show value? 10 decimalDigit? ([] ++ [_]) = some n
      rw [value?_concat, decimalDigit?_digit hn]
      simp [value?]
    | case2 n hn ih =>
      -- The last digit is read last, onto the value of the digits before it.
      have hlast : n % 10 < 10 := Nat.mod_lt _ (by decide)
      rw [decimal, if_neg hn, value?_concat, ih, decimalDigit?_digit hlast]
      have hsplit : 10 * (n / 10) + n % 10 = n := by omega
      simp [hsplit]
  have hne : (decimal n).isEmpty = false := List.isEmpty_eq_false_iff.mpr (decimal_ne_nil n)
  rw [decimal?, hne]
  exact hvalue

/-- No sign is written, so none is read. -/
theorem unsigned?_decimal (n : Nat) : unsigned? (decimal n) = some n := by
  have hread := decimal?_decimal n
  cases h : decimal n with
  | nil => exact absurd h (decimal_ne_nil n)
  | cons c rest =>
    have hc : IsDigit c := isDigit_of_mem_decimal (h ▸ List.mem_cons_self)
    have hplus : c ≠ '+' := hc.ne (by decide)
    rw [h] at hread
    rw [unsigned?]
    · exact hread
    · rintro _ ⟨⟩
      exact hplus rfl

/-- A number is followed by the rest of a text from the first mark that is no digit on. -/
theorem takeWhile_decimal (n : Nat) {mark : Char} (hmark : decimalDigit? mark = none)
    (rest : List Char) : (decimal n ++ mark :: rest).takeWhile (· != mark) = decimal n := by
  have hdigits : ∀ c ∈ decimal n, (c != mark) = true := by
    intro c hc
    have hne := (isDigit_of_mem_decimal hc).ne hmark
    exact bne_iff_ne.mpr hne
  rw [List.takeWhile_append_of_pos hdigits, List.takeWhile_cons, if_neg (by simp), List.append_nil]

/-! ## What is read -/

/-- Digits that denote a number: one at least, the highest first. Zeros in front add nothing. -/
structure Denotes (cs : List Char) (n : Nat) : Prop where
  nonempty : cs ≠ []
  digits : ∀ c ∈ cs, '0' ≤ c ∧ c ≤ '9'
  value : Nat.ofDigits 10 (cs.reverse.map fun c => c.toNat - '0'.toNat) = n

variable {cs : List Char} {n : Nat}

theorem decimalDigit?_eq_some {c : Char} {k : Nat} :
    decimalDigit? c = some k ↔ ('0' ≤ c ∧ c ≤ '9') ∧ c.toNat - '0'.toNat = k := by
  unfold decimalDigit?
  rw [Option.ite_none_right_eq_some, Option.some.injEq]
  rfl

/-- The digits before the last one count ten times. -/
theorem value?_eq_some :
    value? 10 decimalDigit? cs = some n ↔ (∀ c ∈ cs, '0' ≤ c ∧ c ≤ '9') ∧
      Nat.ofDigits 10 (cs.reverse.map fun c => c.toNat - '0'.toNat) = n := by
  induction cs using List.reverseRecOn generalizing n with
  | nil => simp [value?]
  | append_singleton cs c ih =>
    simp only [value?_concat, Option.bind_eq_some_iff, Option.map_eq_some_iff, ih,
      decimalDigit?_eq_some, List.reverse_concat, List.map_cons, Nat.ofDigits_cons,
      List.forall_mem_append, List.forall_mem_singleton]
    constructor
    · rintro ⟨m, ⟨hfront, rfl⟩, k, ⟨hlast, rfl⟩, rfl⟩
      exact ⟨⟨hfront, hlast⟩, Nat.add_comm _ _⟩
    · rintro ⟨⟨hfront, hlast⟩, rfl⟩
      exact ⟨_, ⟨hfront, rfl⟩, _, ⟨hlast, rfl⟩, Nat.add_comm _ _⟩

theorem decimal?_eq_some : decimal? cs = some n ↔ Denotes cs n := by
  unfold decimal?
  rw [Option.ite_none_left_eq_some, List.isEmpty_iff, value?_eq_some]
  exact ⟨fun ⟨hne, hdigits, hvalue⟩ => ⟨hne, hdigits, hvalue⟩,
    fun h => ⟨h.nonempty, h.digits, h.value⟩⟩

/-- One plus sign may stand before the digits. No digit is a plus sign, so a second one is not
read. -/
theorem unsigned?_eq_some :
    unsigned? cs = some n ↔ ∃ digits, (cs = digits ∨ cs = '+' :: digits) ∧ Denotes digits n := by
  have hsign : ∀ rest, ¬Denotes ('+' :: rest) n := fun rest h =>
    absurd (h.digits '+' List.mem_cons_self).1 (by decide)
  unfold unsigned?
  split
  · rename_i rest
    rw [decimal?_eq_some]
    constructor
    · exact fun h => ⟨rest, .inr rfl, h⟩
    · rintro ⟨digits, rfl | hcons, h⟩
      · exact absurd h (hsign rest)
      · rwa [(List.cons.inj hcons).2]
  · rename_i hplus
    rw [decimal?_eq_some]
    constructor
    · exact fun h => ⟨cs, .inl rfl, h⟩
    · rintro ⟨digits, rfl | rfl, h⟩
      · exact h
      · exact absurd rfl (hplus digits)

end ServiceLocator.Numeral
