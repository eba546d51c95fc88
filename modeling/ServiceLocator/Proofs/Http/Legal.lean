import Mathlib.Data.List.Basic
import ServiceLocator.Http.Credential
import ServiceLocator.Http.Field
import ServiceLocator.Proofs.Text.Numeral

/-!
Values that can be sent. Credentials are made of letters, digits and a few marks, however
the principal and the secret look, so their value is always legal and has no blanks around it.
So is the value of a range.
-/
namespace ServiceLocator

namespace Base64

/-- What is true of the padding and of every digit is true of what is written. -/
theorem of_mem_encodeChars {P : Char → Prop} (hpad : P '=') (hdigit : ∀ k < 64, P (digit k))
    {bytes : Bytes} {c : Char} (h : c ∈ encodeChars bytes) : P c := by
  have hany : ∀ n, P (digit n) := by
    intro n
    by_cases hn : n < 64
    · exact hdigit n hn
    · -- What is no digit is written as the last mark.
      have hlast : digit n = digit 63 := by
        unfold digit
        rw [if_neg (by omega), if_neg (by omega), if_neg (by omega), if_neg (by omega)]
        rfl
      exact hlast ▸ hdigit 63 (by decide)
  fun_induction encodeChars bytes with
  | case1 => cases h
  | case2 a =>
    simp only [List.mem_cons, List.not_mem_nil, or_false] at h
    rcases h with rfl | rfl | rfl | rfl
    exacts [hany _, hany _, hpad, hpad]
  | case3 a b =>
    simp only [List.mem_cons, List.not_mem_nil, or_false] at h
    rcases h with rfl | rfl | rfl | rfl
    exacts [hany _, hany _, hany _, hpad]
  | case4 a b c' rest ih =>
    simp only [List.mem_cons] at h
    rcases h with rfl | rfl | rfl | rfl | h
    exacts [hany _, hany _, hany _, hany _, ih h]

theorem isValueChar_of_mem_encodeChars {bytes : Bytes} {c : Char} (h : c ∈ encodeChars bytes) :
    Field.isValueChar c = true :=
  of_mem_encodeChars (P := (Field.isValueChar · = true)) (by decide) (by decide) h

/-- Only nothing is written as nothing. -/
theorem encodeChars_ne_nil {bytes : Bytes} (h : bytes ≠ []) : encodeChars bytes ≠ [] := by
  fun_cases encodeChars bytes <;> simp_all

end Base64

namespace Field

theorem isValue_append (a b : String) : isValue (a ++ b) = (isValue a && isValue b) := by
  simp [isValue, List.all_append]

/-- Credentials can always be sent. -/
theorem isValue_basic (principal secret : String) :
    isValue (Credential.basic principal secret) = true := by
  have hscheme : isValue "Basic " = true := by decide
  rw [Credential.basic, isValue_append, hscheme, Bool.true_and, isValue, Base64.encode,
    String.toList_ofList, List.all_eq_true]
  exact fun c hc => Base64.isValueChar_of_mem_encodeChars hc

theorem isValueChar_of_isDigit {c : Char} (h : Numeral.IsDigit c) : isValueChar c = true := by
  have hdigits : ∀ k < 10, isValueChar (Char.ofNat (k + 48)) = true := by decide
  obtain ⟨k, hk, rfl⟩ := h
  exact hdigits k hk

theorem isValue_text (n : Nat) : isValue (Numeral.text n) = true := by
  rw [isValue, Numeral.text, String.toList_ofList, List.all_eq_true]
  exact fun c hc => isValueChar_of_isDigit (Numeral.isDigit_of_mem_decimal hc)

/-- Ranges can always be sent. -/
theorem isValue_byteRange (max : UInt64) : isValue (Credential.byteRange max) = true := by
  have hunit : isValue "bytes=0-" = true := by decide
  rw [Credential.byteRange, isValue_append, hunit, isValue_text, Bool.and_self]

/-- What is left of a value without the blanks around it can be sent if the value can. -/
theorem isValue_trim {value : String} (h : isValue value = true) : isValue (trim value) = true := by
  rw [isValue, List.all_eq_true] at h ⊢
  intro c hc
  refine h c ?_
  rw [trim, String.toList_ofList, List.mem_reverse] at hc
  have hc' := (List.dropWhile_sublist _).mem hc
  rw [List.mem_reverse] at hc'
  exact (List.dropWhile_sublist _).mem hc'

/-- Whether a character is dropped at the ends of a value. -/
def isPadding (c : Char) : Bool := c == ' ' || c == '\t'

theorem trim_eq (value : String) :
    trim value =
      String.ofList ((value.toList.dropWhile isPadding).reverse.dropWhile isPadding).reverse := rfl

/-- A value with other characters at its ends is left as it is. -/
theorem trim_of_ends {value : String} (hfirst : ∀ c ∈ value.toList.head?, isPadding c = false)
    (hlast : ∀ c ∈ value.toList.getLast?, isPadding c = false) : trim value = value := by
  have hdrop : ∀ cs : List Char, (∀ c ∈ cs.head?, isPadding c = false) →
      cs.dropWhile isPadding = cs := by
    intro cs h
    cases cs with
    | nil => rfl
    | cons c rest => exact List.dropWhile_cons_of_neg (by simp [h c rfl])
  rw [trim_eq, hdrop _ hfirst, hdrop _ (by rwa [List.head?_reverse]), List.reverse_reverse,
    String.ofList_toList]

/-- Credentials have no blanks around them. -/
theorem trim_basic (principal secret : String) :
    trim (Credential.basic principal secret) = Credential.basic principal secret := by
  have hlist : (Credential.basic principal secret).toList =
      "Basic ".toList ++ Base64.encodeChars (Utf8.encode (principal ++ ":" ++ secret)) := by
    rw [Credential.basic, String.toList_append, Base64.encode]
    exact congrArg _ String.toList_ofList
  have hne : Base64.encodeChars (Utf8.encode (principal ++ ":" ++ secret)) ≠ [] := by
    refine Base64.encodeChars_ne_nil ?_
    simp [Utf8.encode]
  refine trim_of_ends (fun c hc => ?_) fun c hc => ?_
  · rw [hlist] at hc
    cases hc
    decide
  · rw [hlist, List.getLast?_append_of_ne_nil _ hne] at hc
    exact Base64.of_mem_encodeChars (P := (isPadding · = false)) (by decide) (by decide)
      (List.mem_of_getLast? hc)

end Field

end ServiceLocator
