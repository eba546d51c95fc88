import Mathlib.Data.List.Basic
import ServiceLocator.Unicode.Composition

/-!
Code points that normalization leaves alone. A code point that is no mark, does not
decompose and takes part in no composition (`Inert`) stands in the normalized text wherever
it stood in the text; controls and the space are such code points.
-/
namespace ServiceLocator.Unicode

/-! ## Tables -/

/-- The rows of a table, from the characters of its text. -/
def Row.rows (cs : List Char) : List Row :=
  ((splitOn Char.isWhitespace cs).filter (!·.isEmpty)).map ofWord

/-- A property of all rows can be computed from the characters of the text. -/
theorem Row.forall_mem_table {cs : List Char} {p : Row → Bool} (h : (rows cs).all p = true) :
    ∀ row ∈ table (String.ofList cs), p row = true := by
  unfold table
  rw [String.toList_ofList]
  exact List.all_eq_true.mp h

/-- So can a row that has it. -/
theorem Row.exists_mem_table {cs : List Char} {p : Row → Bool} (h : (rows cs).any p = true) :
    ∃ row ∈ table (String.ofList cs), p row = true := by
  unfold table
  rw [String.toList_ofList]
  exact List.any_eq_true.mp h

/-- Whether a row speaks of code points beyond the space. -/
def Row.startsBeyondSpace (row : Row) : Bool := 0x20 < row.first

/-- Whether the code points of a decomposition are beyond the space too. -/
def Row.staysBeyondSpace (row : Row) : Bool :=
  row.startsBeyondSpace && (row.apply row.first).all (0x20 < ·)

section

-- The texts are long, and each is read by recursion on its characters.
set_option maxRecDepth 100000

theorem staysBeyondSpace_letter : ∀ row ∈ letterDecompositions, row.staysBeyondSpace = true :=
  Row.forall_mem_table (by decide +kernel)

theorem staysBeyondSpace_extended :
    ∀ row ∈ extendedDecompositions, row.staysBeyondSpace = true :=
  Row.forall_mem_table (by decide +kernel)

theorem staysBeyondSpace_symbol : ∀ row ∈ symbolDecompositions, row.staysBeyondSpace = true :=
  Row.forall_mem_table (by decide +kernel)

theorem staysBeyondSpace_presentation :
    ∀ row ∈ presentationDecompositions, row.staysBeyondSpace = true :=
  Row.forall_mem_table (by decide +kernel)

theorem staysBeyondSpace_ideograph :
    ∀ row ∈ ideographDecompositions, row.staysBeyondSpace = true :=
  Row.forall_mem_table (by decide +kernel)

theorem startsBeyondSpace_combiningClass :
    ∀ row ∈ combiningClassRows, row.startsBeyondSpace = true :=
  Row.forall_mem_table (by decide +kernel)

end

theorem staysBeyondSpace_decomposition {row : Row} (h : row ∈ decompositionRows) :
    row.staysBeyondSpace = true := by
  simp only [decompositionRows, List.mem_append] at h
  rcases h with (((h | h) | h) | h) | h
  · exact staysBeyondSpace_letter row h
  · exact staysBeyondSpace_extended row h
  · exact staysBeyondSpace_symbol row h
  · exact staysBeyondSpace_presentation row h
  · exact staysBeyondSpace_ideograph row h

/-- Rows that start beyond a code point do not cover it. -/
theorem image?_eq_none {rows : List Row} {code : Nat} (h : ∀ row ∈ rows, code < row.first) :
    image? rows code = none := by
  unfold image?
  rw [Option.map_eq_none_iff, List.find?_eq_none]
  intro row hrow hcovers
  have hfirst := h row hrow
  simp only [Row.covers, Bool.and_eq_true, decide_eq_true_iff] at hcovers
  omega

/-! ## Inert code points -/

/-- A code point that begins anew, does not decompose and takes part in no composition. -/
structure Inert (code : Nat) : Prop where
  starts : combiningClass code = 0
  decompose : decompose code = [code]
  compose_left : ∀ other, compose? code other = none
  compose_right : ∀ other, compose? other code = none

/-- A code point outside the table of decompositions is left as it is. -/
theorem decomposeSteps_of_image?_eq_none {depth code : Nat}
    (h : image? decompositionRows code = none) : decomposeSteps depth code = [code] := by
  cases depth with
  | zero => rfl
  | succ depth =>
    rw [decomposeSteps, h]
    rfl

/-- A pair with a code point up to the space is no decomposition. -/
theorem compose?_eq_none {a b : Nat} (h : a ≤ 0x20 ∨ b ≤ 0x20) : compose? a b = none := by
  have hsyllable : syllable? a b = none := by
    unfold syllable?
    rw [if_neg, if_neg] <;> simp only [firstLead, firstVowel, firstSyllable, firstTrail] <;> omega
  have hfind : (decompositionRows.find? fun row =>
      row.apply row.first == [a, b] && !inTable excludedRows row.first) = none := by
    rw [List.find?_eq_none]
    intro row hrow hmatch
    have hstays := staysBeyondSpace_decomposition hrow
    simp only [Bool.and_eq_true, beq_iff_eq] at hmatch
    simp only [Row.staysBeyondSpace, hmatch.1, Bool.and_eq_true, List.all_cons, List.all_nil,
      decide_eq_true_iff] at hstays
    omega
  unfold compose?
  rw [hsyllable, hfind]

/-- Controls and the space are inert. -/
theorem inert_of_le_space {code : Nat} (h : code ≤ 0x20) : Inert code where
  starts := by
    have himage : image? combiningClassRows code = none := by
      refine image?_eq_none fun row hrow => ?_
      have hfirst := startsBeyondSpace_combiningClass row hrow
      simp only [Row.startsBeyondSpace, decide_eq_true_iff] at hfirst
      omega
    unfold combiningClass
    rw [himage]
    rfl
  decompose := by
    have hsyllable : syllableLetters? code = none := by
      unfold syllableLetters?
      rw [if_neg]
      simp only [firstSyllable]
      omega
    have himage : image? decompositionRows code = none := by
      refine image?_eq_none fun row hrow => ?_
      have hstays := staysBeyondSpace_decomposition hrow
      simp only [Row.staysBeyondSpace, Row.startsBeyondSpace, Bool.and_eq_true,
        decide_eq_true_iff] at hstays
      omega
    unfold Unicode.decompose
    rw [hsyllable]
    exact decomposeSteps_of_image?_eq_none himage
  compose_left _ := compose?_eq_none (.inl h)
  compose_right _ := compose?_eq_none (.inr h)

/-! ## Normalization -/

theorem mem_insertMark {code other : Nat} {codes : List Nat} :
    code ∈ insertMark other codes ↔ code = other ∨ code ∈ codes := by
  induction codes with
  | nil => simp [insertMark]
  | cons first rest ih =>
    rw [insertMark]
    split
    · rw [List.mem_cons, ih, List.mem_cons]
      exact or_left_comm
    · rw [List.mem_cons]

/-- Marks change places only. -/
theorem mem_orderMarks {code : Nat} {codes : List Nat} :
    code ∈ orderMarks codes ↔ code ∈ codes := by
  unfold orderMarks
  induction codes with
  | nil => rfl
  | cons first rest ih => rw [List.foldr_cons, mem_insertMark, ih, List.mem_cons]

theorem composeFrom_nil (starter : Nat) (marks : List Nat) :
    composeFrom starter marks [] = starter :: marks.reverse := rfl

/-- Whether no mark keeps a code point from the starter. -/
def reaches (code : Nat) : List Nat → Bool
  | [] => true
  | mark :: _ => combiningClass mark < combiningClass code

/-- The next code point composes with the starter, begins anew or is one more mark. -/
theorem composeFrom_cons (starter : Nat) (marks : List Nat) (code : Nat) (rest : List Nat) :
    composeFrom starter marks (code :: rest) =
      match if reaches code marks then compose? starter code else none with
      | some composed => composeFrom composed marks rest
      | none =>
        if combiningClass code = 0 then starter :: (marks.reverse ++ composeFrom code [] rest)
        else composeFrom starter (code :: marks) rest := rfl

/-- What does not take part in a composition is still there after it. -/
theorem Inert.mem_composeFrom {code : Nat} (hcode : Inert code) {starter : Nat}
    {marks codes : List Nat} (h : code ∈ starter :: marks ++ codes) :
    code ∈ composeFrom starter marks codes := by
  induction codes generalizing starter marks with
  | nil => simpa [composeFrom_nil] using h
  | cons next rest ih =>
    simp only [List.cons_append, List.mem_cons, List.mem_append] at h
    rw [composeFrom_cons]
    cases hcompose : (if reaches next marks then compose? starter next else none) with
    | some composed =>
      -- Neither part of a composition is inert, so the code point is elsewhere.
      have hpair : compose? starter next = some composed := by
        split at hcompose
        · exact hcompose
        · cases hcompose
      have hstarter : code ≠ starter := by
        rintro rfl
        rw [hcode.compose_left] at hpair
        cases hpair
      have hnext : code ≠ next := by
        rintro rfl
        rw [hcode.compose_right] at hpair
        cases hpair
      simp only [hstarter, hnext, false_or] at h
      exact ih (List.mem_cons_of_mem _ (List.mem_append.mpr h))
    | none =>
      simp only
      split
      · rcases h with h | h | h
        · exact h ▸ List.mem_cons_self
        · simp [h]
        · have hrest : code ∈ composeFrom next [] rest := ih (by simpa using h)
          simp [hrest]
      · refine ih ?_
        simp only [List.cons_append, List.mem_cons, List.mem_append]
        tauto

/-- A starter is composed with what follows it. -/
theorem composeAll_cons (code : Nat) (rest : List Nat) :
    composeAll (code :: rest) =
      if combiningClass code = 0 then composeFrom code [] rest else code :: composeAll rest := rfl

theorem Inert.mem_composeAll {code : Nat} (hcode : Inert code) {codes : List Nat}
    (h : code ∈ codes) : code ∈ composeAll codes := by
  induction codes with
  | nil => cases h
  | cons first rest ih =>
    rw [composeAll_cons]
    split
    · exact hcode.mem_composeFrom (by simpa using h)
    · rcases List.mem_cons.mp h with rfl | h
      · exact List.mem_cons_self
      · exact List.mem_cons_of_mem _ (ih h)

/-- An inert code point of a text stands in its normalized form. -/
theorem Inert.mem_normalize {code : Nat} (hcode : Inert code) {codes : List Nat}
    (h : code ∈ codes) : code ∈ normalize codes := by
  refine hcode.mem_composeAll (mem_orderMarks.mpr (List.mem_flatMap.mpr ⟨code, h, ?_⟩))
  rw [hcode.decompose]
  exact List.mem_singleton_self code

end ServiceLocator.Unicode
