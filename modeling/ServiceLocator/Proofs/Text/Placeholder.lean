import Mathlib
import ServiceLocator.Text.Placeholder

/-!
Replacing a pattern in a text: where it does not occur nothing changes, where it stands it is
replaced, and a text can be cut where no occurrence goes across. What comes of a text is
determined by its occurrences from left to right (`Placeholder.replaced_iff`).
-/
namespace ServiceLocator.Placeholder

variable {pattern value : List Char}

theorem replaceFrom_zero_cons (pattern value : List Char) (c : Char) (cs : List Char) :
    replaceFrom pattern value 0 (c :: cs) =
      if pattern.isPrefixOf (c :: cs) then
        value ++ replaceFrom pattern value (pattern.length - 1) cs
      else c :: replaceFrom pattern value 0 cs := rfl

theorem replace_of_not_occurs {cs : List Char} (h : occurs pattern cs = false)
    (value : List Char) : replace pattern value cs = cs := by
  unfold replace
  induction cs with
  | nil => rfl
  | cons c cs ih =>
    obtain ⟨hhere, hlater⟩ := Bool.or_eq_false_iff.mp h
    rw [replaceFrom_zero_cons, hhere, if_neg Bool.false_ne_true, ih hlater]

/-- What belongs to an occurrence is passed over. -/
theorem replaceFrom_length_append (front back : List Char) :
    replaceFrom pattern value front.length (front ++ back) = replace pattern value back := by
  induction front with
  | nil => rfl
  | cons c front ih => exact ih

theorem replace_pattern_append (hne : pattern ≠ []) (back : List Char) :
    replace pattern value (pattern ++ back) = value ++ replace pattern value back := by
  cases pattern with
  | nil => exact absurd rfl hne
  | cons p rest =>
    have hstarts : (p :: rest).isPrefixOf (p :: (rest ++ back)) = true :=
      List.isPrefixOf_iff_prefix.mpr (List.prefix_append _ _)
    unfold replace
    rw [List.cons_append, replaceFrom_zero_cons, hstarts, if_pos rfl, List.length_cons,
      Nat.add_sub_cancel, replaceFrom_length_append]
    rfl

theorem replace_pattern (hne : pattern ≠ []) : replace pattern value pattern = value := by
  have hnil : replace pattern value [] = [] := rfl
  have happend : replace pattern value (pattern ++ []) = value ++ replace pattern value [] :=
    replace_pattern_append hne []
  rwa [List.append_nil, hnil, List.append_nil] at happend

/-- Characters that the pattern does not begin with stay before it. -/
theorem replace_append_of_head? {front : List Char} {p : Char} (hhead : pattern.head? = some p)
    (hfront : p ∉ front) (back : List Char) :
    replace pattern value (front ++ back) = front ++ replace pattern value back := by
  obtain ⟨rest, rfl⟩ := List.head?_eq_some_iff.mp hhead
  unfold replace
  induction front with
  | nil => rfl
  | cons c front ih =>
    obtain ⟨hne, hfront⟩ := not_or.mp (mt List.mem_cons.mpr hfront)
    have hhere : (p :: rest).isPrefixOf (c :: (front ++ back)) = false := by
      rw [List.isPrefixOf_cons_cons, beq_false_of_ne hne, Bool.false_and]
    rw [List.cons_append, replaceFrom_zero_cons, hhere, if_neg Bool.false_ne_true,
      List.cons_append, ih hfront]

/-! ## Cutting a text -/

/-- A text can be cut where no occurrence goes across. -/
theorem replace_append {front back : List Char}
    (hseam : ∀ a b, pattern = a ++ b → a ≠ [] → b ≠ [] → a <:+ front → ¬b <+: back) :
    replace pattern value (front ++ back) =
      replace pattern value front ++ replace pattern value back := by
  -- The characters that are still to be skipped all stand before the cut.
  suffices ∀ skip, skip ≤ front.length →
      replaceFrom pattern value skip (front ++ back) =
        replaceFrom pattern value skip front ++ replace pattern value back from
    this 0 (Nat.zero_le _)
  induction front with
  | nil =>
    intro skip hskip
    obtain rfl := Nat.le_zero.mp hskip
    rfl
  | cons c front ih =>
    have hlater := ih fun a b hab ha hb hsuffix =>
      hseam a b hab ha hb (hsuffix.trans (List.suffix_cons c front))
    intro skip hskip
    cases skip with
    | succ skip => exact hlater skip (Nat.le_of_succ_le_succ hskip)
    | zero =>
      have hhere : pattern.isPrefixOf (c :: (front ++ back)) = pattern.isPrefixOf (c :: front) := by
        rw [Bool.eq_iff_iff, List.isPrefixOf_iff_prefix, List.isPrefixOf_iff_prefix]
        refine ⟨fun h => ?_, fun h => h.trans (List.prefix_append (c :: front) back)⟩
        rcases List.prefix_or_prefix_of_prefix h (List.prefix_append (c :: front) back) with
          hshort | ⟨more, hmore⟩
        · exact hshort
        · by_cases hnil : more = []
          · rw [← hmore, hnil, List.append_nil]
          · rw [← hmore] at h
            exact absurd ((List.prefix_append_right_inj (c :: front)).mp h)
              (hseam _ more hmore.symm (List.cons_ne_nil c front) hnil List.suffix_rfl)
      rw [List.cons_append, replaceFrom_zero_cons, replaceFrom_zero_cons, hhere]
      split
      · rename_i hstarts
        have hlength : pattern.length ≤ front.length + 1 :=
          (List.isPrefixOf_iff_prefix.mp hstarts).length_le
        rw [hlater _ (Nat.sub_le_iff_le_add.mpr hlength), List.append_assoc]
      · rw [hlater 0 (Nat.zero_le _), List.cons_append]

/-- No occurrence goes across a character that is not in the pattern. -/
theorem replace_append_cons {mark : Char} (hmark : mark ∉ pattern) (front back : List Char) :
    replace pattern value (front ++ mark :: back) =
      replace pattern value front ++ replace pattern value (mark :: back) := by
  refine replace_append fun a b hab _ hb _ hstarts => hmark ?_
  obtain ⟨c, rest, rfl⟩ := List.exists_cons_of_ne_nil hb
  rw [hab, ← (List.cons_prefix_cons.mp hstarts).1]
  exact List.mem_append_right a List.mem_cons_self

/-- A word that no occurrence of a pattern overlaps without being in it: it does not begin with an
end of the pattern, nor end with a beginning of it, nor stand inside it. -/
def Apart (pattern word : List Char) : Prop :=
  ∀ k < pattern.length, k ≠ 0 →
    ¬pattern.drop k <+: word ∧ ¬word <+: pattern.drop k ∧ ¬pattern.take k <:+ word

instance (pattern word : List Char) : Decidable (Apart pattern word) :=
  inferInstanceAs (Decidable (∀ _, _ → _))

theorem Apart.of_append {word a b : List Char} (h : Apart (a ++ b) word) (ha : a ≠ [])
    (hb : b ≠ []) : ¬b <+: word ∧ ¬word <+: b ∧ ¬a <:+ word := by
  have hlength : a.length < (a ++ b).length := by
    rw [List.length_append]
    exact Nat.lt_add_of_pos_right (List.length_pos_of_ne_nil hb)
  simpa using h a.length hlength (mt List.length_eq_zero_iff.mp ha)

/-- Around such a word, a text can be cut on both sides. -/
theorem Apart.replace_append {word : List Char} (h : Apart pattern word) (front back : List Char) :
    replace pattern value (front ++ (word ++ back)) =
      replace pattern value front ++
        (replace pattern value word ++ replace pattern value back) := by
  have hbefore : ∀ a b, pattern = a ++ b → a ≠ [] → b ≠ [] → a <:+ front →
      ¬b <+: word ++ back := by
    rintro a b rfl ha hb - hstarts
    obtain ⟨hbegin, hinside, -⟩ := h.of_append ha hb
    rcases List.prefix_or_prefix_of_prefix hstarts (List.prefix_append word back) with hb | hw
    · exact hbegin hb
    · exact hinside hw
  have hafter : ∀ a b, pattern = a ++ b → a ≠ [] → b ≠ [] → a <:+ word → ¬b <+: back := by
    rintro a b rfl ha hb hsuffix
    exact absurd hsuffix (h.of_append ha hb).2.2
  rw [Placeholder.replace_append hbefore, Placeholder.replace_append hafter]

/-! ## What is replaced -/

/-- The occurrences of a pattern in a text, replaced from left to right: up to the first one the
text stays, and after it the text that follows is looked at anew. -/
inductive Replaced (pattern value : List Char) : List Char → List Char → Prop
  | rest {cs} : ¬pattern <:+: cs → Replaced pattern value cs cs
  | first {front back out} : ¬pattern <:+: front ++ pattern.dropLast →
      Replaced pattern value back out →
      Replaced pattern value (front ++ pattern ++ back) (front ++ value ++ out)

theorem occurs_iff {cs : List Char} : occurs pattern cs = true ↔ pattern <:+: cs := by
  induction cs with
  | nil => rw [occurs, List.isEmpty_iff, List.infix_nil]
  | cons c cs ih =>
    rw [occurs, Bool.or_eq_true, List.isPrefixOf_iff_prefix, ih, List.infix_cons_iff]

theorem replace_of_absent {cs : List Char} (h : ¬pattern <:+: cs) :
    replace pattern value cs = cs :=
  replace_of_not_occurs (Bool.eq_false_iff.mpr (mt occurs_iff.mp h)) value

/-- No occurrence begins before the first one. -/
theorem replace_of_first (hne : pattern ≠ []) {front : List Char}
    (hfirst : ¬pattern <:+: front ++ pattern.dropLast) (back : List Char) :
    replace pattern value (front ++ pattern ++ back) =
      front ++ value ++ replace pattern value back := by
  have hseam : ∀ a b, pattern = a ++ b → a ≠ [] → b ≠ [] → a <:+ front →
      ¬b <+: pattern ++ back := by
    rintro a b hab ha hb ⟨start, rfl⟩ hstarts
    have hshort : b.length ≤ pattern.dropLast.length := by
      have hlength := List.length_pos_of_ne_nil ha
      rw [List.length_dropLast, hab, List.length_append]
      omega
    have hb' : b <+: pattern.dropLast := by
      refine List.prefix_of_prefix_length_le hstarts ?_ hshort
      exact (List.dropLast_prefix pattern).trans (List.prefix_append pattern back)
    obtain ⟨rest, hrest⟩ := hb'
    refine hfirst ⟨start, rest, ?_⟩
    rw [← hrest, hab]
    simp only [List.append_assoc]
  have hfront : ¬pattern <:+: front := fun h => hfirst (h.trans (List.infix_append' [] front _))
  rw [List.append_assoc, replace_append hseam, replace_of_absent hfront,
    replace_pattern_append hne, List.append_assoc]

theorem exists_first (hne : pattern ≠ []) {cs : List Char} (h : pattern <:+: cs) :
    ∃ front back, cs = front ++ pattern ++ back ∧ ¬pattern <:+: front ++ pattern.dropLast := by
  induction cs with
  | nil => exact absurd (List.infix_nil.mp h) hne
  | cons c cs ih =>
    by_cases hhere : pattern <+: c :: cs
    · obtain ⟨back, hback⟩ := hhere
      refine ⟨[], back, hback.symm, fun hwithin => ?_⟩
      have hlength := hwithin.length_le
      have hpos := List.length_pos_of_ne_nil hne
      rw [List.nil_append, List.length_dropLast] at hlength
      omega
    · obtain ⟨front, back, rfl, hfirst⟩ := ih ((List.infix_cons_iff.mp h).resolve_left hhere)
      refine ⟨c :: front, back, rfl, fun hwithin => ?_⟩
      rcases List.infix_cons_iff.mp hwithin with hstarts | hlater
      · refine hhere (hstarts.trans ?_)
        rw [← List.cons_append, ← List.cons_append, List.append_assoc]
        refine (List.prefix_append_right_inj (c :: front)).mpr ?_
        exact (List.dropLast_prefix pattern).trans (List.prefix_append pattern back)
      · exact hfirst hlater

/-- Occurrences can always be replaced, in one way. -/
theorem replaced_iff (hne : pattern ≠ []) {cs out : List Char} :
    Replaced pattern value cs out ↔ replace pattern value cs = out := by
  have hreplace : ∀ {cs out}, Replaced pattern value cs out → replace pattern value cs = out := by
    intro cs out h
    induction h with
    | rest h => exact replace_of_absent h
    | first hfirst _ ih => rw [replace_of_first hne hfirst, ih]
  refine ⟨hreplace, ?_⟩
  rintro rfl
  -- What follows the first occurrence is shorter.
  induction hn : cs.length using Nat.strong_induction_on generalizing cs with
  | _ n ih =>
    by_cases hwithin : pattern <:+: cs
    · obtain ⟨front, back, rfl, hfirst⟩ := exists_first hne hwithin
      have hshorter : back.length < n := by
        have hpos := List.length_pos_of_ne_nil hne
        rw [← hn, List.length_append, List.length_append]
        omega
      rw [replace_of_first hne hfirst]
      exact .first hfirst (ih _ hshorter rfl)
    · rw [replace_of_absent hwithin]
      exact .rest hwithin

end ServiceLocator.Placeholder
