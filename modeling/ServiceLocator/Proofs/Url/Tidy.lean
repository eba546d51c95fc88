import Mathlib.Data.List.DropRight
import ServiceLocator.Proofs.Url.Blank

/-!
Text that is put after the start of a URL. Tidying goes by both ends of a text, so what
stands before a mark is tidied at its start only (`leading`) and what stands after it at its
end (`trailing`); a scheme is found in the part before the mark.
-/
namespace ServiceLocator.Url

/-! ## Tidying -/

/-- The start of a text without the blanks in front of it. -/
def leading (cs : List Char) : List Char := (cs.dropWhile isBlank).filter (!isBreak ·)

/-- The end of a text without the blanks after it. -/
def trailing (cs : List Char) : List Char := (cs.rdropWhile isBlank).filter (!isBreak ·)

theorem tidy_eq_filter (cs : List Char) :
    tidy cs = ((cs.dropWhile isBlank).rdropWhile isBlank).filter (!isBreak ·) := rfl

theorem isBreak_of_not_isBlank {c : Char} (h : isBlank c = false) : isBreak c = false := by
  by_contra hbreak
  simp only [isBreak, Bool.not_eq_false, Bool.or_eq_true, beq_iff_eq] at hbreak
  rcases hbreak with (rfl | rfl) | rfl <;> revert h <;> decide

section

variable {α : Type} {p : α → Bool} {x : α} (hx : p x = false)
include hx

/-- What is dropped at the start stands before the first element that stays. -/
theorem dropWhile_append_cons (front back : List α) :
    (front ++ x :: back).dropWhile p = front.dropWhile p ++ x :: back := by
  rw [List.dropWhile_append]
  split
  · rename_i hnil
    rw [List.isEmpty_iff.mp hnil, List.dropWhile_cons_of_neg (by simp [hx])]
    rfl
  · rfl

/-- What is dropped at the end stands after the last element that stays. -/
theorem rdropWhile_append_cons (front back : List α) :
    (front ++ x :: back).rdropWhile p = front ++ x :: back.rdropWhile p := by
  unfold List.rdropWhile
  rw [List.reverse_append, List.reverse_cons, List.append_assoc, List.singleton_append,
    dropWhile_append_cons hx]
  simp

end

/-- What stands before a mark keeps all but its line breaks. -/
theorem trailing_append_cons (front : List Char) {mark : Char} (hmark : isBlank mark = false)
    (back : List Char) :
    trailing (front ++ mark :: back) = front.filter (!isBreak ·) ++ mark :: trailing back := by
  unfold trailing
  rw [rdropWhile_append_cons hmark, List.filter_append,
    List.filter_cons_of_pos (by simp [isBreak_of_not_isBlank hmark])]

/-- A mark divides what is tidied at its start from what is tidied at its end. -/
theorem tidy_append_cons (front : List Char) {mark : Char} (hmark : isBlank mark = false)
    (back : List Char) :
    tidy (front ++ mark :: back) = leading front ++ mark :: trailing back := by
  rw [tidy_eq_filter, dropWhile_append_cons hmark]
  exact trailing_append_cons _ hmark back

/-- A text on its own loses the blanks at its end too. -/
theorem exists_leading_eq (cs : List Char) :
    ∃ blanks, leading cs = tidy cs ++ blanks ∧ ∀ c ∈ blanks, isBlank c = true := by
  refine ⟨((cs.dropWhile isBlank).rtakeWhile isBlank).filter (!isBreak ·), ?_, fun c hc => ?_⟩
  · rw [tidy_eq_filter, ← List.filter_append, List.rdropWhile_append_rtakeWhile]
    rfl
  · exact List.mem_rtakeWhile_imp (List.mem_filter.mp hc).1

/-- If it does not end in a blank, it is all that it loses blanks from. -/
theorem tidy_eq_leading {cs : List Char} (h : ∀ c ∈ cs.getLast?, isBlank c = false) :
    tidy cs = leading cs := by
  have hkeep : (cs.dropWhile isBlank).rdropWhile isBlank = cs.dropWhile isBlank := by
    refine List.rdropWhile_eq_self_iff.mpr fun hne => ?_
    rw [(List.dropWhile_suffix isBlank).getLast hne, h _ (List.getLast?_eq_some_getLast _)]
    exact Bool.false_ne_true
  rw [tidy_eq_filter, hkeep]
  rfl

/-! ## Schemes -/

/-- A scheme is what stands before the first colon, if it begins with a letter. -/
theorem splitScheme?_eq_some {cs : List Char} {scheme : String} {rest : List Char} :
    splitScheme? cs = some (scheme, rest) ↔ ∃ front, cs = front ++ ':' :: rest ∧
      (∀ c ∈ front, isSchemeChar c = true) ∧ front.head?.any isSchemeStart = true ∧
      scheme = String.ofList (front.map Char.toLower) := by
  have hcolon : isSchemeChar ':' = false := by decide
  constructor
  · intro h
    unfold splitScheme? at h
    split at h
    · rename_i rest' hdrop
      split at h
      · rename_i hstart
        cases h
        have hcs : cs.takeWhile isSchemeChar ++ ':' :: rest = cs := by
          rw [← hdrop, List.takeWhile_append_dropWhile]
        refine ⟨cs.takeWhile isSchemeChar, hcs.symm, fun c hc => List.mem_takeWhile_imp hc, ?_, rfl⟩
        cases hfront : cs.takeWhile isSchemeChar with
        | nil =>
          -- Without a scheme the colon would be the letter that a scheme begins with.
          rw [← hcs, hfront] at hstart
          exact absurd (show isSchemeStart ':' = true from hstart) (by decide)
        | cons first _ =>
          rw [← hcs, hfront] at hstart
          exact hstart
      · cases h
    · cases h
  · rintro ⟨front, rfl, hfront, hstart, rfl⟩
    unfold splitScheme?
    rw [List.dropWhile_append_of_pos hfront, List.takeWhile_append_of_pos hfront]
    cases front with
    | nil => cases hstart
    | cons first front =>
      have hfirst : isSchemeStart first = true := hstart
      simp [hcolon, hfirst]

/-- Text after a scheme is not part of it. -/
theorem splitScheme?_append {cs rest : List Char} {scheme : String}
    (h : splitScheme? cs = some (scheme, rest)) (back : List Char) :
    splitScheme? (cs ++ back) = some (scheme, rest ++ back) := by
  obtain ⟨front, rfl, hfront, hstart, rfl⟩ := splitScheme?_eq_some.mp h
  exact splitScheme?_eq_some.mpr ⟨front, by simp, hfront, hstart, rfl⟩

/-- A scheme that is there with a mark and more text after it is there without them. -/
theorem exists_splitScheme?_of_append {front back rest : List Char} {mark : Char}
    {scheme : String} (hmark : isSchemeChar mark = false) (hcolon : mark ≠ ':')
    (h : splitScheme? (front ++ mark :: back) = some (scheme, rest)) :
    ∃ rest', splitScheme? front = some (scheme, rest') ∧ rest = rest' ++ mark :: back := by
  obtain ⟨name, heq, hname, hstart, rfl⟩ := splitScheme?_eq_some.mp h
  rcases List.append_eq_append_iff.mp heq with ⟨later, rfl, hlater⟩ | ⟨later, rfl, hlater⟩
  · -- The mark would belong to the scheme or be its colon.
    cases later with
    | nil =>
      cases hlater
      exact absurd rfl hcolon
    | cons first later =>
      cases hlater
      have hmem := hname mark (List.mem_append_right _ List.mem_cons_self)
      rw [hmark] at hmem
      cases hmem
  · cases later with
    | nil =>
      cases hlater
      exact absurd rfl hcolon
    | cons first later =>
      cases hlater
      exact ⟨later, splitScheme?_eq_some.mpr ⟨name, rfl, hname, hstart, rfl⟩, rfl⟩

end ServiceLocator.Url
