import ServiceLocator.Proofs.Locator.Joined
import ServiceLocator.Proofs.Url.Path

/-!
Segments of endpoints. The path of an endpoint is put together from segments, and reading the
joined address takes it apart again. Plain segments (`Endpoint.Plain`) come out as they went
in, one by one, below the folder of the address (`Endpoint.folder`); segments of which one is
not plain lose bytes on the way (`Endpoint.Plain.of_weight`).
-/
namespace ServiceLocator

open Url

namespace Endpoint

/-! ## Texts of segments -/

/-- Segments with slashes between them. -/
def slashed (segments : List (List Char)) : List Char := ['/'].intercalate segments

theorem slashed_cons_cons (segment next : List Char) (later : List (List Char)) :
    slashed (segment :: next :: later) = segment ++ '/' :: slashed (next :: later) := by
  unfold slashed
  rw [List.intercalate_cons_cons, List.append_assoc, List.singleton_append]

theorem slashed_singleton (segment : List Char) : slashed [segment] = segment :=
  List.intercalate_singleton

/-- Without slashes, nothing stands between the segments. -/
theorem filter_slashed (segments : List (List Char)) :
    (slashed segments).filter (!Path.isAnySlash ·) =
      segments.flatten.filter (!Path.isAnySlash ·) := by
  induction segments with
  | nil => rfl
  | cons segment later ih =>
    cases later with
    | nil => rw [slashed_singleton, List.flatten_singleton]
    | cons next later =>
      rw [slashed_cons_cons, List.filter_append, List.filter_cons_of_neg (by decide), ih,
        ← List.filter_append]
      rfl

theorem mem_slashed {segments : List (List Char)} {c : Char} (h : c ∈ slashed segments) :
    c = '/' ∨ ∃ segment ∈ segments, c ∈ segment := by
  induction segments with
  | nil => cases h
  | cons segment later ih =>
    cases later with
    | nil => exact .inr ⟨segment, List.mem_cons_self, slashed_singleton segment ▸ h⟩
    | cons next later =>
      rw [slashed_cons_cons, List.mem_append, List.mem_cons] at h
      rcases h with hsegment | rfl | hlater
      · exact .inr ⟨segment, List.mem_cons_self, hsegment⟩
      · exact .inl rfl
      · exact (ih hlater).imp_right fun ⟨s, hs, hc⟩ => ⟨s, List.mem_cons_of_mem _ hs, hc⟩

theorem slashed_concat (front : List (List Char)) (last : List Char) :
    slashed (front ++ [last]) = front.flatMap (· ++ ['/']) ++ last := by
  induction front with
  | nil => exact slashed_singleton last
  | cons segment front ih =>
    have hcons : slashed (segment :: (front ++ [last])) =
        segment ++ '/' :: slashed (front ++ [last]) := by
      cases front <;> exact slashed_cons_cons _ _ _
    rw [List.cons_append, hcons, ih]
    simp

/-- The text of segments ends as the last of them does, or in a slash. -/
theorem getLast?_slashed (front : List (List Char)) (last : List Char) {c : Char}
    (h : c ∈ (slashed (front ++ [last])).getLast?) : c ∈ last.getLast? ∨ c = '/' := by
  rw [slashed_concat, List.getLast?_append] at h
  cases hlast : last.getLast? with
  | some x =>
    rw [hlast] at h
    exact .inl h
  | none =>
    rw [hlast, Option.none_or] at h
    rcases List.eq_nil_or_concat' front with rfl | ⟨front, segment, rfl⟩
    · cases h
    · rw [List.flatMap_append, List.flatMap_singleton, ← List.append_assoc,
        List.getLast?_concat] at h
      exact .inr (Option.some.inj h).symm

/-! ## Plain segments -/

/-- A character that ends a segment or a path, or is dropped. -/
def isMark (c : Char) : Bool := Path.isAnySlash c || endsPath c || isBreak c

/-- Segments that can be told from the text that is put together from them. -/
structure Plain (segments : List (List Char)) : Prop where
  unmarked : ∀ segment ∈ segments, ∀ c ∈ segment, isMark c = false
  tight : ∀ segment ∈ segments.getLast?, ∀ c ∈ segment.getLast?, isBlank c = false
  kept : ∀ segment ∈ segments, Path.isKept segment = true

/-- The part of a text that is read as a path at the end of an address. -/
def pathText (back : List Char) : List Char := (trailing back).takeWhile (!endsPath ·)

theorem pathText_sublist (back : List Char) : (pathText back).Sublist back :=
  ((List.takeWhile_sublist _).trans List.filter_sublist).trans
    (List.rdropWhile_prefix _ _).sublist

theorem of_mem_pathText {back : List Char} {c : Char} (h : c ∈ pathText back) :
    endsPath c = false ∧ isBreak c = false := by
  have hpath := List.mem_takeWhile_imp h
  have hbreak := (List.mem_filter.mp ((List.takeWhile_sublist _).subset h)).2
  exact ⟨by simpa using hpath, by simpa using hbreak⟩

section

variable {segments : List (List Char)}
  (hunmarked : ∀ segment ∈ segments, ∀ c ∈ segment, isMark c = false)
include hunmarked

theorem of_mem_slashed {c : Char} (h : c ∈ slashed segments) :
    endsPath c = false ∧ isBreak c = false := by
  rcases mem_slashed h with rfl | ⟨segment, hsegment, hc⟩
  · decide
  · have hmark := hunmarked segment hsegment c hc
    simp only [isMark, Bool.or_eq_false_iff] at hmark
    exact ⟨hmark.1.2, hmark.2⟩

/-- A text without marks only loses the blanks at its end. -/
theorem trailing_slashed : trailing (slashed segments) = (slashed segments).rdropWhile isBlank := by
  refine List.filter_eq_self.mpr fun c hc => ?_
  rw [(of_mem_slashed hunmarked ((List.rdropWhile_prefix _ _).subset hc)).2]
  rfl

theorem pathText_slashed : pathText (slashed segments) = (slashed segments).rdropWhile isBlank := by
  unfold pathText
  rw [trailing_slashed hunmarked]
  refine List.takeWhile_eq_self_iff.mpr fun c hc => ?_
  rw [(of_mem_slashed hunmarked ((List.rdropWhile_prefix _ _).subset hc)).1]
  rfl

end

theorem cut_slashed {segments : List (List Char)} (hne : segments ≠ [])
    (hunmarked : ∀ segment ∈ segments, ∀ c ∈ segment, isMark c = false) :
    Path.cut Path.isAnySlash (slashed segments) = segments := by
  refine Path.cut_intercalate rfl hne fun segment hsegment c hc => ?_
  have hmark := hunmarked segment hsegment c hc
  simp only [isMark, Bool.or_eq_false_iff] at hmark
  exact hmark.1.1

/-- There are no such blanks if there are none at the end of the last segment. -/
theorem rdropWhile_slashed {segments : List (List Char)} :
    (slashed segments).rdropWhile isBlank = slashed segments ↔
      ∀ segment ∈ segments.getLast?, ∀ c ∈ segment.getLast?, isBlank c = false := by
  have hself : (slashed segments).rdropWhile isBlank = slashed segments ↔
      ∀ c ∈ (slashed segments).getLast?, isBlank c = false := by
    rw [List.rdropWhile_eq_self_iff]
    constructor
    · intro h c hc
      obtain ⟨hne, rfl⟩ := List.mem_getLast?_eq_getLast hc
      simpa using h hne
    · intro h hne
      rw [h _ (List.getLast?_eq_some_getLast hne)]
      exact Bool.false_ne_true
  rw [hself]
  constructor
  · intro h segment hsegment c hc
    obtain ⟨front, rfl⟩ := List.getLast?_eq_some_iff.mp hsegment
    refine h c ?_
    rw [slashed_concat, List.getLast?_append, Option.mem_def.mp hc]
    rfl
  · intro h c hc
    rcases List.eq_nil_or_concat' segments with rfl | ⟨front, last, rfl⟩
    · cases hc
    · rcases getLast?_slashed front last hc with hmem | rfl
      · exact h last (by simp) c hmem
      · decide

/-- A text that keeps all characters but slashes keeps the blanks at its end. -/
theorem rdropWhile_eq_self_of_filter {cs : List Char}
    (h : (cs.filter (!Path.isAnySlash ·)).length ≤
      ((cs.rdropWhile isBlank).filter (!Path.isAnySlash ·)).length) :
    cs.rdropWhile isBlank = cs := by
  have happend : cs.rdropWhile isBlank ++ cs.rtakeWhile isBlank = cs :=
    List.rdropWhile_append_rtakeWhile
  have hblanks : (cs.rtakeWhile isBlank).filter (!Path.isAnySlash ·) = cs.rtakeWhile isBlank := by
    refine List.filter_eq_self.mpr fun c hc => ?_
    rw [isAnySlash_of_isBlank (List.mem_rtakeWhile_imp hc)]
    rfl
  have hlength := congrArg (fun text => (text.filter (!Path.isAnySlash ·)).length) happend
  simp only [List.filter_append, List.length_append, hblanks] at hlength
  have hnil : cs.rtakeWhile isBlank = [] := List.length_eq_zero_iff.mp (by omega)
  rwa [hnil, List.append_nil] at happend

namespace Plain

variable {segments : List (List Char)}

/-- Nothing of the text of plain segments is dropped. -/
theorem trailing_slashed (h : Plain segments) : trailing (slashed segments) = slashed segments := by
  rw [Endpoint.trailing_slashed h.unmarked, rdropWhile_slashed.mpr h.tight]

/-- Nothing of it is taken for a query or a fragment. -/
theorem dropWhile_trailing (h : Plain segments) :
    (trailing (slashed segments)).dropWhile (!endsPath ·) = [] := by
  rw [h.trailing_slashed]
  refine List.dropWhile_eq_nil_iff.mpr fun c hc => ?_
  rw [(of_mem_slashed h.unmarked hc).1]
  rfl

/-- Plain segments come after the path that they are resolved onto, one by one. -/
theorem resolve (h : Plain segments) (hne : segments ≠ []) (path : List String) :
    Path.resolve Path.parent path (Path.cut Path.isAnySlash (pathText (slashed segments))) =
      path ++ segments.map (percentEncode pathSet) := by
  rw [pathText_slashed h.unmarked, rdropWhile_slashed.mpr h.tight, cut_slashed hne h.unmarked,
    Path.resolve_of_isKept path h.kept]

/-- Segments are plain if all their bytes are in the path that they are resolved to. -/
theorem of_weight (hne : segments ≠ []) {path : List String}
    (hweight : Path.weight path + (Utf8.bytes segments.flatten).length ≤
      Path.weight (Path.resolve Path.parent path
        (Path.cut Path.isAnySlash (pathText (slashed segments))))) : Plain segments := by
  have hle := Path.weight_resolve_le path
    (Path.cut Path.isAnySlash (pathText (slashed segments)))
  rw [Path.flatten_cut] at hle
  -- All characters of the segments are in the text that is cut, and none of them is a slash.
  have hsublist : ((pathText (slashed segments)).filter (!Path.isAnySlash ·)).Sublist
      segments.flatten := by
    refine ((pathText_sublist _).filter _).trans ?_
    rw [filter_slashed]
    exact List.filter_sublist
  have hall := Utf8.eq_of_sublist_of_length_bytes_le hsublist (by omega)
  have hunmarked : ∀ segment ∈ segments, ∀ c ∈ segment, isMark c = false := by
    intro segment hsegment c hc
    have hmem : c ∈ (pathText (slashed segments)).filter (!Path.isAnySlash ·) := by
      rw [hall]
      exact List.mem_flatten.mpr ⟨segment, hsegment, hc⟩
    obtain ⟨hpath, hslash⟩ := List.mem_filter.mp hmem
    obtain ⟨hends, hbreak⟩ := of_mem_pathText hpath
    simp only [isMark, Bool.or_eq_false_iff]
    exact ⟨⟨by simpa using hslash, hends⟩, hbreak⟩
  -- Then all that could be missing is blanks at the end, and they would be missing here too.
  have hkeep : (slashed segments).rdropWhile isBlank = slashed segments := by
    refine rdropWhile_eq_self_of_filter ?_
    rw [← pathText_slashed hunmarked, hall, filter_slashed]
    exact List.length_filter_le _ _
  have hkept : segments.countP (!Path.isKept ·) = 0 := by
    rw [hall, pathText_slashed hunmarked, hkeep, cut_slashed hne hunmarked] at hle
    rw [pathText_slashed hunmarked, hkeep, cut_slashed hne hunmarked] at hweight
    omega
  refine ⟨hunmarked, rdropWhile_slashed.mp hkeep, fun segment hsegment => ?_⟩
  simpa using List.countP_eq_zero.mp hkept segment hsegment

end Plain

end Endpoint

end ServiceLocator
