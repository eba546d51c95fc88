import Mathlib.Data.List.Basic
import ServiceLocator.Proofs.Url.Percent
import ServiceLocator.Url.Path

/-!
Resolving segments onto a path. A segment that is no dot segment and has no escapes is kept:
it becomes one segment that is decoded to its own bytes. Any other segment loses bytes, so the
bytes that a path is decoded to (`weight`) tell whether all segments were kept
(`weight_resolve_le`).
-/
namespace ServiceLocator.Url.Path

/-! ## Cutting -/

section

variable {isSlash : Char → Bool}

theorem cut_eq_splitOnP (cs : List Char) : cut isSlash cs = cs.splitOnP isSlash := by
  induction cs with
  | nil => rfl
  | cons c rest ih =>
    rw [cut, List.splitOnP_cons_eq_if_modifyHead, ih]
    split
    · rfl
    · cases hsplit : rest.splitOnP isSlash with
      | nil => exact absurd hsplit (List.splitOnP_ne_nil _ _)
      | cons segment later => rfl

theorem cut_ne_nil (cs : List Char) : cut isSlash cs ≠ [] := by
  rw [cut_eq_splitOnP]
  exact List.splitOnP_ne_nil _ _

theorem cut_append_cons {slash : Char} (hslash : isSlash slash = true) (front back : List Char) :
    cut isSlash (front ++ slash :: back) = cut isSlash front ++ cut isSlash back := by
  simp only [cut_eq_splitOnP]
  exact List.splitOnP_append_cons front back hslash

theorem cut_replicate {slash : Char} (hslash : isSlash slash = true) (n : Nat) :
    cut isSlash (List.replicate n slash) = List.replicate (n + 1) [] := by
  induction n with
  | zero => rfl
  | succ n ih =>
    rw [List.replicate_succ, cut, if_pos hslash, ih]
    rfl

/-- Nothing but slashes is lost. -/
theorem flatten_cut (cs : List Char) : (cut isSlash cs).flatten = cs.filter (!isSlash ·) := by
  induction cs with
  | nil => rfl
  | cons c rest ih =>
    rw [cut]
    split
    · rename_i hc
      rw [List.flatten_cons, ih, List.filter_cons_of_neg (by simp [hc])]
      rfl
    · rename_i hc
      rw [List.filter_cons_of_pos (by simpa using hc), ← ih]
      cases cut isSlash rest with
      | nil => rfl
      | cons segment later => rfl

/-- Segments without slashes are cut as they were put together. -/
theorem cut_intercalate {slash : Char} (hslash : isSlash slash = true)
    {segments : List (List Char)} (hne : segments ≠ [])
    (h : ∀ segment ∈ segments, ∀ c ∈ segment, isSlash c = false) :
    cut isSlash ([slash].intercalate segments) = segments := by
  induction segments with
  | nil => exact absurd rfl hne
  | cons segment later ih =>
    have hsegment := h segment List.mem_cons_self
    cases later with
    | nil =>
      rw [List.intercalate_singleton, cut_eq_splitOnP]
      exact List.splitOnP_eq_singleton hsegment
    | cons next later =>
      have hlater := ih (List.cons_ne_nil _ _) fun s hs => h s (List.mem_cons_of_mem _ hs)
      rw [List.intercalate_cons_cons, List.append_assoc, List.singleton_append,
        cut_append_cons hslash, hlater, cut_eq_splitOnP, List.splitOnP_eq_singleton hsegment]
      rfl

end

/-! ## Resolving -/

/-- Resolve one segment onto a path, at the end of it or before. -/
def step (atEnd : Bool) (path : List String) (segment : List Char) : List String :=
  match dots? segment with
  | some 1 => if atEnd then path ++ [""] else path
  | some 2 => if atEnd then parent path ++ [""] else parent path
  | _ => path ++ [percentEncode pathSet segment]

theorem resolve_cons (path : List String) (segment : List Char) (later : List (List Char)) :
    resolve parent path (segment :: later) =
      resolve parent (step later.isEmpty path segment) later := rfl

/-- The path that segments lead to when more come after them. -/
def advance (path : List String) (segments : List (List Char)) : List String :=
  segments.foldl (step false) path

theorem resolve_append (path : List String) (front : List (List Char))
    {back : List (List Char)} (hback : back ≠ []) :
    resolve parent path (front ++ back) = resolve parent (advance path front) back := by
  induction front generalizing path with
  | nil => rfl
  | cons segment front ih =>
    have hlater : (front ++ back).isEmpty = false := by simp [hback]
    rw [List.cons_append, resolve_cons, hlater, ih]
    rfl

/-- When no more come, they lead to the same path or to the folder of that name. -/
theorem resolve_cases (path : List String) (segments : List (List Char)) :
    resolve parent path segments = advance path segments ∨
      resolve parent path segments = advance path segments ++ [""] := by
  rcases List.eq_nil_or_concat' segments with rfl | ⟨front, segment, rfl⟩
  · exact .inl rfl
  · have hadvance : advance path (front ++ [segment]) = step false (advance path front) segment :=
      List.foldl_append
    rw [resolve_append path front (List.cons_ne_nil _ _), resolve_cons, hadvance]
    show step true _ _ = _ ∨ step true _ _ = _
    unfold step
    split
    · exact .inr rfl
    · exact .inr rfl
    · exact .inl rfl

theorem resolve_replicate (path : List String) (n : Nat) :
    resolve parent path (List.replicate n []) = path ++ List.replicate n "" := by
  induction n generalizing path with
  | zero => exact (List.append_nil path).symm
  | succ n ih =>
    have hstep : step (List.replicate n ([] : List Char)).isEmpty path [] = path ++ [""] := rfl
    rw [List.replicate_succ, resolve_cons, hstep, ih, List.append_assoc]
    rfl

/-! ## Segments that are kept -/

/-- A segment that is no dot segment and has no escapes. -/
def isKept (segment : List Char) : Bool :=
  dots? segment != some 1 && dots? segment != some 2 && !hasEscape segment

theorem step_of_isKept {segment : List Char} (h : isKept segment = true) (atEnd : Bool)
    (path : List String) : step atEnd path segment = path ++ [percentEncode pathSet segment] := by
  simp only [isKept, Bool.and_eq_true, bne_iff_ne] at h
  unfold step
  split
  · rename_i hone
    exact absurd hone h.1.1
  · rename_i htwo
    exact absurd htwo h.1.2
  · rfl

theorem resolve_of_isKept (path : List String) {segments : List (List Char)}
    (h : ∀ segment ∈ segments, isKept segment = true) :
    resolve parent path segments = path ++ segments.map (percentEncode pathSet) := by
  induction segments generalizing path with
  | nil => exact (List.append_nil path).symm
  | cons segment later ih =>
    rw [resolve_cons, step_of_isKept (h segment List.mem_cons_self),
      ih _ fun s hs => h s (List.mem_cons_of_mem _ hs), List.append_assoc]
    rfl

/-- A segment that is kept is decoded to its own bytes. -/
theorem percentDecode_of_isKept {segment : List Char} (h : isKept segment = true) :
    percentDecode (percentEncode pathSet segment).toList = Utf8.bytes segment := by
  simp only [isKept, Bool.and_eq_true, Bool.not_eq_true'] at h
  rw [percentDecode_percentEncode keepsEscapes_pathSet, percentDecode_of_not_hasEscape h.2]

/-! ## Weights -/

/-- How many bytes the segments of a path are decoded to. -/
def weight (path : List String) : Nat := (path.flatMap fun s => percentDecode s.toList).length

theorem weight_nil : weight [] = 0 := rfl

@[simp] theorem weight_append (path path' : List String) :
    weight (path ++ path') = weight path + weight path' := by
  unfold weight
  rw [List.flatMap_append, List.length_append]

theorem weight_cons (s : String) (path : List String) :
    weight (s :: path) = (percentDecode s.toList).length + weight path := by
  unfold weight
  rw [List.flatMap_cons, List.length_append]

theorem weight_parent_le (path : List String) : weight (parent path) ≤ weight path := by
  rcases List.eq_nil_or_concat' path with rfl | ⟨front, last, rfl⟩
  · exact Nat.le_refl _
  · unfold parent
    rw [List.dropLast_concat, weight_append]
    exact Nat.le_add_right _ _

theorem length_bytes_pos {segment : List Char} {n : Nat} (h : dots? segment = some (n + 1)) :
    0 < (Utf8.bytes segment).length := by
  cases segment with
  | nil => cases h
  | cons c rest =>
    have hc := Utf8.length_utf8EncodeChar_pos c
    rw [Utf8.bytes_cons, List.length_append]
    omega

/-- One segment adds at most its own bytes to the weight, and less if it is not kept. -/
theorem weight_step_le (atEnd : Bool) (path : List String) (segment : List Char) :
    weight (step atEnd path segment) + (!isKept segment).toNat ≤
      weight path + (Utf8.bytes segment).length := by
  have hone := Bool.toNat_le (!isKept segment)
  have hempty : weight [""] = 0 := rfl
  unfold step
  split
  · rename_i hdots
    have hpos := length_bytes_pos hdots
    split
    · rw [weight_append, hempty]
      omega
    · omega
  · rename_i hdots
    have hpos := length_bytes_pos hdots
    have hparent := weight_parent_le path
    split
    · rw [weight_append, hempty]
      omega
    · omega
  · rename_i hone htwo
    have hkept : (!isKept segment) = hasEscape segment := by
      unfold isKept
      rw [bne_iff_ne.mpr hone, bne_iff_ne.mpr htwo]
      simp
    have hle := length_percentDecode_le segment
    rw [weight_append, weight_cons, weight_nil, percentDecode_percentEncode keepsEscapes_pathSet,
      hkept]
    omega

/-- So the weight of a path tells how many segments cannot have been kept. -/
theorem weight_resolve_le (path : List String) (segments : List (List Char)) :
    weight (resolve parent path segments) + segments.countP (!isKept ·) ≤
      weight path + (Utf8.bytes segments.flatten).length := by
  induction segments generalizing path with
  | nil => exact Nat.le_refl _
  | cons segment later ih =>
    have hstep := weight_step_le later.isEmpty path segment
    have hlater := ih (step later.isEmpty path segment)
    rw [resolve_cons, List.countP_cons, List.flatten_cons, Utf8.bytes_append, List.length_append]
    cases hkept : isKept segment with
    | true =>
      rw [hkept] at hstep
      simp only [Bool.not_true, Bool.toNat_false, Bool.false_eq_true, if_false] at hstep ⊢
      omega
    | false =>
      rw [hkept] at hstep
      simp only [Bool.not_false, Bool.toNat_true, if_true] at hstep ⊢
      omega

end ServiceLocator.Url.Path
