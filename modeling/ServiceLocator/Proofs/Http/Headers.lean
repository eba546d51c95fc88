import Mathlib.Data.List.Sort
import ServiceLocator.Http.Headers
import ServiceLocator.Proofs.Basic

/-!
Header maps as maps. What is set is found under its name and nowhere else, the entries of
a map are those that can be found (`Headers.get?_eq_some`), and maps in which the same is found
are the same (`Headers.ext_get?`).
-/
namespace ServiceLocator.Headers

/-! ## Setting and finding -/

theorem lookup_place (name value : String) (entries : List (String × String)) (other : String) :
    (place name value entries).lookup other =
      if other = name then some value else entries.lookup other := by
  induction entries with
  | nil => exact lookup_cons_eq name other value []
  | cons entry rest ih =>
    obtain ⟨name', value'⟩ := entry
    rw [place]
    by_cases hless : name < name'
    · rw [if_pos hless, lookup_cons_eq]
    · by_cases hsame : name = name'
      · rw [if_neg hless, if_pos hsame, lookup_cons_eq, lookup_cons_eq, hsame]
        split_ifs <;> rfl
      · rw [if_neg hless, if_neg hsame, lookup_cons_eq, ih, lookup_cons_eq]
        split_ifs with hother hname
        · exact absurd (hname.symm.trans hother) hsame
        all_goals rfl

theorem get?_insert (h : Headers) (name value other : String) :
    (h.insert name value).get? other = if other = name then some value else h.get? other :=
  lookup_place name value h.entries other

theorem get?_empty (name : String) : (∅ : Headers).get? name = none := rfl

/-- The names of a map after one more is set. -/
theorem mem_insert {h : Headers} {name value : String} {entry : String × String}
    (hmem : entry ∈ (h.insert name value).entries) : entry = (name, value) ∨ entry ∈ h.entries :=
  mem_place hmem

/-! ## Parts of a map -/

section

variable (keep : String → Bool) {name : String}

/-- An entry that is set elsewhere is not seen. -/
theorem filter_place_of_neg (hname : keep name = false) (value : String)
    (entries : List (String × String)) :
    (place name value entries).filter (keep ·.1) = entries.filter (keep ·.1) := by
  induction entries with
  | nil => simp [place, hname]
  | cons entry rest ih =>
    rw [place]
    split
    · rw [List.filter_cons_of_neg (by simp [hname])]
    · split
      · rename_i hsame
        rw [List.filter_cons_of_neg (by simp [hname]),
          List.filter_cons_of_neg (by simp [← hsame, hname])]
      · rw [List.filter_cons, List.filter_cons, ih]

/-- An entry that is set where there is none is the only one. -/
theorem filter_place_of_pos (hname : keep name = true) (value : String)
    {entries : List (String × String)} (h : ∀ entry ∈ entries, keep entry.1 = false) :
    (place name value entries).filter (keep ·.1) = [(name, value)] := by
  have hrest : entries.filter (keep ·.1) = [] :=
    List.filter_eq_nil_iff.mpr fun entry hentry => by simp [h entry hentry]
  induction entries with
  | nil => simp [place, hname]
  | cons entry rest ih =>
    have hentry : keep entry.1 = false := h entry List.mem_cons_self
    have hlater : ∀ e ∈ rest, keep e.1 = false := fun e he => h e (List.mem_cons_of_mem _ he)
    rw [place]
    split
    · rw [List.filter_cons_of_pos (by simpa using hname), hrest]
    · split
      · rename_i hsame
        rw [hsame, hentry] at hname
        cases hname
      · rw [List.filter_cons_of_neg (by simp [hentry])] at hrest ⊢
        exact ih hlater hrest

end

/-! ## Entries -/

/-- An entry that comes last in order is put last. -/
theorem place_of_forall_lt {name value : String} {entries : List (String × String)}
    (h : ∀ entry ∈ entries, entry.1 < name) :
    place name value entries = entries ++ [(name, value)] := by
  induction entries with
  | nil => rfl
  | cons entry rest ih =>
    have hentry : entry.1 < name := h entry List.mem_cons_self
    have hne : name ≠ entry.1 := by
      rintro rfl
      exact String.lt_irrefl _ hentry
    rw [place, if_neg (String.lt_asymm hentry), if_neg hne,
      ih fun e he => h e (List.mem_cons_of_mem _ he)]
    rfl

/-- Headers that are set in order are the entries of the map. -/
theorem entries_ofList {entries : List (String × String)}
    (h : entries.Pairwise fun a b => a.1 < b.1) : (ofList entries).entries = entries := by
  have hfold : ∀ (done : Headers) (rest : List (String × String)),
      (done.entries ++ rest).Pairwise (fun a b => a.1 < b.1) →
      (rest.foldl (fun h entry => h.insert entry.1 entry.2) done).entries =
        done.entries ++ rest := by
    intro done rest
    induction rest generalizing done with
    | nil =>
      intro _
      rw [List.append_nil]
      rfl
    | cons entry rest ih =>
      intro hsorted
      have hlast : (done.insert entry.1 entry.2).entries = done.entries ++ [entry] :=
        place_of_forall_lt fun e he =>
          (List.pairwise_append.mp hsorted).2.2 e he entry List.mem_cons_self
      rw [List.foldl_cons, ih _ (by rw [hlast]; simpa using hsorted), hlast]
      simp
  exact hfold empty entries h

/-- Of the entries of a name up to case there is only one, if all names are in lower case. -/
theorem filter_sameName {entries : List (String × String)}
    (hsorted : entries.Pairwise fun a b => a.1 < b.1)
    (hlower : ∀ entry ∈ entries, asciiLower entry.1 = entry.1) {name : String}
    (hname : asciiLower name = name) :
    entries.filter (sameName ·.1 name) = (entries.lookup name).toList.map (name, ·) := by
  induction entries with
  | nil => rfl
  | cons entry rest ih =>
    obtain ⟨habove, hrest⟩ := List.pairwise_cons.mp hsorted
    have hsame : sameName entry.1 name = (name == entry.1) := by
      rw [sameName, hlower entry List.mem_cons_self, hname]
      exact BEq.comm
    rw [List.filter_cons, List.lookup_cons, hsame]
    cases hentry : name == entry.1 with
    | true =>
      obtain rfl := beq_iff_eq.mp hentry
      have hnone : rest.filter (sameName ·.1 entry.1) = [] := by
        refine List.filter_eq_nil_iff.mpr fun e he hsame => ?_
        rw [sameName, hlower e (List.mem_cons_of_mem _ he), hname, beq_iff_eq] at hsame
        exact String.lt_irrefl _ (hsame ▸ habove e he)
      simp [hnone]
    | false =>
      simp only [Bool.false_eq_true, if_false]
      exact ih hrest fun e he => hlower e (List.mem_cons_of_mem _ he)

/-! ## Maps -/

section

variable {h : Headers}

/-- What is found in a map are its entries. -/
theorem get?_eq_some {name value : String} :
    h.get? name = some value ↔ (name, value) ∈ h.entries := by
  obtain ⟨entries, hsorted⟩ := h
  show entries.lookup name = some value ↔ (name, value) ∈ entries
  induction entries with
  | nil => simp
  | cons entry rest ih =>
    obtain ⟨habove, hrest⟩ := List.pairwise_cons.mp hsorted
    rw [lookup_cons_eq, List.mem_cons]
    by_cases hname : name = entry.1
    · -- The names after the first are greater, so none of them is the same.
      have hlater : (name, value) ∉ rest := fun hmem =>
        String.lt_irrefl _ (hname ▸ habove _ hmem)
      rw [if_pos hname, or_iff_left hlater, hname, Prod.ext_iff]
      simp [eq_comm]
    · have hfirst : (name, value) ≠ entry := fun heq => hname (congrArg Prod.fst heq)
      rw [if_neg hname, or_iff_right hfirst, ih hrest]

/-- Maps in which the same is found are the same. -/
theorem ext_get? {h' : Headers} (hget : ∀ name, h.get? name = h'.get? name) : h = h' := by
  have hmem : ∀ entry, entry ∈ h.entries ↔ entry ∈ h'.entries := by
    rintro ⟨name, value⟩
    rw [← get?_eq_some, ← get?_eq_some, hget]
  have : Std.Irrefl fun a b : String × String => a.1 < b.1 := ⟨fun _ => String.lt_irrefl _⟩
  have : Std.Antisymm fun a b : String × String => a.1 < b.1 :=
    ⟨fun _ _ hlt hgt => absurd hgt (String.lt_asymm hlt)⟩
  have hentries := h.sorted.eq_of_mem_iff h'.sorted hmem
  cases h
  cases h'
  cases hentries
  rfl

theorem get?_filter (h : Headers) (keep : String → Bool) (name : String) :
    (h.filter keep).get? name = if keep name then h.get? name else none := by
  refine Option.ext fun value => ?_
  rw [get?_eq_some]
  show (name, value) ∈ h.entries.filter (keep ·.1) ↔ _
  rw [List.mem_filter, Option.ite_none_right_eq_some, get?_eq_some, and_comm]

variable {p : String → Bool} {entry : String × String}

/-- No entry of a kind comes after the last one. -/
theorem le_of_getLast?_filter (hlast : (h.entries.filter (p ·.1)).getLast? = some entry)
    {other : String × String} (hother : other ∈ h.entries) (hkeep : p other.1 = true) :
    other.1 ≤ entry.1 := by
  obtain ⟨front, hfront⟩ := List.getLast?_eq_some_iff.mp hlast
  have hsorted : (front ++ [entry]).Pairwise fun a b => a.1 < b.1 := hfront ▸ h.sorted.filter _
  have hmem : other ∈ front ++ [entry] := hfront ▸ List.mem_filter.mpr ⟨hother, hkeep⟩
  rcases List.mem_append.mp hmem with hbefore | hsame
  · have hlt := (List.pairwise_append.mp hsorted).2.2 other hbefore _ (List.mem_singleton_self _)
    exact String.not_lt.mp (String.lt_asymm hlt)
  · obtain rfl := List.mem_singleton.mp hsame
    exact String.not_lt.mp (String.lt_irrefl _)

/-- The last entry of a kind is the one with the greatest name. -/
theorem getLast?_filter_eq_some :
    (h.entries.filter (p ·.1)).getLast? = some entry ↔
      entry ∈ h.entries ∧ p entry.1 = true ∧
        ∀ other ∈ h.entries, p other.1 = true → other.1 ≤ entry.1 := by
  constructor
  · intro hlast
    obtain ⟨hmem, hkeep⟩ := List.mem_filter.mp (List.mem_of_getLast? hlast)
    exact ⟨hmem, hkeep, fun other => le_of_getLast?_filter hlast⟩
  · rintro ⟨hmem, hkeep, hgreatest⟩
    have hfound : entry ∈ h.entries.filter (p ·.1) := List.mem_filter.mpr ⟨hmem, hkeep⟩
    cases hlast : (h.entries.filter (p ·.1)).getLast? with
    | none =>
      rw [List.getLast?_eq_none_iff.mp hlast] at hfound
      cases hfound
    | some last =>
      -- Both are greatest, so they have one name, under which one value is found.
      obtain ⟨hmem', hkeep'⟩ := List.mem_filter.mp (List.mem_of_getLast? hlast)
      have hname : last.1 = entry.1 := String.le_antisymm (hgreatest last hmem' hkeep')
        (le_of_getLast?_filter hlast hmem hkeep)
      have hvalue : some last.2 = some entry.2 := by
        rw [← get?_eq_some.mpr hmem', ← get?_eq_some.mpr hmem, hname]
      exact congrArg some (Prod.ext hname (Option.some.inj hvalue))

end

end ServiceLocator.Headers
