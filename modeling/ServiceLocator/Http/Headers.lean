/-!
Header maps: one value for each name, in the order of the names. Names of one
spelling only are the same entry; spellings that differ in case are different ones.
-/
namespace ServiceLocator

/-- Text with the letters of ASCII in lower case. -/
def asciiLower (s : String) : String :=
  String.ofList (s.toList.map Char.toLower)

/-- Whether two header names are equal up to ASCII case. -/
def sameName (a b : String) : Bool := asciiLower a == asciiLower b

/-- Names and values, names strictly increasing. -/
structure Headers where
  entries : List (String × String)
  sorted : entries.Pairwise fun a b => a.1 < b.1

namespace Headers

/-- Put an entry in its place; an entry of that name takes the new value. -/
def place (name value : String) : List (String × String) → List (String × String)
  | [] => [(name, value)]
  | entry :: rest =>
    if name < entry.1 then (name, value) :: entry :: rest
    else if name = entry.1 then (name, value) :: rest
    else entry :: place name value rest

theorem mem_place {name value : String} {entries : List (String × String)}
    {entry : String × String} (h : entry ∈ place name value entries) :
    entry = (name, value) ∨ entry ∈ entries := by
  induction entries with
  | nil => simpa [place] using h
  | cons first rest ih =>
    simp only [place] at h
    split at h
    · simpa using h
    · split at h
      · rcases List.mem_cons.mp h with h | h
        · exact .inl h
        · exact .inr (List.mem_cons_of_mem _ h)
      · rcases List.mem_cons.mp h with h | h
        · exact .inr (by simp [h])
        · exact (ih h).imp id (List.mem_cons_of_mem _)

theorem place_sorted (name value : String) {entries : List (String × String)}
    (h : entries.Pairwise fun a b => a.1 < b.1) :
    (place name value entries).Pairwise fun a b => a.1 < b.1 := by
  induction entries with
  | nil => simp [place]
  | cons first rest ih =>
    obtain ⟨above, tail⟩ := List.pairwise_cons.mp h
    simp only [place]
    split
    · rename_i less
      refine List.pairwise_cons.mpr ⟨fun entry member => ?_, h⟩
      rcases List.mem_cons.mp member with rfl | member
      · exact less
      · exact String.lt_trans less (above entry member)
    · split
      · rename_i same
        exact List.pairwise_cons.mpr ⟨fun entry member => same ▸ above entry member, tail⟩
      · rename_i notLess different
        refine List.pairwise_cons.mpr ⟨fun entry member => ?_, ih tail⟩
        rcases mem_place member with rfl | member
        · refine Decidable.byContradiction fun notAbove => different ?_
          exact String.le_antisymm (String.not_lt.mp notAbove) (String.not_lt.mp notLess)
        · exact above entry member

/-- No headers. -/
def empty : Headers := ⟨[], .nil⟩

/-- Set one header. -/
def insert (h : Headers) (name value : String) : Headers :=
  ⟨place name value h.entries, place_sorted name value h.sorted⟩

/-- Keep the headers whose name satisfies a test. -/
def filter (h : Headers) (keep : String → Bool) : Headers :=
  ⟨h.entries.filter (keep ·.1), h.sorted.filter _⟩

/-- The value of a name as spelled. -/
def get? (h : Headers) (name : String) : Option String := h.entries.lookup name

/-- Set headers one after the other. -/
def ofList (entries : List (String × String)) : Headers :=
  entries.foldl (fun h entry => h.insert entry.1 entry.2) empty

/-- The names in order. -/
def names (h : Headers) : List String := h.entries.map (·.1)

/-- The names in one line. Values are not shown, since they can be secret. -/
def nameLine (h : Headers) : String := ", ".intercalate h.names

instance : EmptyCollection Headers := ⟨empty⟩

instance : DecidableEq Headers := fun a b =>
  if h : a.entries = b.entries then
    .isTrue (by cases a; cases b; simp_all)
  else .isFalse fun same => h (same ▸ rfl)

end Headers

end ServiceLocator
