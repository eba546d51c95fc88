import ServiceLocator.Locator.Descriptor
import ServiceLocator.Proofs.Json.Object

/-!
What an entry of a listing describes. An entry is an object with a role and up to two addresses,
or a list of them in this order (`Descriptor.Describes`); whatever else it is, it describes
nothing, and neither does it if one of the three is of the wrong kind.
-/
namespace ServiceLocator.Descriptor

open Json (Value)

variable {members : List (String × Value)} {name : String} {v : Value} {f : Fields}

/-- What a place of an entry gives as an address: none if it is missing or null. -/
inductive Gives : Option Value → Option String → Prop
  | missing : Gives none none
  | null : Gives (some .null) none
  | text (s) : Gives (some (.string s)) (some s)

/-- What an entry describes. -/
inductive Describes : Value → Descriptor → Prop
  | object {members d} : members.lookup "role" = some (.string d.role) →
      Gives (members.lookup "uri") d.uri → Gives (members.lookup "publicUri") d.publicUri →
      Describes (.object members) d
  | array {items d} : items.length ≤ 3 → items[0]? = some (.string d.role) →
      Gives items[1]? d.uri → Gives items[2]? d.publicUri → Describes (.array items) d

theorem Gives.unique {place : Option Value} {s s' : Option String} (h : Gives place s)
    (h' : Gives place s') : s = s' := by
  cases h <;> cases h' <;> rfl

/-- An entry describes one thing at most. -/
theorem Describes.unique {d d' : Descriptor} (h : Describes v d) (h' : Describes v d') :
    d = d' := by
  obtain ⟨role, uri, publicUri⟩ := d
  obtain ⟨role', uri', publicUri'⟩ := d'
  cases h with
  | object hr hu hp =>
    cases h' with
    | object hr' hu' hp' =>
      cases Option.some.inj (hr.symm.trans hr')
      cases hu.unique hu'
      cases hp.unique hp'
      rfl
  | array _ hr hu hp =>
    cases h' with
    | array _ hr' hu' hp' =>
      cases Option.some.inj (hr.symm.trans hr')
      cases hu.unique hu'
      cases hp.unique hp'
      rfl

/-! ## Values -/

theorem stringOf_eq_ok {s : String} : stringOf v = .ok s ↔ v = .string s := by
  cases v <;> simp [stringOf]

theorem optionalStringOf_eq_ok {s : Option String} :
    optionalStringOf v = .ok s ↔ Gives (some v) s := by
  constructor
  · intro h
    cases v with
    | null =>
      cases h
      exact .null
    | string s' =>
      cases h
      exact .text s'
    | _ => cases h
  · rintro (_ | _ | _) <;> rfl

/-! ## Fields -/

/-- The names of the fields. -/
def fieldNames : List String := ["role", "uri", "publicUri"]

/-- No field is named twice. -/
def NamedOnce (members : List (String × Value)) : Prop :=
  ∀ name ∈ fieldNames, (members.map (·.1)).count name ≤ 1

theorem NamedOnce.of_ordered (h : Json.Ordered members) : NamedOnce members :=
  fun name _ => h.count_le_one name

/-- What becomes of a field as members are taken up: the last of its name settles it, and all of
them have to be of its kind. -/
def Settles {α : Type} (key : String) (read : Value → Except Json.Cause α) :
    Option α → List (String × Value) → Option α → Prop
  | old, [], new => new = old
  | old, (name, v) :: members, new =>
    if name = key then ∃ x, read v = .ok x ∧ Settles key read (some x) members new
    else Settles key read old members new

/-- Each field is settled apart from the others. -/
theorem fieldsOf_eq_ok {f g : Fields} :
    fieldsOf f members = .ok g ↔ Settles "role" stringOf f.role members g.role ∧
      Settles "uri" optionalStringOf f.uri members g.uri ∧
      Settles "publicUri" optionalStringOf f.publicUri members g.publicUri := by
  induction members generalizing f with
  | nil =>
    obtain ⟨role, uri, publicUri⟩ := f
    obtain ⟨role', uri', publicUri'⟩ := g
    simp [fieldsOf, Settles, eq_comm]
  | cons m members ih =>
    obtain ⟨name, v⟩ := m
    by_cases hrole : name = "role"
    · subst hrole
      cases hs : stringOf v <;> simp [fieldsOf, Settles, Bind.bind, Except.bind, hs, ih]
    · by_cases huri : name = "uri"
      · subst huri
        cases hs : optionalStringOf v <;> simp [fieldsOf, Settles, Bind.bind, Except.bind, hs, ih]
      · by_cases hpublicUri : name = "publicUri"
        · subst hpublicUri
          cases hs : optionalStringOf v <;>
            simp [fieldsOf, Settles, Bind.bind, Except.bind, hs, ih]
        · simp only [fieldsOf, Settles, hrole, huri, hpublicUri, if_false, ih]

/-- A field that is not named stays as it is. -/
theorem settles_of_count {α : Type} {key : String} {read : Value → Except Json.Cause α}
    {old new : Option α} (h : (members.map (·.1)).count key = 0) :
    Settles key read old members new ↔ new = old := by
  induction members with
  | nil => exact Iff.rfl
  | cons m members ih =>
    obtain ⟨name, v⟩ := m
    rw [List.map_cons, List.count_cons, Nat.add_eq_zero_iff] at h
    obtain ⟨hcount, hname⟩ := h
    have hne : name ≠ key := by
      rintro rfl
      simp at hname
    rw [Settles, if_neg hne, ih hcount]

/-- A field that is named once is what the member of its name gives. -/
theorem settles_iff {α : Type} {key : String} {read : Value → Except Json.Cause α}
    {given : Option α} (h : (members.map (·.1)).count key ≤ 1) :
    Settles key read none members given ↔ (members.lookup key).mapM read = .ok given := by
  induction members with
  | nil => simp [Settles, pure, Except.pure, eq_comm]
  | cons m members ih =>
    obtain ⟨name, v⟩ := m
    rw [List.map_cons, List.count_cons] at h
    rw [Settles, lookup_cons_eq]
    split_ifs with hname hkey hkey
    · subst hname
      have hcount : (members.map (·.1)).count name = 0 := by
        rw [if_pos BEq.rfl] at h
        exact Nat.le_zero.mp (Nat.le_of_succ_le_succ h)
      simp only [settles_of_count hcount]
      cases hx : read v <;> simp [hx, Functor.map, Except.map, eq_comm]
    · exact absurd hname.symm hkey
    · exact absurd hkey.symm hname
    · exact ih (Nat.le_trans (Nat.le_add_right _ _) h)

/-! ## Entries -/

theorem mapM_stringOf_eq_ok {place : Option Value} {s : String} :
    place.mapM stringOf = .ok (some s) ↔ place = some (.string s) := by
  cases place with
  | none => simp [pure, Except.pure]
  | some v => cases v <;> simp [stringOf, Functor.map, Except.map]

/-- An address that is not given is missing. -/
theorem mapM_optionalStringOf_eq_ok {place : Option Value} {s : Option String} :
    (∃ given, place.mapM optionalStringOf = .ok given ∧ given.getD none = s) ↔ Gives place s := by
  cases place with
  | none =>
    constructor
    · rintro ⟨given, h, rfl⟩
      cases h
      exact .missing
    · rintro ⟨⟩
      exact ⟨none, rfl, rfl⟩
  | some v =>
    rw [← optionalStringOf_eq_ok]
    cases hv : optionalStringOf v <;> simp [hv, Functor.map, Except.map]

theorem toDescriptor?_eq_some {d : Descriptor} : f.toDescriptor? = some d ↔
    f.role = some d.role ∧ f.uri.getD none = d.uri ∧ f.publicUri.getD none = d.publicUri := by
  obtain ⟨role, uri, publicUri⟩ := d
  simp [Fields.toDescriptor?]

theorem ofValue_object_eq_ok_iff {d : Descriptor} : ofValue (.object members) = .ok d ↔
    ∃ f, fieldsOf .none members = .ok f ∧ f.toDescriptor? = some d := by
  rw [ofValue]
  cases fieldsOf .none members with
  | error cause => exact ⟨nofun, nofun⟩
  | ok f =>
    cases hd : f.toDescriptor? <;> simp [Bind.bind, Except.bind, hd]

theorem ofValue_object_eq_ok {d : Descriptor} (h : NamedOnce members) :
    ofValue (.object members) = .ok d ↔ Describes (.object members) d := by
  have hrole := h "role" (by decide)
  have huri := h "uri" (by decide)
  have hpublicUri := h "publicUri" (by decide)
  simp only [ofValue_object_eq_ok_iff, toDescriptor?_eq_some, fieldsOf_eq_ok]
  constructor
  · rintro ⟨f, ⟨hr, hu, hp⟩, hdr, hdu, hdp⟩
    rw [Fields.none, settles_iff ‹_›] at hr hu hp
    exact .object (mapM_stringOf_eq_ok.mp (hdr ▸ hr)) (mapM_optionalStringOf_eq_ok.mp ⟨_, hu, hdu⟩)
      (mapM_optionalStringOf_eq_ok.mp ⟨_, hp, hdp⟩)
  · rintro (⟨hr, hu, hp⟩ | _)
    obtain ⟨uri, hu, hdu⟩ := mapM_optionalStringOf_eq_ok.mpr hu
    obtain ⟨publicUri, hp, hdp⟩ := mapM_optionalStringOf_eq_ok.mpr hp
    refine ⟨⟨some d.role, uri, publicUri⟩, ⟨?_, ?_, ?_⟩, rfl, hdu, hdp⟩
    · exact (settles_iff hrole).mpr (mapM_stringOf_eq_ok.mpr hr)
    · exact (settles_iff huri).mpr hu
    · exact (settles_iff hpublicUri).mpr hp

theorem gives_none {s : Option String} : Gives none s ↔ none = s := by
  constructor
  · rintro ⟨⟩
    rfl
  · rintro rfl
    exact .missing

theorem describes_array {items : List Value} {d : Descriptor} : Describes (.array items) d ↔
    items.length ≤ 3 ∧ items[0]? = some (.string d.role) ∧ Gives items[1]? d.uri ∧
      Gives items[2]? d.publicUri := by
  constructor
  · rintro (_ | ⟨hlength, hrole, huri, hpublicUri⟩)
    exact ⟨hlength, hrole, huri, hpublicUri⟩
  · rintro ⟨hlength, hrole, huri, hpublicUri⟩
    exact .array hlength hrole huri hpublicUri

theorem ofValue_array_eq_ok {items : List Value} {d : Descriptor} :
    ofValue (.array items) = .ok d ↔ Describes (.array items) d := by
  rw [describes_array]
  obtain ⟨role, uri, publicUri⟩ := d
  match items with
  | [] => exact ⟨nofun, nofun⟩
  | [v] =>
    cases hr : stringOf v <;>
      simp [ofValue, Bind.bind, Except.bind, hr, gives_none, ← stringOf_eq_ok]
  | [v, w] =>
    cases hr : stringOf v <;> cases hu : optionalStringOf w <;>
      simp [ofValue, Bind.bind, Except.bind, hr, hu, gives_none, ← stringOf_eq_ok,
        ← optionalStringOf_eq_ok]
  | [v, w, x] =>
    cases hr : stringOf v <;> cases hu : optionalStringOf w <;> cases hp : optionalStringOf x <;>
      simp [ofValue, Bind.bind, Except.bind, hr, hu, hp, ← stringOf_eq_ok, ← optionalStringOf_eq_ok]
  | v :: w :: x :: y :: more =>
    cases hr : stringOf v <;> cases hu : optionalStringOf w <;> cases hp : optionalStringOf x <;>
      simp [ofValue, Bind.bind, Except.bind, hr, hu, hp]

theorem ofValue_eq_ok (h : v.Ordered) {d : Descriptor} : ofValue v = .ok d ↔ Describes v d := by
  cases v with
  | object members => exact ofValue_object_eq_ok (.of_ordered h)
  | array items => exact ofValue_array_eq_ok
  | null | bool | number | string => exact ⟨nofun, nofun⟩

end ServiceLocator.Descriptor
