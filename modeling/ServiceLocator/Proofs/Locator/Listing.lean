import ServiceLocator.Proofs.Client.Addresses
import ServiceLocator.Proofs.Locator.Descriptor

/-!
Choosing from a listing. The entries that describe a service are taken up in their order
(`Listing.Reads`), and the first one of a role decides on its address (`Listing.FirstFor`). So
neither entries of other roles and entries that describe nothing matter, nor what follows the
first one of the role.
-/
namespace ServiceLocator.Listing

open Descriptor (Describes ofValue_eq_ok)
open Json (Value)

/-- The descriptors of the entries that describe something, in their order. -/
inductive Reads : List Value → List Descriptor → Prop
  | nil : Reads [] []
  | take {v d entries ds} : Describes v d → Reads entries ds → Reads (v :: entries) (d :: ds)
  | skip {v entries ds} : (∀ d, ¬Describes v d) → Reads entries ds → Reads (v :: entries) ds

/-- An entry describes a service of a role. -/
def Offers (v : Value) (name : String) : Prop :=
  ∃ d, Describes v d ∧ d.role = name

/-- What the first entry of a role describes. -/
inductive FirstFor (name : String) : List Value → Descriptor → Prop
  | here {v : Value} {d entries} : Describes v d → d.role = name → FirstFor name (v :: entries) d
  | later {v : Value} {d entries} : ¬Offers v name → FirstFor name entries d →
      FirstFor name (v :: entries) d

/-! ## Reading entries -/

variable {entries before : List Value} {ds : List Descriptor} {v : Value} {d : Descriptor}
  {name : String} {caller : Caller}

theorem descriptors_cons_of_ok (h : Descriptor.ofValue v = .ok d) (entries : List Value) :
    descriptors (v :: entries) = d :: descriptors entries := by
  rw [descriptors, List.filterMap_cons, h]
  rfl

theorem descriptors_cons_of_error {cause : Json.Cause} (h : Descriptor.ofValue v = .error cause)
    (entries : List Value) : descriptors (v :: entries) = descriptors entries := by
  rw [descriptors, List.filterMap_cons, h]
  rfl

theorem descriptors_cons_of_describes (hv : v.Ordered) (h : Describes v d)
    (entries : List Value) : descriptors (v :: entries) = d :: descriptors entries :=
  descriptors_cons_of_ok ((ofValue_eq_ok hv).mpr h) entries

theorem descriptors_cons_of_refused (hv : v.Ordered) (h : ∀ d, ¬Describes v d)
    (entries : List Value) : descriptors (v :: entries) = descriptors entries := by
  cases hread : Descriptor.ofValue v with
  | error cause => exact descriptors_cons_of_error hread entries
  | ok d => exact absurd ((ofValue_eq_ok hv).mp hread) (h d)

theorem descriptors_append (before after : List Value) :
    descriptors (before ++ after) = descriptors before ++ descriptors after :=
  List.filterMap_append

theorem reads_descriptors (h : ∀ v ∈ entries, v.Ordered) : Reads entries (descriptors entries) := by
  induction entries with
  | nil => exact .nil
  | cons v entries ih =>
    have hv := h v List.mem_cons_self
    have hentries := ih fun w hw => h w (List.mem_cons_of_mem _ hw)
    by_cases hd : ∃ d, Describes v d
    · obtain ⟨d, hd⟩ := hd
      rw [descriptors_cons_of_describes hv hd]
      exact .take hd hentries
    · have hnone := not_exists.mp hd
      rw [descriptors_cons_of_refused hv hnone]
      exact .skip hnone hentries

theorem reads_iff (h : ∀ v ∈ entries, v.Ordered) : Reads entries ds ↔ ds = descriptors entries := by
  constructor
  · intro hreads
    induction hreads with
    | nil => rfl
    | take hd _ ih =>
      rw [descriptors_cons_of_describes (h _ List.mem_cons_self) hd,
        ih fun w hw => h w (List.mem_cons_of_mem _ hw)]
    | skip hnone _ ih =>
      rw [descriptors_cons_of_refused (h _ List.mem_cons_self) hnone,
        ih fun w hw => h w (List.mem_cons_of_mem _ hw)]
  · rintro rfl
    exact reads_descriptors h

theorem Reads.mem_iff (h : Reads entries ds) : d ∈ ds ↔ ∃ v ∈ entries, Describes v d := by
  induction h with
  | nil => simp
  | @take v d' entries ds hd' _ ih =>
    rw [List.mem_cons, List.exists_mem_cons_iff, ih]
    refine or_congr_left ⟨?_, fun hd => hd.unique hd'⟩
    rintro rfl
    exact hd'
  | skip hnone _ ih =>
    rw [List.exists_mem_cons_iff, ih]
    exact (or_iff_right (hnone d)).symm

/-! ## The first entry of a role -/

theorem Reads.find?_eq_some (h : Reads entries ds) :
    ds.find? (·.role == name) = some d ↔ FirstFor name entries d := by
  induction h with
  | nil => exact ⟨nofun, nofun⟩
  | @take v d' entries ds hd' _ ih =>
    rw [List.find?_cons]
    by_cases hrole : d'.role = name
    · rw [beq_iff_eq.mpr hrole]
      constructor
      · rintro ⟨⟩
        exact .here hd' hrole
      · rintro (⟨hd, _⟩ | ⟨hother, _⟩)
        · exact congrArg some (hd'.unique hd)
        · exact absurd ⟨d', hd', hrole⟩ hother
    · rw [beq_eq_false_iff_ne.mpr hrole]
      refine ih.trans ⟨.later ?_, ?_⟩
      · rintro ⟨d'', hd'', hrole'⟩
        exact hrole (hd'.unique hd'' ▸ hrole')
      · rintro (⟨hd, hrole'⟩ | ⟨_, hfirst⟩)
        · exact absurd (hd.unique hd' ▸ hrole') hrole
        · exact hfirst
  | skip hnone _ ih =>
    refine ih.trans ⟨.later fun ⟨d', hd', _⟩ => hnone d' hd', ?_⟩
    rintro (⟨hd, _⟩ | ⟨_, hfirst⟩)
    · exact absurd hd (hnone _)
    · exact hfirst

theorem find?_descriptors (h : ∀ v ∈ entries, v.Ordered) :
    (descriptors entries).find? (·.role == name) = some d ↔ FirstFor name entries d :=
  (reads_descriptors h).find?_eq_some

theorem find?_descriptors_eq_none (h : ∀ v ∈ entries, v.Ordered) :
    (descriptors entries).find? (·.role == name) = none ↔ ∀ v ∈ entries, ¬Offers v name := by
  rw [List.find?_eq_none]
  constructor
  · rintro hnone v hv ⟨d, hd, hrole⟩
    exact hnone d ((reads_descriptors h).mem_iff.mpr ⟨v, hv, hd⟩) (beq_iff_eq.mpr hrole)
  · intro hnone d hd hrole
    obtain ⟨v, hv, hdescribes⟩ := (reads_descriptors h).mem_iff.mp hd
    exact hnone v hv ⟨d, hdescribes, beq_iff_eq.mp hrole⟩

/-! ## The address -/

theorem select_eq_ok {address : String} : select ds name caller = .ok address ↔
    ∃ d, ds.find? (·.role == name) = some d ∧ d.listedFor caller = some address ∧
      address ≠ "" := by
  simp only [← Descriptor.addressFor_eq_some, ← Option.bind_eq_some_iff]
  unfold select
  cases (ds.find? (·.role == name)).bind (·.addressFor caller) <;> simp

/-- The first entry of the role gives the address. -/
theorem select_descriptors_eq_ok (h : ∀ v ∈ entries, v.Ordered) {address : String} :
    select (descriptors entries) name caller = .ok address ↔
      ∃ d, FirstFor name entries d ∧ d.listedFor caller = some address ∧ address ≠ "" := by
  simp only [select_eq_ok, find?_descriptors h]

theorem select_eq_error {e : CallError} : select ds name caller = .error e ↔
    e = .serviceNotFound name ∧ ∀ address, select ds name caller ≠ .ok address := by
  unfold select
  cases (ds.find? (·.role == name)).bind (·.addressFor caller) <;> simp [eq_comm]

/-- What precedes the first entry of a role, and all that follows it, has no part in the choice. -/
theorem select_congr {ds' : List Descriptor}
    (h : ds.find? (·.role == name) = ds'.find? (·.role == name)) (caller : Caller) :
    select ds name caller = select ds' name caller := by
  unfold select
  rw [h]

theorem select_insert {middle : List Value} (h : ∀ v ∈ middle, v.Ordered)
    (hother : ∀ v ∈ middle, ¬Offers v name) (before after : List Value) (caller : Caller) :
    select (descriptors (before ++ middle ++ after)) name caller =
      select (descriptors (before ++ after)) name caller := by
  refine select_congr ?_ caller
  simp only [descriptors_append, List.find?_append, (find?_descriptors_eq_none h).mpr hother,
    Option.or_none]

theorem select_append (h : ∀ v ∈ before, v.Ordered) (hfirst : ∃ v ∈ before, Offers v name)
    (after : List Value) (caller : Caller) :
    select (descriptors (before ++ after)) name caller =
      select (descriptors before) name caller := by
  refine select_congr ?_ caller
  rw [descriptors_append, List.find?_append]
  cases hfind : (descriptors before).find? (·.role == name) with
  | some d => rfl
  | none =>
    obtain ⟨v, hv, hoffers⟩ := hfirst
    exact absurd hoffers ((find?_descriptors_eq_none h).mp hfind v hv)

/-- The choice from a listing is exact. The entries that describe a service are read in their
order, and the first of the role gives the address for the caller, or none if it has no usable
one, whatever the later ones offer. Entries that describe nothing or another role can be put in
and taken out anywhere, and anything can be put after the first of the role. -/
theorem first_entry_decides (h : ∀ v ∈ entries, v.Ordered) (name : String) (caller : Caller) :
    (∀ ds, Reads entries ds ↔ ds = descriptors entries) ∧
    (∀ address, select (descriptors entries) name caller = .ok address ↔
      ∃ d, FirstFor name entries d ∧ d.listedFor caller = some address ∧ address ≠ "") ∧
    (∀ e, select (descriptors entries) name caller = .error e ↔ e = .serviceNotFound name ∧
      ¬∃ d address, FirstFor name entries d ∧ d.listedFor caller = some address ∧ address ≠ "") ∧
    (∀ d, FirstFor name entries d → (∀ address, d.listedFor caller = some address → address = "") →
      select (descriptors entries) name caller = .error (.serviceNotFound name)) ∧
    (∀ before middle after, entries = before ++ middle ++ after →
      (∀ v ∈ middle, ¬Offers v name) → select (descriptors entries) name caller =
        select (descriptors (before ++ after)) name caller) ∧
    (∀ before after, entries = before ++ after → (∃ v ∈ before, Offers v name) →
      select (descriptors entries) name caller = select (descriptors before) name caller) := by
  have hok (address : String) :
      select (descriptors entries) name caller = .ok address ↔ ∃ d, FirstFor name entries d ∧
        d.listedFor caller = some address ∧ address ≠ "" := select_descriptors_eq_ok h
  have herror : ∀ e, select (descriptors entries) name caller = .error e ↔
      e = .serviceNotFound name ∧ ¬∃ d address, FirstFor name entries d ∧
        d.listedFor caller = some address ∧ address ≠ "" := by
    intro e
    rw [select_eq_error, exists_comm, not_exists]
    simp only [ne_eq, hok]
  refine ⟨fun _ => reads_iff h, hok, herror, ?_, ?_, ?_⟩
  · intro d hfirst hempty
    refine (herror _).mpr ⟨rfl, ?_⟩
    rintro ⟨d', address, hfirst', hlisted, hne⟩
    have hsame : d' = d := Option.some.inj
      (((find?_descriptors h).mpr hfirst').symm.trans ((find?_descriptors h).mpr hfirst))
    exact hne (hempty address (hsame ▸ hlisted))
  · rintro before middle after rfl hother
    exact select_insert (fun v hv => h v (by simp [hv])) hother before after caller
  · rintro before after rfl hfirst
    exact select_append (fun v hv => h v (List.mem_append_left _ hv)) hfirst after caller

/-- The first entry is of the wrong kind, the second has an empty address, and the third is not
asked. -/
theorem first_entry_decides_empty :
    (∀ v ∈ [Value.object [("role", .number (.integer 42))],
        .object [("role", .string "auth"), ("uri", .string "")],
        .array [.string "auth", .string "i:"]], v.Ordered) ∧
      select (descriptors [.object [("role", .number (.integer 42))],
        .object [("role", .string "auth"), ("uri", .string "")],
        .array [.string "auth", .string "i:"]]) "auth" (.internal "l:") =
          .error (.serviceNotFound "auth") := by
  have hordered : ∀ v ∈ [Value.object [("role", .number (.integer 42))],
      .object [("role", .string "auth"), ("uri", .string "")],
      .array [.string "auth", .string "i:"]], v.Ordered := by decide
  have hrefused : ¬Offers (.object [("role", .number (.integer 42))]) "auth" := by
    rintro ⟨d, ⟨hrole, _, _⟩ | _, _⟩
    cases hrole
  have hempty : Describes (.object [("role", .string "auth"), ("uri", .string "")])
      ⟨"auth", some "", none⟩ := .object rfl (.text "") .missing
  refine ⟨hordered, (first_entry_decides hordered "auth" (.internal "l:")).2.2.2.1 _
    (.later hrefused (.here hempty rfl)) ?_⟩
  intro address hlisted
  exact (Option.some.inj hlisted).symm

end ServiceLocator.Listing
