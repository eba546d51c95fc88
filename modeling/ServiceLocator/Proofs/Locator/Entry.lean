import ServiceLocator.Proofs.Json.Skip
import ServiceLocator.Proofs.Locator.Descriptor

/-!
An entry read from a text. It is read as it would be from the value that the text stands for
(`Descriptor.read_object`, `Descriptor.listed_eq_ok`), but for one thing: an object that names a
field twice is refused, while the value keeps the last member of each name.
-/
namespace ServiceLocator.Descriptor

open Json hiding Value string
open Json (Value)

variable {depth : Nat} {here next next' rest after after' tail : Bytes} {v : Value} {name : String}
  {f g : Fields} {d : Descriptor}

/-! ## Texts -/

/-- A text is read where a value is read exactly if the value is that text. -/
theorem expectString_eq_ok (h : value depth here = .ok (v, next)) {s : String} :
    expectString here = .ok (s, next') ↔ stringOf v = .ok s ∧ next' = next := by
  obtain ⟨below, b, tail, -, hblanks, hread⟩ := value_cases h
  have hother : ∀ {v : Value}, b ≠ 0x22 → stringOf v ≠ .ok s →
      (expectString here = .ok (s, next') ↔ stringOf v = .ok s ∧ next' = next) := by
    intro v hb hv
    simp only [expectString, hblanks, if_neg hb]
    exact ⟨fun h => absurd h (unexpected_ne_ok _ _ _ _), fun h => absurd h.1 hv⟩
  cases hread with
  | string hstring =>
    simp only [expectString, hblanks, if_true, hstring, stringOf, Except.ok.injEq, Prod.mk.injEq,
      eq_comm]
  | natural hdigit _ =>
    refine hother ?_ fun h => (by cases h)
    rintro rfl
    cases hdigit
  | _ => exact hother (by decide) fun h => (by cases h)

/-- Where no null stands, a text is read. -/
theorem expectOptionalString_eq_map {b : UInt8} (hblanks : skipBlanks here = b :: tail)
    (hb : b ≠ 0x6E) :
    expectOptionalString here = (expectString here).map fun (s, rest) => (some s, rest) := by
  have hsame : expectString (b :: tail) = expectString here := by
    rw [← hblanks]
    simp only [expectString, Skip.skipBlanks_skipBlanks]
  simp only [expectOptionalString, hblanks, if_neg hb, hsame]

theorem expectOptionalString_eq_ok (h : value depth here = .ok (v, next)) {s : Option String} :
    expectOptionalString here = .ok (s, next') ↔ optionalStringOf v = .ok s ∧ next' = next := by
  have htext : ∀ s, expectString here = .ok (s, next') ↔ stringOf v = .ok s ∧ next' = next :=
    fun s => expectString_eq_ok h
  obtain ⟨below, b, tail, -, hblanks, hread⟩ := value_cases h
  have hother : b ≠ 0x6E → optionalStringOf v = (stringOf v).map some →
      (expectOptionalString here = .ok (s, next') ↔
        optionalStringOf v = .ok s ∧ next' = next) := by
    intro hb hv
    rw [expectOptionalString_eq_map hblanks hb, hv, map_eq_ok]
    constructor
    · rintro ⟨⟨s', _⟩, hread, ⟨⟩⟩
      obtain ⟨hs, rfl⟩ := (htext s').mp hread
      exact ⟨by rw [hs]; rfl, rfl⟩
    · rintro ⟨hs, rfl⟩
      cases hv' : stringOf v with
      | error cause =>
        rw [hv'] at hs
        cases hs
      | ok s' =>
        rw [hv'] at hs
        cases hs
        exact ⟨(s', next'), (htext s').mpr ⟨hv', rfl⟩, rfl⟩
  cases hread with
  | null hword =>
    simp only [expectOptionalString, hblanks, if_true, hword, Except.map, optionalStringOf,
      Except.ok.injEq, Prod.mk.injEq, eq_comm]
  | natural hdigit _ =>
    refine hother ?_ rfl
    rintro rfl
    cases hdigit
  | _ => exact hother (by decide) rfl

/-! ## Members -/

/-- A field is known already. -/
def Fields.Knows (f : Fields) (name : String) : Prop :=
  (name = "role" ∧ f.role.isSome) ∨ (name = "uri" ∧ f.uri.isSome) ∨
    (name = "publicUri" ∧ f.publicUri.isSome)

theorem refuse_eq_none : refuse f name = none ↔ ¬f.Knows name := by
  unfold refuse
  split_ifs with h
  · exact ⟨fun hsome => (by cases hsome), fun hnot => absurd h hnot⟩
  · exact ⟨fun _ => h, fun _ => rfl⟩

/-- A member is taken up like the member of a value. -/
theorem member_eq_ok (h : value depth here = .ok (v, next)) :
    member f name here = .ok (g, next') ↔ fieldsOf f [(name, v)] = .ok g ∧ next' = next := by
  unfold member
  split_ifs with hrole huri hpublicUri
  · subst hrole
    simp only [map_eq_ok, Prod.exists, expectString_eq_ok h]
    cases hs : stringOf v <;> simp [fieldsOf, Bind.bind, Except.bind, hs, eq_comm]
  · subst huri
    simp only [map_eq_ok, Prod.exists, expectOptionalString_eq_ok h]
    cases hs : optionalStringOf v <;> simp [fieldsOf, Bind.bind, Except.bind, hs, eq_comm]
  · subst hpublicUri
    simp only [map_eq_ok, Prod.exists, expectOptionalString_eq_ok h]
    cases hs : optionalStringOf v <;> simp [fieldsOf, Bind.bind, Except.bind, hs, eq_comm]
  · simp [map_eq_ok, Skip.value_eq_ok h, fieldsOf, hrole, huri, hpublicUri, eq_comm]

theorem fieldsOf_cons (f : Fields) (name : String) (v : Value) (members : List (String × Value)) :
    fieldsOf f ((name, v) :: members) = (fieldsOf f [(name, v)]).bind (fieldsOf · members) := by
  by_cases hrole : name = "role"
  · cases hs : stringOf v <;> simp [fieldsOf, Bind.bind, Except.bind, hrole, hs]
  · by_cases huri : name = "uri"
    · cases hs : optionalStringOf v <;> simp [fieldsOf, Bind.bind, Except.bind, huri, hs]
    · by_cases hpublicUri : name = "publicUri"
      · cases hs : optionalStringOf v <;> simp [fieldsOf, Bind.bind, Except.bind, hpublicUri, hs]
      · simp [fieldsOf, hrole, huri, hpublicUri, Except.bind]

/-- After a member its field is known, if it is one. -/
theorem knows_of_fieldsOf (h : fieldsOf f [(name, v)] = .ok g) (other : String) :
    g.Knows other ↔ f.Knows other ∨ other = name ∧ other ∈ fieldNames := by
  by_cases hrole : name = "role"
  · subst hrole
    cases hs : stringOf v <;> simp [fieldsOf, Bind.bind, Except.bind, hs] at h
    subst h
    simp only [Fields.Knows, fieldNames, List.mem_cons, Option.isSome_some]
    tauto
  · by_cases huri : name = "uri"
    · subst huri
      cases hs : optionalStringOf v <;> simp [fieldsOf, Bind.bind, Except.bind, hs] at h
      subst h
      simp only [Fields.Knows, fieldNames, List.mem_cons, Option.isSome_some]
      tauto
    · by_cases hpublicUri : name = "publicUri"
      · subst hpublicUri
        cases hs : optionalStringOf v <;> simp [fieldsOf, Bind.bind, Except.bind, hs] at h
        subst h
        simp only [Fields.Knows, fieldNames, List.mem_cons, Option.isSome_some]
        tauto
      · simp only [fieldsOf, hrole, huri, hpublicUri, if_false, Except.ok.injEq] at h
        subst h
        refine (or_iff_left ?_).symm
        rintro ⟨rfl, hmem⟩
        simp [fieldNames, hrole, huri, hpublicUri] at hmem

theorem Fields.Knows.mem (h : f.Knows name) : name ∈ fieldNames := by
  rcases h with ⟨rfl, -⟩ | ⟨rfl, -⟩ | ⟨rfl, -⟩ <;> decide

/-- No field is named that is known already, nor one twice. -/
def Fresh (f : Fields) (members : List (String × Value)) : Prop :=
  ∀ name ∈ fieldNames, (f.Knows name → (members.map (·.1)).count name = 0) ∧
    (members.map (·.1)).count name ≤ 1

theorem fresh_none {members : List (String × Value)} :
    Fresh .none members ↔ NamedOnce members := by
  refine forall₂_congr fun name _ => and_iff_right ?_
  rintro (⟨-, h⟩ | ⟨-, h⟩ | ⟨-, h⟩) <;> cases h

/-- A member must name no known field, and makes its own known for those after it. -/
theorem fresh_cons {members : List (String × Value)} (h : fieldsOf f [(name, v)] = .ok g) :
    Fresh f ((name, v) :: members) ↔ ¬f.Knows name ∧ Fresh g members := by
  simp only [Fresh, knows_of_fieldsOf h, List.map_cons, List.count_cons]
  -- The member adds one to the count of its own name, and nothing to those of others.
  constructor
  · intro hfresh
    refine ⟨fun hknows => ?_, fun other hother => ?_⟩
    · have hzero := (hfresh name hknows.mem).1 hknows
      simp at hzero
    · obtain ⟨hknown, honce⟩ := hfresh other hother
      refine ⟨?_, by omega⟩
      rintro (hknows | ⟨rfl, -⟩)
      · have hzero := hknown hknows
        omega
      · simp at honce
        omega
  · rintro ⟨hname, hfresh⟩ other hother
    obtain ⟨hknown, honce⟩ := hfresh other hother
    by_cases hsame : name = other
    · subst hsame
      have hzero := hknown (.inr ⟨rfl, hother⟩)
      exact ⟨fun hknows => absurd hknows hname, by simp [hzero]⟩
    · simp only [beq_eq_false_iff_ne.mpr hsame]
      exact ⟨fun hknows => hknown (.inl hknows), honce⟩

/-- Members are taken up like those of a value, if none of them is refused. -/
theorem gathers_iff {ms : List (String × Spot Value)}
    (h : ∀ m ∈ ms, ∃ depth, m.2.ReadBy (value depth)) :
    Gathers ⟨refuse, member⟩ f ms g ↔
      fieldsOf f (ms.map fun m => (m.1, m.2.item)) = .ok g ∧
        Fresh f (ms.map fun m => (m.1, m.2.item)) := by
  induction ms generalizing f with
  | nil =>
    constructor
    · rintro ⟨⟩
      exact ⟨rfl, fun name _ => ⟨fun _ => rfl, Nat.zero_le _⟩⟩
    · rintro ⟨⟨⟩, -⟩
      exact .nil
  | cons m ms ih =>
    obtain ⟨name, p⟩ := m
    obtain ⟨depth, hp⟩ := h (name, p) List.mem_cons_self
    have hlater := fun f => @ih f fun m hm => h m (List.mem_cons_of_mem _ hm)
    rw [List.map_cons, fieldsOf_cons]
    constructor
    · rintro (_ | ⟨hrefuse, hmember, hgathers⟩)
      obtain ⟨htaken, -⟩ := (member_eq_ok hp).mp hmember
      obtain ⟨hfields, hfresh⟩ := (hlater _).mp hgathers
      rw [htaken]
      exact ⟨hfields, (fresh_cons htaken).mpr ⟨refuse_eq_none.mp hrefuse, hfresh⟩⟩
    · rintro ⟨hfields, hfresh⟩
      cases htaken : fieldsOf f [(name, p.item)] with
      | error cause =>
        rw [htaken] at hfields
        cases hfields
      | ok f' =>
        rw [htaken] at hfields
        obtain ⟨hname, hfresh⟩ := (fresh_cons htaken).mp hfresh
        exact .cons (refuse_eq_none.mpr hname) ((member_eq_ok hp).mpr ⟨htaken, rfl⟩)
          ((hlater f').mpr ⟨hfields, hfresh⟩)

/-! ## Objects -/

/-- An object keeps the fields of its members, if each is named once. -/
theorem fieldsOf_setMembers {members : List (String × Value)} (h : NamedOnce members) :
    fieldsOf .none (setMembers [] members) = .ok f ↔ fieldsOf .none members = .ok f := by
  have hkept : NamedOnce (setMembers [] members) := .of_ordered (Ordered.setMembers .nil members)
  have hsettles : ∀ {α : Type} {read : Value → Except Cause α} {key : String} {given : Option α},
      key ∈ fieldNames → (Settles key read none (setMembers [] members) given ↔
        Settles key read none members given) := by
    intro α read key given hkey
    rw [settles_iff (hkept key hkey), settles_iff (h key hkey), lookup_setMembers [] (h key hkey)]
    simp
  rw [fieldsOf_eq_ok, fieldsOf_eq_ok]
  exact and_congr (hsettles (by decide)) (and_congr (hsettles (by decide)) (hsettles (by decide)))

theorem ofValue_ofMembers_eq_ok {members : List (String × Value)} (h : NamedOnce members) :
    ofValue (.ofMembers members) = .ok d ↔
      ∃ f, fieldsOf .none members = .ok f ∧ f.toDescriptor? = some d := by
  simp only [ofMembers_eq, ofValue_object_eq_ok_iff, fieldsOf_setMembers h]

/-- An object is read if no field is named twice, and then like its value. -/
theorem read_object {ms : List (String × Spot Value)} (hblanks : skipBlanks here = 0x7B :: tail)
    (h : Members (value depth) next true tail ms) (hlength : ms.length < tail.length + 1)
    (level : Nat) : read level here = .ok (d, next') ↔ next' = next ∧
      NamedOnce (ms.map fun m => (m.1, m.2.item)) ∧
        ofValue (.ofMembers (ms.map fun m => (m.1, m.2.item))) = .ok d := by
  have hmembers : ∀ f stop, members ⟨refuse, member⟩ .none tail = .ok (f, stop) ↔ stop = next ∧
      fieldsOf .none (ms.map fun m => (m.1, m.2.item)) = .ok f ∧
        NamedOnce (ms.map fun m => (m.1, m.2.item)) := by
    intro f stop
    rw [members, h.membersFrom_eq_ok _ hlength, gathers_iff, fresh_none]
    · exact fun m hm => ⟨depth, h.readBy m hm⟩
    · exact fun m hm s s' stop hmember => ((member_eq_ok (h.readBy m hm)).mp hmember).2
  have hread : read level here = .ok (d, next') ↔
      ∃ f, members ⟨refuse, member⟩ .none tail = .ok (f, next') ∧ f.toDescriptor? = some d := by
    simp only [read, hblanks]
    cases members ⟨refuse, member⟩ .none tail with
    | error trouble => simp
    | ok found =>
      obtain ⟨f, stop⟩ := found
      cases hd : f.toDescriptor? <;> simp [hd, and_comm]
  rw [hread]
  simp only [hmembers]
  constructor
  · rintro ⟨f, ⟨rfl, hfields, honce⟩, hd⟩
    exact ⟨rfl, honce, (ofValue_ofMembers_eq_ok honce).mpr ⟨f, hfields, hd⟩⟩
  · rintro ⟨rfl, honce, hd⟩
    obtain ⟨f, hfields, hd⟩ := (ofValue_ofMembers_eq_ok honce).mp hd
    exact ⟨f, ⟨rfl, hfields, honce⟩, hd⟩

/-! ## Arrays -/

variable {spots : List (Spot Value)}

/-- An address is that of the next item, if there is one. -/
theorem nextAddress_of_ok {s : Option String} (h : Items (value depth) after false rest spots)
    (hread : nextAddress rest = .ok (s, next)) :
    Gives (spots[0]?.map (·.item)) s ∧ Items (value depth) after false next spots.tail := by
  unfold nextAddress at hread
  cases h with
  | nil hnext =>
    rw [hnext] at hread
    cases hread
    exact ⟨.missing, .nil rfl⟩
  | cons hnext hp hitems =>
    rw [hnext] at hread
    obtain ⟨hs, rfl⟩ := (expectOptionalString_eq_ok hp).mp hread
    exact ⟨optionalStringOf_eq_ok.mp hs, hitems⟩

theorem exists_nextAddress {s : Option String} (h : Items (value depth) after false rest spots)
    (hgives : Gives (spots[0]?.map (·.item)) s) :
    ∃ next, nextAddress rest = .ok (s, next) ∧ Items (value depth) after false next spots.tail := by
  unfold nextAddress
  cases h with
  | nil hnext =>
    rw [hnext]
    cases hgives
    exact ⟨_, rfl, .nil rfl⟩
  | @cons _ _ p _ hnext hp hitems =>
    rw [hnext]
    exact ⟨p.next, (expectOptionalString_eq_ok hp).mpr ⟨optionalStringOf_eq_ok.mpr hgives, rfl⟩,
      hitems⟩

/-- A list of fields ends where no item is left. -/
theorem close_eq_ok (h : Items (value depth) after false rest spots) :
    close rest = .ok after' ↔ spots = [] ∧ after' = after := by
  unfold close
  cases h with
  | nil hnext =>
    obtain ⟨after, hend, hafter⟩ := nextItem_eq_end hnext
    cases hafter
    simp [hend, eq_comm]
  | cons hnext hp hitems =>
    obtain ⟨b, later, -, -, ⟨⟨⟩, -⟩ | ⟨-, tail, hcomma, -⟩⟩ := nextItem_eq_item hnext
    simp only [hcomma, List.cons_ne_nil, false_and, iff_false]
    intro h
    cases hlater : skipBlanks tail <;> simp [hlater] at h

theorem listed_eq_ok_of_item (hnext : nextItem true tail = .ok (true, here)) :
    listed tail = .ok (d, next') ↔ ∃ rest rest' rest'', expectString here = .ok (d.role, rest) ∧
      nextAddress rest = .ok (d.uri, rest') ∧ nextAddress rest' = .ok (d.publicUri, rest'') ∧
        close rest'' = .ok next' := by
  obtain ⟨role, uri, publicUri⟩ := d
  have hlisted : listed tail = (do
      let r ← expectString here
      let u ← nextAddress r.2
      let p ← nextAddress u.2
      return (⟨r.1, u.1, p.1⟩, ← close p.2)) := by
    unfold listed
    rw [hnext]
    rfl
  simp only [hlisted, bind_eq_ok, Prod.exists, pure, Except.pure, Except.ok.injEq, Prod.mk.injEq,
    mk.injEq]
  constructor
  · rintro ⟨_, rest, hrole, _, rest', huri, _, rest'', hpublicUri, _, hclose, ⟨rfl, rfl, rfl⟩, rfl⟩
    exact ⟨rest, rest', rest'', hrole, huri, hpublicUri, hclose⟩
  · rintro ⟨rest, rest', rest'', hrole, huri, hpublicUri, hclose⟩
    exact ⟨role, rest, hrole, uri, rest', huri, publicUri, rest'', hpublicUri, next', hclose,
      ⟨rfl, rfl, rfl⟩, rfl⟩

theorem listed_eq_ok (h : Items (value depth) next true tail spots) :
    listed tail = .ok (d, next') ↔
      next' = next ∧ ofValue (.array (spots.map (·.item))) = .ok d := by
  rw [ofValue_array_eq_ok, describes_array]
  obtain ⟨role, uri, publicUri⟩ := d
  cases h with
  | nil hnext =>
    have hlisted : ∀ x, listed tail ≠ .ok x := by
      intro x h
      simp only [listed, hnext] at h
      cases h
    simp [hlisted]
  | @cons _ _ p spots hnext hp hitems =>
    rw [listed_eq_ok_of_item hnext]
    constructor
    · rintro ⟨rest, rest', rest'', hread, hread', hread'', hclose⟩
      obtain ⟨hrole, rfl⟩ := (expectString_eq_ok hp).mp hread
      obtain ⟨huri, hitems'⟩ := nextAddress_of_ok hitems hread'
      obtain ⟨hpublicUri, hitems''⟩ := nextAddress_of_ok hitems' hread''
      obtain ⟨hnil, rfl⟩ := (close_eq_ok hitems'').mp hclose
      have hlength : spots.length ≤ 2 := by
        have htail : (spots.tail.tail).length = 0 := by rw [hnil]; rfl
        simp only [List.length_tail] at htail
        omega
      refine ⟨rfl, ?_, ?_, ?_, ?_⟩
      · simp only [List.map_cons, List.length_cons, List.length_map]
        omega
      · simpa using stringOf_eq_ok.mp hrole
      · simpa using huri
      · simpa using hpublicUri
    · rintro ⟨rfl, hlength, hrole, huri, hpublicUri⟩
      have hrole' : stringOf p.item = .ok role := stringOf_eq_ok.mpr (by simpa using hrole)
      obtain ⟨rest', huri', hitems'⟩ := exists_nextAddress (s := uri) hitems (by simpa using huri)
      obtain ⟨rest'', hpublicUri', hitems''⟩ :=
        exists_nextAddress (s := publicUri) hitems' (by simpa using hpublicUri)
      have hnil : spots.tail.tail = [] := by
        refine List.length_eq_zero_iff.mp ?_
        simp only [List.map_cons, List.length_cons, List.length_map] at hlength
        simp only [List.length_tail]
        omega
      exact ⟨p.next, rest', rest'', (expectString_eq_ok hp).mpr ⟨hrole', rfl⟩, huri', hpublicUri',
        (close_eq_ok hitems'').mpr ⟨hnil, rfl⟩⟩

end ServiceLocator.Descriptor
