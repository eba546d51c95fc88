import ServiceLocator.Proofs.Locator.Entry
import ServiceLocator.Proofs.Locator.Listing

/-!
The strict and the lenient reading of a listing. Where both succeed they give the same
descriptors, and where the strict one alone fails, an entry describes nothing or names a field
twice. Whether a field is named twice is not seen from the values, so the members are read once
more as they are written (`Listing.written`), and the three readings are compared entry by entry
(`Listing.EntryAgrees`).
-/
namespace ServiceLocator.Listing

open Descriptor (NamedOnce fieldNames ofValue)
open Json hiding string
open List (Forall₂)

/-! ## Members as written -/

/-- Members of any kind, all of them in their order. -/
def writtenMembers (value : Bytes → Reading Value) : Gathering (List (String × Value)) where
  refuse _ _ := none
  member written name rest :=
    (value rest).map fun (v, rest) => (written ++ [(name, v)], rest)

/-- Read an entry for its members as they are written. What is no object has none. -/
def writtenEntry (depth : Nat) (rest : Bytes) : Reading (List (String × Value)) :=
  match skipBlanks rest with
  | [] => .error (.here .endInValue [])
  | b :: after =>
    if b = 0x7B then members (writtenMembers (value (depth - 1))) [] after
    else (value depth rest).map fun (_, rest) => ([], rest)

/-- The members of each entry of a listing as they are written. -/
def written (body : Bytes) : Except Fault (List (List (String × Value))) :=
  whole (expectList writtenEntry) body

/-- A value is that of members as they are written, or no object. -/
inductive WrittenAs : Value → List (String × Value) → Prop
  | object (members) : WrittenAs (.ofMembers members) members
  | other {v} : (∀ members, v ≠ .object members) → WrittenAs v []

variable {depth : Nat} {here next rest after : Bytes} {v : Value} {body : Bytes}
  {entries : List Value} {ds : List Descriptor}

theorem member_writtenMembers {read : Bytes → Reading Value} {p : Spot Value} (h : p.ReadBy read)
    (members : List (String × Value)) (name : String) :
    (writtenMembers read).member members name p.here =
      .ok (members ++ [(name, p.item)], p.next) := by
  simp only [writtenMembers]
  rw [h]
  rfl

theorem gathers_written {read : Bytes → Reading Value} {ms : List (String × Spot Value)}
    (h : ∀ m ∈ ms, m.2.ReadBy read) {members members' : List (String × Value)} :
    Gathers (writtenMembers read) members ms members' ↔
      members' = members ++ ms.map fun m => (m.1, m.2.item) := by
  induction ms generalizing members with
  | nil =>
    rw [List.map_nil, List.append_nil]
    constructor
    · rintro ⟨⟩
      rfl
    · rintro rfl
      exact .nil
  | cons m ms ih =>
    obtain ⟨name, p⟩ := m
    have hmember := member_writtenMembers (h (name, p) List.mem_cons_self) members name
    have hlater := @ih (fun m hm => h m (List.mem_cons_of_mem _ hm)) (members ++ [(name, p.item)])
    rw [List.append_assoc, List.singleton_append] at hlater
    rw [List.map_cons, ← hlater]
    constructor
    · rintro (_ | ⟨-, htaken, hgathers⟩)
      cases hmember.symm.trans htaken
      exact hgathers
    · exact .cons rfl hmember

/-! ## Entries -/

/-- What the three readings make of one entry. -/
structure EntryAgrees (p : Spot Value) (members : List (String × Value)) : Prop where
  writtenAs : WrittenAs p.item members
  written : ∀ found next, writtenEntry (depthLimit - 1) p.here = .ok (found, next) ↔
    found = members ∧ next = p.next
  strict : ∀ d next, Descriptor.read (depthLimit - 1) p.here = .ok (d, next) ↔
    next = p.next ∧ NamedOnce members ∧ ofValue p.item = .ok d

theorem exists_entryAgrees_of_object {p : Spot Value} {tail : Bytes} {kept : List (String × Value)}
    (hblanks : skipBlanks p.here = 0x7B :: tail) (hdepth : depthLimit - 1 = depth + 1)
    (hmembers : members (anyMembers (value depth)) [] tail = .ok (kept, p.next))
    (hitem : p.item = .object kept) : ∃ members, EntryAgrees p members := by
  obtain ⟨ms, hms, hlength, rfl⟩ := exists_members hmembers
  refine ⟨ms.map fun m => (m.1, m.2.item), hitem ▸ .object _, fun found next => ?_,
    fun d next => ?_⟩
  · have hread : writtenEntry (depthLimit - 1) p.here =
        members (writtenMembers (value depth)) [] tail := by
      simp only [writtenEntry, hblanks, hdepth, Nat.add_sub_cancel]
      rfl
    rw [hread, members, hms.membersFrom_eq_ok _ hlength, gathers_written hms.readBy, and_comm]
    · rfl
    · intro m hm written written' next hmember
      cases (member_writtenMembers (hms.readBy m hm) written m.1).symm.trans hmember
      rfl
  · rw [hitem]
    exact Descriptor.read_object hblanks hms hlength _

theorem EntryAgrees.of_other {p : Spot Value} {b : UInt8} {tail : Bytes}
    (h : p.ReadBy (value (depthLimit - 1))) (hblanks : skipBlanks p.here = b :: tail)
    (hb : b ≠ 0x7B) (hitem : ∀ members, p.item ≠ .object members)
    (hstrict : ∀ d next, Descriptor.read (depthLimit - 1) p.here = .ok (d, next) ↔
      next = p.next ∧ ofValue p.item = .ok d) : EntryAgrees p [] where
  writtenAs := .other hitem
  written found next := by
    have hread : value (depthLimit - 1) p.here = .ok (p.item, p.next) := h
    simp only [writtenEntry, hblanks, if_neg hb, hread, Except.map, Except.ok.injEq,
      Prod.mk.injEq, eq_comm]
  strict d next := by
    rw [hstrict]
    exact and_congr_right fun _ => (and_iff_right fun _ _ => Nat.zero_le _).symm

/-- An entry that begins with no bracket and no brace is refused by both. -/
theorem EntryAgrees.of_scalar {p : Spot Value} {b : UInt8} {tail : Bytes}
    (h : p.ReadBy (value (depthLimit - 1))) (hblanks : skipBlanks p.here = b :: tail)
    (hb : b ≠ 0x5B ∧ b ≠ 0x7B) (hitem : ∀ members, p.item ≠ .object members)
    (hrefused : ∀ d, ofValue p.item ≠ .ok d) : EntryAgrees p [] := by
  refine .of_other h hblanks hb.2 hitem fun d next => ?_
  simp only [Descriptor.read, hblanks, if_neg hb.1, if_neg hb.2]
  exact ⟨fun h => absurd h (unexpected_ne_ok _ _ _ _), fun h => absurd h.2 (hrefused d)⟩

/-- The three readings agree on every entry. -/
theorem exists_entryAgrees {p : Spot Value} (h : p.ReadBy (value (depthLimit - 1))) :
    ∃ members, EntryAgrees p members := by
  obtain ⟨below, b, tail, hdepth, hblanks, hread⟩ := value_cases h
  obtain ⟨here, item, next⟩ := p
  cases hread with
  | object hmembers => exact exists_entryAgrees_of_object hblanks hdepth hmembers rfl
  | array hitems =>
    obtain ⟨spots, hspots, -, rfl⟩ := exists_items hitems
    refine ⟨[], .of_other h hblanks (by decide) nofun fun d next' => ?_⟩
    have hlisted : Descriptor.read (depthLimit - 1) here = Descriptor.listed tail := by
      simp only [Descriptor.read]
      rw [hblanks]
      rfl
    rw [hlisted]
    exact Descriptor.listed_eq_ok hspots
  | natural hdigit _ =>
    refine ⟨[], .of_scalar h hblanks ⟨?_, ?_⟩ nofun nofun⟩ <;>
    · rintro rfl
      cases hdigit
  | _ => exact ⟨[], .of_scalar h hblanks (by decide) nofun nofun⟩

/-! ## Listings -/

theorem exists_forall₂ {α β : Type} {R : α → β → Prop} {xs : List α} (h : ∀ x ∈ xs, ∃ y, R x y) :
    ∃ ys, Forall₂ R xs ys := by
  induction xs with
  | nil => exact ⟨[], .nil⟩
  | cons x xs ih =>
    obtain ⟨y, hy⟩ := h x List.mem_cons_self
    obtain ⟨ys, hys⟩ := ih fun x hx => h x (List.mem_cons_of_mem _ hx)
    exact ⟨y :: ys, .cons hy hys⟩

theorem length_descriptors_le (entries : List Value) :
    (descriptors entries).length ≤ entries.length :=
  List.length_filterMap_le _ _

/-- Every entry describes something exactly if none is left out. -/
theorem forall₂_ofValue_iff : Forall₂ (fun v d => ofValue v = .ok d) entries ds ↔
    descriptors entries = ds ∧ (descriptors entries).length = entries.length := by
  induction entries generalizing ds with
  | nil =>
    rw [List.forall₂_nil_left_iff]
    exact ⟨fun h => ⟨h.symm, rfl⟩, fun h => h.1.symm⟩
  | cons v entries ih =>
    have hle := length_descriptors_le entries
    rw [List.forall₂_cons_left_iff]
    cases hv : ofValue v with
    | error cause =>
      rw [descriptors_cons_of_error hv, List.length_cons]
      constructor
      · rintro ⟨_, _, ⟨⟩, _⟩
      · rintro ⟨_, hlength⟩
        omega
    | ok d =>
      rw [descriptors_cons_of_ok hv, List.length_cons, List.length_cons]
      constructor
      · rintro ⟨_, ds', ⟨⟩, hds, rfl⟩
        obtain ⟨rfl, hlength⟩ := ih.mp hds
        exact ⟨rfl, congrArg (· + 1) hlength⟩
      · rintro ⟨rfl, hlength⟩
        exact ⟨d, _, rfl, ih.mpr ⟨rfl, Nat.succ.inj hlength⟩, rfl⟩

/-- What holds of each entry holds of the listing. -/
theorem forall₂_strict_iff {spots : List (Spot Value)} {members : List (List (String × Value))}
    (h : Forall₂ EntryAgrees spots members) :
    Forall₂ (fun p d => Descriptor.read (depthLimit - 1) p.here = .ok (d, p.next)) spots ds ↔
      (∀ ms ∈ members, NamedOnce ms) ∧ Forall₂ (fun p d => ofValue p.item = .ok d) spots ds := by
  induction h generalizing ds with
  | nil =>
    rw [List.forall₂_nil_left_iff, List.forall₂_nil_left_iff]
    exact (and_iff_right (List.forall_mem_nil _)).symm
  | @cons p ms spots members hp _ ih =>
    rw [List.forall₂_cons_left_iff, List.forall₂_cons_left_iff, List.forall_mem_cons]
    constructor
    · rintro ⟨d, ds', hd, hds, rfl⟩
      obtain ⟨-, honce, hvalue⟩ := (hp.strict d p.next).mp hd
      obtain ⟨hall, hvalues⟩ := ih.mp hds
      exact ⟨⟨honce, hall⟩, d, ds', hvalue, hvalues, rfl⟩
    · rintro ⟨⟨honce, hall⟩, d, ds', hvalue, hvalues, rfl⟩
      exact ⟨d, ds', (hp.strict d p.next).mpr ⟨rfl, honce, hvalue⟩, ih.mpr ⟨hall, hvalues⟩, rfl⟩

/-- The strict reading of a listing, by what its values and the members as written say. -/
theorem exists_written (h : Json.parseList body = .ok entries) :
    ∃ members, written body = .ok members ∧ Forall₂ WrittenAs entries members ∧
      ∀ ds, Descriptor.parseList body = .ok ds ↔ (∀ ms ∈ members, NamedOnce ms) ∧
        Forall₂ (fun v d => ofValue v = .ok d) entries ds := by
  obtain ⟨spots, rfl, hread, hsame⟩ := exists_spots h
  obtain ⟨members, hagree⟩ := exists_forall₂ fun p hp => exists_entryAgrees (hread p hp)
  refine ⟨members, ?_, ?_, fun ds => ?_⟩
  · refine (hsame writtenEntry (fun p hp found next hfound => ?_) members).mpr
      (hagree.imp fun p ms hp => (hp.written ms p.next).mpr ⟨rfl, rfl⟩)
    obtain ⟨ms, hp⟩ := exists_entryAgrees (hread p hp)
    exact ((hp.written found next).mp hfound).2
  · exact List.forall₂_map_left_iff.mpr (hagree.imp fun p ms hp => hp.writtenAs)
  · rw [Descriptor.parseList, hsame Descriptor.read, List.forall₂_map_left_iff]
    · exact forall₂_strict_iff hagree
    · intro p hp d next hd
      obtain ⟨ms, hp⟩ := exists_entryAgrees (hread p hp)
      exact ((hp.strict d next).mp hd).1

theorem WrittenAs.ordered {members : List (String × Value)} (h : WrittenAs v members) :
    v.Ordered := by
  cases h with
  | object => exact Ordered.setMembers .nil members
  | other hv =>
    cases v with
    | object members => exact absurd rfl (hv members)
    | _ => exact trivial

/-- The members of an entry that was read are in order, whatever the text says. -/
theorem ordered_of_parseList (h : Json.parseList body = .ok entries) :
    ∀ v ∈ entries, v.Ordered := by
  obtain ⟨members, -, hvalues, -⟩ := exists_written h
  clear h
  induction hvalues with
  | nil => exact List.forall_mem_nil _
  | cons hv _ ih => exact List.forall_mem_cons.mpr ⟨hv.ordered, ih⟩

/-- So the entries of a text that is read are taken up in their order. -/
theorem reads_of_parseList (h : Json.parseList body = .ok entries) :
    Reads entries (descriptors entries) :=
  reads_descriptors (ordered_of_parseList h)

/-- The first entry of a role in a text gives the address. -/
theorem choose_eq_ok_iff_firstFor (h : Json.parseList body = .ok entries) {name address : String}
    {caller : Caller} : choose body name caller = .ok address ↔
      ∃ d, FirstFor name entries d ∧ d.listedFor caller = some address ∧ address ≠ "" := by
  rw [← select_descriptors_eq_ok (ordered_of_parseList h), choose, h]
  rfl

/-- A lookup finds what the first entry of the role gives in the listing, over any transport. -/
theorem resolve_eq_ok_iff_firstFor {σ : Type} {c : Client} {t : Transport σ} {s : σ}
    {name address : String} : ((c.resolve name).run t s).result = .ok address ↔
      ∃ entries d, Listed c t s entries ∧ FirstFor name entries d ∧
        d.listedFor c.caller = some address ∧ address ≠ "" := by
  rw [resolve_eq_ok]
  refine exists_congr fun entries => ?_
  rw [exists_and_left]
  refine and_congr_right fun hlisted => ?_
  obtain ⟨_, _, _, hparse⟩ := hlisted.answered
  exact select_descriptors_eq_ok (ordered_of_parseList hparse)

theorem not_namedOnce_iff {members : List (String × Value)} : ¬NamedOnce members ↔
    ∃ name ∈ fieldNames, 2 ≤ (members.map (·.1)).count name := by
  simp only [NamedOnce, not_forall, exists_prop, not_le]
  rfl

/-- The strict and the lenient reading of a listing agree. What both read is the same, so the
choice from it is. The strict reading fails on what the lenient one reads exactly if an entry is
left out there, or an object names a field more than once. -/
theorem strict_reading_agrees (h : Json.parseList body = .ok entries) :
    (∀ ds, Descriptor.parseList body = .ok ds → descriptors entries = ds ∧
      ∀ name caller, choose body name caller = select ds name caller) ∧
    ∃ members, written body = .ok members ∧ Forall₂ WrittenAs entries members ∧
      ((∃ fault, Descriptor.parseList body = .error fault) ↔
        (descriptors entries).length < entries.length ∨
          ∃ ms ∈ members, ∃ name ∈ fieldNames, 2 ≤ (ms.map (·.1)).count name) := by
  obtain ⟨members, hwritten, hvalues, hstrict⟩ := exists_written h
  simp only [forall₂_ofValue_iff] at hstrict
  refine ⟨fun ds hds => ?_, members, hwritten, hvalues, ?_⟩
  · obtain ⟨-, hdescriptors, -⟩ := (hstrict ds).mp hds
    refine ⟨hdescriptors, fun name caller => ?_⟩
    rw [choose, h, ← hdescriptors]
    rfl
  · have hlength := length_descriptors_le entries
    simp only [← not_namedOnce_iff]
    cases hparse : Descriptor.parseList body with
    | ok ds =>
      obtain ⟨honce, -, hall⟩ := (hstrict ds).mp hparse
      constructor
      · rintro ⟨_, ⟨⟩⟩
      · rintro (hless | ⟨ms, hms, htwice⟩)
        · omega
        · exact absurd (honce ms hms) htwice
    | error fault =>
      refine iff_of_true ⟨fault, rfl⟩ ?_
      by_contra hnone
      obtain ⟨hless, htwice⟩ := not_or.mp hnone
      have honce : ∀ ms ∈ members, NamedOnce ms := fun ms hms =>
        not_not.mp fun h => htwice ⟨ms, hms, h⟩
      cases hparse.symm.trans ((hstrict _).mpr ⟨honce, rfl, by omega⟩)

/-- A listing that both read, and one that names a role twice, which only the lenient reading
takes. -/
theorem strict_reading_agrees_twice :
    descriptors [.array [.string "auth"]] = [⟨"auth", none, none⟩] ∧
      Json.parseList (Utf8.encode "[\x7b\"role\":\"a\",\"role\":\"b\"\x7d]") =
        .ok [.object [("role", .string "b")]] ∧
      ∃ fault, Descriptor.parseList (Utf8.encode "[\x7b\"role\":\"a\",\"role\":\"b\"\x7d]") =
        .error fault := by
  have hauth : Json.parseList (Utf8.encode "[[\"auth\"]]") = .ok [.array [.string "auth"]] := by
    cbv
  have hstrict : Descriptor.parseList (Utf8.encode "[[\"auth\"]]") =
      .ok [⟨"auth", none, none⟩] := by cbv
  have htwice : Json.parseList (Utf8.encode "[\x7b\"role\":\"a\",\"role\":\"b\"\x7d]") =
      .ok [.object [("role", .string "b")]] := by cbv
  have hwritten : written (Utf8.encode "[\x7b\"role\":\"a\",\"role\":\"b\"\x7d]") =
      .ok [[("role", .string "a"), ("role", .string "b")]] := by cbv
  refine ⟨((strict_reading_agrees hauth).1 _ hstrict).1, htwice, ?_⟩
  obtain ⟨-, members, hmembers, -, hfails⟩ := strict_reading_agrees htwice
  cases hwritten.symm.trans hmembers
  exact hfails.mpr (.inr ⟨_, List.mem_singleton_self _, "role", by decide, by decide⟩)

end ServiceLocator.Listing
