import ServiceLocator.Json.Reader
import ServiceLocator.Proofs.Json.Object

/-!
Where things are read. A list that has been read has its items at certain places
(`Json.Items`), and so has an object its members (`Json.Members`). Another reader goes through
the same places, as long as it leaves the same bytes at each of them, so what it reads is what it
reads there.
-/
namespace ServiceLocator.Json

open List (Forall₂)

/-- Something that was read: the bytes from it on, what it is, and the bytes after it. -/
structure Spot (α : Type) where
  here : Bytes
  item : α
  next : Bytes

/-- A reader reads what is there. -/
def Spot.ReadBy {α : Type} (p : Spot α) (read : Bytes → Reading α) : Prop :=
  read p.here = .ok (p.item, p.next)

/-- The items that are left of a list, up to the bytes after its closing bracket. -/
inductive Items {α : Type} (read : Bytes → Reading α) (after : Bytes) :
    Bool → Bytes → List (Spot α) → Prop
  | nil {first rest} : nextItem first rest = .ok (false, 0x5D :: after) →
      Items read after first rest []
  | cons {first rest p spots} : nextItem first rest = .ok (true, p.here) → p.ReadBy read →
      Items read after false p.next spots → Items read after first rest (p :: spots)

/-- The members that are left of an object, up to the bytes after its closing brace. -/
inductive Members {α : Type} (read : Bytes → Reading α) (after : Bytes) :
    Bool → Bytes → List (String × Spot α) → Prop
  | nil {first rest} : nextName first rest = .ok (false, 0x7D :: after) →
      Members read after first rest []
  | cons {first rest quoted name unquoted p ms} : nextName first rest = .ok (true, quoted) →
      string quoted = .ok (name, unquoted) → colon unquoted = .ok p.here → p.ReadBy read →
      Members read after false p.next ms → Members read after first rest ((name, p) :: ms)

/-- What a gathering makes of members at their places. -/
inductive Gathers {α σ : Type} (g : Gathering σ) : σ → List (String × Spot α) → σ → Prop
  | nil {s} : Gathers g s [] s
  | cons {s s' s'' name p ms} : g.refuse s name = none →
      g.member s name p.here = .ok (s', p.next) → Gathers g s' ms s'' →
      Gathers g s ((name, p) :: ms) s''

variable {α β σ : Type} {read : Bytes → Reading α} {rest here closing after : Bytes}
  {first : Bool} {turns : Nat}

theorem Items.readBy {spots : List (Spot α)} (h : Items read after first rest spots) :
    ∀ p ∈ spots, p.ReadBy read := by
  induction h with
  | nil => exact List.forall_mem_nil _
  | cons _ hp _ ih => exact List.forall_mem_cons.mpr ⟨hp, ih⟩

theorem Members.readBy {ms : List (String × Spot α)} (h : Members read after first rest ms) :
    ∀ m ∈ ms, m.2.ReadBy read := by
  induction h with
  | nil => exact List.forall_mem_nil _
  | cons _ _ _ hp _ ih => exact List.forall_mem_cons.mpr ⟨hp, ih⟩

/-! ## Lists -/

/-- The bracket that ends a list is not passed yet. -/
theorem nextItem_eq_end (h : nextItem first rest = .ok (false, closing)) :
    ∃ after, skipBlanks rest = 0x5D :: after ∧ closing = 0x5D :: after := by
  unfold nextItem at h
  split at h
  · cases h
  · rename_i b after hblanks
    split_ifs at h with hbracket hfirst hcomma
    · cases h
      exact ⟨after, hbracket ▸ hblanks, hbracket ▸ rfl⟩
    · cases h
    · split at h
      · cases h
      · split_ifs at h
        cases h

/-- An item of a list: the first one, or one after a comma. -/
theorem nextItem_eq_item (h : nextItem first rest = .ok (true, here)) :
    ∃ b later, here = b :: later ∧ b ≠ 0x5D ∧
      (first = true ∧ skipBlanks rest = here ∨
        first = false ∧ ∃ tail, skipBlanks rest = 0x2C :: tail ∧ skipBlanks tail = here) := by
  unfold nextItem at h
  split at h
  · cases h
  · rename_i b after hblanks
    split_ifs at h with hbracket hfirst hcomma
    · cases h
    · cases h
      exact ⟨b, after, rfl, hbracket, .inl ⟨hfirst, hblanks⟩⟩
    · split at h
      · cases h
      · rename_i c later hlater
        split_ifs at h with hend
        cases h
        exact ⟨c, later, rfl, hend,
          .inr ⟨Bool.eq_false_iff.mpr hfirst, after, hcomma ▸ hblanks, hlater⟩⟩

theorem itemsFrom_eq_ok_of_item (hnext : nextItem first rest = .ok (true, here)) {xs : List α} :
    itemsFrom read (turns + 1) first rest = .ok (xs, after) ↔
      ∃ x next, read here = .ok (x, next) ∧
        ∃ xs', itemsFrom read turns false next = .ok (xs', after) ∧ xs = x :: xs' := by
  rw [itemsFrom, hnext]
  cases hread : read here with
  | error trouble => simp [hread]
  | ok found =>
    obtain ⟨x, next⟩ := found
    cases hrest : itemsFrom read turns false next with
    | error trouble => simp [hread, hrest]
    | ok found =>
      obtain ⟨xs', after'⟩ := found
      simp [hread, hrest, eq_comm, and_comm]

/-- A list that was read has its items at their places. -/
theorem exists_items {xs : List α} (h : itemsFrom read turns first rest = .ok (xs, after)) :
    ∃ spots, Items read after first rest spots ∧ spots.length < turns ∧
      xs = spots.map (·.item) := by
  induction turns generalizing first rest xs with
  | zero => cases h
  | succ turns ih =>
    cases hnext : nextItem first rest with
    | error trouble =>
      rw [itemsFrom, hnext] at h
      cases h
    | ok found =>
      obtain ⟨more, here⟩ := found
      cases more with
      | false =>
        rw [itemsFrom, hnext] at h
        cases h
        obtain ⟨after, -, rfl⟩ := nextItem_eq_end hnext
        exact ⟨[], .nil hnext, Nat.succ_pos _, rfl⟩
      | true =>
        obtain ⟨x, next, hread, xs', hrest, rfl⟩ := (itemsFrom_eq_ok_of_item hnext).mp h
        obtain ⟨spots, hspots, hlength, rfl⟩ := ih hrest
        exact ⟨⟨here, x, next⟩ :: spots, .cons hnext hread hspots, Nat.succ_lt_succ hlength, rfl⟩

/-- Another reader goes from item to item as well. -/
theorem Items.itemsFrom_eq_ok {spots : List (Spot α)} (h : Items read after first rest spots)
    {other : Bytes → Reading β}
    (hsame : ∀ p ∈ spots, ∀ y next, other p.here = .ok (y, next) → next = p.next)
    (hturns : spots.length < turns) {ys : List β} {stop : Bytes} :
    itemsFrom other turns first rest = .ok (ys, stop) ↔
      stop = after ∧ Forall₂ (fun p y => other p.here = .ok (y, p.next)) spots ys := by
  obtain ⟨turns, rfl⟩ := Nat.exists_eq_succ_of_ne_zero (Nat.ne_zero_of_lt hturns)
  induction h generalizing turns ys with
  | nil hnext =>
    rw [itemsFrom, hnext, List.forall₂_nil_left_iff]
    simp [eq_comm, and_comm]
  | @cons first rest p spots hnext _ _ ih =>
    obtain ⟨turns, rfl⟩ := Nat.exists_eq_succ_of_ne_zero
      (Nat.ne_zero_of_lt (Nat.lt_of_succ_lt_succ hturns))
    have hlater := fun ys => @ih (fun q hq => hsame q (List.mem_cons_of_mem _ hq)) ys turns
      (Nat.lt_of_succ_lt_succ hturns)
    rw [itemsFrom_eq_ok_of_item hnext, List.forall₂_cons_left_iff]
    constructor
    · rintro ⟨y, next, hread, ys', hrest, rfl⟩
      cases hsame p List.mem_cons_self y next hread
      obtain ⟨hend, hys⟩ := (hlater ys').mp hrest
      exact ⟨hend, y, ys', hread, hys, rfl⟩
    · rintro ⟨hend, y, ys', hread, hys, rfl⟩
      exact ⟨y, p.next, hread, ys', (hlater ys').mpr ⟨hend, hys⟩, rfl⟩

/-! ## Objects -/

/-- The brace that ends an object is not passed yet. -/
theorem nextName_eq_end (h : nextName first rest = .ok (false, closing)) :
    ∃ after, skipBlanks rest = 0x7D :: after ∧ closing = 0x7D :: after := by
  unfold nextName at h
  split at h
  · cases h
  · rename_i b after hblanks
    split_ifs at h with hbrace hfirst hquote hcomma
    · cases h
      exact ⟨after, hbrace ▸ hblanks, hbrace ▸ rfl⟩
    · cases h
    · split at h
      · cases h
      · split_ifs at h
        cases h

/-- A name of an object: the first one, or one after a comma. -/
theorem nextName_eq_name {quoted : Bytes} (h : nextName first rest = .ok (true, quoted)) :
    first = true ∧ skipBlanks rest = 0x22 :: quoted ∨
      first = false ∧ ∃ tail, skipBlanks rest = 0x2C :: tail ∧
        skipBlanks tail = 0x22 :: quoted := by
  unfold nextName at h
  split at h
  · cases h
  · rename_i b after hblanks
    split_ifs at h with hbrace hfirst hquote hcomma
    · cases h
    · cases h
      exact .inl ⟨hfirst, hquote ▸ hblanks⟩
    · split at h
      · cases h
      · rename_i c later hlater
        split_ifs at h with hquote
        cases h
        exact .inr ⟨Bool.eq_false_iff.mpr hfirst, after, hcomma ▸ hblanks, hquote ▸ hlater⟩

theorem membersFrom_eq_ok_of_name {g : Gathering σ} {s s'' : σ} {quoted : Bytes}
    (hnext : nextName first rest = .ok (true, quoted)) :
    membersFrom g (turns + 1) first s rest = .ok (s'', after) ↔
      ∃ name unquoted, string quoted = .ok (name, unquoted) ∧ g.refuse s name = none ∧
        ∃ here, colon unquoted = .ok here ∧ ∃ s' next, g.member s name here = .ok (s', next) ∧
          membersFrom g turns false s' next = .ok (s'', after) := by
  rw [membersFrom, hnext]
  cases hstring : string quoted with
  | error trouble => simp [hstring]
  | ok found =>
    obtain ⟨name, unquoted⟩ := found
    cases hrefuse : g.refuse s name with
    | some cause => simp [hstring, hrefuse]
    | none =>
      cases hcolon : colon unquoted with
      | error trouble => simp [hstring, hrefuse, hcolon]
      | ok here =>
        cases hmember : g.member s name here with
        | error trouble => simp [hstring, hrefuse, hcolon, hmember]
        | ok found =>
          obtain ⟨s', next⟩ := found
          simp [hstring, hrefuse, hcolon, hmember]

/-- An object that was read has its members at their places, and keeps the last of each name. -/
theorem exists_members {read : Bytes → Reading Value} {kept kept' : List (String × Value)}
    (h : membersFrom (anyMembers read) turns first kept rest = .ok (kept', after)) :
    ∃ ms, Members read after first rest ms ∧ ms.length < turns ∧
      kept' = setMembers kept (ms.map fun m => (m.1, m.2.item)) := by
  induction turns generalizing first rest kept with
  | zero => cases h
  | succ turns ih =>
    cases hnext : nextName first rest with
    | error trouble =>
      rw [membersFrom, hnext] at h
      cases h
    | ok found =>
      obtain ⟨more, quoted⟩ := found
      cases more with
      | false =>
        rw [membersFrom, hnext] at h
        cases h
        obtain ⟨after, -, rfl⟩ := nextName_eq_end hnext
        exact ⟨[], .nil hnext, Nat.succ_pos _, rfl⟩
      | true =>
        obtain ⟨name, unquoted, hstring, -, here, hcolon, kept'', next, hmember, hrest⟩ :=
          (membersFrom_eq_ok_of_name hnext).mp h
        obtain ⟨ms, hms, hlength, rfl⟩ := ih hrest
        cases hread : read here with
        | error trouble => simp [anyMembers, hread] at hmember
        | ok found =>
          obtain ⟨v, next'⟩ := found
          simp only [anyMembers, hread, Except.ok.injEq, Prod.mk.injEq] at hmember
          obtain ⟨rfl, rfl⟩ := hmember
          exact ⟨(name, ⟨here, v, next'⟩) :: ms, .cons hnext hstring hcolon hread hms,
            Nat.succ_lt_succ hlength, rfl⟩

/-- Another gathering goes from member to member as well. -/
theorem Members.membersFrom_eq_ok {ms : List (String × Spot α)}
    (h : Members read after first rest ms) {g : Gathering σ}
    (hsame : ∀ m ∈ ms, ∀ s s' next, g.member s m.1 m.2.here = .ok (s', next) → next = m.2.next)
    (hturns : ms.length < turns) {s s'' : σ} {stop : Bytes} :
    membersFrom g turns first s rest = .ok (s'', stop) ↔ stop = after ∧ Gathers g s ms s'' := by
  obtain ⟨turns, rfl⟩ := Nat.exists_eq_succ_of_ne_zero (Nat.ne_zero_of_lt hturns)
  induction h generalizing turns s with
  | nil hnext =>
    rw [membersFrom, hnext]
    constructor
    · rintro ⟨⟩
      exact ⟨rfl, .nil⟩
    · rintro ⟨rfl, ⟨⟩⟩
      rfl
  | @cons first rest quoted name unquoted p ms hnext hstring hcolon _ _ ih =>
    obtain ⟨turns, rfl⟩ := Nat.exists_eq_succ_of_ne_zero
      (Nat.ne_zero_of_lt (Nat.lt_of_succ_lt_succ hturns))
    have hlater := fun s => @ih (fun m hm => hsame m (List.mem_cons_of_mem _ hm)) s turns
      (Nat.lt_of_succ_lt_succ hturns)
    rw [membersFrom_eq_ok_of_name hnext]
    constructor
    · rintro ⟨name', unquoted', hstring', hrefuse, here, hcolon', s', next, hmember, hrest⟩
      cases hstring.symm.trans hstring'
      cases hcolon.symm.trans hcolon'
      cases hsame (name, p) List.mem_cons_self s s' next hmember
      obtain ⟨hend, hgathers⟩ := (hlater s').mp hrest
      exact ⟨hend, .cons hrefuse hmember hgathers⟩
    · rintro ⟨hend, _ | ⟨hrefuse, hmember, hgathers⟩⟩
      exact ⟨name, unquoted, hstring, hrefuse, p.here, hcolon, _, p.next, hmember,
        (hlater _).mpr ⟨hend, hgathers⟩⟩

/-! ## Values -/

/-- What a value is read from, by its first byte and the bytes after that. -/
inductive ReadAs (depth : Nat) : UInt8 → Bytes → Value → Bytes → Prop
  | null {tail after} : word [0x75, 0x6C, 0x6C] tail = .ok after →
      ReadAs depth 0x6E tail .null after
  | true {tail after} : word [0x72, 0x75, 0x65] tail = .ok after →
      ReadAs depth 0x74 tail (.bool true) after
  | false {tail after} : word [0x61, 0x6C, 0x73, 0x65] tail = .ok after →
      ReadAs depth 0x66 tail (.bool false) after
  | negative {tail n after} : number false tail = .ok (n, after) →
      ReadAs depth 0x2D tail (.number n) after
  | natural {b tail n after} : isDigit b = true → number true (b :: tail) = .ok (n, after) →
      ReadAs depth b tail (.number n) after
  | string {tail s after} : string tail = .ok (s, after) → ReadAs depth 0x22 tail (.string s) after
  | array {tail xs after} : items (value depth) tail = .ok (xs, after) →
      ReadAs depth 0x5B tail (.array xs) after
  | object {tail kept after} : members (anyMembers (value depth)) [] tail = .ok (kept, after) →
      ReadAs depth 0x7B tail (.object kept) after

/-- A value that was read begins after blanks. -/
theorem value_cases {depth : Nat} {v : Value} (h : value depth rest = .ok (v, after)) :
    ∃ below b tail, depth = below + 1 ∧ skipBlanks rest = b :: tail ∧
      ReadAs below b tail v after := by
  cases depth with
  | zero => cases h
  | succ depth =>
    rw [value] at h
    split at h
    · cases h
    · rename_i b tail hblanks
      refine ⟨depth, b, tail, rfl, hblanks, ?_⟩
      split_ifs at h with hnull htrue hfalse hminus hdigit hquote hbracket hdeep hbrace hdeep
      · subst hnull
        obtain ⟨_, hword, ⟨⟩⟩ := map_eq_ok.mp h
        exact .null hword
      · subst htrue
        obtain ⟨_, hword, ⟨⟩⟩ := map_eq_ok.mp h
        exact .true hword
      · subst hfalse
        obtain ⟨_, hword, ⟨⟩⟩ := map_eq_ok.mp h
        exact .false hword
      · subst hminus
        obtain ⟨_, hnumber, ⟨⟩⟩ := map_eq_ok.mp h
        exact .negative hnumber
      · obtain ⟨_, hnumber, ⟨⟩⟩ := map_eq_ok.mp h
        exact .natural hdigit hnumber
      · subst hquote
        obtain ⟨_, hstring, ⟨⟩⟩ := map_eq_ok.mp h
        exact .string hstring
      · subst hbracket
        obtain ⟨_, hitems, ⟨⟩⟩ := map_eq_ok.mp h
        exact .array hitems
      · subst hbrace
        obtain ⟨_, hmembers, ⟨⟩⟩ := map_eq_ok.mp h
        exact .object hmembers

/-! ## Whole texts -/

theorem unexpected_ne_ok (expected : String) (rest : Bytes) (x : α) (after : Bytes) :
    unexpected expected rest ≠ .ok (x, after) := by
  intro h
  unfold unexpected at h
  split at h
  · cases h
  · dsimp only at h
    split_ifs at h
    · obtain ⟨_, -, h⟩ := bind_eq_ok.mp h
      cases h
    · obtain ⟨_, -, h⟩ := bind_eq_ok.mp h
      cases h
    · obtain ⟨_, -, h⟩ := bind_eq_ok.mp h
      cases h
    · split at h <;> cases h
    · split at h <;> cases h
    · split at h <;> cases h

/-- A list is read from its opening bracket on. -/
theorem expectList_eq_ok {item : Nat → Bytes → Reading α} {xs : List α} :
    expectList item rest = .ok (xs, after) ↔ ∃ tail, skipBlanks rest = 0x5B :: tail ∧
      items (item (depthLimit - 1)) tail = .ok (xs, after) := by
  unfold expectList
  split
  · rename_i b tail hblanks
    split_ifs with hb
    · subst hb
      simp [hblanks]
    · refine ⟨fun h => absurd h (unexpected_ne_ok _ _ _ _), ?_⟩
      rintro ⟨tail', htail, -⟩
      rw [hblanks] at htail
      exact absurd (List.cons.inj htail).1 hb
  · rename_i hblanks
    refine ⟨fun h => absurd h (unexpected_ne_ok _ _ _ _), ?_⟩
    rintro ⟨tail, htail, -⟩
    cases hblanks.symm.trans htail

/-- A whole text is read if nothing but blanks is left. -/
theorem whole_eq_ok {x : α} {input : Bytes} : whole read input = .ok x ↔
    ∃ rest, read input = .ok (x, rest) ∧ skipBlanks rest = [] := by
  unfold whole
  cases read input with
  | error trouble => simp
  | ok found =>
    obtain ⟨y, rest⟩ := found
    cases hblanks : skipBlanks rest <;> simp [hblanks]

/-- Two readings of one text as a list go through the same items, as long as they agree on where
each of them ends. -/
theorem exists_spots {item : Nat → Bytes → Reading α} {input : Bytes} {xs : List α}
    (h : whole (expectList item) input = .ok xs) :
    ∃ spots : List (Spot α), xs = spots.map (·.item) ∧
      (∀ p ∈ spots, p.ReadBy (item (depthLimit - 1))) ∧
      ∀ {β : Type} (other : Nat → Bytes → Reading β),
        (∀ p ∈ spots, ∀ y next, other (depthLimit - 1) p.here = .ok (y, next) → next = p.next) →
        ∀ ys, whole (expectList other) input = .ok ys ↔
          Forall₂ (fun p y => other (depthLimit - 1) p.here = .ok (y, p.next)) spots ys := by
  obtain ⟨after, hread, hafter⟩ := whole_eq_ok.mp h
  obtain ⟨tail, htail, hitems⟩ := expectList_eq_ok.mp hread
  obtain ⟨spots, hspots, hlength, hxs⟩ := exists_items hitems
  refine ⟨spots, hxs, hspots.readBy, fun other hsame ys => ?_⟩
  rw [whole_eq_ok]
  simp only [expectList_eq_ok, htail, List.cons.injEq, true_and, exists_eq_left', items,
    hspots.itemsFrom_eq_ok hsame hlength]
  constructor
  · rintro ⟨_, ⟨-, hys⟩, -⟩
    exact hys
  · intro hys
    exact ⟨after, ⟨rfl, hys⟩, hafter⟩

/-- A list that is read is also read as the array of its items. -/
theorem parse_of_parseList {input : Bytes} {xs : List Value} (h : parseList input = .ok xs) :
    parse input = .ok (.array xs) := by
  have harray : ∀ {depth : Nat} {rest tail after : Bytes}, 0 < depth →
      skipBlanks rest = 0x5B :: tail → items (value depth) tail = .ok (xs, after) →
        value (depth + 1) rest = .ok (.array xs, after) := by
    intro depth rest tail after hdepth hblanks hitems
    rw [value, hblanks]
    simp only [reduceIte, if_neg (Nat.ne_of_gt hdepth), hitems]
    rfl
  obtain ⟨after, hlist, hafter⟩ := whole_eq_ok.mp h
  obtain ⟨tail, hblanks, hitems⟩ := expectList_eq_ok.mp hlist
  exact whole_eq_ok.mpr ⟨after, harray (by decide) hblanks hitems, hafter⟩

end ServiceLocator.Json
