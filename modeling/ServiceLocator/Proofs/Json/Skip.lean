import Mathlib.Data.List.DropRight
import ServiceLocator.Proofs.Json.Reader
import ServiceLocator.Proofs.Json.Skip.Scalar

/-!
What is read as a value is passed over as one (`Json.Skip.value_eq_ok`). Reading goes down a level
for each list and object, while passing over keeps a stack of what encloses the value, so the two
are related at one value first: passing over it goes on after it with the same stack
(`Json.Skip.Passes`).
-/
namespace ServiceLocator.Json.Skip

variable {rest after tail : Bytes}

/-- Passing over a value goes on after it with what encloses it, with a turn for each byte left. -/
def Passes (rest after : Bytes) : Prop :=
  ∀ turns frames, rest.length < turns →
    ∃ turns', after.length < turns' ∧ valueIn turns frames rest = endIn turns' frames after

theorem skipBlanks_skipBlanks (rest : Bytes) : skipBlanks (skipBlanks rest) = skipBlanks rest :=
  List.dropWhile_idempotent _ rest

/-- Blanks before a value do not matter. -/
theorem valueIn_skipBlanks (turns : Nat) (frames : List Frame) (rest : Bytes) :
    valueIn turns frames (skipBlanks rest) = valueIn turns frames rest := by
  cases turns with
  | zero => rfl
  | succ turns => simp only [valueIn, skipBlanks_skipBlanks]

theorem lt_of_skipBlanks_eq {b : UInt8} (h : skipBlanks rest = b :: tail) :
    tail.length < rest.length := by
  have hle := length_dropWhile_le isBlank rest
  rw [← skipBlanks, h] at hle
  exact hle

variable {turns : Nat} {frames : List Frame} {b : UInt8}

/-- A value that is passed over in one turn. -/
theorem Passes.of_turn (hblanks : skipBlanks rest = b :: tail)
    (hlength : after.length ≤ tail.length)
    (h : ∀ turns frames, valueIn (turns + 1) frames rest = endIn turns frames after) :
    Passes rest after := by
  intro turns frames hturns
  have htail := lt_of_skipBlanks_eq hblanks
  obtain ⟨turns, rfl⟩ := Nat.exists_eq_succ_of_ne_zero (Nat.ne_zero_of_lt hturns)
  exact ⟨turns, by omega, h turns frames⟩

/-! ## Lists -/

theorem valueIn_list_end (hblanks : skipBlanks rest = 0x5B :: tail)
    (hend : skipBlanks tail = 0x5D :: after) :
    valueIn (turns + 1) frames rest = endIn turns frames after := by
  simp only [valueIn, hblanks, hend]
  rfl

theorem valueIn_list_item (hblanks : skipBlanks rest = 0x5B :: tail) {later : Bytes}
    (hitem : skipBlanks tail = b :: later) (hb : b ≠ 0x5D) :
    valueIn (turns + 1) frames rest = valueIn turns (.list :: frames) (b :: later) := by
  simp only [valueIn, hblanks, hitem, if_neg hb]
  rfl

theorem endIn_list_end (hend : skipBlanks rest = 0x5D :: after) :
    endIn (turns + 1) (.list :: frames) rest = endIn turns frames after := by
  simp only [endIn, hend]
  rfl

theorem endIn_list_item (hcomma : skipBlanks rest = 0x2C :: tail) :
    endIn (turns + 1) (.list :: frames) rest = valueIn turns (.list :: frames) tail := by
  simp only [endIn, hcomma]
  rfl

variable {α : Type} {read : Bytes → Reading α}

/-- After an item, the items that are left and the closing bracket are passed over. -/
theorem endIn_items {spots : List (Spot α)} (h : Items read after false rest spots)
    (hpasses : ∀ p ∈ spots, Passes p.here p.next) (hturns : rest.length < turns) :
    ∃ turns', after.length < turns' ∧
      endIn turns (.list :: frames) rest = endIn turns' frames after := by
  obtain ⟨turns, rfl⟩ := Nat.exists_eq_succ_of_ne_zero (Nat.ne_zero_of_lt hturns)
  generalize hfirst : false = first at h
  induction h generalizing turns with
  | nil hnext =>
    obtain ⟨after', hend, hafter⟩ := nextItem_eq_end hnext
    cases hafter
    have hlength := lt_of_skipBlanks_eq hend
    exact ⟨turns, by omega, endIn_list_end hend⟩
  | @cons first rest p spots hnext hread _ ih =>
    subst hfirst
    -- The comma takes a turn, and the item starts behind it, so there are turns enough for it.
    obtain ⟨b, later, hhere, -, ⟨⟨⟩, -⟩ | ⟨-, tail, hcomma, hitem⟩⟩ := nextItem_eq_item hnext
    have hlength := lt_of_skipBlanks_eq hcomma
    have hle := length_dropWhile_le isBlank tail
    rw [← skipBlanks, hitem] at hle
    obtain ⟨turns', hturns', hitem'⟩ := hpasses p List.mem_cons_self turns (.list :: frames)
      (by omega)
    obtain ⟨turns', rfl⟩ := Nat.exists_eq_succ_of_ne_zero (Nat.ne_zero_of_lt hturns')
    obtain ⟨turns'', hturns'', hrest⟩ := ih (fun q hq => hpasses q (List.mem_cons_of_mem _ hq))
      turns' hturns' rfl
    refine ⟨turns'', hturns'', ?_⟩
    rw [endIn_list_item hcomma, ← valueIn_skipBlanks, hitem, hitem', hrest]

/-- A list is passed over if its items are. -/
theorem passes_list (hblanks : skipBlanks rest = 0x5B :: tail) {spots : List (Spot α)}
    (h : Items read after true tail spots) (hpasses : ∀ p ∈ spots, Passes p.here p.next) :
    Passes rest after := by
  cases h with
  | nil hnext =>
    obtain ⟨after', hend, hafter⟩ := nextItem_eq_end hnext
    cases hafter
    exact .of_turn hblanks (Nat.le_of_lt (lt_of_skipBlanks_eq hend)) fun turns frames =>
      valueIn_list_end hblanks hend
  | @cons _ _ p spots hnext hread hitems =>
    intro turns frames hturns
    obtain ⟨turns, rfl⟩ := Nat.exists_eq_succ_of_ne_zero (Nat.ne_zero_of_lt hturns)
    obtain ⟨b, later, hhere, hb, ⟨-, hitem⟩ | ⟨⟨⟩, -⟩⟩ := nextItem_eq_item hnext
    have hlength := lt_of_skipBlanks_eq hblanks
    have hle := length_dropWhile_le isBlank tail
    rw [← skipBlanks, hitem] at hle
    obtain ⟨turns', hturns', hitem'⟩ := hpasses p List.mem_cons_self turns (.list :: frames)
      (by omega)
    obtain ⟨turns'', hturns'', hrest⟩ := endIn_items hitems
      (fun q hq => hpasses q (List.mem_cons_of_mem _ hq)) hturns'
    refine ⟨turns'', hturns'', ?_⟩
    rw [valueIn_list_item hblanks (hitem.trans hhere) hb, ← hhere, hitem', hrest]

/-! ## Objects -/

theorem colon_eq_ok {here : Bytes} (h : colon rest = .ok here) :
    skipBlanks rest = 0x3A :: here := by
  unfold colon at h
  split at h
  · cases h
  · rename_i b after hblanks
    split_ifs at h with hcolon
    cases h
    rw [hblanks, hcolon]

/-- A name and its colon are passed over. -/
theorem name_eq_ok {quoted unquoted here : Bytes} {s : String}
    (hquote : skipBlanks rest = 0x22 :: quoted) (hstring : Json.string quoted = .ok (s, unquoted))
    (hcolon : colon unquoted = .ok here) : name rest = .ok here ∧ here.length < rest.length := by
  have hskip := string_eq_ok hstring
  have hquoted := lt_of_skipBlanks_eq hquote
  have hunquoted := length_string_lt hskip
  have hhere := lt_of_skipBlanks_eq (colon_eq_ok hcolon)
  refine ⟨?_, by omega⟩
  simp only [name, hquote, if_true, Bind.bind, Except.bind, hskip, hcolon]

theorem valueIn_object_end (hblanks : skipBlanks rest = 0x7B :: tail)
    (hend : skipBlanks tail = 0x7D :: after) :
    valueIn (turns + 1) frames rest = endIn turns frames after := by
  simp only [valueIn, hblanks, hend]
  rfl

theorem valueIn_object_name (hblanks : skipBlanks rest = 0x7B :: tail) {quoted here : Bytes}
    (hquote : skipBlanks tail = 0x22 :: quoted) (hname : name (skipBlanks tail) = .ok here) :
    valueIn (turns + 1) frames rest = valueIn turns (.object :: frames) here := by
  rw [hquote] at hname
  simp only [valueIn, hblanks, hquote, hname]
  rfl

theorem endIn_object_end (hend : skipBlanks rest = 0x7D :: after) :
    endIn (turns + 1) (.object :: frames) rest = endIn turns frames after := by
  simp only [endIn, hend]
  rfl

theorem endIn_object_name (hcomma : skipBlanks rest = 0x2C :: tail) {here : Bytes}
    (hname : name tail = .ok here) :
    endIn (turns + 1) (.object :: frames) rest = valueIn turns (.object :: frames) here := by
  simp only [endIn, hcomma, hname]
  rfl

/-- After a member, the members that are left and the closing brace are passed over. -/
theorem endIn_members {ms : List (String × Spot α)} (h : Members read after false rest ms)
    (hpasses : ∀ m ∈ ms, Passes m.2.here m.2.next) (hturns : rest.length < turns) :
    ∃ turns', after.length < turns' ∧
      endIn turns (.object :: frames) rest = endIn turns' frames after := by
  obtain ⟨turns, rfl⟩ := Nat.exists_eq_succ_of_ne_zero (Nat.ne_zero_of_lt hturns)
  generalize hfirst : false = first at h
  induction h generalizing turns with
  | nil hnext =>
    obtain ⟨after', hend, hafter⟩ := nextName_eq_end hnext
    cases hafter
    have hlength := lt_of_skipBlanks_eq hend
    exact ⟨turns, by omega, endIn_object_end hend⟩
  | @cons first rest quoted name unquoted p ms hnext hstring hcolon hread _ ih =>
    subst hfirst
    obtain ⟨⟨⟩, -⟩ | ⟨-, tail, hcomma, hquote⟩ := nextName_eq_name hnext
    obtain ⟨hname, hhere⟩ := name_eq_ok hquote hstring hcolon
    have hlength := lt_of_skipBlanks_eq hcomma
    obtain ⟨turns', hturns', hmember⟩ := hpasses (name, p) List.mem_cons_self turns
      (.object :: frames) (by dsimp only; omega)
    obtain ⟨turns', rfl⟩ := Nat.exists_eq_succ_of_ne_zero (Nat.ne_zero_of_lt hturns')
    obtain ⟨turns'', hturns'', hrest⟩ := ih (fun m hm => hpasses m (List.mem_cons_of_mem _ hm))
      turns' hturns' rfl
    exact ⟨turns'', hturns'', by rw [endIn_object_name hcomma hname, hmember, hrest]⟩

/-- An object is passed over if what its members hold is. -/
theorem passes_object (hblanks : skipBlanks rest = 0x7B :: tail) {ms : List (String × Spot α)}
    (h : Members read after true tail ms) (hpasses : ∀ m ∈ ms, Passes m.2.here m.2.next) :
    Passes rest after := by
  cases h with
  | nil hnext =>
    obtain ⟨after', hend, hafter⟩ := nextName_eq_end hnext
    cases hafter
    exact .of_turn hblanks (Nat.le_of_lt (lt_of_skipBlanks_eq hend)) fun turns frames =>
      valueIn_object_end hblanks hend
  | @cons _ _ quoted name unquoted p ms hnext hstring hcolon hread hmembers =>
    intro turns frames hturns
    obtain ⟨turns, rfl⟩ := Nat.exists_eq_succ_of_ne_zero (Nat.ne_zero_of_lt hturns)
    obtain ⟨-, hquote⟩ | ⟨⟨⟩, -⟩ := nextName_eq_name hnext
    obtain ⟨hname, hhere⟩ :=
      name_eq_ok ((skipBlanks_skipBlanks tail).trans hquote) hstring hcolon
    have hlength := lt_of_skipBlanks_eq hblanks
    have hle := length_dropWhile_le isBlank tail
    rw [← skipBlanks] at hle
    obtain ⟨turns', hturns', hmember⟩ := hpasses (name, p) List.mem_cons_self turns
      (.object :: frames) (by dsimp only; omega)
    obtain ⟨turns'', hturns'', hrest⟩ := endIn_members hmembers
      (fun m hm => hpasses m (List.mem_cons_of_mem _ hm)) hturns'
    exact ⟨turns'', hturns'', by rw [valueIn_object_name hblanks hquote hname, hmember, hrest]⟩

/-! ## Any value -/

/-- Passing over a value goes on where reading it stops. -/
theorem passes_of_value {depth : Nat} {v : Value} (h : Json.value depth rest = .ok (v, after)) :
    Passes rest after := by
  induction depth generalizing rest after v with
  | zero => cases h
  | succ depth ih =>
    obtain ⟨_, b, tail, ⟨⟩, hblanks, hread⟩ := value_cases h
    cases hread with
    | null hword =>
      refine .of_turn hblanks (length_word_le hword) fun turns frames => ?_
      simp only [valueIn, hblanks, hword]
      rfl
    | true hword =>
      refine .of_turn hblanks (length_word_le hword) fun turns frames => ?_
      simp only [valueIn, hblanks, hword]
      rfl
    | false hword =>
      refine .of_turn hblanks (length_word_le hword) fun turns frames => ?_
      simp only [valueIn, hblanks, hword]
      rfl
    | negative hnumber =>
      have hskip := number_eq_ok hnumber
      refine .of_turn hblanks (Nat.le_of_lt (length_number_lt hskip)) fun turns frames => ?_
      simp only [valueIn, hblanks, hskip]
      rfl
    | natural hdigit hnumber =>
      have hskip := number_eq_ok hnumber
      refine .of_turn hblanks (Nat.le_of_lt_succ (length_number_lt hskip)) fun turns frames => ?_
      have hmarks : b ≠ 0x6E ∧ b ≠ 0x74 ∧ b ≠ 0x66 ∧ b ≠ 0x2D := by
        refine ⟨?_, ?_, ?_, ?_⟩ <;> rintro rfl <;> cases hdigit
      obtain ⟨hnull, htrue, hfalse, hminus⟩ := hmarks
      simp only [valueIn, hblanks, if_neg hnull, if_neg htrue, if_neg hfalse, if_neg hminus, hdigit,
        if_true, hskip]
      rfl
    | string hstring =>
      have hskip := string_eq_ok hstring
      refine .of_turn hblanks (Nat.le_of_lt (length_string_lt hskip)) fun turns frames => ?_
      simp only [valueIn, hblanks, hskip]
      rfl
    | array hitems =>
      obtain ⟨spots, hspots, -⟩ := exists_items hitems
      exact passes_list hblanks hspots fun p hp => ih (hspots.readBy p hp)
    | object hmembers =>
      obtain ⟨ms, hms, -⟩ := exists_members hmembers
      exact passes_object hblanks hms fun m hm => ih (hms.readBy m hm)

/-- What is read as a value is passed over, whatever it is and however deep it nests. -/
theorem value_eq_ok {depth : Nat} {v : Value} (h : Json.value depth rest = .ok (v, after)) :
    value rest = .ok after := by
  obtain ⟨turns, -, hend⟩ := passes_of_value h (rest.length + 1) [] (Nat.lt_succ_self _)
  rw [value, hend]
  cases turns <;> rfl

end ServiceLocator.Json.Skip
