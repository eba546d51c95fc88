import ServiceLocator.Proofs.Json.Scalar

/-!
Values read back. The compact form of a value is read as the value (`Json.parse_bytes`), if its
numbers are integers of 64 bits and it nests no deeper than the reader goes (`Json.Lossless`):
the writer knows no limit, but the reader does.
-/
namespace ServiceLocator.Json

open Utf8 (bytes bytes_cons bytes_append bytes_singleton)

/-- A value of which the compact form loses nothing: its members are in the order of their
names, its numbers are integers of 64 bits, and its lists and objects nest at most `depth`
deep. -/
inductive Lossless : Nat → Value → Prop
  | null {depth} : Lossless depth .null
  | bool {depth} (b) : Lossless depth (.bool b)
  | integer {depth n} : Fits n → Lossless depth (.number (.integer n))
  | string {depth} (s) : Lossless depth (.string s)
  | array {depth items} : (∀ item ∈ items, Lossless depth item) →
      Lossless (depth + 1) (.array items)
  | object {depth members} : members.Pairwise (fun m m' => m.1 < m'.1) →
      (∀ m ∈ members, Lossless depth m.2) → Lossless (depth + 1) (.object members)

theorem skipBlanks_cons {b : UInt8} (h : isBlank b = false) (rest : Bytes) :
    skipBlanks (b :: rest) = b :: rest := by
  rw [skipBlanks, List.dropWhile_cons, h]
  rfl

/-! ## Integers -/

/-- An integer of 64 bits begins with a minus sign or a digit. -/
theorem bytes_integer (n : Int) :
    n < 0 ∧ bytes (Number.integer n).chars = 0x2D :: bytes (Numeral.decimal n.natAbs) ∨
      0 ≤ n ∧ bytes (Number.integer n).chars = bytes (Numeral.decimal n.natAbs) := by
  rw [Number.chars]
  split
  · rename_i h
    exact .inl ⟨h, bytes_cons _ _⟩
  · rename_i h
    exact .inr ⟨Int.not_lt.mp h, rfl⟩

/-- A digit is not taken for the beginning of anything but a number. -/
theorem marks_of_digit {k : Nat} (hk : k < 10) :
    let b := UInt8.ofNat (k + 48)
    isBlank b = false ∧ b ≠ 0x5D ∧ b ≠ 0x6E ∧ b ≠ 0x74 ∧ b ≠ 0x66 ∧ b ≠ 0x2D := by
  have hall : ∀ k < 10, isBlank (UInt8.ofNat (k + 48)) = false ∧ UInt8.ofNat (k + 48) ≠ 0x5D ∧
      UInt8.ofNat (k + 48) ≠ 0x6E ∧ UInt8.ofNat (k + 48) ≠ 0x74 ∧ UInt8.ofNat (k + 48) ≠ 0x66 ∧
      UInt8.ofNat (k + 48) ≠ 0x2D := by decide
  exact hall k hk

theorem value_integer {n : Int} (h : Fits n) {rest : Bytes} (hrest : EndsNumber rest)
    (depth : Nat) :
    value (depth + 1) (bytes (Number.integer n).chars ++ rest) =
      .ok (.number (.integer n), rest) := by
  obtain ⟨hlow, hhigh⟩ := h
  rcases bytes_integer n with ⟨hneg, hbytes⟩ | ⟨hpos, hbytes⟩
  · have hnumber := number_negative (n := n.natAbs) (by omega) (by omega) hrest
    have hn : -(n.natAbs : Int) = n := by omega
    rw [hn] at hnumber
    rw [hbytes, List.cons_append, value, skipBlanks_cons (by decide)]
    simp only [reduceIte, hnumber]
    rfl
  · have hnumber := number_natural (n := n.natAbs) (by rw [maxSignificand]; omega) hrest
    have hn : (n.natAbs : Int) = n := by omega
    obtain ⟨k, more, hk, hdigits⟩ := exists_bytes_decimal n.natAbs
    obtain ⟨hblank, -, hnull, htrue, hfalse, hminus⟩ := marks_of_digit hk
    rw [hn, hdigits, List.cons_append] at hnumber
    rw [hbytes, hdigits, List.cons_append, value, skipBlanks_cons hblank]
    simp only [if_neg hnull, if_neg htrue, if_neg hfalse, if_neg hminus, isDigit_ofNat hk, if_true,
      hnumber]
    rfl

/-- How a value begins: with no blank and no closing bracket. -/
theorem Lossless.exists_cons {depth : Nat} {v : Value} (h : Lossless depth v) :
    ∃ b more, bytes v.chars = b :: more ∧ isBlank b = false ∧ b ≠ 0x5D := by
  cases h with
  | null => exact ⟨0x6E, _, rfl, by decide, by decide⟩
  | bool b =>
    cases b with
    | true => exact ⟨0x74, _, rfl, by decide, by decide⟩
    | false => exact ⟨0x66, _, rfl, by decide, by decide⟩
  | @integer _ n h =>
    rcases bytes_integer n with ⟨_, hbytes⟩ | ⟨_, hbytes⟩
    · exact ⟨0x2D, _, hbytes, by decide, by decide⟩
    · obtain ⟨k, more, hk, hdigits⟩ := exists_bytes_decimal n.natAbs
      obtain ⟨hblank, hbracket, -⟩ := marks_of_digit hk
      exact ⟨_, more, hbytes.trans hdigits, hblank, hbracket⟩
  | string s =>
    obtain ⟨more, hbytes, _⟩ := string_quoted s
    exact ⟨0x22, more, hbytes, by decide, by decide⟩
  | @array _ items _ =>
    cases items with
    | nil => exact ⟨0x5B, _, rfl, by decide, by decide⟩
    | cons item items => exact ⟨0x5B, _, bytes_cons _ _, by decide, by decide⟩
  | @object _ members _ =>
    cases members with
    | nil => exact ⟨0x7B, _, rfl, by decide, by decide⟩
    | cons m members => exact ⟨0x7B, _, bytes_cons _ _, by decide, by decide⟩

/-! ## Lists -/

theorem nextItem_first {b : UInt8} (hblank : isBlank b = false) (hbracket : b ≠ 0x5D)
    (rest : Bytes) : nextItem true (b :: rest) = .ok (true, b :: rest) := by
  rw [nextItem, skipBlanks_cons hblank]
  simp only [if_neg hbracket, if_true]

theorem nextItem_comma {b : UInt8} (hblank : isBlank b = false) (hbracket : b ≠ 0x5D)
    (rest : Bytes) : nextItem false (0x2C :: b :: rest) = .ok (true, b :: rest) := by
  rw [nextItem, skipBlanks_cons (by decide)]
  simp only [skipBlanks_cons hblank, if_neg hbracket]
  rfl

/-- A reader reads a value back, whatever follows that ends a number. -/
def ReadsBack (read : Bytes → Reading Value) (v : Value) : Prop :=
  ∀ rest, EndsNumber rest → read (bytes v.chars ++ rest) = .ok (v, rest)

theorem endsNumber_itemsChars (xs : List Value) (rest : Bytes) :
    EndsNumber (bytes (itemsChars xs) ++ rest) := by
  cases xs with
  | nil => exact .cons (by decide) _
  | cons x xs =>
    rw [itemsChars, bytes_cons]
    exact .cons (by decide) _

theorem length_lt_itemsChars (xs : List Value) : xs.length < (bytes (itemsChars xs)).length := by
  induction xs with
  | nil => exact Nat.one_pos
  | cons x xs ih =>
    rw [itemsChars, bytes_cons, bytes_append]
    simp only [List.length_append, List.length_cons]
    have hcomma := Utf8.length_utf8EncodeChar_pos ','
    omega

theorem itemsFrom_itemsChars {depth : Nat} {item : Bytes → Reading Value} {xs : List Value}
    (hxs : ∀ x ∈ xs, Lossless depth x ∧ ReadsBack item x) {turns : Nat} (hturns : xs.length < turns)
    (rest : Bytes) :
    itemsFrom item turns false (bytes (itemsChars xs) ++ rest) = .ok (xs, rest) := by
  induction xs generalizing turns with
  | nil =>
    obtain ⟨turns, rfl⟩ := Nat.exists_eq_succ_of_ne_zero (Nat.pos_iff_ne_zero.mp hturns)
    rfl
  | cons x xs ih =>
    obtain ⟨turns, rfl⟩ := Nat.exists_eq_succ_of_ne_zero (Nat.ne_zero_of_lt hturns)
    obtain ⟨hx, hread⟩ := hxs x List.mem_cons_self
    obtain ⟨b, more, hbytes, hblank, hbracket⟩ := hx.exists_cons
    have hitem := hread _ (endsNumber_itemsChars xs rest)
    have hlater :=
      ih (fun y hy => hxs y (List.mem_cons_of_mem _ hy)) (Nat.lt_of_succ_lt_succ hturns)
    rw [hbytes, List.cons_append] at hitem
    have hchars : bytes (itemsChars (x :: xs)) ++ rest =
        0x2C :: b :: (more ++ (bytes (itemsChars xs) ++ rest)) := by
      rw [itemsChars, bytes_cons, bytes_append, hbytes]
      simp only [List.append_assoc, List.cons_append]
      rfl
    rw [hchars, itemsFrom, nextItem_comma hblank hbracket]
    simp only [hitem, hlater]

/-- A list is read back after its opening bracket. -/
theorem items_array {depth : Nat} {item : Bytes → Reading Value} {xs : List Value}
    (hxs : ∀ x ∈ xs, Lossless depth x ∧ ReadsBack item x) :
    ∃ more, bytes (Value.array xs).chars = 0x5B :: more ∧
      ∀ rest, items item (more ++ rest) = .ok (xs, rest) := by
  cases xs with
  | nil => exact ⟨[0x5D], rfl, fun _ => rfl⟩
  | cons x xs =>
    obtain ⟨hx, hread⟩ := hxs x List.mem_cons_self
    obtain ⟨b, more, hbytes, hblank, hbracket⟩ := hx.exists_cons
    refine ⟨bytes x.chars ++ bytes (itemsChars xs), ?_, fun rest => ?_⟩
    · rw [Value.chars, bytes_cons, bytes_append]
      rfl
    · have hitem := hread _ (endsNumber_itemsChars xs rest)
      have hlength := length_lt_itemsChars xs
      have hturns : xs.length < (bytes x.chars ++ (bytes (itemsChars xs) ++ rest)).length := by
        simp only [List.length_append]
        omega
      have hlater :=
        itemsFrom_itemsChars (fun y hy => hxs y (List.mem_cons_of_mem _ hy)) hturns rest
      rw [hbytes, List.cons_append] at hitem hlater
      rw [items, List.append_assoc, hbytes, List.cons_append, itemsFrom,
        nextItem_first hblank hbracket]
      simp only [hitem, hlater]

/-! ## Objects -/

/-- A name above all others goes to the end. -/
theorem setMember_of_forall_lt {name : String} {v : Value} {kept : List (String × Value)}
    (h : ∀ m ∈ kept, m.1 < name) : setMember name v kept = kept ++ [(name, v)] := by
  induction kept with
  | nil => rfl
  | cons m kept ih =>
    have hm : m.1 < name := h m List.mem_cons_self
    rw [setMember, if_neg (String.lt_asymm hm), if_neg (fun heq => String.lt_irrefl _ (heq ▸ hm)),
      ih fun m' hm' => h m' (List.mem_cons_of_mem _ hm')]
    rfl

theorem endsNumber_membersChars (ms : List (String × Value)) (rest : Bytes) :
    EndsNumber (bytes (membersChars ms) ++ rest) := by
  cases ms with
  | nil => exact .cons (by decide) _
  | cons m ms =>
    rw [membersChars, bytes_cons]
    exact .cons (by decide) _

theorem length_lt_membersChars (ms : List (String × Value)) :
    ms.length < (bytes (membersChars ms)).length := by
  induction ms with
  | nil => exact Nat.one_pos
  | cons m ms ih =>
    simp only [membersChars, bytes_cons, bytes_append, List.length_append, List.length_cons]
    have hcomma := Utf8.length_utf8EncodeChar_pos ','
    omega

/-- One member is read back, and kept under its name. -/
theorem membersFrom_succ {read : Bytes → Reading Value} {first : Bool} {input after tail : Bytes}
    {name : String} {v : Value} (hname : nextName first input = .ok (true, after))
    (hstring : string after = .ok (name, 0x3A :: (bytes v.chars ++ tail)))
    (hread : ReadsBack read v) (htail : EndsNumber tail) (turns : Nat)
    (kept : List (String × Value)) :
    membersFrom (anyMembers read) (turns + 1) first kept input =
      membersFrom (anyMembers read) turns false (setMember name v kept) tail := by
  have hcolon : colon (0x3A :: (bytes v.chars ++ tail)) = .ok (bytes v.chars ++ tail) := rfl
  have hmember : (anyMembers read).member kept name (bytes v.chars ++ tail) =
      .ok (setMember name v kept, tail) := by
    simp only [anyMembers, hread tail htail]
  have hrefuse : (anyMembers read).refuse kept name = none := rfl
  rw [membersFrom, hname]
  simp only [hstring, hrefuse, hcolon, hmember]

theorem membersFrom_membersChars {read : Bytes → Reading Value} {ms kept : List (String × Value)}
    (hsorted : (kept ++ ms).Pairwise fun m m' => m.1 < m'.1)
    (hms : ∀ m ∈ ms, ReadsBack read m.2) {turns : Nat} (hturns : ms.length < turns) (rest : Bytes) :
    membersFrom (anyMembers read) turns false kept (bytes (membersChars ms) ++ rest) =
      .ok (kept ++ ms, rest) := by
  induction ms generalizing turns kept with
  | nil =>
    obtain ⟨turns, rfl⟩ := Nat.exists_eq_succ_of_ne_zero (Nat.pos_iff_ne_zero.mp hturns)
    rw [List.append_nil]
    rfl
  | cons m ms ih =>
    obtain ⟨name, v⟩ := m
    obtain ⟨turns, rfl⟩ := Nat.exists_eq_succ_of_ne_zero (Nat.ne_zero_of_lt hturns)
    obtain ⟨more, hquoted, hstring⟩ := string_quoted name
    have hchars : bytes (membersChars ((name, v) :: ms)) ++ rest = 0x2C :: 0x22 ::
        (more ++ 0x3A :: (bytes v.chars ++ (bytes (membersChars ms) ++ rest))) := by
      rw [membersChars, bytes_cons, bytes_append, bytes_cons, bytes_append, hquoted]
      simp only [List.append_assoc, List.cons_append]
      rfl
    -- The names so far are below this one, so it goes to the end of what is kept.
    have hbelow : ∀ m ∈ kept, m.1 < name := fun m hm =>
      (List.pairwise_append.mp hsorted).2.2 m hm (name, v) List.mem_cons_self
    have hsplit : kept ++ (name, v) :: ms = (kept ++ [(name, v)]) ++ ms := by
      rw [List.append_assoc, List.singleton_append]
    rw [hchars, membersFrom_succ rfl (hstring _) (hms _ List.mem_cons_self)
      (endsNumber_membersChars ms rest), setMember_of_forall_lt hbelow, hsplit]
    rw [hsplit] at hsorted
    exact ih hsorted (fun m hm => hms m (List.mem_cons_of_mem _ hm)) (Nat.lt_of_succ_lt_succ hturns)

/-- An object is read back after its opening brace. -/
theorem members_object {read : Bytes → Reading Value} {ms : List (String × Value)}
    (hsorted : ms.Pairwise fun m m' => m.1 < m'.1) (hms : ∀ m ∈ ms, ReadsBack read m.2) :
    ∃ more, bytes (Value.object ms).chars = 0x7B :: more ∧
      ∀ rest, members (anyMembers read) [] (more ++ rest) = .ok (ms, rest) := by
  cases ms with
  | nil => exact ⟨[0x7D], rfl, fun _ => rfl⟩
  | cons m ms =>
    obtain ⟨name, v⟩ := m
    obtain ⟨more, hquoted, hstring⟩ := string_quoted name
    refine ⟨0x22 :: (more ++ 0x3A :: (bytes v.chars ++ bytes (membersChars ms))), ?_,
      fun rest => ?_⟩
    · rw [Value.chars, bytes_cons, bytes_append, bytes_cons, bytes_append, hquoted]
      rfl
    · have hlength := length_lt_membersChars ms
      have hturns : ms.length < (0x22 :: (more ++ 0x3A :: (bytes v.chars ++
          (bytes (membersChars ms) ++ rest)))).length := by
        simp only [List.length_append, List.length_cons]
        omega
      rw [members, List.cons_append, List.append_assoc, List.cons_append, List.append_assoc,
        membersFrom_succ rfl (hstring _) (hms _ List.mem_cons_self)
          (endsNumber_membersChars ms rest)]
      have hkept : ([(name, v)] ++ ms).Pairwise fun m m' => m.1 < m'.1 := hsorted
      exact membersFrom_membersChars hkept (fun m hm => hms m (List.mem_cons_of_mem _ hm)) hturns
        rest

/-! ## Values -/

/-- What is written for a value is read as the value, one level above those it nests. -/
theorem Lossless.value_chars {depth : Nat} {v : Value} (h : Lossless depth v) :
    ReadsBack (value (depth + 1)) v := by
  induction h with
  | null => exact fun _ _ => rfl
  | bool b => cases b <;> exact fun _ _ => rfl
  | integer hn => exact fun _ hrest => value_integer hn hrest _
  | string s =>
    intro rest _
    obtain ⟨more, hquoted, hstring⟩ := string_quoted s
    rw [Value.chars, hquoted, List.cons_append, value, skipBlanks_cons (by decide)]
    simp only [reduceIte, hstring]
    rfl
  | array hitems ih =>
    intro rest _
    obtain ⟨more, hchars, hread⟩ := items_array fun x hx => ⟨hitems x hx, ih x hx⟩
    rw [hchars, List.cons_append, value, skipBlanks_cons (by decide)]
    simp only [reduceIte, hread]
    rfl
  | object hsorted _ ih =>
    intro rest _
    obtain ⟨more, hchars, hread⟩ := members_object hsorted ih
    rw [hchars, List.cons_append, value, skipBlanks_cons (by decide)]
    simp only [reduceIte, hread]
    rfl

theorem bytes_eq (v : Value) : v.bytes = bytes v.chars := by
  rw [Value.bytes, Value.text, Utf8.encode_eq_bytes, String.toList_ofList]

/-- A text that is the compact form of a value is read as the value. -/
theorem parse_bytes {v : Value} (h : Lossless (depthLimit - 1) v) : parse v.bytes = .ok v := by
  have hread : value depthLimit v.bytes = .ok (v, []) := by
    have hvalue := h.value_chars [] .nil
    rw [List.append_nil] at hvalue
    rw [bytes_eq]
    exact hvalue
  rw [parse, whole, hread]
  rfl

/-! ## No value is written as nothing -/

theorem realChars_ne_nil (x : Binary64) : realChars x ≠ [] := by
  have hplain : ∀ digits e, plain digits e ≠ [] := by
    intro digits e
    unfold plain
    split <;> simp
  have hscientific : ∀ digits e, scientific digits e ≠ [] := by
    intro digits e
    simp [scientific]
  have hsigned : ∀ size : List Char, size ≠ [] →
      (if x.negative then '-' :: size else size) ≠ [] := by
    intro size hsize
    split
    · exact List.cons_ne_nil _ _
    · exact hsize
  refine hsigned _ ?_
  split
  · exact List.cons_ne_nil _ _
  · dsimp only
    split
    · exact hplain _ _
    · exact hscientific _ _

theorem chars_ne_nil (v : Value) : v.chars ≠ [] := by
  cases v with
  | null => exact List.cons_ne_nil _ _
  | bool b => cases b <;> exact List.cons_ne_nil _ _
  | number n =>
    cases n with
    | integer n =>
      rw [Value.chars, Number.chars]
      split
      · exact List.cons_ne_nil _ _
      · exact Numeral.decimal_ne_nil _
    | real x => exact realChars_ne_nil x
  | string s => exact List.cons_ne_nil _ _
  | array items => cases items <;> exact List.cons_ne_nil _ _
  | object members => cases members <;> exact List.cons_ne_nil _ _

theorem bytes_ne_nil (v : Value) : v.bytes ≠ [] := by
  rw [bytes_eq]
  cases hchars : v.chars with
  | nil => exact absurd hchars (chars_ne_nil v)
  | cons c cs =>
    have hpos := Utf8.length_utf8EncodeChar_pos c
    rw [bytes_cons]
    exact List.append_ne_nil_of_left_ne_nil (List.ne_nil_of_length_pos hpos) _

end ServiceLocator.Json
