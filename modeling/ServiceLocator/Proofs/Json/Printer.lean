import ServiceLocator.Json.Printer
import ServiceLocator.Proofs.Text.Numeral

/-!
The compact form has no controls. Those of a string are escaped, and nothing else that is
written for a value is one (`Json.Value.controlFree_chars`), however deep it nests. So the text
of a value has neither line breaks nor tabs.
-/
namespace ServiceLocator.Json

/-- None of the characters is a control of ASCII. -/
def ControlFree (cs : List Char) : Prop := ∀ c ∈ cs, 0x20 ≤ c.toNat

namespace ControlFree

variable {c : Char} {cs ds : List Char}

instance : Decidable (ControlFree cs) :=
  List.decidableBAll (fun c : Char => 0x20 ≤ c.toNat) cs

theorem cons (hc : 0x20 ≤ c.toNat) (h : ControlFree cs) : ControlFree (c :: cs) :=
  List.forall_mem_cons.mpr ⟨hc, h⟩

theorem append (h : ControlFree cs) (h' : ControlFree ds) : ControlFree (cs ++ ds) :=
  List.forall_mem_append.mpr ⟨h, h'⟩

theorem of_subset (h : ControlFree ds) (hsub : cs ⊆ ds) : ControlFree cs :=
  fun c hc => h c (hsub hc)

theorem flatMap {f : Char → List Char} (h : ∀ c, ControlFree (f c)) :
    ControlFree (cs.flatMap f) := by
  intro c hc
  obtain ⟨d, -, hd⟩ := List.mem_flatMap.mp hc
  exact h d c hd

theorem replicate (n : Nat) (hc : 0x20 ≤ c.toNat) : ControlFree (List.replicate n c) := by
  intro d hd
  rwa [List.eq_of_mem_replicate hd]

theorem notMem (h : ControlFree cs) (hc : c.toNat < 0x20) : c ∉ cs :=
  fun hmem => absurd hc (Nat.not_lt.mpr (h c hmem))

end ControlFree

/-! ## Strings -/

/-- A control is written as an escape of other characters, and any other character stays none. -/
theorem controlFree_escape (c : Char) : ControlFree (escape c) := by
  unfold escape
  iterate 7
    split
    · decide
  split
  · rename_i hcontrol
    have hall : ∀ v < 0x20, ControlFree
        ['\\', 'u', '0', '0', Numeral.hexChar (v / 16), Numeral.hexChar (v % 16)] := by decide
    exact hall c.toNat hcontrol
  · rename_i hcontrol
    exact List.forall_mem_singleton.mpr (Nat.not_lt.mp hcontrol)

theorem controlFree_quoted (s : String) : ControlFree (quoted s) :=
  .cons (by decide) (.append (.flatMap controlFree_escape) (by decide))

/-! ## Numbers -/

theorem controlFree_decimal (n : Nat) : ControlFree (Numeral.decimal n) := by
  intro c hc
  obtain ⟨k, hk, rfl⟩ := Numeral.isDigit_of_mem_decimal hc
  have hall : ∀ k < 10, 0x20 ≤ (Char.ofNat (k + 48)).toNat := by decide
  exact hall k hk

/-- The shortest digits are those of a numeral without zeros at its end. -/
theorem controlFree_shortest (x : Binary64) : ControlFree x.shortest.1 := by
  have hsub : ∀ digits : List Char, (digits.reverse.dropWhile (· == '0')).reverse ⊆ digits :=
    fun digits c hc =>
      List.mem_reverse.mp ((List.dropWhile_suffix _).subset (List.mem_reverse.mp hc))
  exact (controlFree_decimal _).of_subset (hsub _)

theorem controlFree_plain {digits : List Char} (h : ControlFree digits) (e : Int) :
    ControlFree (plain digits e) := by
  unfold plain
  split
  · exact .append (.append (by decide) (.replicate _ (by decide))) h
  · have hwhole := h.of_subset (List.take_subset (e.toNat + 1) digits)
    have hfraction := h.of_subset (List.drop_subset (e.toNat + 1) digits)
    refine .append (.append hwhole (.replicate _ (by decide))) (.cons (by decide) ?_)
    split
    · decide
    · exact hfraction

theorem controlFree_scientific {digits : List Char} (h : ControlFree digits) (e : Int) :
    ControlFree (scientific digits e) := by
  have hfirst := h.of_subset (List.take_subset 1 digits)
  have hfraction : ControlFree (if digits.length ≤ 1 then [] else '.' :: digits.drop 1) := by
    split
    · decide
    · exact .cons (by decide) (h.of_subset (List.drop_subset 1 digits))
  have hsign : ControlFree ['e', if e < 0 then '-' else '+'] := by
    split <;> decide
  exact .append (.append (.append hfirst hfraction) hsign) (controlFree_decimal _)

theorem controlFree_realChars (x : Binary64) : ControlFree (realChars x) := by
  have hsize : ControlFree (if x.mantissa = 0 then ['0', '.', '0']
      else if isPlain x.shortest.2 then plain x.shortest.1 x.shortest.2
      else scientific x.shortest.1 x.shortest.2) := by
    split
    · decide
    · split
      · exact controlFree_plain (controlFree_shortest x) _
      · exact controlFree_scientific (controlFree_shortest x) _
  cases hsign : x.negative with
  | true =>
    rw [realChars, hsign]
    exact .cons (by decide) hsize
  | false =>
    rw [realChars, hsign]
    exact hsize

theorem Number.controlFree_chars (n : Number) : ControlFree n.chars := by
  cases n with
  | integer n =>
    rw [Number.chars]
    split
    · exact .cons (by decide) (controlFree_decimal _)
    · exact controlFree_decimal _
  | real x => exact controlFree_realChars x

/-! ## Values -/

mutual

theorem Value.controlFree_chars : ∀ v : Value, ControlFree v.chars
  | .null => by decide
  | .bool true => by decide
  | .bool false => by decide
  | .number n => n.controlFree_chars
  | .string s => controlFree_quoted s
  | .array [] => by decide
  | .array (item :: items) => by
    rw [Value.chars]
    exact .cons (by decide) (.append item.controlFree_chars (controlFree_itemsChars items))
  | .object [] => by decide
  | .object ((name, value) :: members) => by
    rw [Value.chars]
    exact .cons (by decide) (.append (controlFree_quoted name)
      (.cons (by decide) (.append value.controlFree_chars (controlFree_membersChars members))))

theorem controlFree_itemsChars : ∀ items : List Value, ControlFree (itemsChars items)
  | [] => by decide
  | item :: items => by
    rw [itemsChars]
    exact .cons (by decide) (.append item.controlFree_chars (controlFree_itemsChars items))

theorem controlFree_membersChars :
    ∀ members : List (String × Value), ControlFree (membersChars members)
  | [] => by decide
  | (name, value) :: members => by
    rw [membersChars]
    exact .cons (by decide) (.append (controlFree_quoted name)
      (.cons (by decide) (.append value.controlFree_chars (controlFree_membersChars members))))

end

end ServiceLocator.Json
