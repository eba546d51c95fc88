import ServiceLocator.Call.Error
import ServiceLocator.Proofs.Text.Numeral

/-!
Statuses in messages. A message tells the status that it begins with: what stands before its
first space is a number of sixteen bits, in digits and with at most one plus sign. A message that
begins with anything else tells none.
-/
namespace ServiceLocator

/-- What stands before the first space of a text, or all of it if there is no space. -/
def FirstWord (text word : List Char) : Prop :=
  ' ' ∉ word ∧ (text = word ∨ ∃ rest, text = word ++ ' ' :: rest)

theorem firstWord_iff {text word : List Char} :
    FirstWord text word ↔ text.takeWhile (· != ' ') = word := by
  constructor
  · rintro ⟨hspace, htext⟩
    have hword : ∀ c ∈ word, (c != ' ') = true := by
      intro c hc
      exact bne_iff_ne.mpr fun h => hspace (h ▸ hc)
    rcases htext with rfl | ⟨rest, rfl⟩
    · exact List.takeWhile_eq_self_iff.mpr hword
    · rw [List.takeWhile_append_of_pos hword, List.takeWhile_cons, if_neg (by simp),
        List.append_nil]
  · rintro rfl
    refine ⟨fun hmem => ?_, ?_⟩
    · have hne := List.mem_takeWhile_imp hmem
      simp at hne
    · have hsplit := List.takeWhile_append_dropWhile (p := (· != ' ')) (l := text)
      cases hrest : text.dropWhile (· != ' ') with
      | nil =>
        rw [hrest, List.append_nil] at hsplit
        exact .inl hsplit.symm
      | cons c rest =>
        -- The first character that was not taken is the space.
        have hc : (c != ' ') = false := by
          have hne : text.dropWhile (· != ' ') ≠ [] := by simp [hrest]
          have hhead := List.head_dropWhile_not (· != ' ') hne
          simpa only [hrest, List.head_cons] using hhead
        rw [hrest, bne_eq_false_iff_eq.mp hc] at hsplit
        exact .inr ⟨rest, hsplit.symm⟩

/-- A number of sixteen bits is read as the status. -/
theorem map_readStatus?_eq_some {cs : List Char} {n : Nat} :
    (readStatus? cs).map UInt16.toNat = some n ↔ n ≤ 65535 ∧ Numeral.unsigned? cs = some n := by
  unfold readStatus?
  cases Numeral.unsigned? cs with
  | none => simp
  | some m =>
    by_cases hm : m < 65536
    · have hstatus : (UInt16.ofNat m).toNat = m := UInt16.toNat_ofNat_of_lt' hm
      simp only [if_pos hm, Option.map_some, hstatus, Option.some.injEq]
      omega
    · simp only [if_neg hm, Option.map_none, reduceCtorEq, Option.some.injEq, false_iff]
      omega

/-- A message tells the status that it begins with. It is the number that stands in digits before
the first space, with at most one plus sign and any zeros before it, if it is at most 65535. If
there is no such number, or it is greater, however many digits it has, there is no status. -/
theorem message_tells_status (text : String) :
    (∀ n : Nat, (Presented.message text).status?.map UInt16.toNat = some n ↔
      n ≤ 65535 ∧ ∃ word digits, FirstWord text.toList word ∧
        (word = digits ∨ word = '+' :: digits) ∧ Numeral.Denotes digits n) ∧
    ((Presented.message text).status? = none ↔
      ∀ word digits n, FirstWord text.toList word → (word = digits ∨ word = '+' :: digits) →
        Numeral.Denotes digits n → 65535 < n) := by
  have hsome : ∀ n : Nat, (Presented.message text).status?.map UInt16.toNat = some n ↔
      n ≤ 65535 ∧ ∃ word digits, FirstWord text.toList word ∧
        (word = digits ∨ word = '+' :: digits) ∧ Numeral.Denotes digits n := by
    intro n
    unfold Presented.status?
    rw [map_readStatus?_eq_some, Numeral.unsigned?_eq_some]
    simp only [firstWord_iff]
    constructor
    · rintro ⟨hn, digits, hword, hdigits⟩
      exact ⟨hn, _, digits, rfl, hword, hdigits⟩
    · rintro ⟨hn, _, digits, rfl, hword, hdigits⟩
      exact ⟨hn, digits, hword, hdigits⟩
  refine ⟨hsome, fun hnone word digits n hfirst hword hdigits => ?_, fun h => ?_⟩
  · by_contra hn
    have htold := (hsome n).mpr ⟨Nat.le_of_not_lt hn, word, digits, hfirst, hword, hdigits⟩
    rw [hnone] at htold
    cases htold
  · cases hstatus : (Presented.message text).status? with
    | none => rfl
    | some status =>
      obtain ⟨hn, word, digits, hfirst, hword, hdigits⟩ :=
        (hsome status.toNat).mp (by rw [hstatus]; rfl)
      exact absurd (h word digits _ hfirst hword hdigits) (Nat.not_lt.mpr hn)

/-- The greatest status, with zeros before it. -/
example : (Presented.message "+00065535 - x").status? = some 65535 := by decide

/-- One more, in as many digits as it takes and in more. -/
example : (Presented.message "65536").status? = none ∧
    (Presented.message "0000000065536 ").status? = none := by decide

end ServiceLocator
