import Mathlib
import ServiceLocator.Unicode.UpperCase

/-!
Upper case is final: a character of an upper-case form is its own upper-case form
(`Unicode.upperChar_of_mem`). The tables are compared run by run. What a run is mapped to lies
below another run, beyond it, or in its gaps (`CaseRun.avoids`), so no run maps a code point into
any run. The letters of ASCII have the upper-case form that is theirs within ASCII
(`Unicode.upperChar_toLower`).
-/
namespace ServiceLocator.Unicode

/-! ## Tables -/

/-- The code points that are not their own upper-case form. Those with several characters count
as runs of one. -/
def lowerRuns : List CaseRun :=
  (caseExpansions.map fun expansion => ⟨expansion.1, expansion.1, 1, 0⟩) ++ caseRuns

/-- Whether a code point has an upper-case form other than itself. -/
def isLower (code : Nat) : Bool := lowerRuns.any (·.covers code)

theorem covers_single {first code : Nat} {distance : Int} :
    CaseRun.covers ⟨first, first, 1, distance⟩ code = (first == code) := by
  rw [Bool.eq_iff_iff]
  simp only [CaseRun.covers, Nat.mod_one, Bool.and_eq_true, decide_eq_true_eq, beq_iff_eq, and_true,
    ← Nat.le_antisymm_iff]

theorem isLower_eq_false_iff {code : Nat} :
    isLower code = false ↔ caseExpansions.find? (·.1 == code) = none ∧
      caseRuns.find? (·.covers code) = none := by
  simp only [isLower, lowerRuns, List.any_append, Bool.or_eq_false_iff, List.any_eq_false,
    List.find?_eq_none, List.forall_mem_map, covers_single]

theorem upperCodes_of_not_isLower {code : Nat} (h : isLower code = false) :
    upperCodes code = [code] := by
  obtain ⟨hexpansion, hrun⟩ := isLower_eq_false_iff.mp h
  rw [upperCodes, hexpansion, hrun]

/-- Whether what a run is mapped to lies in the gaps of another: both take every second code point,
unless the first is of one, and they do not take the same ones. -/
def CaseRun.interleaves (run other : CaseRun) : Bool :=
  0 ≤ run.first + run.distance && (run.first + run.distance - other.first) % 2 == 1 &&
    other.step == 2 && (run.step == 2 || run.first == run.last)

/-- Whether what a run is mapped to lies outside of another. -/
def CaseRun.avoids (run other : CaseRun) : Bool :=
  Nat.blt (run.last + run.distance).toNat other.first ||
    Nat.blt other.last (run.first + run.distance).toNat || run.interleaves other

theorem CaseRun.not_covers_of_avoids {run other : CaseRun} (h : run.avoids other = true)
    {code : Nat} (hcode : run.covers code = true) :
    other.covers (code + run.distance).toNat = false := by
  simp only [covers, Bool.and_eq_true, decide_eq_true_eq, beq_iff_eq] at hcode
  obtain ⟨⟨hfirst, hlast⟩, hstep⟩ := hcode
  by_contra hcovers
  simp only [covers, Bool.not_eq_false, Bool.and_eq_true, decide_eq_true_eq, beq_iff_eq] at hcovers
  obtain ⟨⟨hfirst', hlast'⟩, hstep'⟩ := hcovers
  simp only [avoids, interleaves, Nat.blt_eq, Bool.or_eq_true, Bool.and_eq_true, decide_eq_true_eq,
    beq_iff_eq] at h
  rcases h with (hbelow | hbeyond) | ⟨⟨⟨hpos, hodd⟩, htwo⟩, hgaps⟩
  · omega
  · omega
  · rw [htwo] at hstep'
    rcases hgaps with htwo | hsingle
    · rw [htwo] at hstep
      omega
    · omega

/-- No run is mapped into a run. -/
theorem avoids_of_mem {run other : CaseRun} (h : run ∈ caseRuns) (h' : other ∈ lowerRuns) :
    run.avoids other = true := by
  have hall : (caseRuns.all fun run => lowerRuns.all run.avoids) = true := by decide +kernel
  exact List.all_eq_true.mp (List.all_eq_true.mp hall run h) other h'

/-- Neither is a code point with several characters as its form. -/
theorem not_isLower_of_expansion {expansion : Nat × List Nat} (h : expansion ∈ caseExpansions)
    {code : Nat} (hcode : code ∈ expansion.2) : isLower code = false := by
  have hall : (caseExpansions.all fun expansion => expansion.2.all (!isLower ·)) = true := by
    decide +kernel
  have hnot := List.all_eq_true.mp (List.all_eq_true.mp hall expansion h) code hcode
  simpa using hnot

/-- What is upper case is not mapped any further. -/
theorem not_isLower_of_mem {code code' : Nat} (h : code' ∈ upperCodes code) :
    isLower code' = false := by
  unfold upperCodes at h
  split at h
  · rename_i hfind
    exact not_isLower_of_expansion (List.mem_of_find?_eq_some hfind) h
  · rename_i hexpansion
    split at h
    · rename_i run hfind
      have hcovers := List.find?_some hfind
      rw [List.mem_singleton] at h
      rw [h, isLower, List.any_eq_false]
      intro other hother
      rw [run.not_covers_of_avoids (avoids_of_mem (List.mem_of_find?_eq_some hfind) hother) hcovers]
      exact Bool.false_ne_true
    · rename_i hrun
      rw [List.mem_singleton.mp h]
      exact isLower_eq_false_iff.mpr ⟨hexpansion, hrun⟩

/-! ## Characters -/

theorem upperChar_of_not_isLower {c : Char} (h : isLower c.toNat = false) : upperChar c = [c] := by
  rw [upperChar, upperCodes_of_not_isLower h, List.map_singleton, Char.ofNat_toNat]

/-- A character of an upper-case form is its own upper-case form. -/
theorem upperChar_of_mem {c d : Char} (h : d ∈ upperChar c) : upperChar d = [d] := by
  obtain ⟨code, hcode, rfl⟩ := List.mem_map.mp h
  refine upperChar_of_not_isLower ?_
  rw [Char.toNat_ofNat]
  split_ifs
  · exact not_isLower_of_mem hcode
  · decide +kernel

/-- The letters of ASCII are mapped as within ASCII. -/
theorem upperChar_toLower (c : Char) : upperChar c.toLower = upperChar c := by
  by_cases hupper : c.isUpper
  · have hletters : ∀ n < 26, upperCodes (n + 0x41 + 0x20) = upperCodes (n + 0x41) := by
      decide +kernel
    obtain ⟨hlow, hhigh⟩ : 0x41 ≤ c.toNat ∧ c.toNat ≤ 0x5A := by
      simpa [Char.isUpper, UInt32.le_iff_toNat_le] using hupper
    have hletter := hletters (c.toNat - 0x41) (by omega)
    rw [Nat.sub_add_cancel hlow] at hletter
    have hvalid : (c.toNat + 0x20).isValidChar := .inl (by omega)
    rw [Char.toLower_eq_of_isUpper hupper, upperChar, upperChar, Char.toNat_ofNat, if_pos hvalid,
      hletter]
  · rw [Char.toLower_eq_of_not_isUpper hupper]

end ServiceLocator.Unicode
