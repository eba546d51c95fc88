import Mathlib
import ServiceLocator.Http.Field
import ServiceLocator.Proofs.Http.Headers
import ServiceLocator.Proofs.Text.Utf8

/-!
Headers as fields. If there is room for them (`Field.ofHeaders_eq_tooMany`), headers are judged in
their order, the name of each before its value, and the first that cannot be sent decides
(`Field.ofHeaders_eq_error`). If all can be sent, each field has the value under the greatest
spelling of its name, and there are no other fields (`Field.mem_ofHeaders`).
-/
namespace ServiceLocator

theorem asciiLower_asciiLower (name : String) : asciiLower (asciiLower name) = asciiLower name := by
  simp [asciiLower, Function.comp_def]

namespace Headers

/-! ## Spellings -/

/-- All names are in lower case. -/
def Lower (h : Headers) : Prop := ∀ entry ∈ h.entries, asciiLower entry.1 = entry.1

theorem Lower.insert {h : Headers} (hlower : h.Lower) {name : String}
    (hname : asciiLower name = name) (value : String) : (h.insert name value).Lower := by
  intro entry hentry
  rcases mem_insert hentry with rfl | hentry
  · exact hname
  · exact hlower entry hentry

/-- The value under the last spelling of a name, which is the greatest. -/
def lastOf (h : Headers) (name : String) : Option String :=
  (h.entries.filter (sameName ·.1 name)).getLast?.map (·.2)

theorem lastOf_eq_some {h : Headers} {name value : String} (hlast : h.lastOf name = some value) :
    ∃ spelling, (spelling, value) ∈ h.entries ∧ sameName spelling name = true ∧
      ∀ entry ∈ h.entries, sameName entry.1 name = true → entry.1 ≤ spelling := by
  obtain ⟨⟨spelling, _⟩, hentry, rfl⟩ := Option.map_eq_some_iff.mp hlast
  exact ⟨spelling, (getLast?_filter_eq_some (p := (sameName · name))).mp hentry⟩

theorem lastOf_eq_none {h : Headers} {name : String} :
    h.lastOf name = none ↔ ∀ entry ∈ h.entries, sameName entry.1 name = false := by
  simp [lastOf]

end Headers

namespace Field

variable {h fields out : Headers} {entries : List (String × String)}

/-! ## Room -/

/-- Headers that there is room for are added one after the other. -/
theorem ofHeaders_of_le (hcount : h.entries.length ≤ maxCount) : ofHeaders h = add ∅ h.entries :=
  if_neg (Nat.not_lt.mpr hcount)

theorem ofHeaders_eq_ok :
    ofHeaders h = .ok out ↔ h.entries.length ≤ maxCount ∧ add ∅ h.entries = .ok out := by
  by_cases hcount : h.entries.length ≤ maxCount
  · rw [ofHeaders_of_le hcount, and_iff_right hcount]
  · rw [ofHeaders, if_pos (Nat.not_le.mp hcount)]
    exact ⟨nofun, fun hadd => absurd hadd.1 hcount⟩

theorem add_ne_tooMany : add fields entries ≠ .error .tooMany := by
  fun_induction add fields entries with
  | case1 | case2 | case3 => exact nofun
  | case4 _ _ _ _ _ _ ih => exact ih

/-- Whatever the headers are, they are too many exactly if there are more than there is room for. -/
theorem ofHeaders_eq_tooMany : ofHeaders h = .error .tooMany ↔ maxCount < h.entries.length := by
  by_cases hcount : maxCount < h.entries.length
  · exact iff_of_true (if_pos hcount) hcount
  · rw [ofHeaders_of_le (Nat.not_lt.mp hcount)]
    exact iff_of_false add_ne_tooMany hcount

/-! ## What is found -/

theorem lower_add (hlower : fields.Lower) (hout : add fields entries = .ok out) : out.Lower := by
  fun_induction add fields entries with
  | case1 fields =>
    cases hout
    exact hlower
  | case2 | case3 => cases hout
  | case4 fields name value rest _ _ ih =>
    exact ih (hlower.insert (asciiLower_asciiLower name) value) hout

/-- A field has the value that was given last under a spelling of its name. -/
theorem get?_add (hout : add fields entries = .ok out) (name : String) :
    out.get? name = ((entries.filter (asciiLower ·.1 == name)).getLast?.map (·.2)).or
      (fields.get? name) := by
  fun_induction add fields entries with
  | case1 fields =>
    cases hout
    rfl
  | case2 | case3 => cases hout
  | case4 fields given value rest _ _ ih =>
    rw [ih hout, Headers.get?_insert, List.filter_cons]
    by_cases hname : asciiLower given = name
    · subst hname
      rw [if_pos rfl, if_pos (by simp), List.getLast?_cons]
      cases (rest.filter (asciiLower ·.1 == asciiLower given)).getLast? <;> rfl
    · rw [if_neg (Ne.symm hname), if_neg (by simpa using hname)]

theorem lower_ofHeaders (hout : ofHeaders h = .ok out) : out.Lower :=
  lower_add (fun _ hentry => absurd hentry List.not_mem_nil) (ofHeaders_eq_ok.mp hout).2

theorem get?_ofHeaders (hout : ofHeaders h = .ok out) {name : String}
    (hname : asciiLower name = name) : out.get? name = h.lastOf name := by
  rw [get?_add (ofHeaders_eq_ok.mp hout).2 name, Headers.get?_empty, Option.or_none, Headers.lastOf]
  simp only [sameName, hname]

/-- The fields of headers: for each name the value under its greatest spelling. -/
theorem mem_ofHeaders (hout : ofHeaders h = .ok out) {name value : String} :
    (name, value) ∈ out.entries ↔ ∃ spelling, (spelling, value) ∈ h.entries ∧
      asciiLower spelling = name ∧
        ∀ entry ∈ h.entries, asciiLower entry.1 = name → entry.1 ≤ spelling := by
  rw [← Headers.get?_eq_some, get?_add (ofHeaders_eq_ok.mp hout).2 name, Headers.get?_empty,
    Option.or_none, Option.map_eq_some_iff]
  simp only [Headers.getLast?_filter_eq_some (p := (asciiLower · == name)), beq_iff_eq]
  constructor
  · rintro ⟨⟨spelling, _⟩, hentry, rfl⟩
    exact ⟨spelling, hentry⟩
  · rintro ⟨spelling, hentry⟩
    exact ⟨(spelling, value), hentry, rfl⟩

/-! ## What can be sent -/

/-- A header that can be sent. -/
def Legal (entry : String × String) : Prop :=
  isName entry.1 = true ∧ isValue entry.2 = true

instance (entry : String × String) : Decidable (Legal entry) :=
  inferInstanceAs (Decidable (_ ∧ _))

/-- What is wrong with a header: its name or, if its name is right, its value. -/
inductive Wrong : String × String → Fault → Prop
  | name {name value} : isName name = false → Wrong (name, value) (.badName name)
  | value {name value} : isName name = true → isValue value = false →
      Wrong (name, value) (.badValue (asciiLower name))

theorem Wrong.not_legal {entry : String × String} {fault : Fault} (hwrong : Wrong entry fault) :
    ¬Legal entry := by
  rintro ⟨hname, hvalue⟩
  cases hwrong with
  | name hbad => simp [hbad] at hname
  | value _ hbad => simp [hbad] at hvalue

theorem exists_wrong {entry : String × String} (hillegal : ¬Legal entry) :
    ∃ fault, Wrong entry fault := by
  obtain ⟨name, value⟩ := entry
  cases hname : isName name with
  | false => exact ⟨_, .name hname⟩
  | true =>
    cases hvalue : isValue value with
    | false => exact ⟨_, .value hname hvalue⟩
    | true => exact absurd ⟨hname, hvalue⟩ hillegal

theorem Wrong.unique {entry : String × String} {fault fault' : Fault} (h : Wrong entry fault)
    (h' : Wrong entry fault') : fault = fault' := by
  cases h with
  | name hbad =>
    cases h' with
    | name => rfl
    | value hname => simp [hbad] at hname
  | value hname =>
    cases h' with
    | name hbad => simp [hbad] at hname
    | value => rfl

theorem add_cons_of_wrong {entry : String × String} {fault : Fault} (hwrong : Wrong entry fault)
    (fields : Headers) (rest : List (String × String)) :
    add fields (entry :: rest) = .error fault := by
  cases hwrong with
  | name hbad => simp [add, hbad]
  | value hname hbad => simp [add, hname, hbad]

theorem add_cons_of_legal {entry : String × String} (hlegal : Legal entry) (fields : Headers)
    (rest : List (String × String)) :
    add fields (entry :: rest) = add (fields.insert (asciiLower entry.1) entry.2) rest := by
  simp [add, hlegal.1, hlegal.2]

/-- The first header with which something is wrong decides about the fault. -/
theorem add_eq_error {fault : Fault} : add fields entries = .error fault ↔
    ∃ before entry after, entries = before ++ entry :: after ∧ (∀ e ∈ before, Legal e) ∧
      Wrong entry fault := by
  induction entries generalizing fields with
  | nil => simp [add]
  | cons first rest ih =>
    by_cases hfirst : Legal first
    · rw [add_cons_of_legal hfirst, ih]
      constructor
      · rintro ⟨before, entry, after, rfl, hbefore, hwrong⟩
        have hlegal := List.forall_mem_cons.mpr ⟨hfirst, hbefore⟩
        exact ⟨first :: before, entry, after, rfl, hlegal, hwrong⟩
      · rintro ⟨before, entry, after, hsplit, hbefore, hwrong⟩
        cases before with
        | nil =>
          cases hsplit
          exact absurd hfirst hwrong.not_legal
        | cons _ before =>
          cases hsplit
          exact ⟨before, entry, after, rfl, (List.forall_mem_cons.mp hbefore).2, hwrong⟩
    · obtain ⟨fault', hwrong'⟩ := exists_wrong hfirst
      rw [add_cons_of_wrong hwrong']
      constructor
      · rintro ⟨⟩
        exact ⟨[], first, rest, rfl, List.forall_mem_nil _, hwrong'⟩
      · rintro ⟨before, entry, after, hsplit, hbefore, hwrong⟩
        cases before with
        | nil =>
          cases hsplit
          rw [hwrong.unique hwrong']
        | cons _ before =>
          cases hsplit
          exact absurd (hbefore first List.mem_cons_self) hfirst

theorem exists_add_eq_error {entry : String × String} (hentry : entry ∈ entries)
    (hillegal : ¬Legal entry) (fields : Headers) : ∃ fault, add fields entries = .error fault := by
  induction entries generalizing fields with
  | nil => cases hentry
  | cons first rest ih =>
    by_cases hfirst : Legal first
    · rw [add_cons_of_legal hfirst]
      rcases List.mem_cons.mp hentry with rfl | hrest
      · exact absurd hfirst hillegal
      · exact ih hrest _
    · obtain ⟨fault, hwrong⟩ := exists_wrong hfirst
      exact ⟨fault, add_cons_of_wrong hwrong fields rest⟩

/-- Headers that become fields can all be sent. -/
theorem legal_of_ofHeaders (hout : ofHeaders h = .ok out) : ∀ entry ∈ h.entries, Legal entry := by
  intro entry hentry
  by_contra hillegal
  obtain ⟨fault, hfault⟩ := exists_add_eq_error hentry hillegal ∅
  cases (ofHeaders_eq_ok.mp hout).2.symm.trans hfault

theorem add_of_legal (hlegal : ∀ entry ∈ entries, Legal entry) :
    add fields entries = .ok
      (entries.foldl (fun fields entry => fields.insert (asciiLower entry.1) entry.2) fields) := by
  induction entries generalizing fields with
  | nil => rfl
  | cons entry rest ih =>
    obtain ⟨hfirst, hrest⟩ := List.forall_mem_cons.mp hlegal
    rw [add_cons_of_legal hfirst, ih hrest, List.foldl_cons]

/-- Headers that there is room for cannot be sent because of the one with the least name of all
that are wrong. -/
theorem ofHeaders_eq_error (hcount : h.entries.length ≤ maxCount) {fault : Fault} :
    ofHeaders h = .error fault ↔ ∃ entry ∈ h.entries, Wrong entry fault ∧
      ∀ other ∈ h.entries, other.1 < entry.1 → Legal other := by
  rw [ofHeaders_of_le hcount, add_eq_error]
  constructor
  · rintro ⟨before, entry, after, hsplit, hbefore, hwrong⟩
    have hsorted := h.sorted
    rw [hsplit, List.pairwise_append, List.pairwise_cons] at hsorted
    rw [hsplit]
    refine ⟨entry, by simp, hwrong, fun other hother hless => ?_⟩
    rcases List.mem_append.mp hother with hother | hother
    · exact hbefore other hother
    · -- What is not before the entry has no lesser name.
      rcases List.mem_cons.mp hother with rfl | hother
      · exact absurd hless (String.lt_irrefl _)
      · exact absurd hless (String.lt_asymm (hsorted.2.1.1 other hother))
  · rintro ⟨entry, hentry, hwrong, hless⟩
    obtain ⟨before, after, hsplit⟩ := List.append_of_mem hentry
    have hsorted := h.sorted
    rw [hsplit, List.pairwise_append] at hsorted
    refine ⟨before, entry, after, hsplit, fun other hother => hless other ?_ ?_, hwrong⟩
    · rw [hsplit]
      exact List.mem_append_left _ hother
    · exact hsorted.2.2 other hother entry List.mem_cons_self

/-- If nothing is wrong, the headers are set under the lower-case names, in their order. -/
theorem ofHeaders_of_legal (hcount : h.entries.length ≤ maxCount)
    (hlegal : ∀ entry ∈ h.entries, Legal entry) :
    ofHeaders h = .ok (.ofList (h.entries.map fun entry => (asciiLower entry.1, entry.2))) := by
  rw [ofHeaders_of_le hcount, add_of_legal hlegal, Headers.ofList, List.foldl_map]
  rfl

end Field

end ServiceLocator
