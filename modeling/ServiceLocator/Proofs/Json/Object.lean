import Mathlib.Data.List.Nodup
import ServiceLocator.Json.Value
import ServiceLocator.Proofs.Basic

/-!
Members of objects. They are kept in the order of their names, so each name occurs once; of
members that are set one after the other the last one of a name is kept.
-/
namespace ServiceLocator.Json

variable {name : String} {v : Value} {kept members : List (String × Value)}

/-- Members in the order of their names, each name once. -/
def Ordered (members : List (String × Value)) : Prop :=
  members.Pairwise fun m m' => m.1 < m'.1

/-- A value of which the members, if it is an object, are in order. -/
def Value.Ordered : Value → Prop
  | .object members => Json.Ordered members
  | _ => True

instance (v : Value) : Decidable v.Ordered :=
  match v with
  | .object members => inferInstanceAs (Decidable (members.Pairwise fun m m' => m.1 < m'.1))
  | .null | .bool _ | .number _ | .string _ | .array _ => inferInstanceAs (Decidable True)

/-- A name occurs at most once among members in order. -/
theorem Ordered.count_le_one (h : Ordered members) (name : String) :
    (members.map (·.1)).count name ≤ 1 := by
  refine List.nodup_iff_count_le_one.mp (List.pairwise_map.mpr (h.imp ?_)) name
  rintro m m' hlt heq
  exact String.lt_irrefl _ (heq ▸ hlt)

/-! ## Setting members -/

theorem mem_setMember {m : String × Value} (h : m ∈ setMember name v kept) :
    m = (name, v) ∨ m ∈ kept := by
  induction kept with
  | nil => exact .inl (List.mem_singleton.mp h)
  | cons first rest ih =>
    rw [setMember] at h
    split_ifs at h
    · exact List.mem_cons.mp h
    · exact (List.mem_cons.mp h).imp_right (List.mem_cons_of_mem _)
    · rcases List.mem_cons.mp h with rfl | h
      · exact .inr List.mem_cons_self
      · exact (ih h).imp_right (List.mem_cons_of_mem _)

theorem Ordered.setMember (h : Ordered kept) (name : String) (v : Value) :
    Ordered (setMember name v kept) := by
  induction kept with
  | nil => exact List.pairwise_singleton _ _
  | cons first rest ih =>
    obtain ⟨habove, hrest⟩ := List.pairwise_cons.mp h
    rw [Json.setMember]
    split_ifs with hless hsame
    · refine List.pairwise_cons.mpr ⟨fun m hm => ?_, h⟩
      rcases List.mem_cons.mp hm with rfl | hm
      · exact hless
      · exact String.lt_trans hless (habove m hm)
    · exact List.pairwise_cons.mpr ⟨fun m hm => hsame ▸ habove m hm, hrest⟩
    · -- The new name is neither below nor the same, so it is above.
      have hafter : first.1 < name := by
        refine Decidable.byContradiction fun hnot => hsame ?_
        exact String.le_antisymm (String.not_lt.mp hnot) (String.not_lt.mp hless)
      refine List.pairwise_cons.mpr ⟨fun m hm => ?_, ih hrest⟩
      rcases mem_setMember hm with rfl | hm
      · exact hafter
      · exact habove m hm

/-- The member that was set is found, and all others as before. -/
theorem lookup_setMember (name other : String) (v : Value) (kept : List (String × Value)) :
    (setMember name v kept).lookup other =
      if other = name then some v else kept.lookup other := by
  induction kept with
  | nil => exact lookup_cons_eq name other v []
  | cons first rest ih =>
    obtain ⟨other', v'⟩ := first
    rw [setMember]
    by_cases hless : name < other'
    · rw [if_pos hless, lookup_cons_eq]
    · by_cases hsame : name = other'
      · rw [if_neg hless, if_pos hsame, lookup_cons_eq, lookup_cons_eq, hsame]
        split_ifs <;> rfl
      · rw [if_neg hless, if_neg hsame, lookup_cons_eq, ih, lookup_cons_eq]
        split_ifs with hother hname
        · exact absurd (hname.symm.trans hother) hsame
        all_goals rfl

/-- Set members one after the other. -/
def setMembers (kept members : List (String × Value)) : List (String × Value) :=
  members.foldl (fun kept m => setMember m.1 m.2 kept) kept

theorem ofMembers_eq (members : List (String × Value)) :
    Value.ofMembers members = .object (setMembers [] members) := rfl

theorem Ordered.setMembers (h : Ordered kept) (members : List (String × Value)) :
    Ordered (setMembers kept members) := by
  induction members generalizing kept with
  | nil => exact h
  | cons m members ih => exact ih (h.setMember m.1 m.2)

theorem lookup_eq_none_of_count (h : (members.map (·.1)).count name = 0) :
    members.lookup name = none := by
  refine List.lookup_eq_none_iff.mpr fun m hm => bne_iff_ne.mpr ?_
  rintro rfl
  exact List.count_eq_zero.mp h (List.mem_map_of_mem hm)

/-- A name that occurs once is found with its value. -/
theorem lookup_setMembers (kept : List (String × Value))
    (h : (members.map (·.1)).count name ≤ 1) :
    (setMembers kept members).lookup name = (members.lookup name).or (kept.lookup name) := by
  induction members generalizing kept with
  | nil => rfl
  | cons m members ih =>
    obtain ⟨other, v⟩ := m
    rw [List.map_cons, List.count_cons] at h
    have hmembers := ih (setMember other v kept) (Nat.le_trans (Nat.le_add_right _ _) h)
    rw [setMembers, List.foldl_cons, ← setMembers, hmembers, lookup_setMember, lookup_cons_eq]
    split_ifs with hname
    · -- The member that is set first is the only one of its name.
      have hcount : (members.map (·.1)).count name = 0 := by
        rw [if_pos (beq_iff_eq.mpr hname.symm)] at h
        exact Nat.le_zero.mp (Nat.le_of_succ_le_succ h)
      rw [lookup_eq_none_of_count hcount]
      rfl
    · rfl

/-! ## Finding members -/

/-- Only an object has a member that is a string. -/
theorem Value.string?_get_eq_some {text : String} :
    (v.get name).string? = some text ↔
      ∃ members, v = .object members ∧ members.lookup name = some (.string text) := by
  cases v with
  | object members =>
    have hstring (found : Option Value) :
        (found.getD .null).string? = some text ↔ found = some (.string text) := by
      cases found with
      | none => exact ⟨nofun, nofun⟩
      | some found => cases found <;> simp [string?]
    simp [get, member?, hstring]
  | _ => simp [get, member?, string?]

end ServiceLocator.Json
