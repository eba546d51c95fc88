import ServiceLocator.Configuration
import ServiceLocator.Proofs.Unicode.UpperCase

/-!
The environment variables of keys. The name of a variable is put together from the characters of
the key, one after the other, and it is its own name (`Configuration.environmentName_canonical`).
So a key and the name of its variable lead to the same value, as do keys that are spelled alike
(`Configuration.SpelledAlike`).
-/
namespace ServiceLocator.Configuration

open List (Forall₂)

/-! ## Characters -/

/-- What a character of a key becomes in the name of its variable. -/
def environmentChars (c : Char) : List Char :=
  (Unicode.upperChar c).map fun c => if c = '-' then '_' else c

theorem toList_environmentName (key : String) :
    (environmentName key).toList = key.toList.flatMap environmentChars := by
  rw [environmentName, String.toList_ofList, Unicode.upper, String.toList_ofList, List.map_flatMap]
  rfl

theorem dash_not_mem_environmentChars (c : Char) : '-' ∉ environmentChars c := by
  intro h
  obtain ⟨d, -, hd⟩ := List.mem_map.mp h
  split_ifs at hd with hdash
  · cases hd
  · exact hdash hd

/-- What stands in a name stays in it. -/
theorem environmentChars_of_mem {c d : Char} (h : d ∈ environmentChars c) :
    environmentChars d = [d] := by
  have hdash : d ≠ '-' := fun heq => dash_not_mem_environmentChars c (heq ▸ h)
  have hupper : Unicode.upperChar d = [d] := by
    obtain ⟨e, he, rfl⟩ := List.mem_map.mp h
    split_ifs
    · exact Unicode.upperChar_of_not_isLower (by decide +kernel)
    · exact Unicode.upperChar_of_mem he
  rw [environmentChars, hupper, List.map_singleton, if_neg hdash]

/-- The dash and the underscore are the same in a name. -/
theorem environmentChars_of_mark {c : Char} (h : c ∈ ['-', '_']) : environmentChars c = ['_'] := by
  have hmark : c = '-' ∨ c = '_' := by simpa using h
  have hlower : Unicode.isLower c.toNat = false := by rcases hmark with rfl | rfl <;> decide +kernel
  rw [environmentChars, Unicode.upperChar_of_not_isLower hlower]
  rcases hmark with rfl | rfl <;> rfl

/-! ## Names -/

theorem environmentName_append (key key' : String) :
    environmentName (key ++ key') = environmentName key ++ environmentName key' := by
  apply String.toList_inj.mp
  simp only [String.toList_append, toList_environmentName, List.flatMap_append]

theorem dash_not_mem_environmentName (key : String) : '-' ∉ (environmentName key).toList := by
  rw [toList_environmentName, List.mem_flatMap]
  rintro ⟨c, -, hc⟩
  exact dash_not_mem_environmentChars c hc

theorem environmentName_environmentName (key : String) :
    environmentName (environmentName key) = environmentName key := by
  apply String.toList_inj.mp
  rw [toList_environmentName (environmentName key), toList_environmentName, List.flatMap_assoc]
  refine List.flatMap_congr fun c _ => ?_
  rw [List.flatMap_congr fun d hd => environmentChars_of_mem hd, List.flatMap_singleton']

/-- Characters that keys may be spelled with alike: those of the same letter of ASCII, whatever its
case, and the dash and the underscore. -/
inductive CharAlike : Char → Char → Prop
  | letter {c d} : c.toLower = d.toLower → CharAlike c d
  | mark {c d} : c ∈ ['-', '_'] → d ∈ ['-', '_'] → CharAlike c d

/-- Keys that differ in the case of letters of ASCII and in dashes and underscores only. -/
def SpelledAlike (key key' : String) : Prop := Forall₂ CharAlike key.toList key'.toList

theorem CharAlike.environmentChars_eq {c d : Char} (h : CharAlike c d) :
    environmentChars c = environmentChars d := by
  cases h with
  | letter h =>
    unfold environmentChars
    rw [← Unicode.upperChar_toLower c, h, Unicode.upperChar_toLower d]
  | mark hc hd => rw [environmentChars_of_mark hc, environmentChars_of_mark hd]

theorem SpelledAlike.environmentName_eq {key key' : String} (h : SpelledAlike key key') :
    environmentName key = environmentName key' := by
  apply String.toList_inj.mp
  rw [toList_environmentName, toList_environmentName]
  unfold SpelledAlike at h
  generalize key.toList = cs, key'.toList = cs' at h
  induction h with
  | nil => rfl
  | cons hchar _ ih => rw [List.flatMap_cons, List.flatMap_cons, hchar.environmentChars_eq, ih]

/-- Keys of one variable share its value where nothing was set for them. -/
theorem get_eq_of_environmentName_eq {key key' : String}
    (h : environmentName key = environmentName key') {c : Configuration} {env : Environment}
    {value : String} (hunset : c.overrides.lookup key = none)
    (hunset' : c.overrides.lookup key' = none) (henv : env (environmentName key) = some value) :
    c.get env key = .ok value ∧ c.get env key' = c.get env key := by
  have hvalue : ∀ {key}, c.overrides.lookup key = none → env (environmentName key) = some value →
      c.get env key = .ok value := by
    intro key hunset henv
    rw [get, lookup, hunset, henv]
    exact congrArg Except.ok String.ofList_toList
  exact ⟨hvalue hunset henv, (hvalue hunset' (h ▸ henv)).trans (hvalue hunset henv).symm⟩

/-- Names of environment variables are canonical. They are put together as keys are, are their own
names, and have no dash. So where nothing was set for a key and the name of its variable, and the
variable has a value, both lead to this value; and keys that are spelled alike have one variable,
whose value they share. -/
theorem environmentName_canonical :
    (∀ key key', environmentName (key ++ key') = environmentName key ++ environmentName key') ∧
    (∀ key, environmentName (environmentName key) = environmentName key) ∧
    (∀ key, '-' ∉ (environmentName key).toList) ∧
    (∀ (c : Configuration) (env : Environment) key value,
      c.overrides.lookup key = none → c.overrides.lookup (environmentName key) = none →
      env (environmentName key) = some value →
        c.get env key = .ok value ∧ c.get env (environmentName key) = c.get env key) ∧
    ∀ key key', SpelledAlike key key' → environmentName key = environmentName key' ∧
      ∀ (c : Configuration) (env : Environment) value,
        c.overrides.lookup key = none → c.overrides.lookup key' = none →
        env (environmentName key) = some value →
          c.get env key = .ok value ∧ c.get env key' = c.get env key := by
  refine ⟨environmentName_append, environmentName_environmentName, dash_not_mem_environmentName,
    fun c env key value hunset hunset' henv => ?_, fun key key' halike => ?_⟩
  · have hname := (environmentName_environmentName key).symm
    exact get_eq_of_environmentName_eq hname hunset hunset' henv
  · have hname := halike.environmentName_eq
    exact ⟨hname, fun c env value hunset hunset' henv =>
      get_eq_of_environmentName_eq hname hunset hunset' henv⟩

/-- A sharp s becomes two letters in a name, and the name is that of both spellings of the key. What
is set for a third spelling does not matter to them. -/
theorem environmentName_canonical_sharpS :
    let c : Configuration := empty.set "A-ß" "set"
    let env : Environment := fun name => if name = "A_SS" then some "found" else none
    c.get env "a-ß" = .ok "found" ∧ c.get env "A_SS" = .ok "found" ∧
      c.get env "a_ß" = .ok "found" := by
  intro c env
  obtain ⟨-, -, -, hself, halike⟩ := environmentName_canonical
  have hname : environmentName "a-ß" = "A_SS" := by cbv
  have henv : env (environmentName "a-ß") = some "found" := by rw [hname]; rfl
  have hspelled : SpelledAlike "a-ß" "a_ß" :=
    .cons (.letter rfl) (.cons (.mark (by decide) (by decide)) (.cons (.letter rfl) .nil))
  obtain ⟨hvalue, hsame⟩ := hself c env "a-ß" "found" (by decide) (by rw [hname]; decide) henv
  obtain ⟨-, hshared⟩ := halike "a-ß" "a_ß" hspelled
  rw [hname] at hsame
  refine ⟨hvalue, hsame.trans hvalue, ?_⟩
  exact (hshared c env "found" (by decide) (by decide) henv).2.trans hvalue

end ServiceLocator.Configuration
