import Mathlib.Data.List.Forall2
import ServiceLocator.Http.Credential
import ServiceLocator.Transport.Http

/-!
Headers that differ in a secret. Two header maps are alike up to a name if they have the
same names and, under every other one, the same values; under that name they may have any
two values that can be sent. Everything that is done to headers keeps them alike, also
when each gets credentials of its own.
-/
namespace ServiceLocator

open List (Forall₂)

/-- Values under a name that may differ if it is the name of a secret. -/
def ValueAlike (secret name value value' : String) : Prop :=
  value = value' ∨ name = secret ∧ Field.isValue value = true ∧ Field.isValue value' = true

/-- Two entries of one name that differ in a secret at most. -/
structure EntryAlike (secret : String) (e e' : String × String) : Prop where
  name : e.1 = e'.1
  value : ValueAlike secret e.1 e.2 e'.2

theorem EntryAlike.refl (secret : String) (e : String × String) : EntryAlike secret e e :=
  ⟨rfl, .inl rfl⟩

/-- Lists of entries that differ in secrets at most. -/
abbrev EntriesAlike (secret : String) := Forall₂ (EntryAlike secret)

/-- Header maps with the same names that differ in a secret at most. -/
def Headers.Alike (secret : String) (h h' : Headers) : Prop :=
  EntriesAlike secret h.entries h'.entries

variable {secret : String}

/-! ## Entries -/

theorem EntriesAlike.names {xs ys : List (String × String)} (h : EntriesAlike secret xs ys) :
    xs.map (·.1) = ys.map (·.1) := by
  induction h with
  | nil => rfl
  | cons he _ ih => rw [List.map_cons, List.map_cons, he.name, ih]

/-- Whether a name is there does not depend on a secret. -/
theorem EntriesAlike.isSome_lookup {xs ys : List (String × String)}
    (h : EntriesAlike secret xs ys) (name : String) :
    (xs.lookup name).isSome = (ys.lookup name).isSome := by
  induction h with
  | nil => rfl
  | @cons e e' _ _ he _ ih =>
    obtain ⟨n, v⟩ := e
    obtain ⟨n', v'⟩ := e'
    cases he.name
    by_cases hn : (name == n) = true
    · simp only [List.lookup_cons, hn, Option.isSome_some]
    · simp only [List.lookup_cons, hn, ih]

/-- Alike values put in their place leave the rest alike. -/
theorem EntriesAlike.place {xs ys : List (String × String)} (h : EntriesAlike secret xs ys)
    {name value value' : String} (hv : ValueAlike secret name value value') :
    EntriesAlike secret (Headers.place name value xs) (Headers.place name value' ys) := by
  induction h with
  | nil => exact .cons ⟨rfl, hv⟩ .nil
  | @cons e e' xs ys he hrest ih =>
    simp only [Headers.place]
    rw [← he.name]
    by_cases hlt : name < e.1
    · rw [if_pos hlt, if_pos hlt]
      exact .cons ⟨rfl, hv⟩ (.cons he hrest)
    · rw [if_neg hlt, if_neg hlt]
      by_cases heq : name = e.1
      · rw [if_pos heq, if_pos heq]
        exact .cons ⟨rfl, hv⟩ hrest
      · rw [if_neg heq, if_neg heq]
        exact .cons he ih

/-! ## Header maps -/

namespace Headers

variable {h h' : Headers}

theorem Alike.refl (secret : String) (h : Headers) : h.Alike secret h :=
  List.forall₂_same.mpr fun e _ => .refl secret e

theorem Alike.nameLine (hh : h.Alike secret h') : h.nameLine = h'.nameLine := by
  unfold Headers.nameLine names
  rw [EntriesAlike.names hh]

theorem Alike.isSome_get? (hh : h.Alike secret h') (name : String) :
    (h.get? name).isSome = (h'.get? name).isSome :=
  EntriesAlike.isSome_lookup hh name

theorem Alike.insert (hh : h.Alike secret h') {name value value' : String}
    (hv : ValueAlike secret name value value') :
    (h.insert name value).Alike secret (h'.insert name value') :=
  EntriesAlike.place hh hv

theorem Alike.filter (hh : h.Alike secret h') (keep : String → Bool) :
    (h.filter keep).Alike secret (h'.filter keep) :=
  List.rel_filter (fun e e' he => by
    show keep e.1 = true ↔ keep e'.1 = true
    rw [he.name]) hh

theorem ofList_alike {xs ys : List (String × String)} (hxs : EntriesAlike secret xs ys) :
    (ofList xs).Alike secret (ofList ys) := by
  refine List.rel_foldl (P := Headers.Alike secret) ?_ (Alike.refl secret empty) hxs
  intro h h' hh e e' he
  show (h.insert e.1 e.2).Alike secret (h'.insert e'.1 e'.2)
  rw [← he.name]
  exact hh.insert he.value

end Headers

end ServiceLocator
