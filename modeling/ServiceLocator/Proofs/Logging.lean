import Mathlib.Data.List.TakeWhile
import ServiceLocator.Logging

/-!
What gets through a log. Of the directives of a filter that apply to an origin, one decides
(`Filter.allows_iff`): none has a longer target, and none of the later ones has one as long. A
level for a target is read as it is written (`Filter.parse_level`). The first filter that is
installed stays (`Log.installAll_closed`).
-/
namespace ServiceLocator

/-! ## Reading filters -/

/-- The word for a threshold is read as that threshold. -/
theorem Threshold.parse?_word (t : Threshold) : parse? t.word = some t := by
  cases t with
  | none => decide
  | some level => cases level <;> decide

theorem Threshold.plain_word (t : Threshold) :
    t.word ≠ "" ∧ ',' ∉ t.word.toList ∧ '[' ∉ t.word.toList := by
  cases t with
  | none => decide
  | some level => cases level <;> decide

/-- A target that is taken as it is written: none of its characters has a meaning of its own. -/
structure Directive.IsTarget (target : String) : Prop where
  start : target.toList.head?.any isStart = true
  comma : ',' ∉ target.toList
  equals : '=' ∉ target.toList
  bracket : '[' ∉ target.toList

theorem Directive.parse?_level {target : String} (h : IsTarget target) (t : Threshold) :
    parse? (target ++ "=" ++ t.word) = some ⟨target, t⟩ := by
  have htext : (target ++ "=" ++ t.word).toList = target.toList ++ '=' :: t.word.toList := by
    simp
  have hstart : (target.toList ++ '=' :: t.word.toList).head?.any isStart = true := by
    have hfirst := h.start
    cases hcs : target.toList with
    | nil => simp [hcs] at hfirst
    | cons c cs => simpa [hcs] using hfirst
  have hbracket : (target.toList ++ '=' :: t.word.toList).contains '[' = false := by
    simp [h.bracket, t.plain_word.2.2]
  have hbefore : ∀ c ∈ target.toList, (c != '=') = true := by
    rintro c hc
    exact bne_iff_ne.mpr fun heq => h.equals (heq ▸ hc)
  have hdrop : (target.toList ++ '=' :: t.word.toList).dropWhile (· != '=') =
      '=' :: t.word.toList := List.dropWhile_append_of_pos hbefore
  have htake : (target.toList ++ '=' :: t.word.toList).takeWhile (· != '=') =
      target.toList := by
    rw [List.takeWhile_append_of_pos hbefore]
    exact List.append_nil _
  have hword : t.word.toList.isEmpty = false := by
    simp [t.plain_word.1]
  unfold parse?
  simp only [htext, hstart, hbracket, hdrop, htake, hword, String.ofList_toList,
    Threshold.parse?_word]
  rfl

/-- A text without commas is one part. -/
theorem commaParts_of_notMem {text : String} (hne : text ≠ "") (h : ',' ∉ text.toList) :
    commaParts text = [text] := by
  have hfold : ∀ (f : Char → List Char × List (List Char) → List Char × List (List Char)),
      (∀ c found, c ≠ ',' → f c found = (c :: found.1, found.2)) →
        ∀ cs : List Char, ',' ∉ cs → cs.foldr f ([], []) = (cs, []) := by
    intro f hf cs hcs
    induction cs with
    | nil => rfl
    | cons c cs ih =>
      obtain ⟨hc, hcs⟩ := not_or.mp (mt List.mem_cons.mpr hcs)
      rw [List.foldr_cons, ih hcs, hf c _ (Ne.symm hc)]
  have hpart : (!text.toList.isEmpty) = true := by simp [hne]
  rw [commaParts, hfold _ (fun c found hc => ?_) _ h]
  · simp only [List.filter_cons_of_pos (p := fun part : List Char => !part.isEmpty) hpart,
      List.filter_nil, List.map_cons, List.map_nil, String.ofList_toList]
  · obtain ⟨part, parts⟩ := found
    exact if_neg hc

namespace Filter

/-- A level for a target makes a filter of one directive. -/
theorem parse_level {target : String} (h : Directive.IsTarget target) (t : Threshold) :
    parse (target ++ "=" ++ t.word) = ⟨[⟨target, t⟩]⟩ := by
  have hne : target ++ "=" ++ t.word ≠ "" := by simp
  have hcomma : ',' ∉ (target ++ "=" ++ t.word).toList := by
    simp [h.comma, t.plain_word.2.1]
  rw [parse, commaParts_of_notMem hne hcomma, List.filterMap_cons, Directive.parse?_level h]
  rfl

/-! ## Directives -/

/-- A directive decides about an origin if it applies to it and no other one that does has a longer
target, nor a later one a target as long. -/
def Decides (f : Filter) (origin : String) (d : Directive) : Prop :=
  ∃ before after, f.directives.filter (·.appliesTo origin) = before ++ d :: after ∧
    (∀ b ∈ before, b.target.length ≤ d.target.length) ∧
    ∀ a ∈ after, a.target.length < d.target.length

/-- The best so far stays if all that follow have lesser targets; else one that follows is
preferred to it and to all others. -/
theorem foldl_prefer_some (best d : Directive) (ds : List Directive) :
    ds.foldl prefer (some best) = some d ↔
      (d = best ∧ ∀ a ∈ ds, a.target.length < d.target.length) ∨
        ∃ before after, ds = before ++ d :: after ∧
          (∀ b ∈ best :: before, b.target.length ≤ d.target.length) ∧
          ∀ a ∈ after, a.target.length < d.target.length := by
  induction ds generalizing best with
  | nil => simp [eq_comm]
  | cons first rest ih =>
    rw [List.foldl_cons, prefer]
    by_cases hle : best.target.length ≤ first.target.length
    · rw [if_pos hle, ih]
      constructor
      · rintro (⟨rfl, hrest⟩ | ⟨before, after, rfl, hbefore, hafter⟩)
        · exact .inr ⟨[], rest, rfl, List.forall_mem_singleton.mpr hle, hrest⟩
        · have hbest := hle.trans (hbefore first List.mem_cons_self)
          exact .inr ⟨first :: before, after, rfl, List.forall_mem_cons.mpr ⟨hbest, hbefore⟩,
            hafter⟩
      · rintro (⟨rfl, hrest⟩ | ⟨before, after, hsplit, hbefore, hafter⟩)
        · exact absurd (hrest first List.mem_cons_self) (Nat.not_lt.mpr hle)
        · cases before with
          | nil =>
            cases hsplit
            exact .inl ⟨rfl, hafter⟩
          | cons _ before =>
            cases hsplit
            exact .inr ⟨before, after, rfl, (List.forall_mem_cons.mp hbefore).2, hafter⟩
    · rw [if_neg hle, ih]
      have hless := Nat.not_le.mp hle
      constructor
      · rintro (⟨rfl, hrest⟩ | ⟨before, after, rfl, hbefore, hafter⟩)
        · exact .inl ⟨rfl, List.forall_mem_cons.mpr ⟨hless, hrest⟩⟩
        · obtain ⟨hbest, hbefore⟩ := List.forall_mem_cons.mp hbefore
          refine .inr ⟨first :: before, after, rfl, ?_, hafter⟩
          exact List.forall_mem_cons.mpr
            ⟨hbest, List.forall_mem_cons.mpr ⟨hless.le.trans hbest, hbefore⟩⟩
      · rintro (⟨rfl, hrest⟩ | ⟨before, after, hsplit, hbefore, hafter⟩)
        · exact .inl ⟨rfl, (List.forall_mem_cons.mp hrest).2⟩
        · obtain ⟨hbest, hbefore⟩ := List.forall_mem_cons.mp hbefore
          cases before with
          | nil =>
            cases hsplit
            exact absurd hbest hle
          | cons _ before =>
            cases hsplit
            refine .inr ⟨before, after, rfl, ?_, hafter⟩
            exact List.forall_mem_cons.mpr ⟨hbest, (List.forall_mem_cons.mp hbefore).2⟩

theorem directiveFor_eq_some {f : Filter} {origin : String} {d : Directive} :
    f.directiveFor origin = some d ↔ f.Decides origin d := by
  rw [directiveFor, Decides]
  cases hds : f.directives.filter (·.appliesTo origin) with
  | nil => simp
  | cons first rest =>
    rw [List.foldl_cons, prefer, foldl_prefer_some]
    constructor
    · rintro (⟨rfl, hrest⟩ | ⟨before, after, rfl, hbefore, hafter⟩)
      · exact ⟨[], rest, rfl, List.forall_mem_nil _, hrest⟩
      · exact ⟨first :: before, after, rfl, hbefore, hafter⟩
    · rintro ⟨before, after, hsplit, hbefore, hafter⟩
      cases before with
      | nil =>
        cases hsplit
        exact .inl ⟨rfl, hafter⟩
      | cons _ before =>
        cases hsplit
        exact .inr ⟨before, after, rfl, hbefore, hafter⟩

/-- An event gets through exactly if the directive that decides about its origin lets it. -/
theorem allows_iff {f : Filter} {e : Event} :
    f.allows e = true ↔ ∃ d, f.Decides e.origin d ∧ d.threshold.allows e.level = true := by
  simp only [← directiveFor_eq_some]
  unfold allows
  cases f.directiveFor e.origin <;> simp

theorem decides_singleton {d d' : Directive} {origin : String} :
    (⟨[d]⟩ : Filter).Decides origin d' ↔ d' = d ∧ d.appliesTo origin = true := by
  rw [← directiveFor_eq_some, directiveFor]
  by_cases happlies : d.appliesTo origin = true <;> simp [happlies, prefer, eq_comm]

theorem allows_singleton {d : Directive} {e : Event} : (⟨[d]⟩ : Filter).allows e = true ↔
    d.appliesTo e.origin = true ∧ d.threshold.allows e.level = true := by
  simp [allows_iff, decides_singleton, and_assoc]

end Filter

/-! ## Logs -/

namespace Log

theorem installAll_open (f : Filter) (fs : List Filter) :
    (⟨some f⟩ : Log).installAll fs = (fs.map fun _ => false, ⟨some f⟩) := by
  induction fs with
  | nil => rfl
  | cons _ fs ih => simp only [installAll, install, ih, List.map_cons]

/-- Of filters that are installed one after the other, the first one stays. -/
theorem installAll_closed (f : Filter) (fs : List Filter) :
    closed.installAll (f :: fs) = (true :: fs.map fun _ => false, ⟨some f⟩) := by
  simp only [installAll, install, closed, installAll_open]

variable {log : Log} {events : List Event} {write : Nat → Event → String}

theorem mem_passed {e : Event} :
    e ∈ log.passed events ↔ e ∈ events ∧ ∃ f, log.filter = some f ∧ f.allows e = true := by
  unfold passed
  cases log.filter <;> simp

/-- What comes later has no effect on what gets through of what came before. -/
theorem passed_append (log : Log) (events later : List Event) :
    log.passed (events ++ later) = log.passed events ++ log.passed later := by
  unfold passed
  cases log.filter with
  | none => rfl
  | some f => exact List.filter_append ..

theorem passed_nil (log : Log) : log.passed [] = [] := by
  unfold passed
  cases log.filter <;> rfl

end Log

end ServiceLocator
