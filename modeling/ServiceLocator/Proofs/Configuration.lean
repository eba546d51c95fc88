import ServiceLocator.Configuration
import ServiceLocator.Proofs.Basic
import ServiceLocator.Proofs.Text.Placeholder

/-!
Where the value of a key comes from. A configuration is set up in any order, and its environment
can change meanwhile; what it has come to is told by the last change of each kind
(`Setting.last_of_after`). The value of a key is then the one that was set last, or that of its
environment variable, or its default with the variables of this moment put in, and a change
reaches no key but those that depend on it.
-/
namespace ServiceLocator.Configuration

/-! ## Histories -/

/-- What can happen to a configuration and around it. -/
inductive Change where
  | set (key value : String)
  | setVariable (name value : String)
  | get (key : String)
  | environment (env : Environment)

/-- A configuration in its environment. -/
structure Setting where
  config : Configuration
  env : Environment

/-- The value of a key, at this moment. -/
def Setting.get (s : Setting) (key : String) : Except CallError String := s.config.get s.env key

/-- What a change leaves behind. Looking a key up leaves everything as it is. -/
def Setting.change (s : Setting) : Change → Setting
  | .set key value => { s with config := s.config.set key value }
  | .setVariable name value => { s with config := s.config.setVariable name value }
  | .get _ => s
  | .environment env => { s with env }

/-- What a history leaves behind. -/
def Setting.after (s : Setting) (history : List Change) : Setting := history.foldl change s

/-- What a change sets for a key. -/
def Change.value? (key : String) : Change → Option String
  | .set other value => if key = other then some value else none
  | _ => none

/-- What a change sets for a variable. -/
def Change.variableValue? (name : String) : Change → Option String
  | .setVariable other value => if name = other then some value else none
  | _ => none

/-- The environment that a change leads to. -/
def Change.environment? : Change → Option Environment
  | .environment env => some env
  | _ => none

/-- The last of what a history gives. -/
def last? {β : Type} (given : Change → Option β) (history : List Change) : Option β :=
  (history.filterMap given).getLast?

/-- The environment at the end of a history. -/
def currentEnv (env : Environment) (history : List Change) : Environment :=
  (last? Change.environment? history).getD env

/-- The value of a variable at the end of a history: the one that was set last, or that of its
environment variable, or its default. -/
def currentVariable (env : Environment) (history : List Change) (v : String × String) : String :=
  ((last? (Change.variableValue? v.1) history).or
    (currentEnv env history (environmentName v.1))).getD v.2

/-- A template with every variable's value in the places of its name. -/
def fill (value : String × String → String) (template : List Char) : List Char :=
  variableDefaults.foldl
    (fun text v => Placeholder.replace (Placeholder.text v.1) (value v).toList text) template

/-- Nothing but its default is left for a key: nothing was set for it, and its environment
variable has no value. -/
structure Defaulted (env : Environment) (history : List Change) (key : String) : Prop where
  unset : last? (Change.value? key) history = none
  absent : currentEnv env history (environmentName key) = none
  default : ∃ template, (key, template) ∈ defaults

/-! ## What has come of a history -/

theorem last?_concat {β : Type} (given : Change → Option β) (history : List Change)
    (change : Change) :
    last? given (history ++ [change]) = (given change).or (last? given history) := by
  unfold last?
  rw [List.filterMap_append]
  cases h : given change with
  | none => simp [h]
  | some b => simp [h]

/-- The first entry of a name hides the others. -/
theorem lookup_cons_or (name other value : String) (entries : List (String × String)) :
    List.lookup name ((other, value) :: entries) =
      (if name = other then some value else none).or (entries.lookup name) := by
  rw [lookup_cons_eq]
  by_cases h : name = other
  · rw [if_pos h, if_pos h, Option.some_or]
  · rw [if_neg h, if_neg h, Option.none_or]

namespace Setting

/-- What every change replaces by what it gives, if it gives anything, is in the end what was
given last. -/
theorem last_of_after {β : Type} (view : Setting → Option β) {given : Change → Option β}
    (hstep : ∀ s change, view (s.change change) = (given change).or (view s)) (s : Setting)
    (history : List Change) : view (s.after history) = (last? given history).or (view s) := by
  induction history using List.reverseRecOn with
  | nil => rfl
  | append_singleton history change ih =>
    unfold after at ih ⊢
    rw [List.foldl_concat, hstep, ih, last?_concat, Option.or_assoc]

variable (env : Environment) (history : List Change)

theorem lookup_overrides_after (key : String) :
    (after ⟨empty, env⟩ history).config.overrides.lookup key =
      last? (Change.value? key) history := by
  refine (last_of_after (·.config.overrides.lookup key) (fun s change => ?_)
    ⟨empty, env⟩ history).trans Option.or_none
  cases change with
  | set other value => exact lookup_cons_or key other value s.config.overrides
  | _ => rfl

theorem lookup_variableValues_after (name : String) :
    (after ⟨empty, env⟩ history).config.variableValues.lookup name =
      last? (Change.variableValue? name) history := by
  refine (last_of_after (·.config.variableValues.lookup name) (fun s change => ?_)
    ⟨empty, env⟩ history).trans Option.or_none
  cases change with
  | setVariable other value => exact lookup_cons_or name other value s.config.variableValues
  | _ => rfl

theorem env_after : (after ⟨empty, env⟩ history).env = currentEnv env history := by
  have hstep : ∀ (s : Setting) (change : Change),
      some (s.change change).env = change.environment?.or (some s.env) := by
    intro s change
    cases change <;> rfl
  have hlast := last_of_after (fun s => some s.env) hstep ⟨empty, env⟩ history
  rw [Option.or_some] at hlast
  exact Option.some.inj hlast

end Setting

/-! ## Defaults -/

theorem fill_congr {value value' : String × String → String}
    (h : ∀ v ∈ variableDefaults, value v = value' v) (template : List Char) :
    fill value template = fill value' template :=
  List.foldl_ext _ _ _ fun _ v hv => by rw [h v hv]

/-- A variable that does not occur is not looked up, which makes no difference to the text. -/
theorem text_putIn (c : Configuration) (env : Environment) (r : Rendering) (v : String × String) :
    (c.putIn env r v).text =
      Placeholder.replace (Placeholder.text v.1) ((c.given? env v.1).getD v.2).toList r.text := by
  simp only [putIn]
  cases hoccurs : Placeholder.occurs (Placeholder.text v.1) r.text with
  | false => exact (Placeholder.replace_of_not_occurs hoccurs _).symm
  | true => cases c.given? env v.1 <;> rfl

theorem text_render (c : Configuration) (env : Environment) (template : List Char) :
    (c.render env template).text = fill (fun v => (c.given? env v.1).getD v.2) template :=
  (List.foldl_hom Rendering.text fun r v => (text_putIn c env r v).symm).symm

/-- The locator's default is at the public address, in which the bind address may stand. -/
theorem fill_locatorTemplate (value : String × String → String) :
    fill value locatorTemplate =
      "http://".toList ++
        (Placeholder.replace (Placeholder.text "bind-ip") (value ("bind-ip", "0.0.0.0")).toList
          (value ("public-ip", "127.0.0.1")).toList ++
        ":8082/servicelocator".toList) := by
  have hpublic : ∀ text, Placeholder.replace (Placeholder.text "public-ip") text locatorTemplate =
      "http://".toList ++ (text ++ ":8082/servicelocator".toList) := by
    intro text
    have hrest : Placeholder.occurs (Placeholder.text "public-ip") ":8082/servicelocator".toList =
        false := by decide
    unfold locatorTemplate
    rw [List.append_assoc, Placeholder.replace_append_of_head? rfl (by decide),
      Placeholder.replace_pattern_append (by decide), Placeholder.replace_of_not_occurs hrest]
  have hbind : ∀ text front, Placeholder.replace (Placeholder.text "bind-ip") text
      ("http://".toList ++ (front ++ ":8082/servicelocator".toList)) =
        "http://".toList ++ (Placeholder.replace (Placeholder.text "bind-ip") text front ++
          ":8082/servicelocator".toList) := by
    intro text front
    have hrest : Placeholder.occurs (Placeholder.text "bind-ip") ":8082/servicelocator".toList =
        false := by decide
    have hmark : ':' ∉ Placeholder.text "bind-ip" := by decide
    have hcut : Placeholder.replace (Placeholder.text "bind-ip") text
        (front ++ ":8082/servicelocator".toList) = _ :=
      Placeholder.replace_append_cons hmark front "8082/servicelocator".toList
    rw [Placeholder.replace_append_of_head? rfl (by decide)]
    exact congrArg _ (hcut.trans (congrArg _ (Placeholder.replace_of_not_occurs hrest _)))
  exact (congrArg _ (hpublic _)).trans (hbind _ _)

/-- No key has two defaults. -/
theorem mem_defaults {key : String} {template : List Char} :
    (key, template) ∈ defaults ↔ defaults.lookup key = some template := by
  unfold defaults
  by_cases hinternal : key = internalLocator
  · simp [hinternal, internalLocator, publicLocator, eq_comm]
  by_cases hpublic : key = publicLocator
  · simp [hpublic, List.lookup_cons, internalLocator, publicLocator, eq_comm]
  · simp [List.lookup_cons, hinternal, hpublic, beq_false_of_ne hinternal, beq_false_of_ne hpublic]

theorem mem_variableDefaults {v : String × String} :
    v ∈ variableDefaults ↔ v = ("public-ip", "127.0.0.1") ∨ v = ("bind-ip", "0.0.0.0") := by
  simp [variableDefaults]

theorem environmentName_publicIp : environmentName "public-ip" = "PUBLIC_IP" := by cbv

theorem environmentName_bindIp : environmentName "bind-ip" = "BIND_IP" := by cbv

/-! ## Values -/

/-- The value of a key, by what has happened. -/
theorem get_after (env : Environment) (history : List Change) (key : String) :
    (Setting.after ⟨empty, env⟩ history).get key =
      match last? (Change.value? key) history with
      | some value => .ok value
      | none =>
        match currentEnv env history (environmentName key) with
        | some value => .ok value
        | none =>
          match defaults.lookup key with
          | some template =>
            .ok (String.ofList (fill (currentVariable env history) template))
          | none => .error (.config ("configuration key not found: " ++ key)) := by
  have hvariable : (fun v => ((Setting.after ⟨empty, env⟩ history).config.given?
      (currentEnv env history) v.1).getD v.2) = currentVariable env history := by
    funext v
    unfold given? currentVariable
    rw [Setting.lookup_variableValues_after]
  unfold Setting.get Configuration.get Configuration.lookup
  rw [Setting.lookup_overrides_after, Setting.env_after]
  cases last? (Change.value? key) history with
  | some value => exact congrArg Except.ok String.ofList_toList
  | none =>
    cases currentEnv env history (environmentName key) with
    | some value => exact congrArg Except.ok String.ofList_toList
    | none =>
      cases defaults.lookup key with
      | none => rfl
      | some template =>
        simp only [Except.map, text_render, hvariable]

variable {env : Environment} {history history' : List Change} {key : String}

/-- Histories between which a key cannot tell lead to the same value. -/
theorem get_after_congr
    (hset : last? (Change.value? key) history = last? (Change.value? key) history')
    (henv : last? (Change.value? key) history = none →
      currentEnv env history (environmentName key) = currentEnv env history' (environmentName key))
    (hvariables : Defaulted env history key →
      ∀ v ∈ variableDefaults, currentVariable env history v = currentVariable env history' v) :
    (Setting.after ⟨empty, env⟩ history).get key =
      (Setting.after ⟨empty, env⟩ history').get key := by
  rw [get_after, get_after, ← hset]
  cases hlast : last? (Change.value? key) history with
  | some value => rfl
  | none =>
    rw [← henv hlast]
    cases habsent : currentEnv env history (environmentName key) with
    | some value => rfl
    | none =>
      cases hdefault : defaults.lookup key with
      | none => rfl
      | some template =>
        have hdefaulted : Defaulted env history key :=
          ⟨hlast, habsent, template, mem_defaults.mpr hdefault⟩
        simp only [fill_congr (hvariables hdefaulted)]

/-! ## One more change -/

theorem last?_concat_of_none {β : Type} {given : Change → Option β} {change : Change}
    (h : given change = none) (history : List Change) :
    last? given (history ++ [change]) = last? given history := by
  rw [last?_concat, h, Option.none_or]

theorem currentEnv_concat_of_none {change : Change} (h : change.environment? = none) :
    currentEnv env (history ++ [change]) = currentEnv env history := by
  unfold currentEnv
  rw [last?_concat_of_none h]

theorem currentEnv_concat (env' : Environment) :
    currentEnv env (history ++ [Change.environment env']) = env' := by
  unfold currentEnv
  rw [last?_concat]
  rfl

/-- Setting another key changes no value. -/
theorem get_after_set {other : String} (h : other ≠ key) (value : String) :
    (Setting.after ⟨empty, env⟩ (history ++ [Change.set other value])).get key =
      (Setting.after ⟨empty, env⟩ history).get key := by
  have henv : currentEnv env (history ++ [Change.set other value]) = currentEnv env history :=
    currentEnv_concat_of_none rfl
  refine get_after_congr (last?_concat_of_none (if_neg h.symm) history) (fun _ => ?_)
    fun _ v _ => ?_
  · rw [henv]
  · unfold currentVariable
    rw [henv, last?_concat_of_none rfl]

/-- A variable is seen only where a default is left that it stands in. -/
theorem get_after_setVariable {name : String}
    (h : Defaulted env history key → ∀ v ∈ variableDefaults, v.1 ≠ name) (value : String) :
    (Setting.after ⟨empty, env⟩ (history ++ [Change.setVariable name value])).get key =
      (Setting.after ⟨empty, env⟩ history).get key := by
  have henv : currentEnv env (history ++ [Change.setVariable name value]) =
      currentEnv env history := currentEnv_concat_of_none rfl
  refine (get_after_congr (last?_concat_of_none rfl history).symm (fun _ => ?_)
    fun hdefaulted v hv => ?_).symm
  · rw [henv]
  · unfold currentVariable
    rw [henv, last?_concat_of_none (if_neg (h hdefaulted v hv))]

/-- An environment is seen where a key's own variable is read, and where a default is left. -/
theorem get_after_environment {env' : Environment}
    (hown : last? (Change.value? key) history = none →
      env' (environmentName key) = currentEnv env history (environmentName key))
    (hvariables : Defaulted env history key → ∀ v ∈ variableDefaults,
      env' (environmentName v.1) = currentEnv env history (environmentName v.1)) :
    (Setting.after ⟨empty, env⟩ (history ++ [Change.environment env'])).get key =
      (Setting.after ⟨empty, env⟩ history).get key := by
  refine (get_after_congr (last?_concat_of_none rfl history).symm (fun hunset => ?_)
    fun hdefaulted v hv => ?_).symm
  · rw [currentEnv_concat, hown hunset]
  · unfold currentVariable
    rw [currentEnv_concat, hvariables hdefaulted v hv, last?_concat_of_none rfl]

/-- The locator's internal address is always to be had: it has a default. -/
theorem exists_get_internalLocator (env : Environment) (history : List Change) :
    ∃ locator, (Setting.after ⟨empty, env⟩ history).get internalLocator = .ok locator := by
  rw [get_after]
  split
  · exact ⟨_, rfl⟩
  · split
    · exact ⟨_, rfl⟩
    · exact ⟨_, rfl⟩

/-- Values follow their precedence. Whatever has happened to a configuration, a key has the value
that was set for it last, as it is; else that of its environment variable, as it is; else its
default, with the variables of the moment put in; else none. Setting a key changes no other; a
variable, or the environment variable of one, changes only keys that are left with their default
or read that very environment variable; and looking a key up changes nothing. So an internal
caller always finds its locator's address. -/
theorem get_follows_precedence (env : Environment) (history : List Change) (key : String) :
    let value (history : List Change) := (Setting.after ⟨empty, env⟩ history).get key
    (∀ text, last? (Change.value? key) history = some text → value history = .ok text) ∧
    (last? (Change.value? key) history = none →
      (∀ text, currentEnv env history (environmentName key) = some text →
        value history = .ok text) ∧
      (currentEnv env history (environmentName key) = none →
        (∀ template, (key, template) ∈ defaults →
          value history = .ok (String.ofList (fill (currentVariable env history) template))) ∧
        ((∀ template, (key, template) ∉ defaults) →
          value history = .error (.config ("configuration key not found: " ++ key))))) ∧
    (∀ other text, other ≠ key → value (history ++ [Change.set other text]) = value history) ∧
    (∀ name text, (Defaulted env history key → name ≠ "public-ip" ∧ name ≠ "bind-ip") →
      value (history ++ [Change.setVariable name text]) = value history) ∧
    (∀ env', (last? (Change.value? key) history = none →
        env' (environmentName key) = currentEnv env history (environmentName key)) →
      (Defaulted env history key →
        env' "PUBLIC_IP" = currentEnv env history "PUBLIC_IP" ∧
          env' "BIND_IP" = currentEnv env history "BIND_IP") →
      value (history ++ [Change.environment env']) = value history) ∧
    (∀ other, Setting.after ⟨empty, env⟩ (history ++ [Change.get other]) =
      Setting.after ⟨empty, env⟩ history) ∧
    ∃ locator, (Setting.after ⟨empty, env⟩ history).get internalLocator = .ok locator ∧
      (Setting.after ⟨empty, env⟩ history).config.internalCaller
        (Setting.after ⟨empty, env⟩ history).env = .ok (.internal locator) := by
  intro value
  have hvalue := get_after env history key
  refine ⟨fun text hset => ?_, fun hunset => ⟨fun text henv => ?_, fun habsent =>
    ⟨fun template hdefault => ?_, fun hunknown => ?_⟩⟩, fun other text h => get_after_set h text,
    fun name text h => get_after_setVariable (fun hdefaulted v hv => ?_) text,
    fun env' hown hvariables => get_after_environment hown fun hdefaulted v hv => ?_,
    fun other => ?_, ?_⟩
  · rw [hset] at hvalue
    exact hvalue
  · rw [hunset, henv] at hvalue
    exact hvalue
  · rw [hunset, habsent, mem_defaults.mp hdefault] at hvalue
    exact hvalue
  · have hnone : defaults.lookup key = none :=
      Option.eq_none_iff_forall_ne_some.mpr fun template h => hunknown template (mem_defaults.mpr h)
    rw [hunset, habsent, hnone] at hvalue
    exact hvalue
  · obtain ⟨hpublic, hbind⟩ := h hdefaulted
    rcases mem_variableDefaults.mp hv with rfl | rfl
    · exact hpublic.symm
    · exact hbind.symm
  · obtain ⟨hpublic, hbind⟩ := hvariables hdefaulted
    rcases mem_variableDefaults.mp hv with rfl | rfl
    · rwa [environmentName_publicIp]
    · rwa [environmentName_bindIp]
  · unfold Setting.after
    rw [List.foldl_concat]
    rfl
  · obtain ⟨locator, hlocator⟩ := exists_get_internalLocator env history
    exact ⟨locator, hlocator, congrArg (Except.map Caller.internal) hlocator⟩

/-- A key with the text of a placeholder stays as it is, also in another environment; a variable
that was set twice, and whose value names another, fills the default; and a key of that other's
name reads its environment. -/
theorem get_follows_precedence_internalLocator :
    let env : Environment := fun name => if name = "BIND_IP" then some "10.0.0.7" else none
    let history : List Change :=
      [.setVariable "public-ip" "a", .set publicLocator "\x7b\x7bpublic-ip\x7d\x7d",
        .get internalLocator, .setVariable "public-ip" "b-\x7b\x7bbind-ip\x7d\x7d"]
    let value (history : List Change) (key : String) := (Setting.after ⟨empty, env⟩ history).get key
    value history publicLocator = .ok "\x7b\x7bpublic-ip\x7d\x7d" ∧
      value (history ++ [Change.environment fun _ => some "c"]) publicLocator =
        .ok "\x7b\x7bpublic-ip\x7d\x7d" ∧
      value history internalLocator = .ok "http://b-10.0.0.7:8082/servicelocator" ∧
      value history "bind-ip" = .ok "10.0.0.7" ∧
      value history "port" = .error (.config "configuration key not found: port") := by
  intro env history value
  have hlast : last? (Change.value? publicLocator) history =
      some "\x7b\x7bpublic-ip\x7d\x7d" := rfl
  have hinternal : currentEnv env history (environmentName internalLocator) = none := by cbv
  have hport : currentEnv env history (environmentName "port") = none := by cbv
  have hbind : currentEnv env history (environmentName "bind-ip") = some "10.0.0.7" := by cbv
  have hfill : String.ofList (fill (currentVariable env history) locatorTemplate) =
      "http://b-10.0.0.7:8082/servicelocator" := by
    rw [fill_locatorTemplate]
    cbv
  obtain ⟨hset, -, -, -, hunread, -⟩ := get_follows_precedence env history publicLocator
  obtain ⟨-, hdefault, -⟩ := get_follows_precedence env history internalLocator
  obtain ⟨-, hread, -⟩ := get_follows_precedence env history "bind-ip"
  obtain ⟨-, hnone, -⟩ := get_follows_precedence env history "port"
  have hpublic := hset _ hlast
  have hkept := hunread (fun _ => some "c") (fun h => absurd (hlast.symm.trans h) nofun)
    fun h => absurd (hlast.symm.trans h.unset) nofun
  refine ⟨hpublic, hkept.trans hpublic, ?_, (hread rfl).1 _ hbind,
    ((hnone rfl).2 hport).2 fun template h => ?_⟩
  · rw [← hfill]
    exact ((hdefault rfl).2 hinternal).1 _ List.mem_cons_self
  · rw [mem_defaults] at h
    cases h

end ServiceLocator.Configuration
