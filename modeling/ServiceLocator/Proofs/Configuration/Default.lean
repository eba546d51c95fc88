import ServiceLocator.Proofs.Configuration

/-!
The default of the locator's address. It is the public address between two texts that no place
for a variable reaches into. In the public address the bind address takes its place, once, and
what it says is not looked at again (`Configuration.get_default`).
-/
namespace ServiceLocator.Configuration

open Placeholder (Apart Replaced replaced_iff)

variable {env : Environment} {history : List Change} {key : String}

/-- The address of the locator at a public address. -/
def locatorAt (address : List Char) : String :=
  "http://" ++ String.ofList address ++ ":8082/servicelocator"

/-- All defaults are the same. -/
theorem eq_locatorTemplate {template : List Char} (h : (key, template) ∈ defaults) :
    template = locatorTemplate := by
  simp only [defaults, List.mem_cons, List.not_mem_nil, or_false, Prod.mk.injEq] at h
  rcases h with ⟨-, h⟩ | ⟨-, h⟩ <;> exact h

/-- The value of a key that is left with its default. -/
theorem get_default (h : Defaulted env history key) :
    (Setting.after ⟨empty, env⟩ history).get key =
      .ok (locatorAt (Placeholder.replace (Placeholder.text "bind-ip")
        (currentVariable env history ("bind-ip", "0.0.0.0")).toList
        (currentVariable env history ("public-ip", "127.0.0.1")).toList)) := by
  obtain ⟨template, hdefault⟩ := h.default
  have hvalue := get_after env history key
  rw [h.unset, h.absent, mem_defaults.mp hdefault] at hvalue
  refine hvalue.trans (congrArg Except.ok (String.toList_injective ?_))
  rw [eq_locatorTemplate hdefault, fill_locatorTemplate]
  simp [locatorAt, String.toList_append]

/-- A default is rendered exactly. Of a key that is left with its default, the value is the public
address between the texts of the template, with the bind address in every place for it, from left
to right, and nothing else changed. So wherever such a place stands in the public address, the
bind address stands in the value as it is; a place for the public address stays as it is; and if
there is no place for the bind address, the bind address does not show. -/
theorem default_is_rendered_exactly (env : Environment) (history : List Change) (key : String)
    (h : Defaulted env history key) :
    let value := (Setting.after ⟨empty, env⟩ history).get key
    let address := (currentVariable env history ("public-ip", "127.0.0.1")).toList
    let bind := (currentVariable env history ("bind-ip", "0.0.0.0")).toList
    let Rendered := Replaced (Placeholder.text "bind-ip") bind
    (∃ text, Rendered address text ∧ (∀ other, Rendered address other → other = text) ∧
      value = .ok (locatorAt text)) ∧
    (∀ front back, address = front ++ (Placeholder.text "bind-ip" ++ back) →
      ∃ before after, Rendered front before ∧ Rendered back after ∧
        value = .ok (locatorAt (before ++ (bind ++ after)))) ∧
    (∀ front back, address = front ++ (Placeholder.text "public-ip" ++ back) →
      ∃ before after, Rendered front before ∧ Rendered back after ∧
        value = .ok (locatorAt (before ++ (Placeholder.text "public-ip" ++ after)))) ∧
    (¬Placeholder.text "bind-ip" <:+: address →
      value = .ok (locatorAt address)) := by
  intro value address bind Rendered
  have hne : Placeholder.text "bind-ip" ≠ [] := List.cons_ne_nil _ _
  have hrendered : ∀ text, Rendered text (Placeholder.replace _ bind text) := fun text =>
    (replaced_iff hne).mpr rfl
  have hvalue : value = .ok (locatorAt (Placeholder.replace _ bind address)) := get_default h
  have happart : Apart (Placeholder.text "bind-ip") (Placeholder.text "bind-ip") := by decide
  have happart' : Apart (Placeholder.text "bind-ip") (Placeholder.text "public-ip") := by decide
  refine ⟨⟨_, hrendered address, fun other hother => ((replaced_iff hne).mp hother).symm, hvalue⟩,
    fun front back haddress => ⟨_, _, hrendered front, hrendered back, ?_⟩,
    fun front back haddress => ⟨_, _, hrendered front, hrendered back, ?_⟩, fun hnone => ?_⟩
  · rw [hvalue, haddress, happart.replace_append, Placeholder.replace_pattern hne]
  · have hplace : Placeholder.replace (Placeholder.text "bind-ip") bind
        (Placeholder.text "public-ip") = Placeholder.text "public-ip" :=
      Placeholder.replace_of_absent (by decide)
    rw [hvalue, haddress, happart'.replace_append, hplace]
  · rw [hvalue, Placeholder.replace_of_absent hnone]

/-- The public address has a place for itself, one for the bind address and half of another one,
and the bind address is such a place itself. -/
theorem default_is_rendered_exactly_nested :
    let env : Environment := fun _ => none
    let history : List Change :=
      [.setVariable "bind-ip" "\x7b\x7bbind-ip\x7d\x7d",
        .setVariable "public-ip" "\x7b\x7bpublic-ip\x7d\x7d-\x7b\x7bbind-ip\x7d\x7d\x7b\x7bbind-ip"]
    Defaulted env history publicLocator ∧
      (Setting.after ⟨empty, env⟩ history).get publicLocator =
        .ok ("http://\x7b\x7bpublic-ip\x7d\x7d-\x7b\x7bbind-ip\x7d\x7d\x7b\x7bbind-ip" ++
          ":8082/servicelocator") := by
  intro env history
  have hdefaulted : Defaulted env history publicLocator :=
    ⟨rfl, rfl, locatorTemplate, List.mem_cons_of_mem _ List.mem_cons_self⟩
  have hbind : (currentVariable env history ("bind-ip", "0.0.0.0")).toList =
      Placeholder.text "bind-ip" := by decide
  have haddress : (currentVariable env history ("public-ip", "127.0.0.1")).toList =
      (Placeholder.text "public-ip" ++ ['-']) ++ Placeholder.text "bind-ip" ++
        "\x7b\x7bbind-ip".toList := by decide
  have hrendered : Replaced (Placeholder.text "bind-ip") (Placeholder.text "bind-ip")
      ((Placeholder.text "public-ip" ++ ['-']) ++ Placeholder.text "bind-ip" ++
        "\x7b\x7bbind-ip".toList) _ :=
    .first (by decide) (.rest (by decide))
  obtain ⟨⟨text, -, hunique, hvalue⟩, -⟩ :=
    default_is_rendered_exactly env history publicLocator hdefaulted
  rw [hbind, haddress] at hunique
  refine ⟨hdefaulted, hvalue.trans ?_⟩
  rw [← hunique _ hrendered]
  decide

end ServiceLocator.Configuration
