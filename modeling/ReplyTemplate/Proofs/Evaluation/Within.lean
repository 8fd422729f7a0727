import ReplyTemplate.Proofs.Evaluation.History
import ReplyTemplate.Proofs.Table.Within
import ReplyTemplate.Standard

/-! Evaluation from a larger table. An output comes from what the smaller table holds already, so
that it stays the same. -/

namespace ReplyTemplate

variable {σ : Type}

def Plugin.IsMonotone (plugin : Plugin σ) : Prop :=
  ∀ (t u : Table), t.Within u → ∀ (argument : Option String) (name : String) (state next : σ)
    (outcome : Outcome), plugin.invoke argument ⟨name, t⟩ state = (.ok outcome, next) →
      plugin.invoke argument ⟨name, u⟩ state = (.ok outcome, next)

theorem Plugin.isMonotone_of_invoke_eq {plugin : Plugin σ}
    (h : ∀ argument context other state,
      plugin.invoke argument context state = plugin.invoke argument other state) :
    plugin.IsMonotone := by
  intro t u _ argument name state next outcome hinvoke
  rw [h argument ⟨name, u⟩ ⟨name, t⟩ state, hinvoke]

namespace Standard

theorem isMonotone_convert (manual : Plugin.Manual) (change : String → String) :
    (convert manual change : Plugin σ).IsMonotone := by
  intro t u htables argument name state next outcome hinvoke
  obtain ⟨houtcome, rfl⟩ := Prod.mk.inj hinvoke
  refine Prod.ext ?_ rfl
  refine OkAlike.bind (.refl _) (fun text => ?_) outcome houtcome
  exact ((htables.substitute text).mapError TemplateError.message).bind fun _ => .refl _

theorem isMonotone_of_mem_plugins {plugin : Plugin Counters} (h : plugin ∈ plugins) :
    plugin.IsMonotone := by
  simp only [plugins, List.mem_cons, List.not_mem_nil, or_false] at h
  obtain rfl | rfl | rfl | rfl | rfl := h
  · exact Plugin.isMonotone_of_invoke_eq fun _ _ _ _ => rfl
  · exact isMonotone_convert _ _
  · exact isMonotone_convert _ _
  · exact Plugin.isMonotone_of_invoke_eq fun _ _ _ _ => rfl
  · exact Plugin.isMonotone_of_invoke_eq fun _ _ _ _ => rfl

theorem isMonotone_of_find? {name : String} {plugin : Plugin Counters}
    (h : registry.find? name = some plugin) : plugin.IsMonotone :=
  isMonotone_of_mem_plugins (Registry.mem_of_find?_ofList h)

end Standard

structure Run.Within (first second : Run σ) : Prop where
  table : first.table.Within second.table
  state : first.state = second.state
  invocations : first.invocations = second.invocations

namespace Run.Within

variable {first second last : Run σ}

theorem install (h : first.Within second) (name : String) (pairs : List (String × String)) :
    (first.install name pairs).Within (second.install name pairs) :=
  ⟨h.table.install name pairs, h.state, h.invocations⟩

theorem invoke {registry : Registry σ}
    (hregistry : ∀ name plugin, registry.find? name = some plugin → plugin.IsMonotone)
    (h : first.Within second) {name : String} {argument : Option String} {hasScope : Bool}
    {outcome : Plugin.Outcome}
    (hinvoke : first.invoke registry name argument hasScope = (.ok outcome, last)) :
    ∃ last', second.invoke registry name argument hasScope = (.ok outcome, last') ∧
      last.Within last' := by
  obtain ⟨-, hfirst⟩ | ⟨plugin, result, state, hfind, hresult, hfirst⟩ :=
    first.invoke_cases registry name argument hasScope
  · rw [hfirst] at hinvoke
    cases hinvoke
  · rw [hfirst] at hinvoke
    cases result with
    | error reason => cases hinvoke
    | ok outcome =>
      cases hinvoke
      have hsecond := hregistry name plugin hfind _ _ h.table argument name _ _ _ hresult
      rw [h.state] at hsecond
      refine ⟨_, Run.invoke_of_find? hfind hsecond hasScope, h.table, rfl, ?_⟩
      dsimp only
      rw [h.invocations]

end Run.Within

namespace Template

section

variable {registry : Registry σ}
  (hregistry : ∀ name plugin, registry.find? name = some plugin → plugin.IsMonotone)

theorem evaluate_group_within {parts : List Template}
    (ih : ∀ part ∈ parts, ∀ {first second last : Run σ} {output : String}, first.Within second →
      part.evaluate registry first = (.ok output, last) →
        ∃ last', part.evaluate registry second = (.ok output, last') ∧ last.Within last')
    {first second last : Run σ} {output : String} (h : first.Within second)
    (hevaluate : (group parts).evaluate registry first = (.ok output, last)) :
    ∃ last', (group parts).evaluate registry second = (.ok output, last') ∧ last.Within last' := by
  rw [evaluate] at hevaluate ⊢
  induction parts generalizing first second output with
  | nil =>
    cases hevaluate
    exact ⟨second, rfl, h⟩
  | cons part parts ihparts =>
    obtain ⟨hpart, hparts⟩ := List.forall_mem_cons.mp ih
    rcases hfirst : part.evaluate registry first with ⟨error | start, middle⟩
    · rw [evaluateAll_cons_of_error hfirst] at hevaluate
      cases hevaluate
    · obtain ⟨middle', hsecond, hmiddle⟩ := hpart h hfirst
      rw [evaluateAll_cons_of_ok hfirst] at hevaluate
      rw [evaluateAll_cons_of_ok hsecond]
      rcases hrest : evaluateAll registry parts middle with ⟨error | rest, last'⟩
      · rw [hrest] at hevaluate
        cases hevaluate
      · rw [hrest] at hevaluate
        cases hevaluate
        obtain ⟨last', hrest', hlast⟩ := ihparts hparts hmiddle hrest
        exact ⟨last', by rw [hrest']; rfl, hlast⟩

include hregistry

/-- With larger tables monotone plugins are called alike, and the output is the same. -/
theorem evaluate_within {template : Template} {first second last : Run σ} {output : String}
    (h : first.Within second)
    (hevaluate : template.evaluate registry first = (.ok output, last)) :
    ∃ last', template.evaluate registry second = (.ok output, last') ∧ last.Within last' := by
  induction template generalizing first second last output with
  | text contents =>
    rw [evaluate] at hevaluate ⊢
    obtain ⟨hsubstitute, rfl⟩ := Prod.mk.inj hevaluate
    exact ⟨second, by rw [h.table.substitute contents output hsubstitute], h⟩
  | group parts ih => exact evaluate_group_within ih h hevaluate
  | bareCall plugin argument =>
    rw [evaluate] at hevaluate ⊢
    rcases hinvoke : first.invoke registry plugin argument false with
      ⟨error | text | pairs, middle⟩
    · rw [hinvoke] at hevaluate
      cases hevaluate
    · rw [hinvoke] at hevaluate
      cases hevaluate
      obtain ⟨last', hinvoke', hlast⟩ := h.invoke hregistry hinvoke
      exact ⟨last', by rw [hinvoke'], hlast⟩
    · rw [hinvoke] at hevaluate
      cases hevaluate
  | scopedCall plugin argument scope ih =>
    rw [evaluate] at hevaluate ⊢
    rcases hinvoke : first.invoke registry plugin argument true with
      ⟨error | text | pairs, middle⟩
    · rw [hinvoke] at hevaluate
      cases hevaluate
    · rw [hinvoke] at hevaluate
      cases hevaluate
      obtain ⟨last', hinvoke', hlast⟩ := h.invoke hregistry hinvoke
      exact ⟨last', by rw [hinvoke'], hlast⟩
    · rw [hinvoke] at hevaluate
      obtain ⟨middle', hinvoke', hmiddle⟩ := h.invoke hregistry hinvoke
      rw [hinvoke']
      -- both runs install the same pairs, whatever the larger table held under their keys
      exact ih (hmiddle.install plugin pairs) hevaluate

end

/-- What the standard plugins and a template give out does not change when the table has more in
it. -/
theorem render_of_within {t u : Table} (htables : t.Within u) (counters : Standard.Counters)
    {source output : String} {last : Run Standard.Counters}
    (hrender : render Standard.registry source ⟨t, counters, []⟩ = (.ok output, last)) :
    ∃ last', render Standard.registry source ⟨u, counters, []⟩ = (.ok output, last') ∧
      last'.state = last.state ∧ last'.invocations = last.invocations ∧
      last.table.Within last'.table := by
  unfold render at hrender ⊢
  cases hparse : parse source with
  | error error =>
    rw [hparse] at hrender
    cases hrender
  | ok template =>
    rw [hparse] at hrender
    have hstart : (⟨t, counters, []⟩ : Run Standard.Counters).Within ⟨u, counters, []⟩ :=
      ⟨htables, rfl, rfl⟩
    obtain ⟨last', hevaluate, hlast⟩ :=
      evaluate_within (fun _ _ => Standard.isMonotone_of_find?) hstart hrender
    exact ⟨last', hevaluate, hlast.state.symm, hlast.invocations.symm, hlast.table⟩

/-- The larger table may hold keys that the template installs itself. -/
theorem render_of_within_installed :
    let t : Table := Table.insert ∅ "USER" "NAME" "geo"
    let u : Table := t.insert "SPLIT" "ALL" "old"
    let counters : Standard.Counters := Standard.Counters.increment ∅ "a"
    let source := "$(COUNTER=a|%USER:NAME% %COUNTER:COUNT%$(SPLIT=b c|$(UPPER=%SPLIT:ALL%)))"
    t.Within u ∧ ∃ last last',
      render Standard.registry source ⟨t, counters, []⟩ = (.ok "geo 2B C", last) ∧
      render Standard.registry source ⟨u, counters, []⟩ = (.ok "geo 2B C", last') ∧
      last'.state = last.state ∧ last'.invocations = last.invocations ∧
      last.table.Within last'.table := by
  intro t u counters source
  have htables : t.Within u := Table.within_insert (by decide +kernel) "old"
  have hoks : (render Standard.registry source ⟨t, counters, []⟩).1 = .ok "geo 2B C" := by
    decide +kernel
  have hrender : render Standard.registry source ⟨t, counters, []⟩ =
      (.ok "geo 2B C", (render Standard.registry source ⟨t, counters, []⟩).2) := Prod.ext hoks rfl
  obtain ⟨last', hrender', hrest⟩ := render_of_within htables counters hrender
  exact ⟨htables, _, last', hrender, hrender', hrest⟩

end Template

end ReplyTemplate
