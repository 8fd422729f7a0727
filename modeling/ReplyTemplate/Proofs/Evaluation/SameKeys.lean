import ReplyTemplate.Proofs.Evaluation.History
import ReplyTemplate.Proofs.Table.SameKeys
import ReplyTemplate.Standard

/-! Evaluation from tables with the same keys. Values go into the output only: no value decides what
is called, which reference is looked up, or whether and how the evaluation fails. -/

namespace ReplyTemplate

variable {σ : Type} {same : String × String → Prop}

namespace Plugin

inductive Outcome.Alike (condition : Prop) : Outcome → Outcome → Prop where
  | text {a b : String} (h : condition → a = b) : Alike condition (text a) (text b)
  | bindings (pairs : List (String × String)) : Alike condition (bindings pairs) (bindings pairs)

theorem Outcome.alike_refl (condition : Prop) (outcome : Outcome) :
    outcome.Alike condition outcome := by
  cases outcome with
  | text => exact .text fun _ => rfl
  | bindings pairs => exact .bindings pairs

/-- The values that its argument refers to go into the output of the plugin, and no others go
anywhere. -/
def IgnoresValues (plugin : Plugin σ) : Prop :=
  ∀ (same : String × String → Prop) (t u : Table), t.AlikeAt same u →
    ∀ (argument : Option String) (name : String) (state : σ),
      (plugin.invoke argument ⟨name, t⟩ state).2 = (plugin.invoke argument ⟨name, u⟩ state).2 ∧
      EndAlike
        (Outcome.Alike (∀ reference ∈ Reference.inText (argument.getD ""), same reference))
        (plugin.invoke argument ⟨name, t⟩ state).1 (plugin.invoke argument ⟨name, u⟩ state).1

theorem ignoresValues_of_invoke_eq {plugin : Plugin σ}
    (h : ∀ argument context other state,
      plugin.invoke argument context state = plugin.invoke argument other state) :
    plugin.IgnoresValues := by
  intro same t u _ argument name state
  rw [h argument ⟨name, t⟩ ⟨name, u⟩ state]
  exact ⟨rfl, .refl (Outcome.alike_refl _) _⟩

theorem ignoresValues_ofFunction (manual : Manual)
    (run : Option String → Except String Outcome) :
    (ofFunction manual run : Plugin σ).IgnoresValues :=
  ignoresValues_of_invoke_eq fun _ _ _ _ => rfl

end Plugin

namespace Standard

theorem ignoresValues_convert (manual : Plugin.Manual) (change : String → String) :
    (convert manual change : Plugin σ).IgnoresValues := by
  intro same t u htables argument name state
  refine ⟨rfl, ?_⟩
  cases argument with
  | none => exact .error _
  | some text =>
    have hsubstitute := (htables.substitute text).mapError TemplateError.message
    refine hsubstitute.bind fun a b hab => ?_
    refine .ok (.text fun hsame => ?_)
    rw [hab hsame]

theorem ignoresValues_of_mem_plugins {plugin : Plugin Counters} (h : plugin ∈ plugins) :
    plugin.IgnoresValues := by
  simp only [plugins, List.mem_cons, List.not_mem_nil, or_false] at h
  obtain rfl | rfl | rfl | rfl | rfl := h
  · exact Plugin.ignoresValues_ofFunction _ _
  · exact ignoresValues_convert _ _
  · exact ignoresValues_convert _ _
  · exact Plugin.ignoresValues_ofFunction _ _
  · exact Plugin.ignoresValues_of_invoke_eq fun _ _ _ _ => rfl

end Standard

namespace Run

structure Alike (same : String × String → Prop) (first second : Run σ) : Prop where
  table : first.table.AlikeAt same second.table
  state : first.state = second.state
  calls : first.invocations.map Invocation.call = second.invocations.map Invocation.call

theorem Alike.install {first second : Run σ} (h : first.Alike same second) (name : String)
    (pairs : List (String × String)) :
    (first.install name pairs).Alike same (second.install name pairs) :=
  ⟨h.table.install name pairs, h.state, h.calls⟩

theorem Alike.invoke {registry : Registry σ}
    (hregistry : ∀ name plugin, registry.find? name = some plugin → plugin.IgnoresValues)
    {first second : Run σ} (h : first.Alike same second) (name : String)
    (argument : Option String) (hasScope : Bool) :
    (first.invoke registry name argument hasScope).2.Alike same
        (second.invoke registry name argument hasScope).2 ∧
      EndAlike
        (Plugin.Outcome.Alike
          (∀ reference ∈ Reference.inText (argument.getD ""), same reference))
        (first.invoke registry name argument hasScope).1
        (second.invoke registry name argument hasScope).1 := by
  unfold Run.invoke
  cases hfind : registry.find? name with
  | none => exact ⟨h, .error _⟩
  | some plugin =>
    obtain ⟨hstate, hresult⟩ :=
      hregistry name plugin hfind same _ _ h.table argument name first.state
    rw [h.state] at hstate hresult
    constructor
    · constructor
      · exact h.table
      · dsimp only
        rw [h.state, hstate]
      · dsimp only
        rw [List.map_append, List.map_append, h.calls]
        rfl
    · dsimp only
      rw [h.state]
      exact hresult.mapError _

end Run

namespace Template

mutual

def references : Template → List (String × String)
  | text contents => Reference.inText contents
  | group parts => referencesAll parts
  | call _ argument none => Reference.inText (argument.getD "")
  | call _ argument (some scope) => Reference.inText (argument.getD "") ++ references scope

def referencesAll : List Template → List (String × String)
  | [] => []
  | part :: parts => references part ++ referencesAll parts

end

structure EvaluatedAlike (same : String × String → Prop) (references : List (String × String))
    (first second : Except TemplateError String × Run σ) : Prop where
  run : first.2.Alike same second.2
  outcome : EndAlike (fun a b => (∀ reference ∈ references, same reference) → a = b)
    first.1 second.1

section

variable {registry : Registry σ}
  (hregistry : ∀ name plugin, registry.find? name = some plugin → plugin.IgnoresValues)

theorem evaluatedAlike_group {parts : List Template}
    (ih : ∀ part ∈ parts, ∀ {first second : Run σ}, first.Alike same second →
      EvaluatedAlike same part.references (part.evaluate registry first)
        (part.evaluate registry second))
    {first second : Run σ} (h : first.Alike same second) :
    EvaluatedAlike same (group parts).references ((group parts).evaluate registry first)
      ((group parts).evaluate registry second) := by
  rw [evaluate, evaluate, references]
  induction parts generalizing first second with
  | nil => exact ⟨h, .ok fun _ => rfl⟩
  | cons part parts ihparts =>
    obtain ⟨hpart, hparts⟩ := List.forall_mem_cons.mp ih
    obtain ⟨hruns, hends⟩ := hpart h
    rcases hfirst : part.evaluate registry first with ⟨x, first'⟩
    rcases hsecond : part.evaluate registry second with ⟨y, second'⟩
    rw [hfirst, hsecond] at hruns hends
    -- both stop at this part, or both go on with runs that are alike
    cases hends with
    | error error =>
      rw [evaluateAll_cons_of_error hfirst, evaluateAll_cons_of_error hsecond]
      exact ⟨hruns, .error error⟩
    | @ok a b hoks =>
      have hrest := ihparts hparts hruns
      rw [evaluateAll_cons_of_ok hfirst, evaluateAll_cons_of_ok hsecond]
      refine ⟨hrest.run, hrest.outcome.map fun a' b' hrests hsame => ?_⟩
      rw [referencesAll, List.forall_mem_append] at hsame
      rw [hoks hsame.1, hrests hsame.2]

include hregistry

theorem evaluatedAlike_bareCall (plugin : String) (argument : Option String)
    {first second : Run σ} (h : first.Alike same second) :
    EvaluatedAlike same (call plugin argument none).references
      ((call plugin argument none).evaluate registry first)
      ((call plugin argument none).evaluate registry second) := by
  obtain ⟨hruns, hends⟩ := h.invoke hregistry plugin argument false
  rw [evaluate, evaluate, references]
  rcases hfirst : first.invoke registry plugin argument false with ⟨x, first'⟩
  rcases hsecond : second.invoke registry plugin argument false with ⟨y, second'⟩
  rw [hfirst, hsecond] at hruns hends
  cases hends with
  | error error => exact ⟨hruns, .error error⟩
  | @ok a b houtcomes =>
    cases houtcomes with
    | text houtput => exact ⟨hruns, .ok houtput⟩
    | bindings pairs => exact ⟨hruns, .error _⟩

theorem evaluatedAlike_scopedCall {scope : Template}
    (ih : ∀ {first second : Run σ}, first.Alike same second →
      EvaluatedAlike same scope.references (scope.evaluate registry first)
        (scope.evaluate registry second))
    (plugin : String) (argument : Option String) {first second : Run σ}
    (h : first.Alike same second) :
    EvaluatedAlike same (call plugin argument (some scope)).references
      ((call plugin argument (some scope)).evaluate registry first)
      ((call plugin argument (some scope)).evaluate registry second) := by
  obtain ⟨hruns, hends⟩ := h.invoke hregistry plugin argument true
  rw [evaluate, evaluate, references]
  rcases hfirst : first.invoke registry plugin argument true with ⟨x, first'⟩
  rcases hsecond : second.invoke registry plugin argument true with ⟨y, second'⟩
  rw [hfirst, hsecond] at hruns hends
  cases hends with
  | error error => exact ⟨hruns, .error error⟩
  | @ok a b houtcomes =>
    cases houtcomes with
    | text houtput =>
      exact ⟨hruns, .ok fun hsame => houtput (List.forall_mem_append.mp hsame).1⟩
    | bindings pairs =>
      have hscope := ih (hruns.install plugin pairs)
      refine ⟨hscope.run, hscope.outcome.mono fun a b hab hsame => ?_⟩
      exact hab (List.forall_mem_append.mp hsame).2

theorem evaluate_alike (template : Template) {first second : Run σ}
    (h : first.Alike same second) :
    EvaluatedAlike same template.references (template.evaluate registry first)
      (template.evaluate registry second) := by
  induction template generalizing first second with
  | text contents =>
    rw [evaluate, evaluate, references]
    exact ⟨h, h.table.substitute contents⟩
  | group parts ih => exact evaluatedAlike_group ih h
  | bareCall plugin argument => exact evaluatedAlike_bareCall hregistry plugin argument h
  | scopedCall plugin argument scope ih =>
    exact evaluatedAlike_scopedCall hregistry ih plugin argument h

end

/-- With the standard plugins and functions of arguments, only the output can tell apart two tables
with the same keys, and only by values that the template refers to. -/
theorem evaluate_of_sameKeys {plugins : List (Plugin Standard.Counters)}
    (hplugins : ∀ plugin ∈ plugins,
      plugin ∈ Standard.plugins ∨ ∃ manual run, plugin = .ofFunction manual run)
    {t u : Table} (htables : t.SameKeys u) (counters : Standard.Counters) (template : Template) :
    let first := template.evaluate (.ofList plugins) ⟨t, counters, []⟩
    let second := template.evaluate (.ofList plugins) ⟨u, counters, []⟩
    first.2.invocations.map Invocation.call = second.2.invocations.map Invocation.call ∧
      first.2.state = second.2.state ∧
      first.2.table.SameKeys second.2.table ∧
      ((∃ a b, first.1 = .ok a ∧ second.1 = .ok b) ∨
        ∃ error, first.1 = .error error ∧ second.1 = .error error) ∧
      ((∀ reference ∈ template.references,
          t.get? reference.1 reference.2 = u.get? reference.1 reference.2) →
        first.1 = second.1) := by
  intro first second
  have hregistry : ∀ name plugin, (Registry.ofList plugins).find? name = some plugin →
      plugin.IgnoresValues := by
    intro name plugin hfind
    obtain hstandard | ⟨manual, run, rfl⟩ := hplugins plugin (Registry.mem_of_find?_ofList hfind)
    · exact Standard.ignoresValues_of_mem_plugins hstandard
    · exact Plugin.ignoresValues_ofFunction manual run
  have hstart : (⟨t, counters, []⟩ : Run Standard.Counters).Alike
      (fun reference => t.get? reference.1 reference.2 = u.get? reference.1 reference.2)
      ⟨u, counters, []⟩ := ⟨⟨htables, fun _ _ hsame => hsame⟩, rfl, rfl⟩
  obtain ⟨hruns, hends⟩ := evaluate_alike hregistry template hstart
  refine ⟨hruns.calls, hruns.state, hruns.table.toSameKeys, hends.cases, fun hsame => ?_⟩
  exact (hends.mono fun a b hab => hab hsame).eq

theorem evaluate_of_sameKeys_injected :
    let plugins : List (Plugin Standard.Counters) :=
      .ofFunction { name := "GREET" } (fun argument => .ok (.bindings [("WHO", argument.getD "")]))
        :: Standard.plugins
    let t : Table := Table.insert ∅ "USER" "NAME" "$(COUNTER=b|c)"
    let u : Table := Table.insert ∅ "USER" "NAME" "%GREET:WHO%"
    let template : Template := call "COUNTER" (some "a") (some (call "GREET" (some "%USER:NAME%")
      (some (group [text "%GREET:WHO% %USER:NAME%", call "UPPER" (some "%USER:NAME%") none]))))
    let first := template.evaluate (.ofList plugins) ⟨t, ∅, []⟩
    let second := template.evaluate (.ofList plugins) ⟨u, ∅, []⟩
    (∀ plugin ∈ plugins,
      plugin ∈ Standard.plugins ∨ ∃ manual run, plugin = .ofFunction manual run) ∧
    t.SameKeys u ∧
    first.2.invocations.map Invocation.call = second.2.invocations.map Invocation.call ∧
    first.2.state = second.2.state ∧
    first.2.table.SameKeys second.2.table ∧
    ((∃ a b, first.1 = .ok a ∧ second.1 = .ok b) ∨
      ∃ error, first.1 = .error error ∧ second.1 = .error error) := by
  intro plugins t u template first second
  have hplugins : ∀ plugin ∈ plugins,
      plugin ∈ Standard.plugins ∨ ∃ manual run, plugin = .ofFunction manual run := by
    intro plugin hmem
    obtain rfl | hstandard := List.mem_cons.mp hmem
    · exact .inr ⟨_, _, rfl⟩
    · exact .inl hstandard
  have htables : t.SameKeys u := Table.sameKeys_insert _ _ _ _ _
  obtain ⟨hcalls, hstate, hkeys, hends, -⟩ := evaluate_of_sameKeys hplugins htables ∅ template
  exact ⟨hplugins, htables, hcalls, hstate, hkeys, hends⟩

end Template

end ReplyTemplate
