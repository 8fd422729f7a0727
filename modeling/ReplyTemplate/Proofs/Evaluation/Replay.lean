import ReplyTemplate.Proofs.Evaluation.History

/-! Every evaluation can be replayed from its invocations, whether it gives output or an error. -/

namespace ReplyTemplate.Template

mutual

def calls : Template → List (String × Option String × Bool)
  | text _ => []
  | group parts => callsAll parts
  | call plugin argument none => [(plugin, argument, false)]
  | call plugin argument (some scope) => (plugin, argument, true) :: calls scope

def callsAll : List Template → List (String × Option String × Bool)
  | [] => []
  | part :: parts => calls part ++ callsAll parts

end

mutual

/-- Leaves out the scope of each call that gave text in a trace. Gives what is left of the trace as
well. -/
def dropTextScopes : Template → List Invocation → Template × List Invocation
  | text contents, trace => (text contents, trace)
  | group parts, trace =>
    let (parts, rest) := dropTextScopesAll parts trace
    (group parts, rest)
  | call plugin argument none, trace => (call plugin argument none, trace.tail)
  | call plugin argument (some scope), trace =>
    if trace.head?.any Invocation.gaveText then (call plugin argument none, trace.tail)
    else
      let (scope, rest) := dropTextScopes scope trace.tail
      (call plugin argument (some scope), rest)

def dropTextScopesAll : List Template → List Invocation → List Template × List Invocation
  | [], trace => ([], trace)
  | part :: parts, trace =>
    let (part, rest) := dropTextScopes part trace
    let (parts, rest) := dropTextScopesAll parts rest
    (part :: parts, rest)

end

theorem map_fst_calls (template : Template) :
    template.calls.map Prod.fst = template.pluginNames := by
  induction template with
  | text | bareCall => rfl
  | group parts ih =>
    rw [calls, pluginNames]
    induction parts with
    | nil => rfl
    | cons part parts ihparts =>
      obtain ⟨hpart, hparts⟩ := List.forall_mem_cons.mp ih
      rw [callsAll, pluginNamesAll, List.map_append, hpart, ihparts hparts]
  | scopedCall plugin argument scope ih => rw [calls, pluginNames, List.map_cons, ih]

theorem dropTextScopes_group_cons {part kept keptGroup : Template} {parts : List Template}
    {trace middle rest : List Invocation} (hpart : part.dropTextScopes trace = (kept, middle))
    (hparts : (group parts).dropTextScopes middle = (keptGroup, rest)) :
    ∃ keptParts, keptGroup = group keptParts ∧
      (group (part :: parts)).dropTextScopes trace = (group (kept :: keptParts), rest) := by
  rw [dropTextScopes] at hparts
  rcases hall : dropTextScopesAll parts middle with ⟨keptParts, left⟩
  rw [hall] at hparts
  cases hparts
  refine ⟨keptParts, rfl, ?_⟩
  rw [dropTextScopes, dropTextScopesAll, hpart]
  dsimp only
  rw [hall]

variable {σ : Type} {registry : Registry σ}

/-- A trace tells what an evaluation has done. If there is output, it answers every call that is not
in a scope left out, and no others. -/
structure Replay (registry : Registry σ) (template : Template) (run : Run σ)
    (trace : List Invocation) (final : Except TemplateError String × Run σ) : Prop where
  history : run.History registry trace final.2
  calls : (trace.map Invocation.call).Sublist template.calls
  drop : ∀ output, final.1 = .ok output → ∀ rest, ∃ kept,
    template.dropTextScopes (trace ++ rest) = (kept, rest) ∧
      trace.map Invocation.plugin = kept.pluginNames

theorem Replay.of_error {template : Template} {run last : Run σ} {trace : List Invocation}
    (history : run.History registry trace last)
    (calls : (trace.map Invocation.call).Sublist template.calls) (error : TemplateError) :
    Replay registry template run trace (.error error, last) :=
  ⟨history, calls, fun _ h => nomatch h⟩

theorem exists_replay_bareCall (registry : Registry σ) (plugin : String) (argument : Option String)
    (run : Run σ) :
    ∃ trace, Replay registry (call plugin argument none) run trace
      ((call plugin argument none).evaluate registry run) := by
  rw [evaluate]
  obtain ⟨-, hinvoke⟩ | ⟨_, result, state, hfind, hresult, hinvoke⟩ :=
    run.invoke_cases registry plugin argument false
  · rw [hinvoke]
    exact ⟨[], .of_error (.nil run) (List.nil_sublist _) _⟩
  · rw [hinvoke]
    refine ⟨[⟨plugin, argument, false, result⟩], .cons hfind hresult ?_, List.Sublist.refl _,
      fun _ _ rest => ⟨_, rfl, rfl⟩⟩
    -- without a scope nothing is installed, whatever the result is
    rcases result with error | output | pairs
    all_goals exact .nil _

theorem exists_replay_scopedCall {scope : Template}
    (ih : ∀ run : Run σ, ∃ trace, Replay registry scope run trace (scope.evaluate registry run))
    (plugin : String) (argument : Option String) (run : Run σ) :
    ∃ trace, Replay registry (call plugin argument (some scope)) run trace
      ((call plugin argument (some scope)).evaluate registry run) := by
  have hcalls : ∀ result : Except String Plugin.Outcome,
      ([(⟨plugin, argument, true, result⟩ : Invocation)].map Invocation.call).Sublist
        (calls (call plugin argument (some scope))) := fun _ => (List.nil_sublist _).cons_cons _
  rw [evaluate]
  obtain ⟨-, hinvoke⟩ | ⟨_, error | output | pairs, state, hfind, hresult, hinvoke⟩ :=
    run.invoke_cases registry plugin argument true
  · rw [hinvoke]
    exact ⟨[], .of_error (.nil run) (List.nil_sublist _) _⟩
  · rw [hinvoke]
    exact ⟨[⟨plugin, argument, true, .error error⟩],
      .of_error (.cons hfind hresult (.nil _)) (hcalls _) _⟩
  · rw [hinvoke]
    refine ⟨[⟨plugin, argument, true, .ok (.text output)⟩], .cons hfind hresult (.nil _), hcalls _,
      fun _ _ rest => ⟨call plugin argument none, ?_, rfl⟩⟩
    simp [dropTextScopes, Invocation.gaveText]
  · rw [hinvoke]
    obtain ⟨trace, hscope⟩ := ih (run.after ⟨plugin, argument, true, .ok (.bindings pairs)⟩ state)
    refine ⟨⟨plugin, argument, true, .ok (.bindings pairs)⟩ :: trace,
      .cons hfind hresult hscope.history, hscope.calls.cons_cons _, ?_⟩
    intro output houtput rest
    obtain ⟨kept, hkept, hnames⟩ := hscope.drop output houtput rest
    refine ⟨call plugin argument (some kept), ?_, ?_⟩
    · simp [dropTextScopes, Invocation.gaveText, hkept]
    · rw [List.map_cons, hnames, pluginNames]

/-- The parts of a group are evaluated one after the other until one fails. -/
theorem exists_replay_group {parts : List Template}
    (ih : ∀ part ∈ parts, ∀ run : Run σ,
      ∃ trace, Replay registry part run trace (part.evaluate registry run)) (run : Run σ) :
    ∃ trace, Replay registry (group parts) run trace ((group parts).evaluate registry run) := by
  rw [evaluate]
  induction parts generalizing run with
  | nil => exact ⟨[], .nil run, List.Sublist.refl _, fun _ _ rest => ⟨_, rfl, rfl⟩⟩
  | cons part parts ihparts =>
    obtain ⟨hpart, hparts⟩ := List.forall_mem_cons.mp ih
    obtain ⟨first, hfirst⟩ := hpart run
    rcases heval : part.evaluate registry run with ⟨error | output, middle⟩
    · rw [heval] at hfirst
      rw [evaluateAll_cons_of_error heval]
      refine ⟨first, .of_error hfirst.history ?_ error⟩
      exact hfirst.calls.trans (List.sublist_append_left _ _)
    · rw [heval] at hfirst
      rw [evaluateAll_cons_of_ok heval]
      obtain ⟨second, hsecond⟩ := ihparts hparts middle
      refine ⟨first ++ second, hfirst.history.append hsecond.history, ?_, ?_⟩
      · rw [List.map_append]
        exact hfirst.calls.append hsecond.calls
      · intro joined hjoined rest
        obtain ⟨output', houtput⟩ :
            ∃ output', (evaluateAll registry parts middle).1 = .ok output' := by
          cases houtput : (evaluateAll registry parts middle).1 with
          | error error => simp [houtput, Except.map] at hjoined
          | ok output' => exact ⟨output', rfl⟩
        obtain ⟨kept, hkept, hnames⟩ := hfirst.drop output rfl (second ++ rest)
        obtain ⟨keptGroup, hkeptGroup, hnamesGroup⟩ := hsecond.drop output' houtput rest
        obtain ⟨keptParts, rfl, hall⟩ := dropTextScopes_group_cons hkept hkeptGroup
        refine ⟨group (kept :: keptParts), ?_, ?_⟩
        · rw [List.append_assoc, hall]
        · rw [List.map_append, hnames, hnamesGroup, pluginNames, pluginNames, pluginNamesAll]

/-- An evaluation does nothing but invoke plugins and install their bindings. -/
theorem exists_replay (registry : Registry σ) (template : Template) (run : Run σ) :
    ∃ trace, Replay registry template run trace (template.evaluate registry run) := by
  induction template generalizing run with
  | text contents =>
    rw [evaluate]
    exact ⟨[], .nil run, List.Sublist.refl _, fun _ _ rest => ⟨_, rfl, rfl⟩⟩
  | group parts ih => exact exists_replay_group ih run
  | bareCall plugin argument => exact exists_replay_bareCall registry plugin argument run
  | scopedCall plugin argument scope ih => exact exists_replay_scopedCall ih plugin argument run

/-- The invocations of an evaluation account for its table. Nothing in the table goes away, and only
names of plugins that the template calls can change. -/
theorem evaluate_replay (registry : Registry σ) (template : Template) (run : Run σ) :
    ∃ trace, run.History registry trace (template.evaluate registry run).2 ∧
      (template.evaluate registry run).2.invocations = run.invocations ++ trace ∧
      (template.evaluate registry run).2.table =
        run.table.installAll (trace.filterMap Invocation.installation?) ∧
      (trace.map Invocation.call).Sublist template.calls ∧
      (trace.map Invocation.plugin).Sublist template.pluginNames ∧
      (∀ output, (template.evaluate registry run).1 = .ok output →
        ∃ kept, template.dropTextScopes trace = (kept, []) ∧
          trace.map Invocation.plugin = kept.pluginNames) ∧
      (∀ name, run.table.contains name →
        (template.evaluate registry run).2.table.contains name) ∧
      (∀ name key, (run.table.get? name key).isSome →
        ((template.evaluate registry run).2.table.get? name key).isSome) ∧
      ∀ name ∉ template.pluginNames,
        (template.evaluate registry run).2.table.entries[name]? = run.table.entries[name]? := by
  obtain ⟨trace, hhistory, hcalls, hdrop⟩ := exists_replay registry template run
  have htable := hhistory.table_eq
  have hnames : (trace.map Invocation.plugin).Sublist template.pluginNames := by
    have hmap := hcalls.map Prod.fst
    rw [List.map_map, map_fst_calls] at hmap
    exact hmap
  refine ⟨trace, hhistory, hhistory.invocations_eq, htable, hcalls, hnames, ?_, ?_, ?_, ?_⟩
  · intro output houtput
    have hkept := hdrop output houtput []
    rw [List.append_nil] at hkept
    exact hkept
  · intro name hname
    rw [htable]
    exact Table.contains_installAll hname _
  · intro name key hkey
    rw [htable]
    exact Table.isSome_get?_installAll hkey _
  · intro name hname
    rw [htable]
    apply Table.entries_installAll_of_not_mem
    intro hmem
    apply hname
    exact ((Invocation.map_fst_filterMap_installation?_sublist trace).trans hnames).mem hmem

end ReplyTemplate.Template
