import ReplyTemplate.Proofs.Evaluation.History
import ReplyTemplate.Proofs.Similarity
import ReplyTemplate.Proofs.Table.Missing
import ReplyTemplate.Proofs.Template.Failure
import ReplyTemplate.Standard

/-! What the error of an evaluation tells about the run that it leaves. Nothing changes the run
after the failure, so that its table is the one in which something was missing. -/

namespace ReplyTemplate

variable {σ : Type} {registry : Registry σ}

theorem Registry.contains_of_mem_similar {name other : String}
    (h : other ∈ registry.similar name) : registry.contains other := by
  have hmem := (Similarity.mem_rank_iff.mp h).1
  rw [names, Std.ExtTreeMap.mem_keys] at hmem
  exact hmem

namespace Run

/-- What an error says of the run that ended with it: an unknown plugin is not registered, a missing
reference is not in the table, and a plugin that is to blame was invoked last. -/
def Explains (registry : Registry σ) (names : List String) (last : Run σ) : TemplateError → Prop
  | .unterminated .. | .emptyName .. | .nestingTooDeep .. => False
  | .unknownPlugin name similar => name ∈ names ∧ ¬ registry.contains name ∧
      similar = registry.similar name ∧ ∀ other ∈ similar, registry.contains other
  | .unknownMacro name => ¬ last.table.contains name
  | .unknownKey name key => last.table.contains name ∧ last.table.get? name key = none
  | .missingScope plugin => plugin ∈ names ∧ registry.contains plugin ∧ ∃ argument pairs,
      last.invocations.getLast? = some ⟨plugin, argument, false, .ok (.bindings pairs)⟩
  | .pluginFailed plugin reason => plugin ∈ names ∧ registry.contains plugin ∧
      ∃ argument hasScope,
        last.invocations.getLast? = some ⟨plugin, argument, hasScope, .error reason⟩

theorem explains_of_misses {last : Run σ} {error : TemplateError} (h : last.table.Misses error)
    (names : List String) : last.Explains registry names error := by
  cases error with
  | unknownMacro | unknownKey => exact h
  | _ => exact h.elim

theorem Explains.mono {names more : List String} {last : Run σ} {error : TemplateError}
    (h : last.Explains registry names error) (hsubset : names ⊆ more) :
    last.Explains registry more error := by
  cases error with
  | unterminated | emptyName | nestingTooDeep | unknownMacro | unknownKey => exact h
  | unknownPlugin | missingScope | pluginFailed => exact ⟨hsubset h.1, h.2⟩

/-- An unknown plugin is reported at once. A known one has its invocation recorded last. -/
theorem recorded_of_invoke {name : String} {argument : Option String} {hasScope : Bool}
    {run last : Run σ} {outcome : Except TemplateError Plugin.Outcome}
    (h : run.invoke registry name argument hasScope = (outcome, last)) :
    (¬ registry.contains name ∧
        outcome = .error (.unknownPlugin name (registry.similar name))) ∨
      (registry.contains name ∧ ∃ result, outcome = result.mapError (.pluginFailed name) ∧
        last.invocations.getLast? = some ⟨name, argument, hasScope, result⟩) := by
  rw [registry.contains_eq_isSome_find?]
  obtain ⟨hfind, hinvoke⟩ | ⟨plugin, result, state, hfind, -, hinvoke⟩ :=
    run.invoke_cases registry name argument hasScope
  · rw [hinvoke] at h
    cases h
    rw [hfind]
    exact .inl ⟨Bool.false_ne_true, rfl⟩
  · rw [hinvoke] at h
    cases h
    rw [hfind]
    exact .inr ⟨rfl, result, rfl, List.getLast?_concat⟩

/-- An invocation without outcome is of an unknown plugin, or its plugin has given a reason. -/
theorem explains_of_invoke {name : String} {argument : Option String} {hasScope : Bool}
    {run last : Run σ} {error : TemplateError}
    (h : run.invoke registry name argument hasScope = (.error error, last)) :
    last.Explains registry [name] error := by
  have hname : name ∈ [name] := List.mem_singleton_self name
  obtain ⟨hcontains, herror⟩ | ⟨hcontains, result, herror, hlast⟩ := recorded_of_invoke h
  · cases herror
    exact ⟨hname, hcontains, rfl, fun _ => Registry.contains_of_mem_similar⟩
  · cases result with
    | ok outcome => cases herror
    | error reason =>
      cases herror
      exact ⟨hname, hcontains, argument, hasScope, hlast⟩

/-- Bindings for a call without scope come from the invocation before. -/
theorem explains_missingScope {name : String} {argument : Option String}
    {pairs : List (String × String)} {run last : Run σ}
    (h : run.invoke registry name argument false = (.ok (.bindings pairs), last)) :
    last.Explains registry [name] (.missingScope name) := by
  obtain ⟨-, houtcome⟩ | ⟨hcontains, result, houtcome, hlast⟩ := recorded_of_invoke h
  · cases houtcome
  · cases result with
    | error reason => cases houtcome
    | ok outcome =>
      cases houtcome
      exact ⟨List.mem_singleton_self name, hcontains, argument, pairs, hlast⟩

end Run

namespace Template

theorem explains_of_evaluate_group {parts : List Template}
    {last : Run σ} {error : TemplateError}
    (ih : ∀ part ∈ parts, ∀ {run : Run σ}, part.evaluate registry run = (.error error, last) →
      last.Explains registry part.pluginNames error)
    {run : Run σ} (h : (group parts).evaluate registry run = (.error error, last)) :
    last.Explains registry (group parts).pluginNames error := by
  rw [evaluate] at h
  rw [pluginNames]
  induction parts generalizing run with
  | nil => cases h
  | cons part parts ihparts =>
    obtain ⟨hpart, hparts⟩ := List.forall_mem_cons.mp ih
    rw [pluginNamesAll]
    rcases heval : part.evaluate registry run with ⟨error' | output, middle⟩
    · rw [evaluateAll_cons_of_error heval] at h
      cases h
      -- no part after the failing one is evaluated, so that the run is still the one it left
      exact (hpart heval).mono (List.subset_append_left _ _)
    · rw [evaluateAll_cons_of_ok heval] at h
      rcases hrest : evaluateAll registry parts middle with ⟨error' | rest, last'⟩
      · rw [hrest] at h
        cases h
        exact (ihparts hparts hrest).mono (List.subset_append_right _ _)
      · rw [hrest] at h
        cases h

theorem explains_of_evaluate {template : Template} {run last : Run σ} {error : TemplateError}
    (h : template.evaluate registry run = (.error error, last)) :
    last.Explains registry template.pluginNames error := by
  induction template generalizing run with
  | text contents =>
    rw [evaluate] at h
    obtain ⟨hsubstitute, rfl⟩ := Prod.mk.inj h
    exact Run.explains_of_misses (Table.misses_of_substitute hsubstitute) _
  | group parts ih => exact explains_of_evaluate_group ih h
  | bareCall plugin argument =>
    rw [evaluate] at h
    rcases hinvoke : run.invoke registry plugin argument false with
      ⟨error' | output | pairs, middle⟩
    · rw [hinvoke] at h
      cases h
      exact Run.explains_of_invoke hinvoke
    · rw [hinvoke] at h
      cases h
    · rw [hinvoke] at h
      cases h
      exact Run.explains_missingScope hinvoke
  | scopedCall plugin argument scope ih =>
    rw [evaluate] at h
    rw [pluginNames]
    rcases hinvoke : run.invoke registry plugin argument true with
      ⟨error' | output | pairs, middle⟩
    · rw [hinvoke] at h
      cases h
      exact (Run.explains_of_invoke hinvoke).mono (by simp)
    · rw [hinvoke] at h
      cases h
    · rw [hinvoke] at h
      exact (ih h).mono (List.subset_cons_self _ _)

theorem isSyntax_of_parse {source : String} {error : TemplateError}
    (h : parse source = .error error) : error.isSyntax := by
  obtain ⟨_, _, _, -, hfails⟩ := exists_fails_of_readWithin h
  cases hfails with
  | nestingTooDeep | emptyName | unterminated => rfl

theorem render_of_parse_eq_error {source : String} {error : TemplateError}
    (h : parse source = .error error) (registry : Registry σ) (run : Run σ) :
    render registry source run = (.error error, run) := by
  rw [render, h]

/-- An error tells what is the matter with the run as it is left, or with the source. A source that
cannot be read is not evaluated at all. -/
theorem explains_of_error (registry : Registry σ) (run : Run σ) :
    (∀ (template : Template) error, (template.evaluate registry run).1 = .error error →
      (template.evaluate registry run).2.Explains registry template.pluginNames error) ∧
    ∀ source,
      (∀ error, (render registry source run).1 = .error error →
        (error.isSyntax ↔ ∃ reason, parse source = .error reason)) ∧
      ∀ reason, parse source = .error reason →
        reason.isSyntax ∧ render registry source run = (.error reason, run) := by
  have hevaluate : ∀ (template : Template) error,
      (template.evaluate registry run).1 = .error error →
        (template.evaluate registry run).2.Explains registry template.pluginNames error :=
    fun _ _ herror => explains_of_evaluate (Prod.ext herror rfl)
  refine ⟨hevaluate, fun source => ⟨fun error herror => ?_, fun reason hparse => ?_⟩⟩
  · cases hparse : parse source with
    | error reason =>
      rw [render_of_parse_eq_error hparse] at herror
      cases herror
      exact iff_of_true (isSyntax_of_parse hparse) ⟨_, rfl⟩
    | ok template =>
      have hrender : render registry source run = template.evaluate registry run := by
        rw [render, hparse]
      rw [hrender] at herror
      refine iff_of_false (fun hsyntax => ?_) (fun ⟨_, h⟩ => nomatch h)
      have hexplains := hevaluate template error herror
      cases error with
      | unterminated | emptyName | nestingTooDeep => exact hexplains
      | _ => cases hsyntax
  · exact ⟨isSyntax_of_parse hparse, render_of_parse_eq_error hparse registry run⟩

/-- The name of a missing key may have come into the table only after the start. In a plugin, the
same error is that of the plugin. -/
theorem explains_of_error_installed :
    let run : Run Standard.Counters := ⟨∅, ∅, []⟩
    let missing := call "SPLIT" (some "a b") (some (group [text "%SPLIT:1%", text "%SPLIT:3%"]))
    let failed := call "SPLIT" (some "a b") (some (call "UPPER" (some "%SPLIT:3%") none))
    let reason := "unknown macro key `SPLIT:3`"
    ¬ run.table.contains "SPLIT" ∧
      (missing.evaluate Standard.registry run).1 = .error (.unknownKey "SPLIT" "3") ∧
      (missing.evaluate Standard.registry run).2.Explains Standard.registry missing.pluginNames
        (.unknownKey "SPLIT" "3") ∧
      (failed.evaluate Standard.registry run).1 = .error (.pluginFailed "UPPER" reason) ∧
      (failed.evaluate Standard.registry run).2.Explains Standard.registry failed.pluginNames
        (.pluginFailed "UPPER" reason) := by
  intro run missing failed reason
  have hmissing : (missing.evaluate Standard.registry run).1 =
      .error (.unknownKey "SPLIT" "3") := by decide +kernel
  have hfailed : (failed.evaluate Standard.registry run).1 =
      .error (.pluginFailed "UPPER" reason) := by decide +kernel
  obtain ⟨hexplains, -⟩ := explains_of_error Standard.registry run
  exact ⟨by decide +kernel, hmissing, hexplains _ _ hmissing, hfailed, hexplains _ _ hfailed⟩

end Template

end ReplyTemplate
