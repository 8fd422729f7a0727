import ReplyTemplate.Evaluation
import ReplyTemplate.Proofs.Table

/-! What invocations do to a run. Each reads the table that those before it have left. -/

namespace ReplyTemplate

namespace Invocation

/-- What is asked of the plugin: its name, the argument and whether there is a scope. -/
def call (invocation : Invocation) : String × Option String × Bool :=
  (invocation.plugin, invocation.argument, invocation.hasScope)

/-- What goes into the table: the bindings of a call with a scope. -/
def installation? : Invocation → Option (String × List (String × String))
  | ⟨plugin, _, true, .ok (.bindings pairs)⟩ => some (plugin, pairs)
  | _ => none

def gaveText (invocation : Invocation) : Bool :=
  match invocation.result with
  | .ok (.text _) => true
  | _ => false

theorem fst_of_mem_installation? {invocation : Invocation}
    {installation : String × List (String × String)}
    (h : installation ∈ invocation.installation?) : installation.1 = invocation.plugin := by
  unfold installation? at h
  split at h
  · cases h
    rfl
  · cases h

/-- Only invoked plugins have their names in what is installed. -/
theorem map_fst_filterMap_installation?_sublist (trace : List Invocation) :
    ((trace.filterMap installation?).map Prod.fst).Sublist (trace.map plugin) := by
  induction trace with
  | nil => exact .slnil
  | cons invocation trace ih =>
    rw [List.map_cons]
    cases h : invocation.installation? with
    | none =>
      rw [List.filterMap_cons_none h]
      exact ih.cons _
    | some installation =>
      rw [List.filterMap_cons_some h, List.map_cons, fst_of_mem_installation? h]
      exact ih.cons_cons _

end Invocation

namespace Run

variable {σ : Type} {registry : Registry σ}

def after (run : Run σ) (invocation : Invocation) (state : σ) : Run σ where
  table := run.table.installAll invocation.installation?.toList
  state := state
  invocations := run.invocations ++ [invocation]

/-- From one run to another by invocations of registered plugins, each of which gives the recorded
result on the table and the state that it is invoked with. -/
inductive History (registry : Registry σ) : Run σ → List Invocation → Run σ → Prop where
  | nil (run : Run σ) : History registry run [] run
  | cons {run last : Run σ} {invocation : Invocation} {trace : List Invocation}
      {plugin : Plugin σ} {state : σ} (find : registry.find? invocation.plugin = some plugin)
      (invoke : plugin.invoke invocation.argument ⟨invocation.plugin, run.table⟩ run.state =
        (invocation.result, state))
      (rest : History registry (run.after invocation state) trace last) :
      History registry run (invocation :: trace) last

theorem History.append {first middle last : Run σ} {s t : List Invocation}
    (hs : History registry first s middle) (ht : History registry middle t last) :
    History registry first (s ++ t) last := by
  induction hs with
  | nil => exact ht
  | cons find invoke _ ih => exact .cons find invoke (ih ht)

theorem History.invocations_eq {run last : Run σ} {trace : List Invocation}
    (h : History registry run trace last) : last.invocations = run.invocations ++ trace := by
  induction h with
  | nil => rw [List.append_nil]
  | cons _ _ _ ih =>
    rw [ih, after, List.append_assoc]
    rfl

/-- The table holds what the trace installs, in its order, over what it held before. -/
theorem History.table_eq {run last : Run σ} {trace : List Invocation}
    (h : History registry run trace last) :
    last.table = run.table.installAll (trace.filterMap Invocation.installation?) := by
  induction h with
  | nil => rfl
  | @cons run last invocation trace _ _ _ _ _ ih =>
    rw [ih, after, ← Table.installAll_append]
    cases h : invocation.installation? <;> simp [h]

theorem invoke_of_find? {name : String} {plugin : Plugin σ} {argument : Option String}
    {run : Run σ} {result : Except String Plugin.Outcome} {state : σ}
    (hfind : registry.find? name = some plugin)
    (hinvoke : plugin.invoke argument ⟨name, run.table⟩ run.state = (result, state))
    (hasScope : Bool) :
    run.invoke registry name argument hasScope =
      (result.mapError (.pluginFailed name), { run with
        state, invocations := run.invocations ++ [⟨name, argument, hasScope, result⟩] }) := by
  simp only [invoke, hfind, hinvoke]

/-- An unknown plugin changes nothing. A known one is invoked once and its result is recorded. -/
theorem invoke_cases (registry : Registry σ) (name : String) (argument : Option String)
    (hasScope : Bool) (run : Run σ) :
    (registry.find? name = none ∧ run.invoke registry name argument hasScope =
        (.error (.unknownPlugin name (registry.similar name)), run)) ∨
      ∃ plugin result state, registry.find? name = some plugin ∧
        plugin.invoke argument ⟨name, run.table⟩ run.state = (result, state) ∧
        run.invoke registry name argument hasScope =
          (result.mapError (.pluginFailed name), { run with
            state, invocations := run.invocations ++ [⟨name, argument, hasScope, result⟩] }) := by
  cases hfind : registry.find? name with
  | none => exact .inl ⟨rfl, by rw [invoke, hfind]⟩
  | some plugin => exact .inr ⟨plugin, _, _, rfl, rfl, invoke_of_find? hfind rfl hasScope⟩

end Run

end ReplyTemplate
