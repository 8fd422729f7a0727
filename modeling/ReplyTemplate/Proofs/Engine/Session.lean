import ReplyTemplate.Engine
import ReplyTemplate.Host
import ReplyTemplate.Proofs.Evaluation.Replay

/-! Sessions with a registry. What engines over it render and what is invoked outside of them comes
down to invocations one after the other. -/

namespace ReplyTemplate

/-- A use of a registry. Of an engine over it only the base table matters. -/
inductive Operation where
  | render (base : Table) (source : String)
  | renderWith (base overrides : Table) (source : String)
  | invoke (plugin : String) (argument : Option String) (context : Plugin.Context)

variable {σ : Type}

namespace Operation

def perform (registry : Registry σ) (operation : Operation) (state : σ) : List Invocation × σ :=
  match operation with
  | render base source =>
    let run := (Engine.render ⟨registry, base⟩ source state).2
    (run.invocations, run.state)
  | renderWith base overrides source =>
    let run := (Engine.renderWith ⟨registry, base⟩ overrides source state).2
    (run.invocations, run.state)
  | invoke plugin argument context =>
    match Host.invoke? ⟨registry, state⟩ plugin argument context with
    | none => ([], state)
    | some (result, host) => ([⟨plugin, argument, false, result⟩], host.state)

def performAll (registry : Registry σ) : List Operation → σ → List Invocation × σ
  | [], state => ([], state)
  | operation :: operations, state =>
    let (log, next) := operation.perform registry state
    let (rest, last) := performAll registry operations next
    (log ++ rest, last)

end Operation

/-- In a state, the registered plugin gives the recorded result and leaves another state. The
context is not recorded. -/
def Registry.Answers (registry : Registry σ) (invocation : Invocation) (state next : σ) : Prop :=
  ∃ plugin context, registry.find? invocation.plugin = some plugin ∧
    plugin.invoke invocation.argument context state = (invocation.result, next)

inductive Session (registry : Registry σ) : σ → List Invocation → σ → Prop where
  | nil (state : σ) : Session registry state [] state
  | cons {state next last : σ} {invocation : Invocation} {log : List Invocation}
      (first : registry.Answers invocation state next) (rest : Session registry next log last) :
      Session registry state (invocation :: log) last

variable {registry : Registry σ}

theorem Session.append {start middle last : σ} {s t : List Invocation}
    (hs : Session registry start s middle) (ht : Session registry middle t last) :
    Session registry start (s ++ t) last := by
  induction hs with
  | nil => exact ht
  | cons first _ ih => exact .cons first (ih ht)

theorem Session.exists_of_append {start last : σ} {s t : List Invocation}
    (h : Session registry start (s ++ t) last) :
    ∃ middle, Session registry start s middle ∧ Session registry middle t last := by
  induction s generalizing start with
  | nil => exact ⟨start, .nil start, h⟩
  | cons invocation s ih =>
    cases h with
    | cons first rest =>
      obtain ⟨middle, hs, ht⟩ := ih rest
      exact ⟨middle, .cons first hs, ht⟩

theorem Run.History.session {run last : Run σ} {trace : List Invocation}
    (h : run.History registry trace last) : Session registry run.state trace last.state := by
  induction h with
  | nil => exact .nil _
  | cons find invoke _ ih => exact .cons ⟨_, _, find, invoke⟩ ih

theorem session_of_render (registry : Registry σ) (source : String) (table : Table) (state : σ) :
    Session registry state (Template.render registry source ⟨table, state, []⟩).2.invocations
      (Template.render registry source ⟨table, state, []⟩).2.state := by
  unfold Template.render
  cases Template.parse source with
  | error error => exact .nil state
  | ok template =>
    obtain ⟨trace, hreplay⟩ := Template.exists_replay registry template ⟨table, state, []⟩
    have hinvocations := hreplay.history.invocations_eq
    dsimp only at hinvocations ⊢
    rw [hinvocations, List.nil_append]
    exact hreplay.history.session

theorem Operation.session_of_perform (registry : Registry σ) (operation : Operation) (state : σ) :
    Session registry state (operation.perform registry state).1
      (operation.perform registry state).2 := by
  cases operation with
  | render base source => exact session_of_render registry source base state
  | renderWith base overrides source =>
    exact session_of_render registry source (base.merge overrides) state
  | invoke plugin argument context =>
    unfold perform Host.invoke?
    dsimp only
    cases hfind : registry.find? plugin with
    | none => exact .nil state
    | some found => exact .cons ⟨found, context, hfind, rfl⟩ (.nil _)

theorem Operation.session_of_performAll (registry : Registry σ) (operations : List Operation)
    (state : σ) :
    Session registry state (performAll registry operations state).1
      (performAll registry operations state).2 := by
  induction operations generalizing state with
  | nil => exact .nil state
  | cons operation operations ih =>
    have hfirst := operation.session_of_perform registry state
    exact hfirst.append (ih _)

end ReplyTemplate
