import ReplyTemplate.Registry
import ReplyTemplate.Template.Reader

/-! Evaluation of templates, from left to right and calls before their scopes. -/

namespace ReplyTemplate

/-- One call of a plugin, as it happened. -/
structure Invocation where
  plugin : String
  argument : Option String
  /-- Whether the call has a scope for bindings. -/
  hasScope : Bool
  result : Except String Plugin.Outcome

/-- What an evaluation reads and changes. It outlives a failure. -/
structure Run (σ : Type) where
  table : Table
  /-- The state that the plugins share. -/
  state : σ
  /-- The invocations so far, in their order. -/
  invocations : List Invocation := []

namespace Run

variable {σ : Type}

def install (run : Run σ) (name : String) (pairs : List (String × String)) : Run σ :=
  { run with table := run.table.install name pairs }

/-- Invokes a plugin by its name. -/
def invoke (registry : Registry σ) (name : String) (argument : Option String) (hasScope : Bool)
    (run : Run σ) : Except TemplateError Plugin.Outcome × Run σ :=
  match registry.find? name with
  | none => (.error (.unknownPlugin name (registry.similar name)), run)
  | some plugin =>
    let (result, state) := plugin.invoke argument ⟨name, run.table⟩ run.state
    let invocations := run.invocations ++ [⟨name, argument, hasScope, result⟩]
    (result.mapError (.pluginFailed name), { run with state, invocations })

end Run

namespace Template

variable {σ : Type}

mutual

/-- The output of a template, or its first error. A scope is evaluated only for bindings. -/
def evaluate (registry : Registry σ) : Template → Run σ → Except TemplateError String × Run σ
  | text contents, run => (run.table.substitute contents, run)
  | group parts, run => evaluateAll registry parts run
  | call name argument none, run =>
    match run.invoke registry name argument false with
    | (.ok (.text output), run) => (.ok output, run)
    | (.ok (.bindings _), run) => (.error (.missingScope name), run)
    | (.error error, run) => (.error error, run)
  | call name argument (some scope), run =>
    match run.invoke registry name argument true with
    | (.ok (.text output), run) => (.ok output, run)
    | (.ok (.bindings pairs), run) => evaluate registry scope (run.install name pairs)
    | (.error error, run) => (.error error, run)

def evaluateAll (registry : Registry σ) :
    List Template → Run σ → Except TemplateError String × Run σ
  | [], run => (.ok "", run)
  | part :: parts, run =>
    match evaluate registry part run with
    | (.error error, run) => (.error error, run)
    | (.ok output, run) =>
      match evaluateAll registry parts run with
      | (.error error, run) => (.error error, run)
      | (.ok rest, run) => (.ok (output ++ rest), run)

end

theorem evaluateAll_cons_of_error {registry : Registry σ} {part : Template} {run last : Run σ}
    {error : TemplateError} (h : part.evaluate registry run = (.error error, last))
    (parts : List Template) :
    evaluateAll registry (part :: parts) run = (.error error, last) := by
  rw [evaluateAll, h]

theorem evaluateAll_cons_of_ok {registry : Registry σ} {part : Template} {run middle : Run σ}
    {output : String} (h : part.evaluate registry run = (.ok output, middle))
    (parts : List Template) :
    evaluateAll registry (part :: parts) run =
      ((evaluateAll registry parts middle).1.map (output ++ ·),
        (evaluateAll registry parts middle).2) := by
  rw [evaluateAll, h]
  dsimp only
  cases evaluateAll registry parts middle with
  | mk outcome last => cases outcome <;> rfl

/-- Reads a source and evaluates it. A source that cannot be read changes nothing. -/
def render (registry : Registry σ) (source : String) (run : Run σ) :
    Except TemplateError String × Run σ :=
  match parse source with
  | .error error => (.error error, run)
  | .ok template => template.evaluate registry run

end Template

end ReplyTemplate
