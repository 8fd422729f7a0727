import ReplyTemplate.Reference

/-! Plugins, which give templates their output and their bindings. -/

namespace ReplyTemplate

namespace Plugin

/-- An argument that a plugin takes. -/
structure Parameter where
  name : String
  kind : String
  description : String
  /-- A parameter with a default may be left out. -/
  default? : Option String := none
deriving DecidableEq, Repr

/-- What people are told about a plugin. Its name is also that of its bindings in a table. -/
structure Manual where
  name : String
  description : String := ""
  usage : String := ""
  parameters : List Parameter := []
  /-- The keys that the plugin binds. -/
  provides : List String := []
  examples : List String := []
  category : String := "custom"
deriving DecidableEq, Repr

/-- What a plugin sees of the template that calls it. -/
structure Context where
  /-- The name that the plugin is called by. -/
  name : String
  table : Table

/-- What a plugin gives back. -/
inductive Outcome where
  /-- The output of the call. -/
  | text (contents : String)
  /-- Values for the scope of the call. -/
  | bindings (pairs : List (String × String))
deriving DecidableEq, Repr

/-- The word for the kind of an outcome. -/
def Outcome.kind : Outcome → String
  | text _ => "text"
  | bindings _ => "bindings"

end Plugin

/-- A plugin that may read and change a state of type `σ`, which all plugins of a registry share. A
failed invocation gives the reason. -/
structure Plugin (σ : Type) where
  manual : Plugin.Manual
  invoke : Option String → Plugin.Context → σ → Except String Plugin.Outcome × σ
  /-- The shared state once the plugin has been registered. -/
  enroll : σ → σ := id

namespace Plugin

variable {σ : Type}

def name (plugin : Plugin σ) : String := plugin.manual.name

/-- A plugin that neither reads nor changes the shared state. -/
def stateless (manual : Manual) (run : Option String → Context → Except String Outcome) :
    Plugin σ where
  manual
  invoke argument context state := (run argument context, state)

/-- A plugin whose outcome hangs on its argument alone. -/
def ofFunction (manual : Manual) (run : Option String → Except String Outcome) : Plugin σ :=
  stateless manual fun argument _ => run argument

/-- The text with its references replaced from the context's table; a failure gives its message. -/
def Context.substitute (context : Context) (text : String) : Except String String :=
  (context.table.substitute text).mapError TemplateError.message

end Plugin

end ReplyTemplate
