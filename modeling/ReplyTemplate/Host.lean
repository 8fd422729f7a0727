import ReplyTemplate.Registry

/-! A registry at work. -/

namespace ReplyTemplate

/-- Plugins together with the state that they share. -/
structure Host (σ : Type) where
  registry : Registry σ := ∅
  state : σ

namespace Host

variable {σ : Type}

def register (host : Host σ) (plugin : Plugin σ) : Host σ :=
  ⟨host.registry.register plugin, plugin.enroll host.state⟩

def registerAll (host : Host σ) (plugins : List (Plugin σ)) : Host σ := plugins.foldl register host

/-- Invokes a plugin, if there is one of the name, outside of any template. -/
def invoke? (host : Host σ) (name : String) (argument : Option String) (context : Plugin.Context) :
    Option (Except String Plugin.Outcome × Host σ) :=
  (host.registry.find? name).map fun plugin =>
    let (result, state) := plugin.invoke argument context host.state
    (result, { host with state })

end Host

end ReplyTemplate
