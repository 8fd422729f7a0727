import ReplyTemplate.Evaluation

/-! Engines, which render templates one by one from the same table. -/

namespace ReplyTemplate

/-- Every rendering starts from a table of its own, a copy of the base table. -/
structure Engine (σ : Type) where
  registry : Registry σ
  base : Table := ∅

namespace Engine

variable {σ : Type}

def withBase (engine : Engine σ) (base : Table) : Engine σ := { engine with base }

/-- Renders with entries laid over the base table, from a state of the plugins. -/
def renderWith (engine : Engine σ) (overrides : Table) (source : String) (state : σ) :
    Except TemplateError String × Run σ :=
  Template.render engine.registry source { table := engine.base.merge overrides, state }

def render (engine : Engine σ) (source : String) (state : σ) :
    Except TemplateError String × Run σ :=
  Template.render engine.registry source { table := engine.base, state }

end Engine

end ReplyTemplate
