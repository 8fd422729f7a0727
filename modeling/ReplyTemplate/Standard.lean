import ReplyTemplate.Engine
import ReplyTemplate.Standard.Counter
import ReplyTemplate.Standard.Letters
import ReplyTemplate.Standard.Split

/-! The plugins that every engine can have. -/

namespace ReplyTemplate.Standard

/-- The standard plugins in the order of their registration. -/
def plugins : List (Plugin Counters) := [echo, upper, lower, split, counter]

/-- The standard plugin of a name. -/
def plugin? (name : String) : Option (Plugin Counters) := plugins.find? (·.name == name)

def registry : Registry Counters := .ofList plugins

/-- The standard plugins over a base table. -/
def engine (base : Table := ∅) : Engine Counters := ⟨registry, base⟩

end ReplyTemplate.Standard
