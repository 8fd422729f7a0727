import ReplyTemplate.Plugin
import ReplyTemplate.Similarity
import ReplyTemplate.Text.Case
import ReplyTemplate.Text.Quoted

/-! The plugins that templates can call. -/

namespace ReplyTemplate

/-- Plugins by their names, of which upper and lower case differ. -/
structure Registry (σ : Type) where
  plugins : Std.ExtTreeMap String (Plugin σ) := ∅

namespace Registry

variable {σ : Type}

instance : EmptyCollection (Registry σ) := ⟨{}⟩

instance : Inhabited (Registry σ) := ⟨∅⟩

/-- A plugin takes the place of one of the same name. -/
def register (registry : Registry σ) (plugin : Plugin σ) : Registry σ :=
  ⟨registry.plugins.insert plugin.name plugin⟩

def registerAll (registry : Registry σ) (plugins : List (Plugin σ)) : Registry σ :=
  plugins.foldl register registry

/-- Plugins registered one after the other. -/
def ofList (plugins : List (Plugin σ)) : Registry σ := registerAll ∅ plugins

def find? (registry : Registry σ) (name : String) : Option (Plugin σ) := registry.plugins[name]?

def contains (registry : Registry σ) (name : String) : Bool := registry.plugins.contains name

def size (registry : Registry σ) : Nat := registry.plugins.size

def isEmpty (registry : Registry σ) : Bool := registry.plugins.isEmpty

/-- The registered names in the order of their code points. -/
def names (registry : Registry σ) : List String := registry.plugins.keys

def manual? (registry : Registry σ) (name : String) : Option Plugin.Manual :=
  (registry.find? name).map Plugin.manual

/-- The manuals in the order of the names, of one category if it is given. -/
def manuals (registry : Registry σ) (category? : Option String) : List Plugin.Manual :=
  (registry.plugins.values.map Plugin.manual).filter fun manual =>
    category?.all (manual.category == ·)

/-- Registered names that may be meant by one that is not, whatever the case of their letters. -/
def similar (registry : Registry σ) (name : String) : List String :=
  Similarity.rank Text.lower registry.names name

/-- The names as one line of text. -/
def describe (registry : Registry σ) : String :=
  "PluginRegistry \x7b plugins: [" ++ ", ".intercalate (registry.names.map Text.quoted) ++ "] \x7d"

@[simp] theorem find?_empty (name : String) : (∅ : Registry σ).find? name = none := by
  show (∅ : Std.ExtTreeMap String (Plugin σ))[name]? = none
  simp

theorem find?_register (registry : Registry σ) (plugin : Plugin σ) (name : String) :
    (registry.register plugin).find? name =
      if plugin.name = name then some plugin else registry.find? name := by
  simp [register, find?, Std.ExtTreeMap.getElem?_insert, Std.LawfulEqCmp.compare_eq_iff_eq]

/-- Of the plugins of one name the last one counts. -/
theorem find?_registerAll (registry : Registry σ) (plugins : List (Plugin σ)) (name : String) :
    (registry.registerAll plugins).find? name =
      (plugins.reverse.find? (·.name == name)).or (registry.find? name) := by
  induction plugins generalizing registry with
  | nil => rfl
  | cons plugin plugins ih =>
    have hrest := ih (registry.register plugin)
    rw [registerAll] at hrest ⊢
    rw [List.foldl_cons, hrest, find?_register, List.reverse_cons, List.find?_append]
    by_cases hname : plugin.name = name <;>
      cases plugins.reverse.find? (·.name == name) <;> simp [hname]

theorem mem_of_find?_ofList {plugins : List (Plugin σ)} {name : String} {plugin : Plugin σ}
    (h : (ofList plugins).find? name = some plugin) : plugin ∈ plugins := by
  rw [ofList, find?_registerAll, find?_empty, Option.or_none] at h
  exact List.mem_reverse.mp (List.mem_of_find?_eq_some h)

theorem contains_eq_isSome_find? (registry : Registry σ) (name : String) :
    registry.contains name = (registry.find? name).isSome :=
  Std.ExtTreeMap.contains_eq_isSome_getElem?

end Registry

end ReplyTemplate
