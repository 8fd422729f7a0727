import Mathlib.Data.List.Basic
import ReplyTemplate.Standard

/-! Registries after any history of registrations. All that a registry tells of itself agrees: it
holds the last plugin of every name, and lists them by their names alone. -/

namespace ReplyTemplate

variable {σ : Type}

inductive Registration (σ : Type) where
  | single (plugin : Plugin σ)
  | library (plugins : List (Plugin σ))

def Registration.plugins : Registration σ → List (Plugin σ)
  | single plugin => [plugin]
  | library plugins => plugins

namespace Registry

def record (registry : Registry σ) : Registration σ → Registry σ
  | .single plugin => registry.register plugin
  | .library plugins => registry.registerAll plugins

def ofHistory (history : List (Registration σ)) : Registry σ := history.foldl record ∅

def entries (registry : Registry σ) : List (String × Plugin σ) := registry.plugins.toList

def manualsOf (category? : Option String) (entries : List (String × Plugin σ)) :
    List Plugin.Manual :=
  (entries.map fun entry => entry.2.manual).filter fun manual =>
    category?.all (manual.category == ·)

/-- What a registry tells of plugins that have been registered one after the other. -/
structure Reflects (registry : Registry σ) (registered : List (Plugin σ)) : Prop where
  names_increase : registry.names.Pairwise (· < ·)
  mem_names : ∀ name, name ∈ registry.names ↔ ∃ plugin ∈ registered, plugin.name = name
  contains : ∀ name, registry.contains name ↔ name ∈ registry.names
  find? : ∀ name, registry.find? name = (registered.filter (·.name == name)).getLast?
  isSome_find? : ∀ name, (registry.find? name).isSome ↔ name ∈ registry.names
  isSome_manual? : ∀ name, (registry.manual? name).isSome ↔ name ∈ registry.names
  name_manual? : ∀ name, ∀ manual ∈ registry.manual? name, manual.name = name
  size : registry.size = registry.names.length
  isEmpty : registry.isEmpty ↔ registry.names = []
  manuals : registry.manuals none = registry.names.filterMap registry.manual?
  name_manuals : (registry.manuals none).map Plugin.Manual.name = registry.names
  manuals_some : ∀ category, registry.manuals (some category) =
    (registry.manuals none).filter (·.category == category)
  /-- In whatever order the plugins are visited, there is one way to sort their names. -/
  eq_names : ∀ visited : List (String × Plugin σ), visited.Perm registry.entries →
    ∀ sorted : List String, sorted.Perm (visited.map Prod.fst) → sorted.Pairwise (· ≤ ·) →
      sorted = registry.names
  eq_manuals : ∀ visited : List (String × Plugin σ), visited.Perm registry.entries →
    ∀ category? sorted, sorted.Perm (manualsOf category? visited) →
      sorted.Pairwise (fun first second => first.name ≤ second.name) →
      sorted = registry.manuals category?

def IsKeyed (registry : Registry σ) : Prop :=
  ∀ name plugin, registry.find? name = some plugin → plugin.name = name

theorem isKeyed_empty : IsKeyed (∅ : Registry σ) := by
  intro name plugin h
  rw [find?_empty] at h
  cases h

theorem IsKeyed.register {registry : Registry σ} (h : registry.IsKeyed) (plugin : Plugin σ) :
    (registry.register plugin).IsKeyed := by
  intro name other hfind
  rw [find?_register] at hfind
  split at hfind
  · next hname =>
    cases hfind
    exact hname
  · exact h name other hfind

theorem IsKeyed.registerAll {registry : Registry σ} (h : registry.IsKeyed)
    (plugins : List (Plugin σ)) : (registry.registerAll plugins).IsKeyed := by
  induction plugins generalizing registry with
  | nil => exact h
  | cons plugin plugins ih => exact ih (h.register plugin)

theorem record_eq (registry : Registry σ) (registration : Registration σ) :
    registry.record registration = registry.registerAll registration.plugins := by
  cases registration with
  | single plugin => rfl
  | library plugins => rfl

theorem IsKeyed.record {registry : Registry σ} (h : registry.IsKeyed)
    (registration : Registration σ) : (registry.record registration).IsKeyed := by
  rw [record_eq]
  exact h.registerAll registration.plugins

theorem isKeyed_ofHistory (history : List (Registration σ)) : (ofHistory history).IsKeyed := by
  have hfold : ∀ registry : Registry σ, registry.IsKeyed →
      (history.foldl Registry.record registry).IsKeyed := by
    induction history with
    | nil => exact fun registry h => h
    | cons registration history ih => exact fun registry h => ih _ (h.record registration)
  exact hfold ∅ isKeyed_empty

theorem find?_ofHistory (history : List (Registration σ)) (name : String) :
    (ofHistory history).find? name =
      ((history.flatMap Registration.plugins).filter (·.name == name)).getLast? := by
  have hfold : ∀ registry : Registry σ, history.foldl Registry.record registry =
      registry.registerAll (history.flatMap Registration.plugins) := by
    induction history with
    | nil => exact fun registry => rfl
    | cons registration history ih =>
      intro registry
      rw [List.foldl_cons, ih, record_eq, List.flatMap_cons, registerAll, registerAll, registerAll,
        List.foldl_append]
  rw [ofHistory, hfold, find?_registerAll, find?_empty, Option.or_none, ← List.head?_filter,
    List.filter_reverse, List.head?_reverse]

variable {registry : Registry σ}

theorem map_fst_entries (registry : Registry σ) : registry.entries.map Prod.fst = registry.names :=
  Std.ExtTreeMap.map_fst_toList_eq_keys

theorem mem_entries_iff {name : String} {plugin : Plugin σ} :
    (name, plugin) ∈ registry.entries ↔ registry.find? name = some plugin :=
  Std.ExtTreeMap.mem_toList_iff_getElem?_eq_some

theorem values_eq_map_snd (registry : Registry σ) :
    registry.plugins.values = registry.entries.map Prod.snd := by
  obtain ⟨⟨inner⟩⟩ := registry
  induction inner using Std.ExtDTreeMap.inductionOn with
  | mk tree =>
    -- both lists are read off the tree from left to right
    change tree.inner.values = (Std.DTreeMap.Internal.Impl.Const.toList tree.inner).map Prod.snd
    rw [Std.DTreeMap.Internal.Impl.values_eq_map_snd,
      Std.DTreeMap.Internal.Impl.Const.toList_eq_toListModel_map, List.map_map]
    rfl

theorem manuals_eq (registry : Registry σ) (category? : Option String) :
    registry.manuals category? = manualsOf category? registry.entries := by
  rw [manuals, manualsOf, values_eq_map_snd, List.map_map]
  rfl

theorem manuals_none (registry : Registry σ) :
    registry.manuals none = registry.entries.map fun entry => entry.2.manual := by
  rw [manuals_eq, manualsOf, List.filter_eq_self]
  exact fun _ _ => rfl

theorem pairwise_lt_names (registry : Registry σ) : registry.names.Pairwise (· < ·) := by
  have hordered : registry.names.Pairwise fun first second => compare first second = .lt :=
    Std.ExtTreeMap.ordered_keys
  exact hordered.imp compareOfLessAndEq_eq_lt.mp

theorem mem_names_iff {name : String} : name ∈ registry.names ↔ (registry.find? name).isSome := by
  rw [names, Std.ExtTreeMap.mem_keys, find?, Std.ExtTreeMap.isSome_getElem?_iff_mem]

theorem eq_of_perm_of_pairwise {names sorted : List String} (hnames : names.Pairwise (· < ·))
    (hperm : sorted.Perm names) (hsorted : sorted.Pairwise (· ≤ ·)) : sorted = names := by
  have hle : names.Pairwise (· ≤ ·) := hnames.imp Std.le_of_lt
  exact hperm.eq_of_pairwise (fun _ _ _ _ => String.le_antisymm) hsorted hle

/-- Manuals of one registry with equal names are equal, so that their names can sort them. -/
theorem IsKeyed.eq_of_name_eq (h : registry.IsKeyed) {first second : String × Plugin σ}
    (hfirst : first ∈ registry.entries) (hsecond : second ∈ registry.entries)
    (hname : first.2.name = second.2.name) : first = second := by
  obtain ⟨name, plugin⟩ := first
  obtain ⟨other, otherPlugin⟩ := second
  have hfind := mem_entries_iff.mp hfirst
  have hfindOther := mem_entries_iff.mp hsecond
  have hkeys : name = other := (h name plugin hfind).symm.trans
    (hname.trans (h other otherPlugin hfindOther))
  subst hkeys
  rw [hfind] at hfindOther
  cases hfindOther
  rfl

theorem filterMap_manual?_names (registry : Registry σ) :
    registry.names.filterMap registry.manual? = registry.manuals none := by
  have hmanual : ∀ entry ∈ registry.entries,
      (registry.manual? ∘ Prod.fst) entry = some entry.2.manual := by
    rintro ⟨name, plugin⟩ hentry
    have hfind := mem_entries_iff.mp hentry
    rw [Function.comp_apply, manual?, hfind, Option.map_some]
  rw [← map_fst_entries, List.filterMap_map, List.filterMap_congr hmanual,
    manuals_none, List.filterMap_eq_map']

theorem IsKeyed.name_manuals (h : registry.IsKeyed) :
    (registry.manuals none).map Plugin.Manual.name = registry.names := by
  rw [manuals_none, List.map_map, ← map_fst_entries]
  apply List.map_congr_left
  rintro ⟨name, plugin⟩ hentry
  exact h name plugin (mem_entries_iff.mp hentry)

theorem IsKeyed.pairwise_manuals (h : registry.IsKeyed) (category? : Option String) :
    (registry.manuals category?).Pairwise fun first second => first.name ≤ second.name := by
  have hnames : ((registry.manuals none).map Plugin.Manual.name).Pairwise (· ≤ ·) := by
    rw [h.name_manuals]
    exact registry.pairwise_lt_names.imp Std.le_of_lt
  rw [manuals_none] at hnames
  rw [manuals_eq, manualsOf]
  exact (List.pairwise_map.mp hnames).filter _

theorem IsKeyed.eq_manuals (h : registry.IsKeyed) {visited : List (String × Plugin σ)}
    (hvisited : visited.Perm registry.entries) {category? : Option String}
    {sorted : List Plugin.Manual} (hsorted : sorted.Perm (manualsOf category? visited))
    (hpairwise : sorted.Pairwise fun first second => first.name ≤ second.name) :
    sorted = registry.manuals category? := by
  have hperm : sorted.Perm (registry.manuals category?) := by
    rw [manuals_eq]
    exact hsorted.trans ((hvisited.map _).filter _)
  refine hperm.eq_of_pairwise ?_ hpairwise (h.pairwise_manuals category?)
  intro first second hfirst hsecond hle hge
  have hmem : ∀ manual ∈ registry.manuals category?,
      ∃ entry ∈ registry.entries, entry.2.manual = manual := by
    intro manual hmanual
    rw [manuals_eq] at hmanual
    exact List.mem_map.mp ((List.mem_filter.mp hmanual).1)
  obtain ⟨entry, hentry, rfl⟩ := hmem first (hperm.mem_iff.mp hfirst)
  obtain ⟨other, hother, rfl⟩ := hmem second hsecond
  rw [h.eq_of_name_eq hentry hother (String.le_antisymm hle hge)]

theorem mem_names_ofHistory_iff {history : List (Registration σ)} {name : String} :
    name ∈ (ofHistory history).names ↔
      ∃ plugin ∈ history.flatMap Registration.plugins, plugin.name = name := by
  rw [mem_names_iff, find?_ofHistory, List.getLast?_isSome, Ne, List.filter_eq_nil_iff]
  simp only [beq_iff_eq, not_forall, not_not, exists_prop]

/-- Whatever has been registered, one by one or from libraries, all views agree on it. -/
theorem reflects_ofHistory (history : List (Registration σ)) :
    (ofHistory history).Reflects (history.flatMap Registration.plugins) := by
  have hkeyed := isKeyed_ofHistory history
  have hfind := find?_ofHistory history
  have hmanual : ∀ name, (ofHistory history).manual? name =
      ((ofHistory history).find? name).map Plugin.manual := fun _ => rfl
  constructor
  case names_increase => exact pairwise_lt_names _
  case mem_names => exact fun name => mem_names_ofHistory_iff
  case contains =>
    intro name
    rw [mem_names_iff, contains_eq_isSome_find?]
  case find? => exact hfind
  case isSome_find? => exact fun name => mem_names_iff.symm
  case isSome_manual? =>
    intro name
    rw [hmanual, Option.isSome_map, mem_names_iff]
  case name_manual? =>
    intro name manual hmem
    rw [hmanual, Option.mem_def, Option.map_eq_some_iff] at hmem
    obtain ⟨plugin, hplugin, rfl⟩ := hmem
    exact hkeyed name plugin hplugin
  case size => exact Std.ExtTreeMap.length_keys.symm
  case isEmpty =>
    have hempty : (ofHistory history).names.isEmpty = (ofHistory history).isEmpty :=
      Std.ExtTreeMap.isEmpty_keys
    rw [← hempty, List.isEmpty_iff]
  case manuals => exact (filterMap_manual?_names _).symm
  case name_manuals => exact hkeyed.name_manuals
  case manuals_some =>
    intro category
    rw [manuals_none, manuals_eq, manualsOf]
    rfl
  case eq_names =>
    intro visited hvisited sorted hsorted hpairwise
    have hperm := hvisited.map Prod.fst
    rw [map_fst_entries] at hperm
    exact eq_of_perm_of_pairwise (pairwise_lt_names _) (hsorted.trans hperm) hpairwise
  case eq_manuals =>
    intro visited hvisited category? sorted hsorted hpairwise
    exact hkeyed.eq_manuals hvisited hsorted hpairwise

example : Standard.registry = ofHistory [.library Standard.plugins] := rfl

end Registry

end ReplyTemplate
