import ReplyTemplate.Error
import Std.Data.ExtTreeMap

/-! The values that templates refer to, by name and key. -/

namespace ReplyTemplate

/-- Values by key. -/
abbrev KeyedValues := Std.ExtTreeMap String String

/-- A name may be in a table without any keys. -/
structure Table where
  entries : Std.ExtTreeMap String KeyedValues := ∅
deriving DecidableEq

namespace Table

instance : EmptyCollection Table := ⟨{}⟩

instance : Inhabited Table := ⟨∅⟩

def get? (table : Table) (name key : String) : Option String :=
  table.entries[name]?.bind fun values => values[key]?

def contains (table : Table) (name : String) : Bool := table.entries.contains name

def isEmpty (table : Table) : Bool := table.entries.isEmpty

/-- The value of a key, or which of the two parts is not there. -/
def lookup (table : Table) (name key : String) : Except TemplateError String :=
  match table.entries[name]? with
  | none => throw (.unknownMacro name)
  | some values => match values[key]? with
    | none => throw (.unknownKey name key)
    | some value => return value

/-- Puts the pairs under a name, one after the other, beside the keys it has. -/
def install (table : Table) (name : String) (pairs : List (String × String)) : Table :=
  let values := pairs.foldl (fun values (key, value) => values.insert key value)
    (table.entries.getD name ∅)
  ⟨table.entries.insert name values⟩

def insert (table : Table) (name key value : String) : Table := table.install name [(key, value)]

/-- Every name with its pairs, both in the order of their code points. -/
def toList (table : Table) : List (String × List (String × String)) :=
  table.entries.toList.map fun (name, values) => (name, values.toList)

/-- Lays another table over this one, key by key. -/
def merge (table other : Table) : Table :=
  other.toList.foldl (fun table (name, pairs) => table.install name pairs) table

/-- The table of triples of name, key and value. -/
def ofEntries (entries : List (String × String × String)) : Table :=
  entries.foldl (fun table (name, key, value) => table.insert name key value) ∅

@[simp] theorem get?_empty (name key : String) : get? ∅ name key = none := by
  show (∅ : Std.ExtTreeMap String KeyedValues)[name]?.bind _ = none
  simp

theorem contains_eq_isSome_entries (table : Table) (name : String) :
    table.contains name = table.entries[name]?.isSome :=
  Std.ExtTreeMap.contains_eq_isSome_getElem?

@[simp] theorem contains_install (table : Table) (name other : String)
    (pairs : List (String × String)) :
    (table.install name pairs).contains other = (name == other || table.contains other) := by
  rw [Bool.eq_iff_iff]
  simp [install, contains, Std.ExtTreeMap.contains_insert, Std.LawfulEqCmp.compare_eq_iff_eq]

@[simp] theorem get?_insert (table : Table) (name key value other otherKey : String) :
    (table.insert name key value).get? other otherKey =
      if name = other ∧ key = otherKey then some value else table.get? other otherKey := by
  by_cases hn : name = other
  · subst hn
    by_cases hk : key = otherKey
    · simp [insert, install, get?, hk]
    · cases h : table.entries[name]? <;>
        simp [insert, install, get?, Std.ExtTreeMap.getElem?_insert,
          Std.ExtTreeMap.getD_eq_getD_getElem?, hk, h]
  · simp [insert, install, get?, Std.ExtTreeMap.getElem?_insert, hn]

theorem lookup_eq_ok_iff {table : Table} {name key value : String} :
    table.lookup name key = .ok value ↔ table.get? name key = some value := by
  unfold lookup get?
  cases table.entries[name]? with
  | none => simp [throw, throwThe, MonadExceptOf.throw]
  | some values =>
    cases h : values[key]? <;>
      simp [h, throw, throwThe, MonadExceptOf.throw, pure, Except.pure]

end Table

end ReplyTemplate
