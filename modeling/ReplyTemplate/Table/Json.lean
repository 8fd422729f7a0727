import ReplyTemplate.Json.Reader
import ReplyTemplate.Table

/-! Tables as JSON values, which are objects of objects of strings. -/

namespace ReplyTemplate.Table

def toJson (table : Table) : Json :=
  .object (table.toList.map fun (name, pairs) =>
    (name, .object (pairs.map fun (key, value) => (key, .string value))))

/-- The values of an object by their names, of which the last of each counts. -/
def stringsOfJson? : Json → Option KeyedValues
  | .object members => members.foldlM (fun values (key, value) => do
      return values.insert key (← value.string?)) ∅
  | _ => none

/-- A name that is repeated stands for its last object alone. -/
def ofJson? : Json → Option Table
  | .object members => do
    let entries ← members.foldlM (fun entries (name, values) => do
      return entries.insert name (← stringsOfJson? values)) (∅ : Std.ExtTreeMap String KeyedValues)
    return ⟨entries⟩
  | _ => none

def ofJsonText? (source : String) : Option Table := do ofJson? (← Json.parse? source)

end ReplyTemplate.Table
