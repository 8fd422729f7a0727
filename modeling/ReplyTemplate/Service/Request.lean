import ReplyTemplate.Json.Value
import ReplyTemplate.Table.Json

/-! What a service can be asked to do. -/

namespace ReplyTemplate

inductive Action where
  /-- The macros are laid over the base table of the engine. -/
  | render (template : String) (macros : Table)
  | parse (template : String)
  | help (plugin : String)
  /-- All plugins, or those of one category. -/
  | listPlugins (category : Option String)

/-- An action, with what the client knows it by. -/
structure Request where
  id : Option Json.Value
  action : Action

namespace Request

/-- `null` is no id. -/
def idOfJson? (written : Option Json) : Option Json.Value :=
  match written with
  | none | some .null => none
  | some written => some written.value

/-- A request from its method and the rest of its value. -/
def ofFields? (method : String) (rest : Json) : Option Request :=
  match method with
  | "render" => do
    match ← rest.fields? ["id", "template", "macros"] with
    | [id, some template, macros] =>
      let macros ← Table.ofJson? (macros.getD (.object []))
      return ⟨idOfJson? id, .render (← template.string?) macros⟩
    | _ => none
  | "parse" => do
    match ← rest.fields? ["id", "template"] with
    | [id, some template] => return ⟨idOfJson? id, .parse (← template.string?)⟩
    | _ => none
  | "help" => do
    match ← rest.fields? ["id", "name"] with
    | [id, some name] => return ⟨idOfJson? id, .help (← name.string?)⟩
    | _ => none
  | "list_plugins" => do
    match ← rest.fields? ["id", "category"] with
    | [id, category] =>
      return ⟨idOfJson? id, .listPlugins (← (category.getD .null).optionalString?)⟩
    | _ => none
  | _ => none

/-- A request is an object with its method as a member, or an array with the method in front. -/
def ofJson? : Json → Option Request
  | .object members => do
    match ← Json.member? members "method" with
    | some (.string method) =>
      ofFields? method (.object (members.filter fun entry => entry.1 ≠ "method"))
    | _ => none
  | .array (.string method :: fields) => ofFields? method (.array fields)
  | _ => none

/-- The request on a line. -/
def ofLine? (line : String) : Option Request := do
  let value ← Json.parse? line
  guard (value.depth ≤ Json.depthLimit && value.isReadable)
  ofJson? value

end Request

end ReplyTemplate
