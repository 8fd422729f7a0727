import ReplyTemplate.Json.Reader
import ReplyTemplate.Template

/-! Templates as JSON values. A template is an object whose one member tells its kind. -/

namespace ReplyTemplate.Template

mutual

/-- A missing argument or scope has no member. -/
def toJson : Template → Json
  | text contents => .object [("text", .string contents)]
  | group parts => .object [("children", .array (toJsonAll parts))]
  | call plugin argument none => .object [("macro", .object (headMembers plugin argument))]
  | call plugin argument (some scope) =>
    .object [("macro", .object (headMembers plugin argument ++ [("scope", toJson scope)]))]
where
  headMembers (plugin : String) (argument : Option String) : List (String × Json) :=
    ("name", .string plugin) :: Json.present "value" (argument.map .string)

def toJsonAll : List Template → List Json
  | [] => []
  | part :: parts => toJson part :: toJsonAll parts

end

/-- The members of a call that have been read. -/
structure CallFields where
  name : Option String := none
  argument : Option (Option String) := none
  scope : Option (Option Template) := none

/-- The call of the members; only its name must be there. -/
def CallFields.toCall? (fields : CallFields) : Option Template :=
  fields.name.map fun name => call name (fields.argument.getD none) (fields.scope.getD none)

mutual

/-- The template that a value stands for. A call may also be an array of its fields, of which the
last ones may be missing. -/
def ofJson? : Json → Option Template
  | .object [("text", .string contents)] => some (text contents)
  | .object [("children", .array items)] => (ofJsonAll? items).map group
  | .object [("macro", .object members)] => do (← ofMembers? {} members).toCall?
  | .object [("macro", .array [.string name])] => some (call name none none)
  | .object [("macro", .array [.string name, argument])] => do
    return call name (← argument.optionalString?) none
  | .object [("macro", .array [.string name, argument, .null])] => do
    return call name (← argument.optionalString?) none
  | .object [("macro", .array [.string name, argument, scope])] => do
    return call name (← argument.optionalString?) (some (← ofJson? scope))
  | _ => none
termination_by structural value => value

def ofJsonAll? : List Json → Option (List Template)
  | [] => some []
  | item :: items => do return (← ofJson? item) :: (← ofJsonAll? items)
termination_by structural items => items

/-- Reads the members of a call one by one. No field is given twice; others do not count. -/
def ofMembers? (fields : CallFields) : List (String × Json) → Option CallFields
  | [] => some fields
  | (name, value) :: members =>
    if name = "name" ∧ fields.name.isNone then do
      ofMembers? { fields with name := some (← value.string?) } members
    else if name = "value" ∧ fields.argument.isNone then do
      ofMembers? { fields with argument := some (← value.optionalString?) } members
    else if name = "scope" ∧ fields.scope.isNone then do
      match value with
      | .null => ofMembers? { fields with scope := some none } members
      | _ => ofMembers? { fields with scope := some (some (← ofJson? value)) } members
    else if name = "name" ∨ name = "value" ∨ name = "scope" then none
    else ofMembers? fields members
termination_by structural members => members

end

/-- The template that JSON text stands for. Members that do not count may nest to any depth and be
ill formed. -/
def ofJsonText? (source : String) : Option Template := do
  let template ← ofJson? (← Json.parse? source)
  guard (template.toJson.depth ≤ Json.depthLimit)
  return template

end ReplyTemplate.Template
