import ReplyTemplate.Json
import ReplyTemplate.Plugin

/-! Manuals and outcomes of plugins as JSON values. -/

namespace ReplyTemplate.Plugin

def strings (values : List String) : Json := .array (values.map .string)

def Parameter.toJson (parameter : Parameter) : Json :=
  .object ([("name", .string parameter.name), ("typ", .string parameter.kind),
    ("description", .string parameter.description),
    ("optional", .bool parameter.default?.isSome)] ++
    Json.present "default" (parameter.default?.map .string))

def Manual.toJson (manual : Manual) : Json :=
  .object [("name", .string manual.name), ("description", .string manual.description),
    ("usage", .string manual.usage), ("args", .array (manual.parameters.map Parameter.toJson)),
    ("provides", strings manual.provides), ("examples", strings manual.examples),
    ("category", .string manual.category)]

def Outcome.toJson : Outcome → Json
  | text contents => .object [("text", .string contents)]
  | bindings pairs =>
    .object [("bindings", .array (pairs.map fun (key, value) => strings [key, value]))]

end ReplyTemplate.Plugin
