import ReplyTemplate.Json.Reader
import ReplyTemplate.Report

/-! Reports as JSON values. -/

namespace ReplyTemplate.Report

def toJson (report : Report) : Json :=
  .object ([("code", .string report.code), ("message", .string report.message)] ++
    Json.present "suggestion" (report.suggestion.map .string))

/-- The fields of a report in their order. -/
def fieldNames : List String := ["code", "message", "suggestion"]

/-- The suggestion of an object may be missing or `null`; an array has all three fields. -/
def ofJson? (value : Json) : Option Report := do
  if let .array items := value then guard (items.length = fieldNames.length)
  match ← value.fields? fieldNames with
  | [some code, some message, suggestion] =>
    return ⟨← code.string?, ← message.string?, ← (suggestion.getD .null).optionalString?⟩
  | _ => none

def ofJsonText? (source : String) : Option Report := do ofJson? (← Json.parse? source)

end ReplyTemplate.Report
