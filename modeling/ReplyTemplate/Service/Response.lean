import ReplyTemplate.Json.Value
import ReplyTemplate.Report.Json

/-! What a service answers. -/

namespace ReplyTemplate

inductive Answer where
  /-- A rendered template. -/
  | output (text : String)
  | result (value : Json.Value)
  /-- The fallback is what people can be shown in place of an output. -/
  | failure (report : Report) (fallback : Option String)

/-- An answer under the id of its request. -/
structure Response where
  id : Option Json.Value
  answer : Answer

namespace Response

def toJson (response : Response) : Json :=
  .object (Json.present "id" (response.id.map Json.Value.json) ++ match response.answer with
    | .output text => [("output", .string text)]
    | .result value => [("result", value.json)]
    | .failure report fallback =>
      ("error", report.toJson) :: Json.present "fallback" (fallback.map .string))

/-- The answer to a line that is no request. -/
def malformed (reason : String) : Response where
  id := none
  answer := .failure
    { code := "BAD_REQUEST", message := "Malformed request: " ++ reason,
      suggestion := some "Send one JSON object per line with a \"method\" field" } none

end Response

end ReplyTemplate
