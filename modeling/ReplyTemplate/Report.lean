/-! Errors as they are shown to people. -/

namespace ReplyTemplate

structure Report where
  code : String
  message : String
  suggestion : Option String := none
deriving DecidableEq, Repr

namespace Report

/-- A later suggestion takes the place of an earlier one. -/
def withSuggestion (report : Report) (text : String) : Report :=
  { report with suggestion := some text }

def display (report : Report) : String :=
  let stated := s!"[{report.code}] {report.message}"
  match report.suggestion with
  | some text => s!"{stated} (suggestion: {text})"
  | none => stated

end Report

end ReplyTemplate
