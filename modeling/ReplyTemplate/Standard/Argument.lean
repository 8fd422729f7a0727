import ReplyTemplate.Text.Blank

/-! Arguments of the standard plugins. -/

namespace ReplyTemplate.Standard

inductive ArgumentError where
  | missing (plugin : String)
  | invalid (plugin reason : String)
deriving DecidableEq, Repr

def ArgumentError.message : ArgumentError → String
  | missing plugin => s!"{plugin} needs an argument, e.g. $({plugin}=...)"
  | invalid plugin reason => s!"{plugin}: {reason}"

/-- The argument as it was given. -/
def requireArgument (plugin : String) (argument : Option String) : Except ArgumentError String :=
  match argument with
  | none => .error (.missing plugin)
  | some text => .ok text

/-- The argument without the blanks around it, of which something must be left. -/
def requireTrimmed (plugin : String) (argument : Option String) :
    Except ArgumentError (List Char) := do
  match Text.trim (← requireArgument plugin argument).toList with
  | [] => .error (.missing plugin)
  | text => .ok text

end ReplyTemplate.Standard
