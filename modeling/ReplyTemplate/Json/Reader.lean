import ReplyTemplate.Json.Token

/-! Reading JSON text. -/

namespace ReplyTemplate.Json

/-- The members of an object so far, unless one of their names is ill formed. -/
abbrev Members := Option (Array (String × Json))

/-- An array or object that is not closed yet. -/
inductive Frame where
  | array (items : Array Json)
  | object (members : Members)
  /-- An object whose last member has a name and waits for its value. -/
  | member (members : Members) (name : Option String)

/-- What may come next; the innermost open array or object is the first frame. -/
inductive Builder where
  | atValue (frames : List Frame)
  /-- At the start of an array or object, which may end at once. -/
  | atStart (frames : List Frame)
  /-- After a comma in an object. -/
  | atName (members : Members) (frames : List Frame)
  | atColon (frames : List Frame)
  /-- After a value, where a comma or an end must follow. -/
  | afterValue (frames : List Frame)
  | done (value : Json)

namespace Members

def push (members : Members) (name : Option String) (value : Json) : Members := do
  return (← members).push (← name, value)

def toJson : Members → Json
  | some members => .object members.toList
  | none => .illFormed

end Members

namespace Builder

/-- Puts a value where it was waited for. -/
def complete (value : Json) : List Frame → Option Builder
  | [] => some (.done value)
  | .array items :: frames => some (.afterValue (.array (items.push value) :: frames))
  | .member members name :: frames =>
    some (.afterValue (.object (members.push name value) :: frames))
  | .object _ :: _ => none

/-- Reads a token where a value must stand. -/
def readValue (frames : List Frame) : Token → Option Builder
  | .scalar value => complete value frames
  | .openArray => some (.atStart (.array #[] :: frames))
  | .openObject => some (.atStart (.object (some #[]) :: frames))
  | _ => none

/-- Reads a token where the name of a member must stand. -/
def readName (members : Members) (frames : List Frame) : Token → Option Builder
  | .scalar (.string name) => some (.atColon (.member members (some name) :: frames))
  | .scalar .illFormed => some (.atColon (.member members none :: frames))
  | _ => none

def step : Builder → Token → Option Builder
  | .atValue frames, token => readValue frames token
  | .atStart (.array items :: frames), .closeArray => complete (.array items.toList) frames
  | .atStart (.array items :: frames), token => readValue (.array items :: frames) token
  | .atStart (.object members :: frames), .closeObject => complete members.toJson frames
  | .atStart (.object members :: frames), token => readName members frames token
  | .atName members frames, token => readName members frames token
  | .atColon frames, .colon => some (.atValue frames)
  | .afterValue (.array items :: frames), .comma => some (.atValue (.array items :: frames))
  | .afterValue (.array items :: frames), .closeArray => complete (.array items.toList) frames
  | .afterValue (.object members :: frames), .comma => some (.atName members frames)
  | .afterValue (.object members :: frames), .closeObject => complete members.toJson frames
  | _, _ => none

end Builder

/-- The value that a text stands for. Only blanks may stand around it. -/
def parse? (text : String) : Option Json := do
  let tokens ← Token.ofChars? text.toList
  match ← tokens.foldlM Builder.step (.atValue []) with
  | .done value => some value
  | _ => none

end ReplyTemplate.Json
