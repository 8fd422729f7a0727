import ReplyTemplate.Error
import ReplyTemplate.Template
import ReplyTemplate.Text.Blank
import ReplyTemplate.Token

/-! Reading template source. A scope is collected as it stands and read when its call closes. -/

namespace ReplyTemplate

namespace Template

/-- Calls nest at most this deep; a call outside every scope has level 1. -/
def nestingLimit : Nat := 32

/-- Where in the source a reader is. The offset of a call is that of its `$(`. -/
inductive Reader.Mode where
  | text
  | name (offset : Nat) (name : String)
  | argument (offset : Nat) (name argument : String)
  /-- The tokens of the scope so far, of which the first is at `start`, and how many `$(` are open,
  that of the call included. -/
  | scope (offset : Nat) (name : String) (argument : Option String) (start depth : Nat)
      (tokens : Array Token)

/-- What has been read of a text or of a scope. -/
structure Reader where
  /-- The place of the next token, in bytes from the start of the whole template. -/
  offset : Nat
  parts : Array Template := #[]
  /-- Text that no part holds yet. -/
  pending : String := ""
  mode : Reader.Mode := .text

/-- Reads the tokens of a scope, of which the first is at the given offset. -/
abbrev ScopeReader := Nat → List Token → Except TemplateError Template

namespace Reader

/-- Adds what a token stands for to a text. -/
def extend (s : String) (token : Token) : String := s ++ String.ofList token.contents

/-- The parts with the pending text at their end. -/
def flush (r : Reader) : Array Template :=
  if r.pending.isEmpty then r.parts else r.parts.push (text r.pending)

/-- Adds the call that has just been closed. -/
def close (r : Reader) (readScope : ScopeReader) (offset : Nat) (name : String)
    (argument : Option String) (scope : Option (Nat × Array Token)) :
    Except TemplateError Reader := do
  if name.isEmpty then throw (.emptyName offset)
  let scope ← scope.mapM fun (start, tokens) => readScope start tokens.toList
  return { r with parts := r.flush.push (call name argument scope), pending := "", mode := .text }

/-- Reads one token. At most `room` calls may nest from here on. -/
def step (room : Nat) (readScope : ScopeReader) (before : Reader) (token : Token) :
    Except TemplateError Reader :=
  let r := { before with offset := before.offset + token.size }
  match before.mode with
  | .text => match token with
    | .opening =>
      if room = 0 then throw (.nestingTooDeep before.offset nestingLimit)
      else return { r with mode := .name before.offset "" }
    | .dangling => return { r with pending := r.pending.push '\\' }
    | _ => return { r with pending := extend r.pending token }
  | .name offset name => match token with
    | .closing => r.close readScope offset name none none
    | .equals => return { r with mode := .argument offset name "" }
    | .bar => return { r with mode := .scope offset name none r.offset 1 #[] }
    | _ => return { r with mode := .name offset (extend name token) }
  | .argument offset name argument => match token with
    | .closing => r.close readScope offset name (some argument) none
    | .bar => return { r with mode := .scope offset name (some argument) r.offset 1 #[] }
    | _ => return { r with mode := .argument offset name (extend argument token) }
  | .scope offset name argument start depth tokens => match token with
    | .closing =>
      if depth = 1 then r.close readScope offset name argument (some (start, tokens))
      else
        return { r with mode := .scope offset name argument start (depth - 1) (tokens.push token) }
    | .opening =>
      return { r with mode := .scope offset name argument start (depth + 1) (tokens.push token) }
    | _ => return { r with mode := .scope offset name argument start depth (tokens.push token) }

/-- Ends the reading. Blank text after a call is dropped. -/
def finish (r : Reader) : Except TemplateError Template :=
  match r.mode with
  | .text =>
    let dropped := !r.parts.isEmpty && r.pending.toList.all Text.isBlank
    return ofParts (if dropped then r.parts else r.flush).toList
  | .name offset name | .argument offset name _ | .scope offset name .. =>
    throw (.unterminated name offset)

end Reader

/-- Reads tokens of which the first is at `start`. -/
def readTokens (room : Nat) (readScope : ScopeReader) : ScopeReader := fun start tokens => do
  (← tokens.foldlM (Reader.step room readScope) { offset := start }).finish

/-- Reads tokens in which at most `room` calls may nest. -/
def readWithin : (room : Nat) → ScopeReader
  | 0 => readTokens 0 fun start _ => throw (.nestingTooDeep start nestingLimit)
  | room + 1 => readTokens (room + 1) (readWithin room)

/-- The template that a source stands for. -/
def parse (source : String) : Except TemplateError Template :=
  readWithin nestingLimit 0 (Token.ofString source)

end Template

end ReplyTemplate
