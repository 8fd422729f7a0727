import ReplyTemplate.Plugin
import ReplyTemplate.Text.Blank

/-! The plugin that binds the words of its argument. -/

namespace ReplyTemplate.Standard

open Plugin

def splitManual : Manual where
  name := "SPLIT"
  description := "Split the argument on whitespace and bind each word by position"
  usage := "$(SPLIT=text|...%SPLIT:1%...)"
  parameters := [⟨"text", "Text", "Words separated by whitespace", some ""⟩]
  provides := ["1..N", "COUNT", "ALL", "FIRST", "REST"]
  examples :=
    ["$(SPLIT=!title chill vibes|%SPLIT:1% sets %SPLIT:REST%) → !title sets chill vibes",
     "$(SPLIT=a b c|%SPLIT:COUNT%) → 3"]
  category := "args"

/-- The words by their positions from 1, their number, the trimmed text, the first word and what
follows it. -/
def splitBindings (text : List Char) : List (String × String) :=
  let all := Text.trim text
  let words := Text.words all
  words.zipIdx.map (fun (word, i) => (toString (i + 1), String.ofList word)) ++
    [("COUNT", toString words.length), ("ALL", String.ofList all),
     ("FIRST", String.ofList (words.headD [])), ("REST", String.ofList (Text.afterFirstWord all))]

def split {σ : Type} : Plugin σ :=
  ofFunction splitManual fun argument => .ok (.bindings (splitBindings (argument.getD "").toList))

end ReplyTemplate.Standard
