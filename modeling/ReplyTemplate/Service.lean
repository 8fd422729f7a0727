import ReplyTemplate.Plugin.Json
import ReplyTemplate.Service.Request
import ReplyTemplate.Service.Response
import ReplyTemplate.Standard
import ReplyTemplate.Template.Json
import ReplyTemplate.Template.Source
import ReplyTemplate.Text.Lines

/-! A service that answers one request a line. -/

namespace ReplyTemplate

open Standard (Counters)

/-- Only the counts outlive a request. -/
structure Service where
  engine : Engine Counters
  /-- What people are shown when a rendering fails. -/
  fallback : String

namespace Service

def defaultFallback : String := "Something went wrong while running that command."

/-- What is told of a template that is only read. -/
def describe (template : Template) : Json :=
  .object [("tree", template.toJson), ("normalized", .string template.source),
    ("plugins", Plugin.strings template.pluginNames)]

/-- The manual of a plugin, or the names that may have been meant. -/
def help (service : Service) (name : String) : Answer :=
  match service.engine.registry.manual? name with
  | some manual => .result manual.toJson.value
  | none => .failure
    { code := "NOT_FOUND", message := s!"No plugin named '{name}'",
      suggestion := TemplateError.similarHint (service.engine.registry.similar name) } none

/-- Carries out an action, from the present counts to the next. -/
def perform (service : Service) (counters : Counters) : Action → Answer × Counters
  | .render template macros =>
    match service.engine.renderWith macros template counters with
    | (.ok text, run) => (.output text, run.state)
    | (.error error, run) => (.failure error.report (some service.fallback), run.state)
  | .parse template =>
    match Template.parse template with
    | .ok template => (.result (describe template).value, counters)
    | .error error => (.failure error.report none, counters)
  | .help name => (service.help name, counters)
  | .listPlugins category =>
    let manuals := service.engine.registry.manuals category
    let listed : Json := .object [("plugins", .array (manuals.map Plugin.Manual.toJson))]
    (.result listed.value, counters)

/-- Answers one line. A blank one has no answer, and one that is no request is told why. -/
def answerLine (service : Service) (explain : String → String) (counters : Counters)
    (line : String) : Option Response × Counters :=
  let line := String.ofList (Text.trim line.toList)
  if line.isEmpty then (none, counters)
  else match Request.ofLine? line with
    | none => (some (.malformed (explain line)), counters)
    | some request =>
      let (answer, counters) := service.perform counters request.action
      (some ⟨request.id, answer⟩, counters)

/-- Answers the lines one after the other. -/
def answerLines (service : Service) (explain : String → String) (counters : Counters) :
    List String → List Response
  | [] => []
  | line :: lines =>
    let (response, counters) := service.answerLine explain counters line
    response.toList ++ answerLines service explain counters lines

/-- Tells nothing more of a line that is no request. -/
def explainNothing (_ : String) : String := "not a request"

end Service

/-- What a service that has counted nothing answers to a text. -/
def Service.answers (service : Service) (input : String)
    (explain : String → String := explainNothing) : List Response :=
  service.answerLines explain ∅ (Text.lines input)

/-- What it answers to bytes, up to the first line that is not UTF-8. -/
def Service.answersToBytes (service : Service) (input : ByteArray)
    (explain : String → String := explainNothing) : List Response :=
  service.answerLines explain ∅ (Text.linesOfBytes input)

end ReplyTemplate
