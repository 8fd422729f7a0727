import ReplyTemplate.Proofs.Standard.Counter
import ReplyTemplate.Service

/-! Services that answer several requests. All that a request leaves behind for others is what it
has counted, so that requests that count nothing can as well be left out. -/

namespace ReplyTemplate

open Standard (Counters)

/-- The elements that are marked, in their order. -/
def select {α : Type} : List Bool → List α → List α
  | true :: marks, x :: xs => x :: select marks xs
  | false :: marks, _ :: xs => select marks xs
  | _, _ => []

namespace Service

def isBlankLine (line : String) : Bool := (String.ofList (Text.trim line.toList)).isEmpty

/-- The lines that have an answer. -/
def requestLines (input : String) : List String :=
  (Text.lines input).filter fun line => !isBlankLine line

def request? (line : String) : Option Request :=
  if isBlankLine line then none else Request.ofLine? (String.ofList (Text.trim line.toList))

/-- Whether a line is no rendering, or one of a source that cannot be read or calls no counter. -/
def isIdle (line : String) : Bool :=
  match (request? line).map Request.action with
  | some (.render source _) =>
    match Template.parse source with
    | .ok template => !template.pluginNames.contains Standard.counterManual.name
    | .error _ => true
  | _ => true

theorem not_isBlankLine_of_mem_requestLines {input line : String} (h : line ∈ requestLines input) :
    ¬ isBlankLine line := by
  simpa using (List.mem_filter.mp h).2

theorem requestLines_intercalate {lines : List String} (hne : lines ≠ [])
    (hnewline : ∀ line ∈ lines, '\n' ∉ line.toList) (hblank : ∀ line ∈ lines, ¬ isBlankLine line) :
    requestLines ("\n".intercalate lines) = lines := by
  rw [requestLines, Text.lines_intercalate hne hnewline, List.filter_eq_self]
  simpa using hblank

variable (service : Service) (explain : String → String)

def operation? (line : String) : Option Operation :=
  match (request? line).map Request.action with
  | some (.render source macros) => some (.renderWith service.engine.base macros source)
  | _ => none

def invocations (counters : Counters) (lines : List String) : List Invocation :=
  (Operation.performAll service.engine.registry (lines.filterMap service.operation?) counters).1

def countersAfter (counters : Counters) (lines : List String) : Counters :=
  (Operation.performAll service.engine.registry (lines.filterMap service.operation?) counters).2

theorem answerLine_of_isBlankLine {line : String} (h : isBlankLine line) (counters : Counters) :
    service.answerLine explain counters line = (none, counters) := by
  rw [isBlankLine] at h
  rw [answerLine, if_pos h]

theorem answerLine_of_not_isBlankLine {line : String} (h : ¬ isBlankLine line)
    (counters : Counters) :
    service.answerLine explain counters line = match request? line with
      | none => (some (.malformed (explain (String.ofList (Text.trim line.toList)))), counters)
      | some request => (some ⟨request.id, (service.perform counters request.action).1⟩,
          (service.perform counters request.action).2) := by
  rw [request?, if_neg h]
  rw [isBlankLine] at h
  cases hrequest : Request.ofLine? (String.ofList (Text.trim line.toList)) <;>
    rw [answerLine, if_neg h] <;>
    simp only [hrequest]

theorem exists_answer {line : String} (h : ¬ isBlankLine line) (counters : Counters) :
    ∃ response, (service.answerLine explain counters line).1 = some response := by
  rw [answerLine_of_not_isBlankLine service explain h]
  cases request? line <;> exact ⟨_, rfl⟩

theorem answerLines_cons {counters : Counters} {line : String} {response : Response}
    (h : (service.answerLine explain counters line).1 = some response) (lines : List String) :
    service.answerLines explain counters (line :: lines) =
      response ::
        service.answerLines explain (service.answerLine explain counters line).2 lines := by
  rw [answerLines]
  dsimp only
  rw [h]
  rfl

theorem exists_answerLines_cons {line : String} (h : ¬ isBlankLine line) (counters : Counters) :
    ∃ response, ∀ lines, service.answerLines explain counters (line :: lines) =
      response ::
        service.answerLines explain (service.answerLine explain counters line).2 lines := by
  obtain ⟨response, hresponse⟩ := service.exists_answer explain h counters
  exact ⟨response, service.answerLines_cons explain hresponse⟩

theorem answers_eq (input : String) :
    service.answers input explain = service.answerLines explain ∅ (requestLines input) := by
  rw [answers, requestLines]
  generalize (∅ : Counters) = counters
  induction Text.lines input generalizing counters with
  | nil => rfl
  | cons line lines ih =>
    by_cases hblank : isBlankLine line
    · rw [answerLines, answerLine_of_isBlankLine service explain hblank,
        List.filter_cons_of_neg (by simpa using hblank), ← ih]
      rfl
    · obtain ⟨response, hanswer⟩ := service.exists_answerLines_cons explain hblank counters
      rw [List.filter_cons_of_pos (by simpa using hblank), hanswer, hanswer, ih]

theorem length_answerLines {lines : List String} (h : ∀ line ∈ lines, ¬ isBlankLine line)
    (counters : Counters) :
    (service.answerLines explain counters lines).length = lines.length := by
  induction lines generalizing counters with
  | nil => rfl
  | cons line lines ih =>
    obtain ⟨hline, hlines⟩ := List.forall_mem_cons.mp h
    obtain ⟨response, hanswer⟩ := service.exists_answerLines_cons explain hline counters
    rw [hanswer, List.length_cons, List.length_cons, ih hlines]

theorem counters_perform (counters : Counters) (action : Action) :
    (service.perform counters action).2 = match action with
      | .render source macros => (service.engine.renderWith macros source counters).2.state
      | _ => counters := by
  cases action with
  | render source macros =>
    dsimp only [perform]
    rcases service.engine.renderWith macros source counters with ⟨error | output, run⟩ <;> rfl
  | parse source =>
    dsimp only [perform]
    cases Template.parse source <;> rfl
  | help | listPlugins => rfl

theorem counters_answerLine (counters : Counters) (line : String) :
    (service.answerLine explain counters line).2 = service.countersAfter counters [line] := by
  have hanswer : (service.answerLine explain counters line).2 = match request? line with
      | none => counters
      | some request => (service.perform counters request.action).2 := by
    by_cases hblank : isBlankLine line
    · rw [answerLine_of_isBlankLine service explain hblank, request?, if_pos hblank]
    · rw [answerLine_of_not_isBlankLine service explain hblank]
      cases request? line <;> rfl
  rw [hanswer, countersAfter, List.filterMap_cons, operation?]
  rcases request? line with _ | ⟨id, action⟩
  · rfl
  · dsimp only [Option.map_some]
    rw [counters_perform]
    cases action <;> rfl

theorem countersAfter_cons (counters : Counters) (line : String) (lines : List String) :
    service.countersAfter counters (line :: lines) =
      service.countersAfter (service.answerLine explain counters line).2 lines := by
  rw [counters_answerLine service explain, countersAfter, countersAfter, countersAfter,
    List.filterMap_cons, List.filterMap_cons]
  cases service.operation? line <;> rfl

theorem answerLines_append (counters : Counters) (s t : List String) :
    service.answerLines explain counters (s ++ t) =
      service.answerLines explain counters s ++
        service.answerLines explain (service.countersAfter counters s) t := by
  induction s generalizing counters with
  | nil => rfl
  | cons line lines ih =>
    rw [List.cons_append, answerLines, answerLines, countersAfter_cons service explain]
    dsimp only
    rw [ih, List.append_assoc]

theorem session_invocations (counters : Counters) (lines : List String) :
    Session service.engine.registry counters (service.invocations counters lines)
      (service.countersAfter counters lines) := Operation.session_of_performAll _ _ _

end Service

/-- Only plugins that a source names are invoked by rendering it. -/
theorem Template.exists_parse_of_mem_invocations {σ : Type} {registry : Registry σ}
    {source : String} {table : Table} {state : σ} {invocation : Invocation}
    (h : invocation ∈ (render registry source ⟨table, state, []⟩).2.invocations) :
    ∃ template, parse source = .ok template ∧ invocation.plugin ∈ template.pluginNames := by
  unfold render at h
  cases hparse : parse source with
  | error error =>
    rw [hparse] at h
    cases h
  | ok template =>
    rw [hparse] at h
    obtain ⟨trace, hreplay⟩ := exists_replay registry template ⟨table, state, []⟩
    dsimp only at h
    rw [hreplay.history.invocations_eq, List.nil_append] at h
    refine ⟨template, rfl, ?_⟩
    have hmem := hreplay.calls.mem (List.mem_map_of_mem h)
    rw [← map_fst_calls]
    exact List.mem_map_of_mem hmem

namespace Service

variable {service : Service} {explain : String → String}

theorem exists_request_of_mem_invocations {counters : Counters} {line : String}
    {invocation : Invocation} (h : invocation ∈ service.invocations counters [line]) :
    ∃ id source macros template, request? line = some ⟨id, .render source macros⟩ ∧
      Template.parse source = .ok template ∧ invocation.plugin ∈ template.pluginNames := by
  rw [invocations, List.filterMap_cons, operation?] at h
  rcases hrequest : request? line with _ | ⟨id, ⟨source, macros⟩ | _ | _ | _⟩ <;>
    rw [hrequest] at h
  · cases h
  · have hmem : invocation ∈ (Template.render service.engine.registry source
        ⟨service.engine.base.merge macros, counters, []⟩).2.invocations := by
      simpa [Operation.performAll, Operation.perform, Engine.renderWith] using h
    obtain ⟨template, hparse, hplugin⟩ := Template.exists_parse_of_mem_invocations hmem
    exact ⟨id, source, macros, template, rfl, hparse, hplugin⟩
  all_goals cases h

/-- An idle line leaves the counts as they are. -/
theorem counters_answerLine_of_isIdle
    (hcounter : Standard.HoldsCounter service.engine.registry id) {line : String}
    (hidle : isIdle line) (counters : Counters) :
    (service.answerLine explain counters line).2 = counters := by
  rw [counters_answerLine]
  apply hcounter.counts_eq_of_plugin_ne (service.session_invocations counters [line])
  intro invocation hmem hplugin
  obtain ⟨_, source, macros, template, hrequest, hparse, hnamed⟩ :=
    exists_request_of_mem_invocations hmem
  have hnot : Standard.counterManual.name ∉ template.pluginNames := by
    simpa [isIdle, hrequest, hparse] using hidle
  rw [hplugin] at hnamed
  exact hnot hnamed

theorem answerLines_select (hcounter : Standard.HoldsCounter service.engine.registry id)
    {marks : List Bool} {lines : List String} (hlength : marks.length = lines.length)
    (hblank : ∀ line ∈ lines, ¬ isBlankLine line)
    (hidle : ∀ line ∈ select (marks.map not) lines, isIdle line) (counters : Counters) :
    service.answerLines explain counters (select marks lines) =
      select marks (service.answerLines explain counters lines) := by
  induction lines generalizing marks counters with
  | nil => cases marks with
    | nil => rfl
    | cons mark marks => cases hlength
  | cons line lines ih => cases marks with
    | nil => cases hlength
    | cons mark marks =>
      have hrest := Nat.succ.inj hlength
      obtain ⟨hline, hlines⟩ := List.forall_mem_cons.mp hblank
      obtain ⟨response, hanswer⟩ := service.exists_answerLines_cons explain hline counters
      cases mark with
      | true => rw [select, hanswer, hanswer, select, ih hrest hlines hidle]
      | false =>
        obtain ⟨hidleLine, hidleLines⟩ := List.forall_mem_cons.mp hidle
        rw [select, hanswer, select, counters_answerLine_of_isIdle hcounter hidleLine,
          ih hrest hlines hidleLines]

theorem countersAfter_eq (hcounter : Standard.HoldsCounter service.engine.registry id)
    {before others : List String}
    (h : ∀ name, (service.invocations ∅ before).countP (Standard.countsAs name) =
      (service.invocations ∅ others).countP (Standard.countsAs name)) :
    service.countersAfter ∅ before = service.countersAfter ∅ others := by
  have hempty : Counters.IsPositive ∅ := by
    intro name
    simp
  -- no name is held with a count of zero, so that the counts of all names make up the whole map
  refine (hcounter.isPositive (service.session_invocations ∅ before) hempty).eq
    (hcounter.isPositive (service.session_invocations ∅ others) hempty) fun name => ?_
  have hbefore := hcounter.count_eq (service.session_invocations ∅ before) name
  have hothers := hcounter.count_eq (service.session_invocations ∅ others) name
  rw [h name] at hbefore
  exact hbefore.trans hothers.symm

/-- Idle lines can be left out without a change for the others. Whatever has been rendered before,
with whatever macros and bindings, lines are answered alike after as many counts of each name. -/
theorem answers_of_select (base : Table) (fallback : String) (explain : String → String)
    {input other : String} {marks : List Bool}
    (hlength : marks.length = (requestLines input).length)
    (hother : requestLines other = select marks (requestLines input))
    (hidle : ∀ line ∈ select (marks.map not) (requestLines input), isIdle line) :
    let service : Service := ⟨Standard.engine base, fallback⟩
    (service.answers input explain).length = (requestLines input).length ∧
    service.answers other explain = select marks (service.answers input explain) ∧
    ∀ before others lines : List String,
      (∀ name, (service.invocations ∅ before).countP (Standard.countsAs name) =
        (service.invocations ∅ others).countP (Standard.countsAs name)) →
      (service.answerLines explain ∅ (before ++ lines)).drop
          (service.answerLines explain ∅ before).length =
        (service.answerLines explain ∅ (others ++ lines)).drop
          (service.answerLines explain ∅ others).length := by
  intro service
  have hcounter : Standard.HoldsCounter service.engine.registry id := Standard.holdsCounter_registry
  have hblank : ∀ line ∈ requestLines input, ¬ isBlankLine line := fun _ =>
    not_isBlankLine_of_mem_requestLines
  refine ⟨?_, ?_, ?_⟩
  · rw [answers_eq, service.length_answerLines explain hblank]
  · rw [answers_eq, answers_eq, hother, answerLines_select hcounter hlength hblank hidle]
  · intro before others lines hcounts
    rw [answerLines_append, answerLines_append, List.drop_left, List.drop_left,
      countersAfter_eq hcounter hcounts]

/-- Left out are a line that is no request, a rendering that fails after its bindings are installed,
and a template that is only read. -/
theorem answers_of_select_interleaved :
    let service : Service := ⟨Standard.engine (Table.insert ∅ "U" "N" "a"), defaultFallback⟩
    let failing := "[\"render\",2,\"$(SPLIT=b|%X%)\",\x7b\"U\":\x7b\"N\":\"b\"\x7d\x7d]"
    let last := "[\"render\",4,\"%U:N%$(COUNTER=a|)\"]"
    let lines := ["[\"render\",1,\"$(COUNTER=a|)\"]", "x", failing,
      "[\"parse\",3,\"$(COUNTER=a|)\"]", last]
    let input := "\n".intercalate lines
    let marks := [true, false, false, false, true]
    let other := "\n".intercalate (select marks lines)
    marks.length = (requestLines input).length ∧
      requestLines other = select marks (requestLines input) ∧
      (∀ line ∈ select (marks.map not) (requestLines input), isIdle line) ∧ ¬ isIdle last ∧
      service.answers other = select marks (service.answers input) := by
  intro service failing last lines input marks other
  have hkept : select marks lines ⊆ lines := by decide
  have hnewline : ∀ line ∈ lines, '\n' ∉ line.toList := by decide +kernel
  have hblank : ∀ line ∈ lines, ¬ isBlankLine line := by decide +kernel
  have hinput : requestLines input = lines :=
    requestLines_intercalate (List.cons_ne_nil _ _) hnewline hblank
  have hother : requestLines other = select marks lines :=
    requestLines_intercalate (List.cons_ne_nil _ _) (fun line hline => hnewline line (hkept hline))
      fun line hline => hblank line (hkept hline)
  have hidle : ∀ line ∈ select (marks.map not) lines, isIdle line := by decide +kernel
  have hlength : marks.length = (requestLines input).length := by rw [hinput]; rfl
  rw [← hinput] at hother hidle
  obtain ⟨-, hanswers, -⟩ := answers_of_select (Table.insert ∅ "U" "N" "a") defaultFallback
    explainNothing hlength hother hidle
  exact ⟨hlength, hother, hidle, by decide +kernel, hanswers⟩

end Service

end ReplyTemplate
