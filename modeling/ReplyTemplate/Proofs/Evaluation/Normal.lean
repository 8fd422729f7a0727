import ReplyTemplate.Evaluation
import ReplyTemplate.Proofs.Template.RoundTrip

/-! Evaluation of normal templates. Groups and empty texts make no difference to it, but texts that
are joined can form a reference, and blank text that is dropped is missing in the output. -/

namespace ReplyTemplate.Template

mutual

/-- The scopes of all calls, those in other scopes included. -/
def scopes : Template → List Template
  | text _ => []
  | group parts => scopesAll parts
  | call _ _ none => []
  | call _ _ (some scope) => scope :: scopes scope

def scopesAll : List Template → List Template
  | [] => []
  | part :: parts => scopes part ++ scopesAll parts

end

/-- Without the empty texts, no two texts are neighbours and no blank text stands at the end of
other parts. -/
def AreTidy (parts : List Template) : Prop :=
  let kept := parts.filter (· ≠ text "")
  kept.IsChain Apart ∧ ¬ (1 < kept.length ∧ kept.getLast?.any isBlankText)

theorem joinTexts_filter_ne_empty (parts : List Template) :
    joinTexts (parts.filter (· ≠ text "")) = joinTexts parts := by
  induction parts with
  | nil => rfl
  | cons part parts ih =>
    by_cases hempty : part = text ""
    · subst hempty
      rw [List.filter_cons_of_neg (by simp), ih, joinTexts_text_empty]
    · rw [List.filter_cons_of_pos (by simpa using hempty)]
      cases part with
      | text contents => rw [joinTexts, ih, ← joinTexts]
      | group | call => rw [joinTexts, joinTexts, ih] <;> simp

/-- Of tidy parts only the empty texts go away. -/
theorem ofFlatParts_of_areTidy {parts : List Template} (h : AreTidy parts) :
    ofFlatParts parts = ofParts (parts.filter (· ≠ text "")) := by
  have hjoined : joinTexts parts = parts.filter (· ≠ text "") := by
    rw [← joinTexts_filter_ne_empty]
    apply joinTexts_of_isChain h.1
    intro part hmem
    simpa using (List.mem_filter.mp hmem).2
  rw [ofFlatParts, hjoined, dropBlankEnd, if_neg h.2]

section

variable {σ : Type}

def andThen (first : Except TemplateError String × Run σ)
    (next : Run σ → Except TemplateError String × Run σ) : Except TemplateError String × Run σ :=
  match first with
  | (.error error, run) => (.error error, run)
  | (.ok output, run) => ((next run).1.map (output ++ ·), (next run).2)

theorem andThen_assoc (first : Except TemplateError String × Run σ)
    (second third : Run σ → Except TemplateError String × Run σ) :
    andThen (andThen first second) third = andThen first fun run => andThen (second run) third := by
  obtain ⟨error | output, run⟩ := first
  · rfl
  · rcases hsecond : second run with ⟨error | more, middle⟩
    · simp [andThen, hsecond, Except.map]
    · rcases hthird : third middle with ⟨error | rest, last⟩ <;>
        simp [andThen, hsecond, hthird, Except.map, String.append_assoc]

/-- No output is no difference in front of other output. -/
theorem andThen_ok_empty (run : Run σ)
    (next : Run σ → Except TemplateError String × Run σ) :
    andThen (.ok "", run) next = next run := by
  rcases hnext : next run with ⟨error | output, last⟩ <;> simp [andThen, hnext, Except.map]

variable (registry : Registry σ)

theorem evaluateAll_cons (part : Template) (parts : List Template) (run : Run σ) :
    evaluateAll registry (part :: parts) run =
      andThen (part.evaluate registry run) (evaluateAll registry parts) := by
  rcases hpart : part.evaluate registry run with ⟨error | output, middle⟩
  · exact evaluateAll_cons_of_error hpart parts
  · exact evaluateAll_cons_of_ok hpart parts

theorem evaluateAll_append (s t : List Template) (run : Run σ) :
    evaluateAll registry (s ++ t) run =
      andThen (evaluateAll registry s run) (evaluateAll registry t) := by
  induction s generalizing run with
  | nil => exact (andThen_ok_empty run _).symm
  | cons part parts ih =>
    rw [List.cons_append, evaluateAll_cons, evaluateAll_cons, andThen_assoc]
    congr 1
    funext middle
    exact ih middle

theorem evaluateAll_singleton (part : Template) (run : Run σ) :
    evaluateAll registry [part] run = part.evaluate registry run := by
  rw [evaluateAll_cons]
  rcases part.evaluate registry run with ⟨error | output, last⟩ <;>
    simp [andThen, evaluateAll, Except.map]

theorem evaluate_text_empty (run : Run σ) : (text "").evaluate registry run = (.ok "", run) := by
  rw [evaluate, Table.substitute, String.toList_empty, Piece.ofChars]
  rfl

/-- Empty texts give nothing and change nothing. -/
theorem evaluateAll_filter_ne_empty (parts : List Template) (run : Run σ) :
    evaluateAll registry (parts.filter (· ≠ text "")) run = evaluateAll registry parts run := by
  induction parts generalizing run with
  | nil => rfl
  | cons part parts ih =>
    by_cases hempty : part = text ""
    · subst hempty
      rw [List.filter_cons_of_neg (by simp), ih, evaluateAll_cons, evaluate_text_empty,
        andThen_ok_empty]
    · rw [List.filter_cons_of_pos (by simpa using hempty), evaluateAll_cons, evaluateAll_cons]
      congr 1
      funext middle
      exact ih middle

theorem evaluate_ofParts (parts : List Template) (run : Run σ) :
    (ofParts parts).evaluate registry run = evaluateAll registry parts run := by
  match parts with
  | [] => exact evaluate_text_empty registry run
  | [part] => exact (evaluateAll_singleton registry part run).symm
  | _ :: _ :: _ => rfl

theorem evaluate_ofFlatParts {parts : List Template} (h : AreTidy parts) (run : Run σ) :
    (ofFlatParts parts).evaluate registry run = evaluateAll registry parts run := by
  rw [ofFlatParts_of_areTidy h, evaluate_ofParts, evaluateAll_filter_ne_empty]

/-- The flat parts do what the template does, if their scopes may be made normal. -/
theorem evaluateAll_flatParts {template : Template}
    (h : ∀ scope ∈ template.scopes, AreTidy scope.flatParts) (run : Run σ) :
    evaluateAll registry template.flatParts run = template.evaluate registry run := by
  induction template generalizing run with
  | text | bareCall => exact evaluateAll_singleton registry _ run
  | group parts ih =>
    rw [scopes] at h
    rw [flatParts, evaluate]
    induction parts generalizing run with
    | nil => rfl
    | cons part parts ihParts =>
      rw [List.forall_mem_cons] at ih
      rw [scopesAll, List.forall_mem_append] at h
      rw [flatPartsAll, evaluateAll_append, evaluateAll_cons, ih.1 h.1]
      congr 1
      funext middle
      exact ihParts ih.2 h.2 middle
  | scopedCall plugin argument scope ih =>
    rw [scopes, List.forall_mem_cons] at h
    rw [flatParts, evaluateAll_singleton, evaluate, evaluate]
    rcases run.invoke registry plugin argument true with ⟨error | output | pairs, middle⟩
    · rfl
    · rfl
    · dsimp only
      -- the flat call has the normal scope, which is made of the flat parts of this one
      rw [evaluate_ofFlatParts registry h.1, ih h.2]

end

/-- A tidy template that has been written and read again does the same as before. -/
theorem exists_parse_source_evaluate {template : Template} (hnamed : template.isNamed)
    (hdepth : template.depth ≤ nestingLimit)
    (htidy : ∀ part ∈ template :: template.scopes, AreTidy part.flatParts) :
    ∃ reread, parse template.source = .ok reread ∧
      ∀ {σ : Type} (registry : Registry σ) (run : Run σ),
        reread.evaluate registry run = template.evaluate registry run := by
  obtain ⟨hroot, hscopes⟩ := List.forall_mem_cons.mp htidy
  have hparse := readWithin_sourceTokens hnamed hdepth false 0
  rw [← ofString_source] at hparse
  refine ⟨template.normalize, hparse, fun registry run => ?_⟩
  rw [normalize, evaluate_ofFlatParts registry hroot, evaluateAll_flatParts registry hscopes]

theorem exists_parse_source_evaluate_reshaped :
    let template := group [text "", group [text "a)"], call "SPLIT" (some "b c")
      (some (group [group [text "", text "%SPLIT:2%"], call "ECHO" none none, text "$("])),
      group [text "", group []]]
    template.isNamed ∧ template.depth ≤ nestingLimit ∧
      (∀ part ∈ template :: template.scopes, AreTidy part.flatParts) ∧
      template.normalize ≠ template ∧
      ∃ reread, parse template.source = .ok reread ∧
        ∀ {σ : Type} (registry : Registry σ) (run : Run σ),
          reread.evaluate registry run = template.evaluate registry run := by
  intro template
  have htidy : ∀ part ∈ template :: template.scopes, AreTidy part.flatParts := by
    simp [template, scopes, scopesAll, AreTidy, flatParts, flatPartsAll, Apart, isText, isBlankText,
      show Text.isBlank '$' = false by decide]
  exact ⟨by decide, by decide, htidy, by decide,
    exists_parse_source_evaluate (by decide) (by decide) htidy⟩

end ReplyTemplate.Template
