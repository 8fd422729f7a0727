import ReplyTemplate.Proofs.Template.Failure

/-! Readings that start at another place. They give the same template, or the same error as many
bytes further. -/

namespace ReplyTemplate.Template

namespace Reader

def Mode.shift (bytes : Nat) : Mode → Mode
  | .text => .text
  | .name offset plugin => .name (bytes + offset) plugin
  | .argument offset plugin value => .argument (bytes + offset) plugin value
  | .scope offset plugin value start depth tokens =>
    .scope (bytes + offset) plugin value (bytes + start) depth tokens

/-- The reader if there were more bytes in front of the template. -/
def shift (bytes : Nat) (r : Reader) : Reader :=
  { r with offset := bytes + r.offset, mode := r.mode.shift bytes }

def shiftResult (bytes : Nat) : Except TemplateError Reader → Except TemplateError Reader
  | .ok r => .ok (r.shift bytes)
  | .error error => .error (error.shift bytes)

section

variable {room bytes : Nat} {readScope : ScopeReader}
  (hscope : ∀ start tokens, readScope (bytes + start) tokens =
    (readScope start tokens).mapError (TemplateError.shift bytes))

include hscope

theorem mapM_shift (source : Option (Nat × Array Token)) :
    ((source.map fun (start, tokens) => (bytes + start, tokens)).mapM
        fun (start, tokens) => readScope start tokens.toList) =
      (source.mapM fun ((start, tokens) : Nat × Array Token) =>
        readScope start tokens.toList).mapError (TemplateError.shift bytes) := by
  cases source with
  | none => rfl
  | some source =>
    simp only [Option.map_some, Option.mapM_some, hscope]
    cases readScope source.1 source.2.toList <;> rfl

theorem close_shift (r : Reader) (offset : Nat) (name : String) (argument : Option String)
    (source : Option (Nat × Array Token)) :
    (r.shift bytes).close readScope (bytes + offset) name argument
        (source.map fun (start, tokens) => (bytes + start, tokens)) =
      shiftResult bytes (r.close readScope offset name argument source) := by
  by_cases hname : name = ""
  · subst hname
    rfl
  have hempty : name.isEmpty = false := by simpa using hname
  have hread := mapM_shift hscope source
  simp only [close, hempty, hread]
  cases source.mapM fun ((start, tokens) : Nat × Array Token) => readScope start tokens.toList with
  | error error => rfl
  | ok scope => rfl

theorem step_shift (r : Reader) (token : Token) :
    step room readScope (r.shift bytes) token =
      shiftResult bytes (step room readScope r token) := by
  obtain ⟨place, parts, pending, mode⟩ := r
  have hplace : bytes + place + token.size = bytes + (place + token.size) := Nat.add_assoc ..
  cases mode with
  | text =>
    simp only [step, shift, Mode.shift, hplace]
    cases token with
    | opening =>
      by_cases hroom : room = 0
      · simp only [hroom, if_pos]
        rfl
      · simp only [hroom, if_false]
        rfl
    | _ => rfl
  | name offset name =>
    simp only [step, shift, Mode.shift, hplace]
    cases token with
    | closing =>
      exact close_shift hscope ⟨_, parts, pending, .name offset name⟩ offset name none none
    | _ => rfl
  | argument offset name argument =>
    simp only [step, shift, Mode.shift, hplace]
    cases token with
    | closing =>
      exact close_shift hscope ⟨_, parts, pending, .argument offset name argument⟩ offset name
        (some argument) none
    | _ => rfl
  | scope offset name argument start depth tokens =>
    simp only [step, shift, Mode.shift, hplace]
    cases token with
    | closing =>
      by_cases hdepth : depth = 1
      · simp only [hdepth, if_pos]
        exact close_shift hscope ⟨_, parts, pending, .scope offset name argument start 1 tokens⟩
          offset name argument (some (start, tokens))
      · simp only [hdepth, if_false]
        rfl
    | _ => rfl

theorem run_shift (start : Nat) (tokens : List Token) :
    run room readScope (bytes + start) tokens =
      shiftResult bytes (run room readScope start tokens) := by
  induction tokens using List.reverseRecOn with
  | nil => rfl
  | append_singleton tokens token ih =>
    cases hrun : run room readScope start tokens with
    | error error =>
      rw [hrun] at ih
      rw [run_append_of_eq_error ih, run_append_of_eq_error hrun, shiftResult]
    | ok r =>
      rw [hrun] at ih
      rw [run_concat ih, run_concat hrun, step_shift hscope]

end

theorem finish_shift (bytes : Nat) (r : Reader) :
    (r.shift bytes).finish = r.finish.mapError (TemplateError.shift bytes) := by
  obtain ⟨place, parts, pending, mode⟩ := r
  cases mode <;> rfl

end Reader

theorem readWithin_shift_of_scopeReader {room bytes : Nat}
    (hscope : ∀ start tokens, scopeReader room (bytes + start) tokens =
      (scopeReader room start tokens).mapError (TemplateError.shift bytes))
    (start : Nat) (tokens : List Token) :
    readWithin room (bytes + start) tokens =
      (readWithin room start tokens).mapError (TemplateError.shift bytes) := by
  rw [readWithin_eq, readWithin_eq, Reader.run_shift hscope]
  cases Reader.run room (scopeReader room) start tokens with
  | error error => rfl
  | ok r => exact Reader.finish_shift bytes r

/-- A reading that starts at another place gives the same template or the same error. -/
theorem readWithin_shift (room bytes start : Nat) (tokens : List Token) :
    readWithin room (bytes + start) tokens =
      (readWithin room start tokens).mapError (TemplateError.shift bytes) := by
  induction room generalizing start tokens with
  | zero =>
    -- without room the reader of scopes only fails, at the place that it is given
    exact readWithin_shift_of_scopeReader (fun _ _ => rfl) start tokens
  | succ room ih =>
    refine readWithin_shift_of_scopeReader ?_ start tokens
    exact ih

end ReplyTemplate.Template
