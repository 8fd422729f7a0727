import ReplyTemplate.Template
import ReplyTemplate.Text.Blank

/-! The normal form of templates, which is what their source is read as. -/

namespace ReplyTemplate.Template

/-- Joins neighbouring texts and leaves out empty ones. -/
def joinTexts : List Template → List Template
  | [] => []
  | text contents :: parts =>
    match joinTexts parts with
    | text more :: rest => text (contents ++ more) :: rest
    | rest => if contents = "" then rest else text contents :: rest
  | part :: parts => part :: joinTexts parts

/-- Whether a part is text of blanks only. -/
def isBlankText : Template → Bool
  | text contents => contents.toList.all Text.isBlank
  | _ => false

/-- Leaves out blank text at the end of other parts. -/
def dropBlankEnd (parts : List Template) : List Template :=
  if 1 < parts.length ∧ parts.getLast?.any isBlankText then parts.dropLast else parts

/-- The template of parts that are neither groups nor hold scopes to be normalized. -/
def ofFlatParts (parts : List Template) : Template := ofParts (dropBlankEnd (joinTexts parts))

mutual

/-- The parts without groups, with normal scopes. -/
def flatParts : Template → List Template
  | text contents => [text contents]
  | group parts => flatPartsAll parts
  | call plugin argument none => [call plugin argument none]
  | call plugin argument (some scope) =>
    [call plugin argument (some (ofFlatParts (flatParts scope)))]

def flatPartsAll : List Template → List Template
  | [] => []
  | part :: parts => flatParts part ++ flatPartsAll parts

end

theorem flatPartsAll_eq_flatMap (parts : List Template) :
    flatPartsAll parts = parts.flatMap flatParts := by
  induction parts with
  | nil => rfl
  | cons part parts ih => simp [flatPartsAll, ih]

/-- The template without needless structure, here and in every scope. -/
def normalize (template : Template) : Template := ofFlatParts (flatParts template)

mutual

/-- Whether all calls, in scopes too, name a plugin. -/
def isNamed : Template → Bool
  | text _ => true
  | group parts => isNamedAll parts
  | call plugin _ none => plugin ≠ ""
  | call plugin _ (some scope) => plugin ≠ "" && isNamed scope

def isNamedAll : List Template → Bool
  | [] => true
  | part :: parts => isNamed part && isNamedAll parts

end

theorem isNamedAll_iff {parts : List Template} :
    isNamedAll parts = true ↔ ∀ part ∈ parts, isNamed part = true := by
  induction parts with
  | nil => simp [isNamedAll]
  | cons part parts ih => simp [isNamedAll, ih]

end ReplyTemplate.Template
