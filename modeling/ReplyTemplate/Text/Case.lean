import ReplyTemplate.Text.Case.Context
import ReplyTemplate.Text.Case.Expansions
import ReplyTemplate.Text.Case.Shifts

/-! Upper and lower case of text, by Unicode's full mappings without a language's own rules. -/

namespace ReplyTemplate.Text

def CaseShift.covers (shift : CaseShift) (code : Nat) : Bool :=
  shift.first ≤ code && code ≤ shift.last && (code - shift.first) % shift.step == 0

/-- The character that the first fitting shift leads to, or the character itself. -/
def shiftCase (shifts : List CaseShift) (c : Char) : Char :=
  match shifts.find? fun shift => shift.covers c.toNat with
  | some shift => Char.ofNat (c.toNat + shift.distance).toNat
  | none => c

def upperChar (c : Char) : List Char :=
  match upperExpansions.lookup c.toNat with
  | some codes => codes.map Char.ofNat
  | none => [shiftCase upperShifts c]

/-- Of all letters, the capital I with a dot takes two characters in lower case. -/
def lowerChar (c : Char) : List Char :=
  if c = 'İ' then ['i', '\u0307'] else [shiftCase lowerShifts c]

def isCased (c : Char) : Bool := inRanges casedRanges c

def isCaseIgnorable (c : Char) : Bool := inRanges caseIgnorableRanges c

/-- Whether the first character that a case rule does not look through has a case. -/
def startsCased (s : List Char) : Bool :=
  (s.dropWhile isCaseIgnorable).head?.any isCased

/-- Lower case of what follows the text `before`, which is given backwards. A capital sigma at the
end of a word becomes a final sigma. -/
def lowerAfter (before : List Char) : List Char → List Char
  | [] => []
  | c :: rest =>
    let isFinal := startsCased before && !startsCased rest
    let lowered := if c = 'Σ' then [if isFinal then 'ς' else 'σ'] else lowerChar c
    lowered ++ lowerAfter (c :: before) rest

/-- Each character in upper case. -/
def upper (s : String) : String := String.ofList (s.toList.flatMap upperChar)

/-- The text in lower case. -/
def lower (s : String) : String := String.ofList (lowerAfter [] s.toList)

end ReplyTemplate.Text
