import ReplyTemplate.Template

/-! Writing templates as source. Backslashes go before what would be read as something else. -/

namespace ReplyTemplate

/-- Puts a backslash before each special character. -/
def escape (isSpecial : Char → Bool) (cs : List Char) : List Char :=
  cs.flatMap fun c => if isSpecial c then ['\\', c] else [c]

namespace Template

/-- Special in text; a closing parenthesis only counts inside a scope. -/
def specialInText (inScope : Bool) (c : Char) : Bool :=
  c == '\\' || c == '$' || (inScope && c == ')')

def specialInName (c : Char) : Bool :=
  c == '\\' || c == '$' || c == ')' || c == '=' || c == '|'

def specialInArgument (c : Char) : Bool := c == '\\' || c == '$' || c == ')' || c == '|'

mutual

def sourceChars (inScope : Bool) : Template → List Char
  | text contents => escape (specialInText inScope) contents.toList
  | group parts => sourceCharsAll inScope parts
  | call plugin argument none =>
    ['$', '('] ++ headChars plugin argument ++ [')']
  | call plugin argument (some scope) =>
    ['$', '('] ++ headChars plugin argument ++ ['|'] ++ sourceChars true scope ++ [')']
where
  headChars (plugin : String) (argument : Option String) : List Char :=
    escape specialInName plugin.toList ++ match argument with
      | none => []
      | some argument => '=' :: escape specialInArgument argument.toList

def sourceCharsAll (inScope : Bool) : List Template → List Char
  | [] => []
  | part :: parts => sourceChars inScope part ++ sourceCharsAll inScope parts

end

/-- The template as source. -/
def source (template : Template) : String := String.ofList (template.sourceChars false)

end Template

end ReplyTemplate
