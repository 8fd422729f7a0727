/-! The pieces of template source. A piece reads the same in every part of a call. -/

namespace ReplyTemplate

inductive Token where
  | plain (c : Char)
  /-- A character after a backslash. -/
  | escaped (c : Char)
  /-- The two characters `$(`. -/
  | opening
  | closing
  | equals
  | bar
  /-- A backslash at the end of the source. -/
  | dangling
deriving DecidableEq, Repr

namespace Token

def ofChars : List Char → List Token
  | [] => []
  | ['\\'] => [dangling]
  | '\\' :: c :: rest => escaped c :: ofChars rest
  | '$' :: '(' :: rest => opening :: ofChars rest
  | c :: rest =>
    (match c with
      | ')' => closing
      | '=' => equals
      | '|' => bar
      | _ => plain c) :: ofChars rest

/-- The tokens of a text, which are split off from its start. -/
def ofString (source : String) : List Token := ofChars source.toList

/-- The characters that a token was read from. -/
def spelling : Token → List Char
  | plain c => [c]
  | escaped c => ['\\', c]
  | opening => ['$', '(']
  | closing => [')']
  | equals => ['=']
  | bar => ['|']
  | dangling => ['\\']

/-- The characters that a token stands for where it has no other meaning. -/
def contents : Token → List Char
  | escaped c => [c]
  | dangling => []
  | token => token.spelling

/-- UTF-8 bytes of a list of characters. -/
def byteSize : List Char → Nat
  | [] => 0
  | c :: cs => c.utf8Size + byteSize cs

@[simp] theorem byteSize_append (s t : List Char) :
    byteSize (s ++ t) = byteSize s + byteSize t := by
  induction s with
  | nil => simp [byteSize]
  | cons c s ih => simp [byteSize, ih, Nat.add_assoc]

/-- UTF-8 bytes of the spelling. -/
def size (token : Token) : Nat := byteSize token.spelling

/-- Reading loses nothing. -/
theorem flatMap_spelling_ofChars (cs : List Char) : (ofChars cs).flatMap spelling = cs := by
  fun_induction ofChars cs with
  | case1 => rfl
  | case2 => rfl
  | case3 c rest ih => simp [spelling, ih]
  | case4 rest ih => simp [spelling, ih]
  | case5 c rest _ _ _ ih =>
    split <;> simp_all [spelling]

end Token

end ReplyTemplate
