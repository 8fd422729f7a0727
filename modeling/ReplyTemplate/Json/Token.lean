import ReplyTemplate.Json
import ReplyTemplate.Text.Surrogate

/-! The pieces of JSON text. -/

namespace ReplyTemplate.Json

inductive Token where
  | openArray
  | closeArray
  | openObject
  | closeObject
  | comma
  | colon
  /-- A string, a number or one of the three words. -/
  | scalar (value : Json)

namespace Token

/-- A nonempty run of decimal digits at the start, and what follows it. -/
def takeDigits? (cs : List Char) : Option (List Nat × List Char) :=
  let digits := (cs.takeWhile Char.isDigit).map fun c => c.toNat - '0'.toNat
  if digits.isEmpty then none else some (digits, cs.dropWhile Char.isDigit)

def digitsValue (digits : List Nat) : Nat := digits.foldl (fun value digit => value * 10 + digit) 0

/-- The power of ten at the end of a number. -/
def exponent? : List Char → Option Int
  | e :: rest =>
    if e = 'e' ∨ e = 'E' then do
      let (negative, rest) := match rest with
        | '-' :: rest => (true, rest)
        | '+' :: rest => (false, rest)
        | _ => (false, rest)
      let (digits, rest) ← takeDigits? rest
      guard rest.isEmpty
      return if negative then -digitsValue digits else digitsValue digits
    else none
  | [] => some 0

/-- A number has no needless zero in front, and a digit on either side of its point. -/
def number? (cs : List Char) : Option Number := do
  let (negative, cs) := match cs with
    | '-' :: rest => (true, rest)
    | _ => (false, cs)
  let (whole, rest) ← takeDigits? cs
  guard (whole.head? ≠ some 0 ∨ whole.length = 1)
  match rest with
  | [] => return .ofWhole negative whole
  | '.' :: rest =>
    let (fraction, rest) ← takeDigits? rest
    return .ofDigits negative whole fraction (← exponent? rest)
  | rest => return .ofDigits negative whole [] (← exponent? rest)

/-- What a run of letters, digits, signs and points stands for. -/
def word? (cs : List Char) : Option Json :=
  if cs = "null".toList then some .null
  else if cs = "true".toList then some (.bool true)
  else if cs = "false".toList then some (.bool false)
  else (number? cs).map .number

def isWordChar (c : Char) : Bool := c.isAlphanum || c == '-' || c == '+' || c == '.'

def isSpace (c : Char) : Bool := c == ' ' || c == '\t' || c == '\n' || c == '\r'

def hexDigit? (c : Char) : Option Nat :=
  if c.isDigit then some (c.toNat - '0'.toNat)
  else if 'a' ≤ c ∧ c ≤ 'f' then some (c.toNat - 'a'.toNat + 10)
  else if 'A' ≤ c ∧ c ≤ 'F' then some (c.toNat - 'A'.toNat + 10)
  else none

/-- The string of some code points. -/
def ofCodes (codes : Array Nat) : Json :=
  match Text.appendCodes? "" codes.toList with
  | some contents => .string contents
  | none => .illFormed

/-- Where in the text the scanner is. -/
inductive Mode where
  | between
  | word (letters : String)
  | string (codes : Array Nat)
  | escape (codes : Array Nat)
  /-- In a code point of four digits, of which `left` are to come. -/
  | code (codes : Array Nat) (left value : Nat)

structure Scanner where
  tokens : Array Token := #[]
  mode : Mode := .between

namespace Scanner

def emit (s : Scanner) (token : Token) : Scanner := ⟨s.tokens.push token, .between⟩

/-- Reads a character outside strings and words. -/
def start (s : Scanner) (c : Char) : Option Scanner :=
  match c with
  | '[' => some (s.emit .openArray)
  | ']' => some (s.emit .closeArray)
  | '{' => some (s.emit .openObject)
  | '}' => some (s.emit .closeObject)
  | ',' => some (s.emit .comma)
  | ':' => some (s.emit .colon)
  | '"' => some { s with mode := .string #[] }
  | _ =>
    if isSpace c then some s
    else if isWordChar c then some { s with mode := .word (String.singleton c) }
    else none

/-- Ends a word, if one is being read. -/
def endWord (s : Scanner) : Option Scanner :=
  match s.mode with
  | .word letters => (word? letters.toList).map fun value => s.emit (.scalar value)
  | _ => some s

/-- The mode after the character that follows a backslash. -/
def endEscape (codes : Array Nat) (c : Char) : Option Mode :=
  match c with
  | '"' | '\\' | '/' => some (.string (codes.push c.toNat))
  | 'b' => some (.string (codes.push 0x08))
  | 'f' => some (.string (codes.push 0x0C))
  | 'n' => some (.string (codes.push 0x0A))
  | 'r' => some (.string (codes.push 0x0D))
  | 't' => some (.string (codes.push 0x09))
  | 'u' => some (.code codes 4 0)
  | _ => none

/-- Reads one character. Control characters do not stand in strings. -/
def step (s : Scanner) (c : Char) : Option Scanner :=
  match s.mode with
  | .between => s.start c
  | .word letters =>
    if isWordChar c then some { s with mode := .word (letters.push c) }
    else do (← s.endWord).start c
  | .string codes =>
    if c = '"' then some (s.emit (.scalar (ofCodes codes)))
    else if c = '\\' then some { s with mode := .escape codes }
    else if c.toNat < 0x20 then none
    else some { s with mode := .string (codes.push c.toNat) }
  | .escape codes => do return { s with mode := ← endEscape codes c }
  | .code codes left value => do
    let value := value * 16 + (← hexDigit? c)
    if left = 1 then return { s with mode := .string (codes.push value) }
    else return { s with mode := .code codes (left - 1) value }

/-- The tokens, unless the text ends inside a string. -/
def finish (s : Scanner) : Option (List Token) := do
  let s ← s.endWord
  match s.mode with
  | .between => some s.tokens.toList
  | _ => none

end Scanner

def ofChars? (cs : List Char) : Option (List Token) := do
  (← cs.foldlM Scanner.step {}).finish

end Token

end ReplyTemplate.Json
