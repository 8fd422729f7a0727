import ReplyTemplate.Text.CharRange
import ReplyTemplate.Text.Cut

/-! Blank characters, and text cut at them. -/

namespace ReplyTemplate.Text

/-- The Unicode property `White_Space`. -/
def blankRanges : List CharRange :=
  [(0x09, 0x0D), (0x20, 0x20), (0x85, 0x85), (0xA0, 0xA0), (0x1680, 0x1680), (0x2000, 0x200A),
   (0x2028, 0x2029), (0x202F, 0x202F), (0x205F, 0x205F), (0x3000, 0x3000)]

/-- Whether a character only leaves room. -/
def isBlank (c : Char) : Bool := inRanges blankRanges c

def trimStart (s : List Char) : List Char := s.dropWhile isBlank

def trimEnd (s : List Char) : List Char := (s.reverse.dropWhile isBlank).reverse

/-- The text without the blanks at its two ends. -/
def trim (s : List Char) : List Char := trimEnd (trimStart s)

/-- The longest runs of characters that are not blank. -/
def words (s : List Char) : List (List Char) := (cut isBlank s).filter fun word => !word.isEmpty

/-- What follows the first blank and the blanks beside it. -/
def afterFirstWord (s : List Char) : List Char :=
  trimStart (s.dropWhile fun c => !isBlank c)

end ReplyTemplate.Text
