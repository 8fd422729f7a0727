/-! Sets of characters given by ranges of code points. -/

namespace ReplyTemplate.Text

/-- The first and the last code point of a range. -/
abbrev CharRange := Nat × Nat

/-- Whether one of the ranges holds the character. -/
def inRanges (ranges : List CharRange) (c : Char) : Bool :=
  ranges.any fun (first, last) => first ≤ c.toNat && c.toNat ≤ last

end ReplyTemplate.Text
