/-! Numbers as JSON writes them. -/

namespace ReplyTemplate.Json

inductive Number where
  | integer (value : Int)
  /-- `word · 10 ^ exponent` under a sign, where the word has 64 bits. -/
  | real (negative : Bool) (word : Nat) (exponent : Int)
  /-- A binary64 number by its sign and the bits of its magnitude. -/
  | binary64 (negative : Bool) (magnitude : UInt64)
deriving DecidableEq, Repr, Inhabited

namespace Number

/-- The largest number of 64 bits. -/
def largestWord : Nat := 0xFFFFFFFFFFFFFFFF

/-- The smallest number of 64 bits with a sign. -/
def smallestWord : Int := -0x8000000000000000

/-- Appends digits to a word up to the first one that does not fit. The second part is the number of
digits from that one on. -/
def fill (word : Nat) : List Nat → Nat × Nat
  | [] => (word, 0)
  | digit :: digits =>
    if word * 10 + digit ≤ largestWord then fill (word * 10 + digit) digits
    else (word, digits.length + 1)

/-- The digits before a point are left out of the word from the first one that does not fit, and
those after the point fill what room is still there. -/
def ofDigits (negative : Bool) (whole fraction : List Nat) (exponent : Int) : Number :=
  let (word, left) := fill 0 whole
  let (word, dropped) := fill word fraction
  .real negative word (exponent + left - fraction.length + dropped)

/-- Digits without a point are an integer, unless it has more than 64 bits or is a zero with a
sign. -/
def ofWhole (negative : Bool) (whole : List Nat) : Number :=
  let (word, left) := fill 0 whole
  let value : Int := if negative then -word else word
  if left = 0 ∧ smallestWord ≤ value ∧ ¬(negative ∧ word = 0) then .integer value
  else ofDigits negative whole [] 0

/-- The largest power of ten in binary64. -/
def largestPower : Nat := 308

/-- A power of ten that binary64 holds. -/
def power (exponent : Nat) : Float := Float.ofScientific 1 false exponent

/-- The binary64 magnitude of `word · 10 ^ exponent`, in one step from the word; `none` if it is too
large. A power of ten that is too small for binary64 takes two divisions. -/
def magnitude? (word : Nat) (exponent : Int) : Option Float :=
  let start := word.toUInt64.toFloat
  if word = 0 then some 0
  else if 0 ≤ exponent then
    if exponent ≤ largestPower then
      let value := start * power exponent.toNat
      if value.isFinite then some value else none
    else none
  else if -exponent ≤ largestPower then some (start / power exponent.natAbs)
  else
    let rest := exponent.natAbs - largestPower
    if rest ≤ largestPower then some (start / power largestPower / power rest) else some 0

/-- Whether the number is within binary64 if it is not an integer. -/
def inRange : Number → Bool
  | real _ word exponent => (magnitude? word exponent).isSome
  | _ => true

/-- The bits of the binary64 magnitude of `word · 10 ^ exponent`. -/
def magnitudeBits (word : Nat) (exponent : Int) : UInt64 :=
  ((magnitude? word exponent).getD 0).toBits

/-- Whether the number is an integer or binary64. -/
def isCanonical : Number → Bool
  | real .. => false
  | _ => true

/-- The number that is held in memory: numbers that are no integers are rounded to binary64. -/
def canonical : Number → Number
  | real negative word exponent => binary64 negative (magnitudeBits word exponent)
  | number => number

theorem isCanonical_canonical (number : Number) : number.canonical.isCanonical := by
  cases number <;> rfl

end Number

end ReplyTemplate.Json
