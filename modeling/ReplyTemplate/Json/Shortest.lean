/-! The shortest decimal digits that are read back as the same binary64 number. -/

namespace ReplyTemplate.Json.Shortest

/-- A positive binary64 number `mantissa · 2 ^ exponent`. -/
structure Dyadic where
  mantissa : Nat
  exponent : Int

/-- The leading bit of a mantissa of 53 bits; the format does not store it. -/
def leadingBit : Nat := 0x10000000000000

/-- The number of exponents that the format has. -/
def exponents : Nat := 0x800

/-- The power of two of the last bit where numbers are densest. -/
def leastExponent : Int := -1074

/-- The number that the 64 bits of the format stand for, without its sign. -/
def Dyadic.ofBits (bits : Nat) : Dyadic :=
  let fraction := bits % leadingBit
  let field := bits / leadingBit % exponents
  if field = 0 then ⟨fraction, leastExponent⟩
  else ⟨leadingBit + fraction, leastExponent + field - 1⟩

/-- A quarter of the distance between neighbouring numbers is the unit in which the interval that
rounds to a number has whole ends. -/
structure Interval where
  low : Nat
  value : Nat
  high : Nat
  exponent : Int
  closed : Bool

def Dyadic.interval (x : Dyadic) : Interval where
  low := 4 * x.mantissa - (if x.mantissa = leadingBit ∧ leastExponent < x.exponent then 1 else 2)
  value := 4 * x.mantissa
  high := 4 * x.mantissa + 2
  exponent := x.exponent - 2
  closed := x.mantissa % 2 == 0

/-- `n · 2 ^ two / 10 ^ ten` as a numerator and a denominator. -/
def ratio (n : Nat) (two ten : Int) : Nat × Nat :=
  (n * Nat.pow 2 two.toNat * Nat.pow 10 (-ten).toNat, Nat.pow 2 (-two).toNat * Nat.pow 10 ten.toNat)

/-- Whether `digits · 10 ^ ten` rounds to the number. -/
def Interval.holds (i : Interval) (digits : Nat) (ten : Int) : Bool :=
  let (low, den) := ratio i.low i.exponent ten
  let (high, _) := ratio i.high i.exponent ten
  if i.closed then low ≤ digits * den && digits * den ≤ high
  else low < digits * den && digits * den < high

/-- The multiple of `10 ^ ten` nearest to the number among those that round to it. -/
def Interval.onGrid? (i : Interval) (ten : Int) : Option Nat :=
  let (num, den) := ratio i.value i.exponent ten
  let below := num / den
  let twice := 2 * (num % den)
  let upFirst := den < twice || (den == twice && below % 2 == 1)
  (if upFirst then [below + 1, below] else [below, below + 1]).find? (i.holds · ten)

/-- Digits and the power of ten of the last one, from the coarsest grid that has a hit. -/
def digits (x : Dyadic) : Nat × Int :=
  let i := x.interval
  let grids := (List.range 650).map fun (k : Nat) => 309 - (k : Int)
  (grids.findSome? fun ten =>
    match i.onGrid? ten with
    | some n => if 0 < n then some (n, ten) else none
    | none => none).getD (0, 0)

end ReplyTemplate.Json.Shortest
