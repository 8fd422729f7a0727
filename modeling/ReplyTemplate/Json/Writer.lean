import ReplyTemplate.Json
import ReplyTemplate.Json.Shortest
import ReplyTemplate.Text.Quoted

/-! JSON values as text on one line. -/

namespace ReplyTemplate.Json

/-- Real numbers are written by position while their point stands between these places. -/
def lowestPoint : Int := -4

def highestPoint : Int := 16

/-- A real number from its digits, of which the last stands for `10 ^ exponent`. It has a point or
an exponent. -/
def realText (digits : Nat) (exponent : Int) : String :=
  let shown := Nat.repr digits
  let point := shown.length + exponent
  if 0 ≤ exponent ∧ point ≤ highestPoint then
    shown ++ String.ofList (List.replicate exponent.toNat '0') ++ ".0"
  else if 0 < point ∧ point ≤ highestPoint then
    String.ofList (shown.toList.take point.toNat) ++ "." ++
      String.ofList (shown.toList.drop point.toNat)
  else if lowestPoint ≤ point ∧ point ≤ 0 then
    "0." ++ String.ofList (List.replicate point.natAbs '0') ++ shown
  else
    let tail := shown.toList.drop 1
    let fraction := if tail.isEmpty then "" else "." ++ String.ofList tail
    String.ofList (shown.toList.take 1) ++ fraction ++ "e" ++ toString (point - 1)

/-- A binary64 number, with a sign also if it is a zero. -/
def binary64Text (negative : Bool) (magnitude : UInt64) : String :=
  let (shown, place) := if magnitude = 0 then (0, 0) else Shortest.digits (.ofBits magnitude.toNat)
  (if negative then "-" else "") ++ realText shown place

def numberText : Number → String
  | .integer value => toString value
  | .real negative word exponent => binary64Text negative (Number.magnitudeBits word exponent)
  | .binary64 negative magnitude => binary64Text negative magnitude

/-- How a character is written in a string. -/
def stringChar (c : Char) : List Char :=
  match c with
  | '"' => ['\\', '"']
  | '\\' => ['\\', '\\']
  | '\n' => ['\\', 'n']
  | '\r' => ['\\', 'r']
  | '\t' => ['\\', 't']
  | _ =>
    if c.toNat < 0x20 then
      let digits := Text.hexDigits c.toNat
      ['\\', 'u'] ++ List.replicate (4 - digits.length) '0' ++ digits
    else [c]

def stringText (s : String) : String :=
  String.ofList ('"' :: s.toList.flatMap stringChar ++ ['"'])

mutual

def text : Json → String
  | null => "null"
  | bool value => if value then "true" else "false"
  | number value => numberText value
  | string value => stringText value
  | illFormed => "\"\\ud800\""
  | array items => "[" ++ ",".intercalate (textAll items) ++ "]"
  | object members => "\x7b" ++ ",".intercalate (textMembers members) ++ "\x7d"

def textAll : List Json → List String
  | [] => []
  | item :: items => text item :: textAll items

def textMembers : List (String × Json) → List String
  | [] => []
  | (name, value) :: members => (stringText name ++ ":" ++ text value) :: textMembers members

end

end ReplyTemplate.Json
