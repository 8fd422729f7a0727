/-! Surrogates, code points that stand for a character in pairs only. -/

namespace ReplyTemplate.Text

def isHighSurrogate (code : Nat) : Bool := 0xD800 ≤ code && code < 0xDC00

def isLowSurrogate (code : Nat) : Bool := 0xDC00 ≤ code && code < 0xE000

def pairedSurrogates (high low : Nat) : Char :=
  Char.ofNat (0x10000 + (high - 0xD800) * 0x400 + (low - 0xDC00))

/-- Appends the characters of some code points to a text, unless a surrogate has no partner. -/
def appendCodes? (text : String) : List Nat → Option String
  | [] => some text
  | code :: codes =>
    if isHighSurrogate code then
      match codes with
      | low :: codes =>
        if isLowSurrogate low then appendCodes? (text.push (pairedSurrogates code low)) codes
        else none
      | [] => none
    else if isLowSurrogate code then none
    else appendCodes? (text.push (Char.ofNat code)) codes

end ReplyTemplate.Text
