import HeapReplay.Decimal.Literal

namespace HeapReplay.Text

/-- Drops one plus sign in front of a numeral. -/
def dropPlus : List Char → List Char
  | '+' :: rest => rest
  | text => text

/-- Reads a whole number below `limit`: a plus sign or none, then at least one
    digit and nothing else. Leading zeros are allowed. -/
def readBelow? (limit : Nat) (text : List Char) : Option Nat :=
  let digits := dropPlus text
  if digits.isEmpty || !digits.all Char.isDigit then none
  else
    let value := Decimal.digitsValue digits
    if value < limit then some value else none

/-- Reads a word. -/
def readWord? (text : List Char) : Option UInt64 :=
  (readBelow? UInt64.size text).map UInt64.ofNat

/-- Writes a number in lower-case hexadecimal digits. -/
def hexadecimal (n : Nat) : String := String.ofList (Nat.toDigits 16 n)

end HeapReplay.Text
