import HeapReplay.Decimal.Basic

namespace HeapReplay.Decimal

/-- The number that a run of digits stands for. -/
def digitsValue (digits : List Char) : Nat :=
  digits.foldl (fun value digit => 10 * value + (digit.toNat - '0'.toNat)) 0

/-- Splits a sign off a text: whether it was a minus, and the rest. -/
def splitSign : List Char → Bool × List Char
  | '-' :: rest => (true, rest)
  | '+' :: rest => (false, rest)
  | text => (false, text)

/-- Reads a signed exponent of at least one digit. -/
def readExponent? (text : List Char) : Option Int :=
  let (negative, digits) := splitSign text
  if digits.isEmpty || !digits.all Char.isDigit then none
  else if negative then some (-digitsValue digits) else some (digitsValue digits)

/-- Reads an unsigned decimal: digits, with or without a point among them, at
    least one digit in all, and perhaps an exponent. -/
def readMagnitude? (negative : Bool) (text : List Char) : Option Decimal := do
  let whole := text.takeWhile Char.isDigit
  let rest := text.dropWhile Char.isDigit
  let (fraction, rest) :=
    match rest with
    | '.' :: rest => (rest.takeWhile Char.isDigit, rest.dropWhile Char.isDigit)
    | _ => ([], rest)
  if whole.isEmpty && fraction.isEmpty then none
  let exponent ←
    match rest with
    | [] => some 0
    | 'e' :: rest | 'E' :: rest => readExponent? rest
    | _ => none
  some ⟨negative, digitsValue (whole ++ fraction), exponent - fraction.length⟩

/-- Reads a double from its text: a sign or none, then a decimal or, in letters
    of any case, `inf`, `infinity` or `nan`. -/
def readFloat? (text : String) : Option Float :=
  let (negative, body) := splitSign text.toList
  match String.ofList (body.map Char.toLower) with
  | "inf" | "infinity" => some (Binary64.infinity negative)
  | "nan" => some Binary64.nan
  | _ => (readMagnitude? negative body).map toFloat

end HeapReplay.Decimal
