import HeapReplay.Decimal.Shortest

namespace HeapReplay.Decimal

/-- How a double is written: its shortest digits, laid out with or without an
    exponent. -/
structure Layout where
  /-- The least exponent of a leading digit that is written positionally; any
      when there is none. -/
  positionalFrom : Option Int
  /-- The greatest exponent of a leading digit that is written positionally; any
      when there is none. -/
  positionalTo : Option Int
  /-- Whether a whole number written positionally ends in `.0`. -/
  wholePoint : Bool
  /-- The mark before an exponent that is not negative. -/
  exponentPlus : String
  /-- Which of two equally near decimals is written. -/
  tie : Tie

namespace Layout

/-- Whether a leading digit of this exponent is written positionally. -/
def isPositional (layout : Layout) (leading : Int) : Bool :=
  layout.positionalFrom.all (· ≤ leading) && layout.positionalTo.all (leading ≤ ·)

/-- A whole part, and a fraction part when there is one. -/
def pointed (whole fraction : List Char) : List Char :=
  if fraction.isEmpty then whole else whole ++ '.' :: fraction

/-- Writes digits, the first of which counts `10 ^ leading`, without an
    exponent. -/
def positional (layout : Layout) (digits : List Char) (leading : Int) : List Char :=
  if leading < 0 then
    pointed ['0'] (List.replicate (-leading - 1).toNat '0' ++ digits)
  else
    let places := leading.toNat + 1
    let whole := digits.take places ++ List.replicate (places - digits.length) '0'
    let fraction := digits.drop places
    pointed whole (if fraction.isEmpty && layout.wholePoint then ['0'] else fraction)

/-- Writes digits, the first of which counts `10 ^ leading`, with one of them
    before the point and an exponent. -/
def scientific (layout : Layout) (digits : List Char) (leading : Int) : List Char :=
  let mark := if leading < 0 then ['-'] else layout.exponentPlus.toList
  pointed (digits.take 1) (digits.drop 1) ++ 'e' :: mark ++ Nat.toDigits 10 leading.natAbs

/-- Writes a decimal without its sign. Zero is written positionally. -/
def magnitude (layout : Layout) (d : Decimal) : List Char :=
  if d.coefficient = 0 then layout.positional ['0'] 0
  else if layout.isPositional d.leadingExponent then layout.positional d.digits d.leadingExponent
  else layout.scientific d.digits d.leadingExponent

/-- Writes a decimal. -/
def render (layout : Layout) (d : Decimal) : String :=
  String.ofList ((if d.negative then ['-'] else []) ++ layout.magnitude d)

/-- Writes a double by its shortest digits; an infinity and what is no number
    have names. -/
def renderFloat (layout : Layout) (x : Float) : String :=
  match Binary64.datum x with
  | .nan => "NaN"
  | .infinity negative => if negative then "-inf" else "inf"
  | .finite negative significand exponent =>
    layout.render (shortest layout.tie negative significand exponent)

end Layout
end HeapReplay.Decimal
