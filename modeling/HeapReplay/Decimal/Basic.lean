import HeapReplay.Binary64

namespace HeapReplay

/-- A decimal number `coefficient * 10 ^ exponent` with its sign. Zero keeps its
    sign, and a coefficient may end in zeros. -/
structure Decimal where
  negative : Bool
  coefficient : Nat
  exponent : Int
  deriving DecidableEq, Repr

namespace Decimal

/-- The digits of the coefficient, leading digit first. -/
def digits (d : Decimal) : List Char := Nat.toDigits 10 d.coefficient

/-- The exponent of the leading digit. -/
def leadingExponent (d : Decimal) : Int := d.digits.length - 1 + d.exponent

/-- The double nearest to a decimal; a tie goes to the even significand. A
    leading digit past the range of the doubles settles the answer, so no power
    is computed that the range does not need. -/
def toFloat (d : Decimal) : Float :=
  if d.coefficient = 0 then Binary64.nearest d.negative 0 1
  else if 310 < d.leadingExponent then Binary64.infinity d.negative
  else if d.leadingExponent < -330 then Binary64.nearest d.negative 0 1
  else
    Binary64.nearest d.negative (d.coefficient * power 10 d.exponent) (power 10 (-d.exponent))

end Decimal
end HeapReplay
