import HeapReplay.Decimal.Basic

namespace HeapReplay.Decimal

/-- Which of two equally near decimals stands for a number. -/
inductive Tie where
  | up
  | even
  deriving DecidableEq, Repr

/-- A positive number `value / unit` and the ends of the interval of numbers that
    a reader rounds to it, over the same unit. The ends belong to the interval
    when `closed`. -/
structure Neighbourhood where
  below : Nat
  value : Nat
  above : Nat
  unit : Nat
  closed : Bool

/-- The neighbourhood of the double `significand * 2 ^ exponent`, counted in
    quarters of its last place. The gap below a power of two is half as wide as
    the gap above it, and a tie is read as the even significand. -/
def neighbourhood (significand : Nat) (exponent : Int) : Neighbourhood :=
  let quarter := power 2 (exponent - 2)
  let gap := if significand = Binary64.leadingBit ∧ exponent ≠ -1074 then 1 else 2
  { below := (4 * significand - gap) * quarter
    value := 4 * significand * quarter
    above := (4 * significand + 2) * quarter
    unit := power 2 (2 - exponent)
    closed := significand % 2 == 0 }

namespace Neighbourhood

/-- Whether `coefficient * 10 ^ exponent` is read as the number. -/
def contains (n : Neighbourhood) (coefficient : Nat) (exponent : Int) : Bool :=
  let point := coefficient * power 10 exponent * n.unit
  let scale := power 10 (-exponent)
  if n.closed then n.below * scale ≤ point && point ≤ n.above * scale
  else n.below * scale < point && point < n.above * scale

/-- The exponent of the leading decimal digit. -/
def leadingExponent (n : Neighbourhood) : Int :=
  if n.unit ≤ n.value then (Nat.toDigits 10 (n.value / n.unit)).length - 1
  else -(Nat.toDigits 10 (n.unit / n.value)).length

/-- The point of the grid of multiples of `10 ^ exponent` that stands for the
    number, if one is read as it. Only the two neighbours of the number can be;
    of two the nearer is taken. -/
def onGrid? (tie : Tie) (n : Neighbourhood) (exponent : Int) : Option Nat :=
  let numerator := n.value * power 10 (-exponent)
  let denominator := n.unit * power 10 exponent
  let lower := numerator / denominator
  let remainder := numerator % denominator
  let preferUpper :=
    denominator < 2 * remainder ||
      denominator == 2 * remainder && (tie == .up || lower % 2 == 1)
  match n.contains lower exponent, n.contains (lower + 1) exponent with
  | true, true => some (if preferUpper then lower + 1 else lower)
  | true, false => some lower
  | false, true => some (lower + 1)
  | false, false => none

/-- The first of the coming grids, each ten times as fine as the one before, with
    a point that is read as the number. -/
def search (tie : Tie) (n : Neighbourhood) : Nat → Int → Option (Nat × Int)
  | 0, _ => none
  | grids + 1, exponent =>
    match n.onGrid? tie exponent with
    | some coefficient => some (coefficient, exponent)
    | none => n.search tie grids (exponent - 1)

end Neighbourhood

/-- Drops the zeros at the end of a coefficient, counting them in the exponent;
    `fuel` bounds their number. -/
def dropZeros : Nat → Nat → Int → Nat × Int
  | 0, coefficient, exponent => (coefficient, exponent)
  | fuel + 1, coefficient, exponent =>
    if coefficient % 10 = 0 then dropZeros fuel (coefficient / 10) (exponent + 1)
    else (coefficient, exponent)

/-- The decimal with the fewest digits that is read as the double
    `significand * 2 ^ exponent`, the nearest one of those. Seventeen digits
    always tell a double from its neighbours. -/
def shortest (tie : Tie) (negative : Bool) (significand : Nat) (exponent : Int) : Decimal :=
  if significand = 0 then ⟨negative, 0, 0⟩
  else
    let n := neighbourhood significand exponent
    match n.search tie 17 n.leadingExponent with
    | some (coefficient, exponent) =>
      let (coefficient, exponent) := dropZeros 17 coefficient exponent
      ⟨negative, coefficient, exponent⟩
    | none => ⟨negative, significand * power 2 exponent, 0⟩

end HeapReplay.Decimal
