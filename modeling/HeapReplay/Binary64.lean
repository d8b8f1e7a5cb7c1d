namespace HeapReplay

/-- A power with a whole exponent, one when the exponent is negative. A factor
    `base ^ exponent` multiplies the numerator of a quotient by
    `power base exponent` and its denominator by `power base (-exponent)`. -/
def power (base : Nat) (exponent : Int) : Nat := Nat.pow base exponent.toNat

namespace Binary64

/-- The weight of the leading bit of a significand, which the bits of a double
    leave out. -/
def leadingBit : Nat := 0x10000000000000

/-- The weight of the sign among the bits of a double. -/
def signBit : Nat := 0x8000000000000000

/-- What a double stands for: no number, an infinity, or the number
    `significand * 2 ^ exponent` with its sign. Zero keeps its sign. -/
inductive Datum where
  | nan
  | infinity (negative : Bool)
  | finite (negative : Bool) (significand : Nat) (exponent : Int)
  deriving DecidableEq, Repr

/-- Reads a double off its bits: a sign, eleven bits of exponent and 52 bits of
    fraction. Below the least exponent the leading one is not implied. -/
def datum (x : Float) : Datum :=
  let bits := x.toBits.toNat
  let negative := decide (signBit ≤ bits)
  let field : Nat := bits / leadingBit % 2048
  let fraction := bits % leadingBit
  if field = 2047 then
    if fraction = 0 then .infinity negative else .nan
  else if field = 0 then .finite negative fraction (-1074)
  else .finite negative (leadingBit + fraction) (Int.ofNat field - 1075)

/-- The whole number nearest to `numerator / denominator`; a tie goes to the
    even neighbour. -/
def roundQuotient (numerator denominator : Nat) : Nat :=
  let quotient := numerator / denominator
  let remainder := numerator % denominator
  if 2 * remainder < denominator then quotient
  else if denominator < 2 * remainder then quotient + 1
  else quotient + quotient % 2

/-- The exponent of the leading binary digit of `numerator / denominator`. -/
def leadingExponent (numerator denominator : Nat) : Int :=
  let estimate : Int := numerator.log2 - denominator.log2
  if denominator * power 2 estimate ≤ numerator * power 2 (-estimate) then estimate
  else estimate - 1

/-- The bits of positive infinity. They come right after those of the largest
    finite double. -/
def infinityBits : Nat := 2047 * leadingBit

/-- The bits of the double nearest to `numerator / denominator`; a tie goes to
    the even significand. The significand is added to the exponent field, so
    rounding up to a power of two carries into the field and overflow ends at
    infinity. -/
def nearestBits (numerator denominator : Nat) : Nat :=
  if numerator = 0 then 0
  else
    let exponent := max (leadingExponent numerator denominator - 52) (-1074)
    let significand :=
      roundQuotient (numerator * power 2 (-exponent)) (denominator * power 2 exponent)
    min infinityBits ((exponent + 1074).toNat * leadingBit + significand)

/-- The double nearest to a quotient, with a sign that zero keeps. -/
def nearest (negative : Bool) (numerator denominator : Nat) : Float :=
  Float.ofBits (.ofNat ((if negative then signBit else 0) + nearestBits numerator denominator))

/-- The double nearest to a whole number. -/
def ofNat (n : Nat) : Float := nearest false n 1

/-- Not a number. -/
def nan : Float := 0.0 / 0.0

/-- An infinity of the given sign. -/
def infinity (negative : Bool) : Float := if negative then -1.0 / 0.0 else 1.0 / 0.0

end Binary64
end HeapReplay
