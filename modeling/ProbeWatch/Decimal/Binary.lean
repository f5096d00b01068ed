/-!
# Binary floating-point values

A finite IEEE 754 double is a sign, a significand below `2 ^ 53` and a power of two not below
`2 ^ (-1074)`.  Every operation is exact integer arithmetic followed by one rounding to nearest,
ties to even.
-/

namespace ProbeWatch

/-- A finite double: `± significand * 2 ^ exponent`. -/
structure Binary64 where
  /-- Whether the sign bit is set. -/
  negative : Bool
  /-- The integer significand, below `2 ^ 53`. -/
  significand : Nat
  /-- The power of two that scales the significand. -/
  exponent : Int
deriving DecidableEq, Repr

namespace Binary64

/-- The smallest exponent of a double. -/
def minExponent : Int := -1074

/-- The largest exponent of a double. -/
def maxExponent : Int := 971

/-- The zero of the given sign. -/
def zero (negative : Bool) : Binary64 := ⟨negative, 0, minExponent⟩

/-- Whether the value is zero of either sign. -/
def isZero (value : Binary64) : Bool := value.significand == 0

/-- The value with the other sign bit. -/
def neg (value : Binary64) : Binary64 := { value with negative := !value.negative }

/-- The quotient rounded to nearest, ties to even. -/
def roundQuotient (numerator denominator : Nat) : Nat :=
  let quotient := numerator / denominator
  let twice := 2 * (numerator % denominator)
  if twice < denominator then quotient
  else if denominator < twice then quotient + 1
  else if quotient % 2 == 0 then quotient
  else quotient + 1

/-- The numerator and denominator of `numerator / denominator * 2 ^ (-exponent)`. -/
private def scaled (numerator denominator : Nat) (exponent : Int) : Nat × Nat :=
  if 0 ≤ exponent then
    (numerator, denominator * Nat.pow 2 exponent.toNat)
  else
    (numerator * Nat.pow 2 (-exponent).toNat, denominator)

/-- The double nearest to a positive quotient, unless it is too large to be finite. -/
def ofQuotient? (negative : Bool) (numerator denominator : Nat) : Option Binary64 :=
  if numerator == 0 then
    some (zero negative)
  else
    let estimate : Int := (numerator.log2 : Int) - (denominator.log2 : Int) - 52
    let tooFine :=
      let (top, bottom) := scaled numerator denominator (estimate - 1)
      top / bottom < Nat.pow 2 53
    let exponent := max minExponent (if tooFine then estimate - 1 else estimate)
    let (top, bottom) := scaled numerator denominator exponent
    let significand := roundQuotient top bottom
    let (significand, exponent) :=
      if significand == Nat.pow 2 53 then (Nat.pow 2 52, exponent + 1) else (significand, exponent)
    if maxExponent < exponent then none else some ⟨negative, significand, exponent⟩

/-- The double nearest to a natural number below `2 ^ 1024`. -/
def ofNat (value : Nat) : Binary64 :=
  (ofQuotient? false value 1).getD (zero false)

/-- The double nearest to a power of ten up to the three hundred and eighth. -/
def tenPower (power : Nat) : Binary64 := ofNat (Nat.pow 10 power)

/-- The magnitude as a quotient of natural numbers. -/
def quotient (value : Binary64) : Nat × Nat :=
  if 0 ≤ value.exponent then
    (value.significand * Nat.pow 2 value.exponent.toNat, 1)
  else
    (value.significand, Nat.pow 2 (-value.exponent).toNat)

/-- The rounded product, unless it overflows. -/
def mul? (left right : Binary64) : Option Binary64 :=
  let (leftTop, leftBottom) := left.quotient
  let (rightTop, rightBottom) := right.quotient
  ofQuotient? (left.negative != right.negative) (leftTop * rightTop) (leftBottom * rightBottom)

/-- The rounded quotient by a nonzero value, unless it overflows. -/
def div? (left right : Binary64) : Option Binary64 :=
  let (leftTop, leftBottom) := left.quotient
  let (rightTop, rightBottom) := right.quotient
  ofQuotient? (left.negative != right.negative) (leftTop * rightBottom) (leftBottom * rightTop)

/-- Repeated division by `10 ^ 308` and a last one by the rest of the power of ten.

Four divisions take every significand of a machine word to zero. -/
private def shrink : Nat → Binary64 → Nat → Option Binary64
  | 0, value, _ => some value
  | steps + 1, value, power =>
      if power ≤ 308 then
        value.div? (tenPower power)
      else if value.isZero then
        some value
      else
        value.div? (tenPower 308) >>= (shrink steps · (power - 308))

/-- The double read from a word-sized significand and a power of ten.

The significand and the power are rounded on their own before they are combined, so the result may
differ from the nearest double in the last place. -/
def ofDecimal? (negative : Bool) (significand : Nat) (power : Int) : Option Binary64 :=
  let whole := ofNat significand
  let magnitude :=
    if power < 0 then
      shrink 5 whole power.natAbs
    else if power ≤ 308 then
      whole.mul? (tenPower power.toNat)
    else if whole.isZero then
      some whole
    else
      none
  magnitude.map ({ · with negative := negative })

end Binary64
end ProbeWatch
