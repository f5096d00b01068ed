import ProbeWatch.Decimal.Binary

/-!
# Shortest decimal text

The text of a double has the fewest digits that read back as the same double, and of those the
digits nearest to it.
-/

namespace ProbeWatch

/-- A decimal number: the integer `digits` times a power of ten. -/
structure DecimalDigits where
  /-- The digits as an integer. -/
  digits : Nat
  /-- The power of ten that scales the digits. -/
  power : Int
deriving DecidableEq, Repr

namespace Binary64

/-- The bounds of the interval that rounds to a positive double, over a common denominator,
together with the double itself: lower bound, value, upper bound, denominator. -/
private def interval (value : Binary64) : Nat × Nat × Nat × Nat :=
  let narrowBelow := value.significand == Nat.pow 2 52 && minExponent < value.exponent
  let lower := 4 * value.significand - (if narrowBelow then 1 else 2)
  let middle := 4 * value.significand
  let upper := 4 * value.significand + 2
  if 0 ≤ value.exponent then
    let scale := Nat.pow 2 value.exponent.toNat
    (lower * scale, middle * scale, upper * scale, 4)
  else
    (lower, middle, upper, 4 * Nat.pow 2 (-value.exponent).toNat)

/-- The multiple of a power of ten nearest to the double among those that round to it. -/
private def candidate? (value : Binary64) (power : Int) : Option Nat :=
  let (lower, middle, upper, denominator) := value.interval
  let (unit, denominator) :=
    if 0 ≤ power then (denominator * Nat.pow 10 power.toNat, 1)
    else (denominator, Nat.pow 10 (-power).toNat)
  let lower := lower * denominator
  let middle := middle * denominator
  let upper := upper * denominator
  let closed := value.significand % 2 == 0
  let inside := fun multiple : Nat =>
    if closed then lower ≤ multiple * unit && multiple * unit ≤ upper
    else lower < multiple * unit && multiple * unit < upper
  let below := middle / unit
  let above := below + 1
  let belowGap := middle - below * unit
  let aboveGap := above * unit - middle
  let belowInside := inside below
  let aboveInside := inside above
  if belowInside && aboveInside then
    if belowGap < aboveGap || (belowGap == aboveGap && below % 2 == 0) then some below
    else some above
  else if belowInside then some below
  else if aboveInside then some above
  else none

/-- The powers of ten that a double can need, largest first. -/
private def powers : List Int :=
  (List.range 650).map (fun step : Nat => 310 - (step : Int))

/-- The shortest digits of a nonzero magnitude. -/
def shortest (value : Binary64) : DecimalDigits :=
  match powers.findSome? (fun power => (value.candidate? power).map (⟨·, power⟩)) with
  | some found => found
  | none => ⟨0, 0⟩

/-- How the digits of a double are laid out. -/
structure Layout where
  /-- The smallest decimal exponent that is written positionally. -/
  leastPositional : Int
  /-- The largest decimal exponent that is written positionally. -/
  mostPositional : Int

/-- The layout of JSON numbers: positional from `1e-5` up to below `1e16`. -/
def Layout.json : Layout := ⟨-5, 15⟩

/-- The text of a double: positional with at least one fraction digit, or with an exponent that
carries its sign. -/
def render (layout : Layout) (value : Binary64) : String :=
  let sign := if value.negative then "-" else ""
  if value.isZero then
    sign ++ "0.0"
  else
    let found := value.shortest
    let digits := (toString found.digits).toList
    let count : Int := digits.length
    let exponent := count - 1 + found.power
    if exponent < layout.leastPositional || layout.mostPositional < exponent then
      let mantissa :=
        match digits with
        | [] => ""
        | [digit] => String.ofList [digit]
        | digit :: rest => String.ofList (digit :: '.' :: rest)
      sign ++ mantissa ++ "e" ++ (if exponent < 0 then "-" else "+") ++ toString exponent.natAbs
    else if exponent < 0 then
      sign ++ "0." ++ String.ofList (List.replicate (-exponent - 1).toNat '0') ++ String.ofList digits
    else
      let padded := digits ++ List.replicate (exponent + 1 - count).toNat '0'
      let whole := padded.take (exponent + 1).toNat
      let fraction := padded.drop (exponent + 1).toNat
      sign ++ String.ofList whole ++ "." ++
        (if fraction.isEmpty then "0" else String.ofList fraction)

end Binary64
end ProbeWatch
