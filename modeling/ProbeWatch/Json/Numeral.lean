import ProbeWatch.Json.Basic
import ProbeWatch.Text.Hex

/-!
# Numerals

The parts of a number as it is written, and the number they denote.  A significand is gathered in
one machine word; digits that no longer fit only move the decimal point.
-/

namespace ProbeWatch.Json

/-- The parts of a written number. -/
structure Numeral where
  /-- Whether a minus sign stands in front. -/
  negative : Bool
  /-- The digits before the decimal point. -/
  whole : List Char
  /-- The digits after the decimal point; none when there is no point. -/
  fraction : List Char
  /-- The sign of the exponent (true for minus) and its digits. -/
  exponent? : Option (Bool × List Char)
deriving DecidableEq, Repr

namespace Numeral

/-- The largest significand that a machine word holds. -/
def wordMax : Nat := UInt64.size - 1

/-- The largest magnitude of an exponent. -/
def exponentMax : Nat := 2147483647

/-- The value of a decimal digit. -/
private def digitValue (digit : Char) : Nat := digit.toNat - '0'.toNat

/-- Appends digits to a significand for as long as the result fits `limit`, and returns the digits
that were left over. -/
def gather (limit : Nat) : Nat → List Char → Nat × List Char
  | total, [] => (total, [])
  | total, digit :: rest =>
      let next := total * 10 + digitValue digit
      if limit < next then (total, digit :: rest) else gather limit next rest

/-- A significand and the power of ten that its digits before the exponent give it. -/
def significand (numeral : Numeral) : Nat × Int :=
  let (whole, surplus) := gather wordMax 0 numeral.whole
  let (total, ignored) := gather wordMax whole numeral.fraction
  (total, (surplus.length : Int) - ((numeral.fraction.length - ignored.length : Nat) : Int))

/-- The number that a numeral denotes, unless it is too large for a double. -/
def number? (numeral : Numeral) : Option Number :=
  let (total, power) := numeral.significand
  let scaled (power : Int) : Option Number :=
    (Binary64.ofDecimal? numeral.negative total power).map .binary
  match numeral.exponent? with
  | some (negative, digits) =>
      let (shift, surplus) := gather exponentMax 0 digits
      if surplus.isEmpty then
        scaled (if negative then power - shift else power + shift)
      else if total != 0 && !negative then
        none
      else
        some (.binary (.zero numeral.negative))
  | none =>
      if !numeral.fraction.isEmpty || power != 0 then
        scaled power
      else if !numeral.negative then
        some (.integer total)
      else if total != 0 && total ≤ 9223372036854775808 then
        some (.integer (-total))
      else
        scaled 0

end Numeral
end ProbeWatch.Json
