import ProbeWatch.Text.Hex

/-!
# Decimal numbers

The digits of a number and its value.
-/

namespace ProbeWatch

open Text (isDigit decimalValue)

/-- Whether a text consists of the digits of a number. -/
structure Denotes (digits : List Char) (value : Nat) : Prop where
  nonempty : digits ≠ []
  digit : ∀ c ∈ digits, isDigit c = true
  value_eq : decimalValue digits = value

theorem decimalValue_eq (digits : List Char) :
    decimalValue digits = Nat.ofDigitChars 10 digits 0 := by
  rw [decimalValue, Nat.ofDigitChars_eq_foldl]
  simp only [Nat.mul_comm]

end ProbeWatch
