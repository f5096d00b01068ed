import ProbeWatch.Text.Blank

/-!
# Punycode

A label of a host name that is not ASCII travels as its ASCII characters followed by digits that say
where the other characters go.  The digits are read as numbers of variable length, least
significant digit first.
-/

namespace ProbeWatch.Url.Punycode

/-- The value of a digit. -/
def digitValue? (c : Char) : Option Nat :=
  if 'a' ≤ c ∧ c ≤ 'z' then some (c.toNat - 'a'.toNat)
  else if 'A' ≤ c ∧ c ≤ 'Z' then some (c.toNat - 'A'.toNat)
  else if '0' ≤ c ∧ c ≤ '9' then some (c.toNat - '0'.toNat + 26)
  else none

/-- The value below which a digit is the last one of its number. -/
def threshold (position bias : Nat) : Nat :=
  if position ≤ bias then 1 else if bias + 26 ≤ position then 26 else position - bias

/-- The bias after a number, from the number scaled down and the position that it has reached. -/
def settleBias (delta position : Nat) : Nat :=
  if 455 < delta then settleBias (delta / 35) (position + 36)
  else position + 36 * delta / (delta + 38)
termination_by delta
decreasing_by exact Nat.div_lt_self (by omega) (by omega)

/-- The bias after the first or a later number, given how many characters there are by then. -/
def nextBias (delta count : Nat) (isFirst : Bool) : Nat :=
  let scaled := if isFirst then delta / 700 else delta / 2
  settleBias (scaled + scaled / count) 0

/-- A value that is a word of 32 bits. -/
def word? (value : Nat) : Option Nat := if value < 4294967296 then some value else none

/-- Adds a number to a total; the result is the sum and the digits after the number.  Neither the sum
nor a weight may be larger than a word. -/
def addNumber? (bias : Nat) (position weight total : Nat) : List Char → Option (Nat × List Char)
  | [] => none
  | c :: rest => do
      let digit ← digitValue? c
      let sum ← word? (total + digit * weight)
      let limit := threshold position bias
      if digit < limit then some (sum, rest)
      else addNumber? bias (position + 36) (← word? (weight * (36 - limit))) sum rest

theorem length_addNumber? {bias position weight total : Nat} {digits : List Char}
    {result : Nat × List Char} (h : addNumber? bias position weight total digits = some result) :
    result.2.length < digits.length := by
  induction digits generalizing position weight total with
  | nil => cases h
  | cons c rest ih =>
      simp only [addNumber?, bind, Option.bind_eq_some_iff] at h
      obtain ⟨digit, _, sum, _, h⟩ := h
      split at h
      · cases h
        simp
      · obtain ⟨_, _, h⟩ := Option.bind_eq_some_iff.mp h
        have := ih h
        simp only [List.length_cons]
        omega

/-- Inserts the characters that digits tell of, where `code` is the least code they can have and
`index` the place at which the next one is counted from. -/
def insertAll? (output : List Char) (code index bias : Nat) (isFirst : Bool) (digits : List Char) :
    Option (List Char) :=
  if digits.isEmpty then
    some output
  else
    match _ : addNumber? bias 36 1 index digits with
    | none => none
    | some (sum, rest) =>
        let count := output.length + 1
        let code := code + sum / count
        let place := sum % count
        if code < 0x110000 ∧ !(0xD800 ≤ code && code < 0xE000) then
          let output := output.take place ++ Char.ofNat code :: output.drop place
          insertAll? output code (place + 1) (nextBias (sum - index) count isFirst) false rest
        else
          none
termination_by digits.length
decreasing_by
  have := length_addNumber? ‹_›
  simpa using this

/-- The characters of an encoded label, given without the mark in front of it.  A hyphen divides the
ASCII characters from the digits only where there are ASCII characters. -/
def decode? (label : List Char) : Option (List Char) :=
  let digits := (Text.afterLast? '-' label).getD label
  let basic := label.take (label.length - digits.length - 1)
  if basic.isEmpty then insertAll? [] 128 0 72 true label
  else if basic.all (fun c => c.toNat < 128) then insertAll? basic 128 0 72 true digits
  else none

end ProbeWatch.Url.Punycode
