/-!
# Durations

A duration is a number of nanoseconds that fits a word of seconds and a fraction.  Clocks show the
duration since their own start.  A sum is partial: it exists only within the bound.
-/

namespace ProbeWatch

/-- The largest count of nanoseconds that a duration can hold. -/
def maxNanos : Nat := (UInt64.size - 1) * 1000000000 + 999999999

/-- A length of time. -/
structure Duration where
  /-- The length in nanoseconds. -/
  nanos : Nat
  /-- The length fits a word of seconds and a fraction. -/
  nanos_le : nanos ≤ maxNanos
deriving DecidableEq

namespace Duration

@[ext]
theorem ext {a b : Duration} (h : a.nanos = b.nanos) : a = b := by
  cases a; cases b; simp_all

/-- No time at all. -/
def zero : Duration := ⟨0, Nat.zero_le _⟩

instance : Inhabited Duration := ⟨zero⟩

instance : LE Duration := ⟨fun a b => a.nanos ≤ b.nanos⟩

instance : LT Duration := ⟨fun a b => a.nanos < b.nanos⟩

instance (a b : Duration) : Decidable (a ≤ b) := inferInstanceAs (Decidable (a.nanos ≤ b.nanos))

instance (a b : Duration) : Decidable (a < b) := inferInstanceAs (Decidable (a.nanos < b.nanos))

/-- The duration of that many nanoseconds, if it is within the bound. -/
def ofNanos? (nanos : Nat) : Option Duration :=
  if h : nanos ≤ maxNanos then some ⟨nanos, h⟩ else none

/-- The duration of a word of milliseconds. -/
def ofMillis (millis : UInt64) : Duration :=
  ⟨millis.toNat * 1000000, by have := millis.toNat_lt; unfold maxNanos UInt64.size; omega⟩

/-- The duration of a word of seconds. -/
def ofSeconds (seconds : UInt64) : Duration :=
  ⟨seconds.toNat * 1000000000, by have := seconds.toNat_lt; unfold maxNanos UInt64.size; omega⟩

/-- The duration of some seconds and nanoseconds, if it is within the bound. -/
def ofParts? (seconds nanos : Nat) : Option Duration := ofNanos? (seconds * 1000000000 + nanos)

/-- The sum, if it is within the bound. -/
def add? (a b : Duration) : Option Duration := ofNanos? (a.nanos + b.nanos)

/-- The difference, or nothing when `b` is the longer one. -/
def sub (a b : Duration) : Duration :=
  ⟨a.nanos - b.nanos, Nat.le_trans (Nat.sub_le _ _) a.nanos_le⟩

/-- The longer of two durations. -/
def max (a b : Duration) : Duration := if a ≤ b then b else a

/-- The whole seconds. -/
def seconds (a : Duration) : Nat := a.nanos / 1000000000

/-- The nanoseconds beyond the whole seconds. -/
def fraction (a : Duration) : Nat := a.nanos % 1000000000

/-- The whole milliseconds. -/
def millis (a : Duration) : Nat := a.nanos / 1000000

/-- The whole milliseconds, or the largest word when there are more. -/
def wordMillis (a : Duration) : UInt64 :=
  if a.millis < UInt64.size then UInt64.ofNat a.millis else UInt64.ofNat (UInt64.size - 1)

/-- The digits of `value`, with zeros in front up to a length. -/
def padded (width value : Nat) : String :=
  let digits := (toString value).toList
  String.ofList (List.replicate (width - digits.length) '0' ++ digits)

/-- The seconds with all nine digits of their fraction. -/
def plainText (a : Duration) : String :=
  toString a.seconds ++ "." ++ padded 9 a.fraction

/-- A number of units with the rest as a fraction that has no trailing zeros. -/
private def scaledText (width whole rest : Nat) (unit : String) : String :=
  let digits := ((padded width rest).toList.reverse.dropWhile (· == '0')).reverse
  toString whole ++ (if digits.isEmpty then "" else "." ++ String.ofList digits) ++ unit

/-- The duration in the largest unit that leaves a whole part. -/
def shortText (a : Duration) : String :=
  if a.seconds > 0 then scaledText 9 a.seconds a.fraction "s"
  else if a.nanos ≥ 1000000 then scaledText 6 (a.nanos / 1000000) (a.nanos % 1000000) "ms"
  else if a.nanos ≥ 1000 then scaledText 3 (a.nanos / 1000) (a.nanos % 1000) "µs"
  else toString a.nanos ++ "ns"

end Duration
end ProbeWatch
