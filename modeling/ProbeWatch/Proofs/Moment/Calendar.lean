import Mathlib.Tactic.IntervalCases
import ProbeWatch.Moment

/-!
# The calendar

Counting days forth and back is the identity, and every day that is counted to is a day of its
month.  A cycle of 400 years splits into centuries, spans of four years and single years, each of
which is a day short at its end or not.
-/

namespace ProbeWatch.CivilDate

/-- Whether the date is a day of a month of its year. -/
def IsDay (date : CivilDate) : Prop :=
  (1 ≤ date.month ∧ date.month ≤ 12) ∧ 1 ≤ date.day ∧ date.day ≤ daysInMonth date.year date.month

/-! ## Years within a cycle -/

/-- The year of a cycle whose first day is so many centuries, spans of four years and years after
that of the cycle. -/
def yearAfter (centuries spans years : Nat) : Nat := 100 * centuries + 4 * spans + years

/-- Whether a day is one of the year that starts at such a first day.  The last day of all exists
only at the end of a span, and not at the end of a century unless the cycle ends with it. -/
structure IsDayAfter (centuries spans years day : Nat) : Prop where
  centuries_le : centuries ≤ 3
  spans_le : spans ≤ 24
  years_le : years ≤ 3
  day_le : day ≤ 365
  leap : day = 365 → years = 3 ∧ (spans = 24 → centuries = 3)

theorem exists_isDayAfter {dayOfEra : Nat} (inside : dayOfEra < 146097) :
    ∃ centuries spans years day, IsDayAfter centuries spans years day ∧
      dayOfEra = 36524 * centuries + 1461 * spans + 365 * years + day := by
  have century : ∃ centuries rest, dayOfEra = 36524 * centuries + rest ∧ centuries ≤ 3 ∧
      rest ≤ 36524 ∧ (rest = 36524 → centuries = 3) := by
    by_cases last : dayOfEra < 3 * 36524
    · exact ⟨dayOfEra / 36524, dayOfEra % 36524, by omega, by omega, by omega, by omega⟩
    · exact ⟨3, dayOfEra - 3 * 36524, by omega, by omega, by omega, by omega⟩
  obtain ⟨centuries, rest, split, centuries_le, rest_le, full⟩ := century
  have year : ∃ years day, rest % 1461 = 365 * years + day ∧ years ≤ 3 ∧ day ≤ 365 ∧
      (day = 365 → years = 3) := by
    by_cases last : rest % 1461 < 3 * 365
    · exact ⟨rest % 1461 / 365, rest % 1461 % 365, by omega, by omega, by omega, by omega⟩
    · exact ⟨3, rest % 1461 - 3 * 365, by omega, by omega, by omega, by omega⟩
  obtain ⟨years, day, split', years_le, day_le, long⟩ := year
  exact ⟨centuries, rest / 1461, years, day,
    ⟨centuries_le, by omega, years_le, day_le, by omega⟩, by omega⟩

theorem yearOfEra_eq {centuries spans years day : Nat}
    (isDay : IsDayAfter centuries spans years day) :
    yearOfEra (36524 * centuries + 1461 * spans + 365 * years + day) =
      yearAfter centuries spans years := by
  obtain ⟨centuries_le, spans_le, years_le, day_le, leap⟩ := isDay
  rw [yearOfEra, yearAfter]
  generalize split : 36524 * centuries + 1461 * spans + 365 * years + day = dayOfEra
  by_cases last : dayOfEra = 146096
  · subst last
    omega
  · have century : dayOfEra / 36524 = centuries := by omega
    have cycle : dayOfEra / 146096 = 0 := by omega
    -- Whether the last span of four years counts in full shows in the first and the last day only.
    have leaps : dayOfEra / 1460 =
        25 * centuries + spans + (24 * centuries + spans + 365 * years + day) / 1460 := by omega
    have under : (24 * centuries + spans + 365 * years + day) / 1460 ≤ 1 := by omega
    have late : day = 365 → (24 * centuries + spans + 365 * years + day) / 1460 = 1 := by omega
    have early : day = 0 → (24 * centuries + spans + 365 * years + day) / 1460 = 0 := by omega
    rw [century, cycle, leaps]
    omega

theorem firstDay_eq {centuries spans years day : Nat}
    (isDay : IsDayAfter centuries spans years day) :
    365 * yearAfter centuries spans years + yearAfter centuries spans years / 4 -
        yearAfter centuries spans years / 100 =
      36524 * centuries + 1461 * spans + 365 * years := by
  obtain ⟨centuries_le, spans_le, years_le, day_le, leap⟩ := isDay
  have hundreds : yearAfter centuries spans years / 100 = centuries := by
    rw [yearAfter]
    omega
  have fours : yearAfter centuries spans years / 4 = 25 * centuries + spans := by
    rw [yearAfter]
    omega
  rw [hundreds, fours, yearAfter]
  omega

/-! ## Days within a year -/

theorem month_of_day : ∀ dayOfYear < 366,
    let monthFromMarch := (5 * dayOfYear + 2) / 153
    let start := (153 * monthFromMarch + 2) / 5
    let day := dayOfYear - start + 1
    monthFromMarch ≤ 11 ∧ start ≤ dayOfYear ∧ (1 ≤ day ∧ day ≤ 31) ∧
      (monthFromMarch ∈ [1, 3, 6, 8] → day ≤ 30) ∧
      (monthFromMarch = 11 → day ≤ 29 ∧ (day = 29 → dayOfYear = 365)) := by
  decide +kernel

/-! ## Days -/

/-- What a date is made of: the cycle, the year within it that starts in March, and the day. -/
theorem exists_parts (days : Int) :
    ∃ (era : Int) (centuries spans years day : Nat), IsDayAfter centuries spans years day ∧
      days = era * 146097 + (36524 * centuries + 1461 * spans + 365 * years + day : Nat) - 719468 ∧
      ofDays days =
        let monthFromMarch := (5 * day + 2) / 153
        let month := if monthFromMarch < 10 then monthFromMarch + 3 else monthFromMarch - 9
        let year := era * 400 + yearAfter centuries spans years
        ⟨if month ≤ 2 then year + 1 else year, month, day - (153 * monthFromMarch + 2) / 5 + 1⟩ := by
  have inside : ((days + 719468) % 146097).toNat < 146097 := by omega
  obtain ⟨centuries, spans, years, day, isDay, split⟩ := exists_isDayAfter inside
  refine ⟨(days + 719468) / 146097, centuries, spans, years, day, isDay, by omega, ?_⟩
  have ofYear : 36524 * centuries + 1461 * spans + 365 * years + day -
      (365 * yearAfter centuries spans years + yearAfter centuries spans years / 4 -
        yearAfter centuries spans years / 100) = day := by
    rw [firstDay_eq isDay]
    omega
  simp only [ofDays, split, yearOfEra_eq isDay, ofYear]

/-- The year after one with a day too many is a leap year: it is its February that is longer. -/
theorem isLeapYear_of_long {centuries spans years : Nat} (era : Int)
    (isDay : IsDayAfter centuries spans years 365) :
    isLeapYear (era * 400 + yearAfter centuries spans years + 1) = true := by
  obtain ⟨centuries_le, spans_le, -, -, leap⟩ := isDay
  obtain ⟨rfl, full⟩ := leap rfl
  simp only [isLeapYear, yearAfter, Bool.and_eq_true, Bool.or_eq_true, beq_iff_eq, bne_iff_ne]
  omega

theorem isDay_ofDays (days : Int) : (ofDays days).IsDay := by
  obtain ⟨era, centuries, spans, years, day, isDay, -, parts⟩ := exists_parts days
  obtain ⟨month_le, -, ⟨first, long⟩, short, february⟩ :=
    month_of_day day (Nat.lt_succ_of_le isDay.day_le)
  rw [parts, IsDay]
  dsimp only at *
  generalize (5 * day + 2) / 153 = monthFromMarch at *
  generalize day - (153 * monthFromMarch + 2) / 5 + 1 = dayOfMonth at *
  refine ⟨⟨by split <;> omega, by split <;> omega⟩, first, ?_⟩
  by_cases last : monthFromMarch = 11
  · subst last
    obtain ⟨le, full⟩ := february rfl
    by_cases leap : dayOfMonth = 29
    · have longest := full leap
      subst longest
      simp [daysInMonth, isLeapYear_of_long era isDay, le]
    · have bounded : dayOfMonth ≤ 28 := by omega
      have room : ∀ year, 28 ≤ daysInMonth year 2 := by
        intro year
        cases leap : isLeapYear year <;> simp [daysInMonth, leap]
      exact Nat.le_trans bounded (room _)
  · have other : ∀ monthFromMarch < 11, ∀ year,
        let month := if monthFromMarch < 10 then monthFromMarch + 3 else monthFromMarch - 9
        daysInMonth year month = if monthFromMarch ∈ [1, 3, 6, 8] then 30 else 31 := by
      intro monthFromMarch below year
      interval_cases monthFromMarch <;> rfl
    have length := other monthFromMarch (by omega)
    dsimp only at length
    rw [length]
    split
    · exact short ‹_›
    · exact long

theorem toDays_ofDays (days : Int) : (ofDays days).toDays = days := by
  obtain ⟨era, centuries, spans, years, day, isDay, whole, parts⟩ := exists_parts days
  obtain ⟨month_le, start_le, -⟩ := month_of_day day (Nat.lt_succ_of_le isDay.day_le)
  have below : yearAfter centuries spans years < 400 := by
    obtain ⟨centuries_le, spans_le, years_le, -, -⟩ := isDay
    rw [yearAfter]
    omega
  have first := firstDay_eq isDay
  rw [parts, toDays]
  dsimp only at *
  generalize yearAfter centuries spans years = year at *
  generalize (5 * day + 2) / 153 = monthFromMarch at *
  have cycle : (era * 400 + (year : Int)) / 400 = era := by omega
  have within : ((era * 400 + (year : Int)) % 400).toNat = year := by omega
  by_cases spring : monthFromMarch < 10
  · have late : ¬ monthFromMarch + 3 ≤ 2 := by omega
    have later : 2 < monthFromMarch + 3 := by omega
    simp only [if_pos spring, if_neg late, if_pos later, cycle, within, Nat.add_sub_cancel]
    omega
  · have early : monthFromMarch - 9 ≤ 2 := by omega
    have earlier : ¬ 2 < monthFromMarch - 9 := by omega
    have month : monthFromMarch - 9 + 9 = monthFromMarch := by omega
    simp only [if_neg spring, if_pos early, if_neg earlier, Int.add_sub_cancel, cycle, within,
      month]
    omega

end ProbeWatch.CivilDate
