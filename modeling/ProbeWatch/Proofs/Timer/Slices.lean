import ProbeWatch.Proofs.Engine.Operation
import ProbeWatch.Proofs.Timer.Ticks

/-!
# Slices of time

It makes no difference whether a clock is moved on at once or bit by bit, whatever its ticks do to
what they act upon and to the timers.  Where an advance is cut, the clock shows a time at which it
would not have stopped otherwise; but the next tick is found from the timers alone, and sees the
clock at its own due time.
-/

namespace ProbeWatch

variable {α σ : Type}

/-- Adding up may be cut anywhere: either both sums exist, or neither. -/
theorem Duration.add?_assoc (a b c : Duration) :
    (a.add? b).bind (·.add? c) = (b.add? c).bind (a.add? ·) := by
  apply Option.ext
  intro sum
  simp only [Option.bind_eq_some_iff, Duration.add?_eq_some_iff]
  constructor
  · rintro ⟨front, front_eq, sum_eq⟩
    refine ⟨⟨b.nanos + c.nanos, ?_⟩, rfl, by simp only; omega⟩
    have := sum.nanos_le
    omega
  · rintro ⟨back, back_eq, sum_eq⟩
    refine ⟨⟨a.nanos + b.nanos, ?_⟩, rfl, by simp only; omega⟩
    have := sum.nanos_le
    omega

namespace Timers

/-! ## Cutting an advance -/

theorem next?_of_le {timers : Timers α} {earlier later : Duration} (le : earlier ≤ later)
    {timer : Timer α} (next : timers.next? earlier = some timer) :
    timers.next? later = some timer := by
  obtain ⟨first, inTime⟩ := earliest?_of_next? next
  rw [next?, first, Option.filter_some, if_pos]
  exact decide_eq_true (Nat.le_trans inTime le)

/-- What an advance plays does not depend on the time that its clock shows at the start. -/
theorem advanceTo_rest (reaction : Reaction α σ) {earlier : Duration} (later : Duration)
    {line : Timeline (Timers α) σ} (quiet : line.clock.next? earlier = none) :
    advanceTo reaction later { line with clock := line.clock.rest earlier quiet } =
      advanceTo reaction later line := by
  let rested : Timeline (Timers α) σ := { line with clock := line.clock.rest earlier quiet }
  cases next : line.clock.next? later with
  | none =>
      have quiet' : rested.clock.next? later = none := next
      rw [advanceTo_of_quiet line next, advanceTo_of_quiet rested quiet']
      rfl
  | some timer =>
      have next' : rested.clock.next? later = some timer := next
      cases sum : timer.due.add? timer.period with
      | none => rw [advanceTo_of_late line next sum, advanceTo_of_late rested next' sum]
      | some due =>
          rw [advanceTo_of_next line next sum, advanceTo_of_next rested next' sum]
          rfl

theorem advanceTo_trans (reaction : Reaction α σ) {earlier later : Duration} (le : earlier ≤ later)
    (line : Timeline (Timers α) σ) :
    (advanceTo reaction earlier line).bind (advanceTo reaction later) =
      advanceTo reaction later line := by
  -- Up to the earlier time both advances find the same timers, since what is due by then is due by
  -- the later time as well; only the first of them rests there.
  fun_induction advanceTo reaction earlier line with
  | case1 line quiet => exact advanceTo_rest reaction later quiet
  | case2 line timer next late => exact (advanceTo_of_late line (next?_of_le le next) late).symm
  | case3 line timer next due sum forward fired stuck =>
      rw [advanceTo_of_next line (next?_of_le le next) sum]
      exact (congrArg (Option.bind · _) stuck).symm
  | case4 line timer next due sum forward fired after effect ih =>
      rw [advanceTo_of_next line (next?_of_le le next) sum, ih]
      exact (congrArg (Option.bind · _) effect).symm

/-- Two advances one after the other are one, and if one of the clock's sums does not exist there
is no result in either way. -/
theorem advance_add (reaction : Reaction α σ) (a b : Duration) (line : Timeline (Timers α) σ) :
    (advance reaction a line).bind (advance reaction b) =
      (a.add? b).bind fun total => advance reaction total line := by
  have sums := Duration.add?_assoc line.clock.now a b
  calc (advance reaction a line).bind (advance reaction b)
      = (line.clock.now.add? a).bind fun middle =>
          (middle.add? b).bind fun target =>
            (advanceTo reaction middle line).bind (advanceTo reaction target) := by
        rw [advance, Option.bind_assoc]
        congr 1
        funext middle
        cases reached : advanceTo reaction middle line with
        | none => cases middle.add? b <;> rfl
        | some after => rw [Option.bind_some, advance, (now_and_dueBy_advanceTo reached).1]; rfl
    _ = (line.clock.now.add? a).bind fun middle =>
          (middle.add? b).bind fun target => advanceTo reaction target line := by
        congr 1
        funext middle
        cases sum : middle.add? b with
        | none => rfl
        | some target => exact advanceTo_trans reaction (le_of_add? sum) line
    _ = (a.add? b).bind fun total => advance reaction total line := by
        rw [← Option.bind_assoc, sums, Option.bind_assoc]
        rfl

theorem advance_recorded (reaction : Reaction α σ) (step : Duration)
    (line : Timeline (Timers α) (σ × List (α × Duration))) :
    advance reaction.recorded step line =
      (advance reaction.recorded step ⟨line.clock, (line.shared.1, [])⟩).map
        (withRecord line.shared.2) := by
  rw [advance, advance]
  cases line.clock.now.add? step with
  | none => rfl
  | some target =>
      exact advanceTo_recorded reaction target ⟨line.clock, (line.shared.1, [])⟩ line.shared.2

theorem advanceWithTicks_add (reaction : Reaction α σ) (a b : Duration)
    (line : Timeline (Timers α) σ) :
    ((advanceWithTicks reaction a line).bind fun first =>
        (advanceWithTicks reaction b first.1).map fun second =>
          (second.1, first.2 ++ second.2)) =
      (a.add? b).bind fun total => advanceWithTicks reaction total line := by
  have whole : ((a.add? b).bind fun total => advanceWithTicks reaction total line) =
      ((advance reaction.recorded a ⟨line.clock, (line.shared, [])⟩).bind
        (advance reaction.recorded b)).map ofRecord := by
    rw [advance_add, Option.map_bind]
    rfl
  rw [whole, advanceWithTicks]
  cases advance reaction.recorded a ⟨line.clock, (line.shared, [])⟩ with
  | none => rfl
  | some middle =>
      rw [Option.map_some, Option.bind_some, Option.bind_some, advance_recorded reaction b middle,
        advanceWithTicks, Option.map_map, Option.map_map]
      congr 1
      funext after
      simp [ofRecord, withRecord]

theorem advance_slices (reaction : Reaction α σ) (slice : Duration) (slices : List Duration)
    (line : Timeline (Timers α) σ) :
    (slice :: slices).foldlM (fun line span => advance reaction span line) line =
      (slices.foldlM Duration.add? slice).bind fun total => advance reaction total line := by
  induction slices generalizing slice with
  | nil => simp
  | cons next rest ih =>
      have cut : ((slice :: next :: rest).foldlM (fun line span => advance reaction span line) line) =
          ((advance reaction slice line).bind (advance reaction next)).bind fun middle =>
            rest.foldlM (fun line span => advance reaction span line) middle := by
        simp [Option.bind_assoc]
      rw [cut, advance_add, Option.bind_assoc, List.foldlM_cons]
      show _ = ((slice.add? next).bind _).bind _
      rw [Option.bind_assoc]
      congr 1
      funext total
      rw [← ih, List.foldlM_cons]
      rfl

end Timers

open Timers

/-- Whatever the ticks of a clock do, also if they cancel and schedule timers, an advance by one
duration and then by another leads where the advance by their sum leads, with the same ticks at the
same times; and if the clock cannot show what it has to, it cannot in either way.  So an engine does
the same however its time is sliced. -/
theorem slicing_changes_nothing :
    (∀ {α σ : Type} (reaction : Reaction α σ) (line : Timeline (Timers α) σ) (a b : Duration),
      (advance reaction a line).bind (advance reaction b) =
          (a.add? b).bind (fun total => advance reaction total line) ∧
        ((advanceWithTicks reaction a line).bind fun first =>
            (advanceWithTicks reaction b first.1).map fun second =>
              (second.1, first.2 ++ second.2)) =
          (a.add? b).bind fun total => advanceWithTicks reaction total line) ∧
      ∀ (line : Engine.Line Timers) (slice : Duration) (slices : List Duration),
        (slice :: slices).foldlM (fun line span => Engine.advance span line) line =
          (slices.foldlM Duration.add? slice).bind fun total => Engine.advance total line :=
  ⟨fun reaction line a b => ⟨advance_add reaction a b line, advanceWithTicks_add reaction a b line⟩,
    fun line slice slices => advance_slices Engine.reaction slice slices line⟩

end ProbeWatch
