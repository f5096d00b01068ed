import ProbeWatch.Proofs.Engine.TaskRun

/-!
# Engines in running programs

An engine does the same in a running program as on a clock that moves only when told, whether its
timers are tasks that are polled in any order or the paced timers that wake at whole milliseconds.
-/

namespace ProbeWatch

open Engine

/-! ## Whole milliseconds -/

/-- Whether a duration has no part that is less than a millisecond. -/
def Duration.IsWhole (duration : Duration) : Prop := 1000000 ∣ duration.nanos

instance (duration : Duration) : Decidable duration.IsWhole :=
  inferInstanceAs (Decidable (1000000 ∣ duration.nanos))

theorem Duration.IsWhole.add? {a b sum : Duration} (whole : a.IsWhole) (whole' : b.IsWhole)
    (added : a.add? b = some sum) : sum.IsWhole := by
  rw [IsWhole, add?_eq_some_iff.mp added]
  exact Nat.dvd_add whole whole'

namespace Paced

theorem wholeMillis_of_dvd {instant : Nat} (whole : 1000000 ∣ instant) :
    wholeMillis instant = instant := by
  unfold wholeMillis
  omega

theorem offset_of_isWhole {instant : Duration} (whole : instant.IsWhole) : offset instant = 0 :=
  Nat.mod_eq_zero_of_dvd whole

theorem waitEnd?_of_isWhole {now span target : Duration} (whole : now.IsWhole)
    (whole' : span.IsWhole) (short : span.nanos ≤ longestWait) (sum : now.add? span = some target)
    (inTime : target.nanos ≤ lastWake) : waitEnd? now span = some target := by
  have total := Duration.add?_eq_some_iff.mp sum
  have shown : instant? target.nanos = some target := by
    have before : target.nanos < horizon := Nat.lt_of_le_of_lt inTime (by decide)
    rw [instant?, if_pos before]
    exact Duration.ofNanos?_eq_some_iff.mpr rfl
  have woken : min (wholeMillis target.nanos) lastWake + offset now = target.nanos := by
    rw [wholeMillis_of_dvd (whole.add? whole' sum), offset_of_isWhole whole,
      Nat.min_eq_left inTime, Nat.add_zero]
  have forward : Duration.max now target = target := if_pos (Timers.le_of_add? sum)
  rw [waitEnd?, Nat.min_eq_left short, ← total, shown, Option.bind_eq_bind, Option.bind_some,
    woken, shown, Option.bind_some, forward]
  rfl

variable {α σ : Type} {reaction : Reaction α σ} {target : Duration} {line : Timeline (Paced α) σ}

/-- A wait before the next deadline fires no tick. -/
theorem advanceTo_of_lt_deadline
    (late : ∀ timer ∈ line.clock.live, target.nanos < timer.deadline) :
    advanceTo reaction target line =
      some { line with clock := { line.clock with now := target } } := by
  rw [advanceTo]
  split
  · rfl
  · rename_i timer first
    rw [dif_neg]
    have early := late timer (earliest?_mem first)
    have wakes := timer.deadline_le_wake
    omega

/-- A wait that reaches the instant at which the only timer wakes goes on after its tick. -/
theorem advanceTo_of_wake {timer : PacedTimer α} (only : line.clock.live = [timer])
    {due : Duration} (wakes : timer.wake + offset target = due.nanos) (inTime : due ≤ target)
    (forward : line.clock.now ≤ due) {after : Timeline (Paced α) σ}
    (effect : reaction.run timer.action { line with clock := line.clock.fire timer due } =
      some after) : advanceTo reaction target line = advanceTo reaction target after := by
  rw [advanceTo]
  split
  · rename_i first
    rw [only] at first
    cases first
  · rename_i other first
    rw [only] at first
    cases first
    have inTime' : timer.wake + offset target ≤ target.nanos := wakes ▸ inTime
    have now : Duration.max line.clock.now ⟨timer.wake + offset target,
        Nat.le_trans inTime' target.nanos_le⟩ = due := by
      have same : (⟨timer.wake + offset target, Nat.le_trans inTime' target.nanos_le⟩ : Duration) =
          due := Duration.ext wakes
      rw [same]
      exact if_pos forward
    rw [dif_pos inTime', now]
    dsimp only
    split
    · rename_i stuck
      rw [effect] at stuck
      cases stuck
    · rename_i reached effect'
      rw [effect] at effect'
      cases effect'
      rfl

end Paced

/-! ## Timetables of whole milliseconds -/

namespace Timetable

variable {table after : Timetable}

theorem clock_le_of_next? {operation : Operation} (follows : table.next? operation = some after) :
    table.clock ≤ after.clock := by
  have stays : table.clock ≤ table.clock := Nat.le_refl _
  cases operation with
  | start config =>
      rw [next?] at follows
      split at follows
      · cases follows
        exact stays
      · obtain ⟨-, -, rfl⟩ := Option.map_eq_some_iff.mp follows
        exact stays
  | stop =>
      cases follows
      exact stays
  | setInterval interval =>
      rw [next?] at follows
      split at follows
      · cases follows
        exact stays
      · split at follows
        · cases follows
          exact stays
        · obtain ⟨-, -, rfl⟩ := Option.map_eq_some_iff.mp follows
          exact stays
  | advance span =>
      obtain ⟨target, sum, follows⟩ := Option.bind_eq_some_iff.mp follows
      split at follows
      · cases follows
        exact Timers.le_of_add? sum
      · cases follows

theorem clock_le_of_follow? {operations : List Operation}
    (followed : follow? operations table = some after) : table.clock ≤ after.clock := by
  induction operations generalizing table with
  | nil =>
      cases followed
      exact Nat.le_refl _
  | cons operation rest ih =>
      rw [follow?, List.foldlM_cons] at followed
      obtain ⟨next, first, others⟩ := Option.bind_eq_some_iff.mp followed
      exact Nat.le_trans (clock_le_of_next? first) (ih others)

/-- Whether the clock of a timetable and the ticks of its last arming are at whole milliseconds. -/
structure IsWhole (table : Timetable) : Prop where
  clock : table.clock.IsWhole
  arming : ∀ arming, table.arming = some arming →
    arming.armedAt.IsWhole ∧ arming.period.IsWhole

end Timetable

/-- Whether an operation keeps to whole milliseconds and, if it moves the clock on, does so by no
more than the longest wait. -/
def Engine.Operation.IsWhole : Operation → Prop
  | .setInterval interval => interval.IsWhole
  | .advance span => span.IsWhole ∧ span.nanos ≤ Paced.longestWait
  | .start _ | .stop => True

instance : DecidablePred Engine.Operation.IsWhole
  | .setInterval interval => inferInstanceAs (Decidable interval.IsWhole)
  | .advance span => inferInstanceAs (Decidable (span.IsWhole ∧ span.nanos ≤ Paced.longestWait))
  | .start _ | .stop => inferInstanceAs (Decidable True)

theorem PollConfig.isWhole_interval (config : PollConfig) : config.interval.IsWhole :=
  Nat.dvd_mul_left _ _

theorem Timetable.IsWhole.next? {table after : Timetable} (whole : table.IsWhole)
    {operation : Operation} (whole' : operation.IsWhole)
    (follows : table.next? operation = some after) : after.IsWhole := by
  have unarmed : ∀ arming : Arming, none = some arming →
      arming.armedAt.IsWhole ∧ arming.period.IsWhole := fun _ armed => by cases armed
  cases operation with
  | start config =>
      rw [Timetable.next?] at follows
      split at follows
      · cases follows
        exact whole
      · obtain ⟨-, -, rfl⟩ := Option.map_eq_some_iff.mp follows
        refine ⟨whole.clock, fun arming armed => ?_⟩
        cases armed
        exact ⟨whole.clock, config.isWhole_interval⟩
  | stop =>
      cases follows
      exact ⟨whole.clock, unarmed⟩
  | setInterval interval =>
      rw [Timetable.next?] at follows
      split at follows
      · cases follows
        exact whole
      · split at follows
        · cases follows
          exact ⟨whole.clock, unarmed⟩
        · obtain ⟨-, -, rfl⟩ := Option.map_eq_some_iff.mp follows
          refine ⟨whole.clock, fun arming armed => ?_⟩
          cases armed
          exact ⟨whole.clock, whole'⟩
  | advance span =>
      obtain ⟨target, sum, follows⟩ := Option.bind_eq_some_iff.mp follows
      split at follows
      · cases follows
        exact ⟨whole.clock.add? whole'.1 sum, whole.arming⟩
      · cases follows

/-! ## Paced timers -/

namespace Engine

section

variable {canFetch : Bool} {origin : EventChannel} {target : Duration} {line : Line Paced}
  {told final : Line Timers} {table : Timetable}

/-- A wait plays the ticks of the advance, each when it is due. -/
theorem exists_advanceTo_paced (beside : Beside ShowsSame line told)
    (keeps : Keeps canFetch origin told table) (whole : table.IsWhole)
    (whole' : target.IsWhole) (leads : Timers.advanceTo reaction target told = some final) :
    ∃ after, Paced.advanceTo pacedReaction target line = some after ∧
      Beside ShowsSame after final := by
  fun_induction Timers.advanceTo reaction target told generalizing line table with
  | case1 told quiet =>
      cases leads
      obtain ⟨shared, -, mirrors⟩ := beside
      exact ⟨_, Paced.advanceTo_of_lt_deadline (mirrors.lt_deadline quiet), shared, rfl,
        mirrors.nextId, mirrors.entries⟩
  | case2 => cases leads
  | case3 => cases leads
  | case4 told first next due sum later fired after effect =>
      rename_i ih
      obtain ⟨earliest, inTime⟩ := Timers.earliest?_of_next? next
      obtain ⟨arming, inForce, only⟩ := keeps.arming_of_earliest? earliest
      obtain ⟨_, effect', keeps'⟩ := keeps.fire inForce only earliest (Nat.le_of_lt later) sum
      rw [effect] at effect'
      cases effect'
      obtain ⟨shared, now, mirrors⟩ := beside
      obtain ⟨timer, live, same⟩ := mirrors.exists_singleton only
      obtain ⟨-, -, -, dues⟩ := keeps.timer inForce only
      have wholeDue : first.due.IsWhole := by
        obtain ⟨armedAt, period⟩ :=
          whole.arming arming (Timetable.inForce?_eq_some_iff.mp inForce).1
        rw [Duration.IsWhole, dues]
        exact Nat.dvd_add armedAt (Nat.dvd_mul_left_of_dvd period _)
      have deadline : timer.deadline = first.due.nanos := congrArg TimerEntry.due same
      have wakes : timer.wake + Paced.offset target = first.due.nanos := by
        rw [PacedTimer.wake, deadline, Paced.wholeMillis_of_dvd wholeDue,
          Paced.offset_of_isWhole whole', Nat.add_zero]
      have forward : line.clock.now ≤ first.due := by
        rw [now]
        exact told.clock.now_le_due first (by simp [only])
      have fired' : Beside ShowsSame
          (⟨line.clock.fire timer first.due, line.shared⟩ : Line Paced)
          (⟨told.clock.fire first earliest due (Nat.le_of_lt later), told.shared⟩ : Line Timers) :=
        ⟨shared, rfl, mirrors.fire only earliest (Nat.le_of_lt later) sum same rfl
          (by simp [Paced.fire, live])⟩
      obtain ⟨ticked, effect', beside'⟩ := fired'.tick? alike_paced effect
      have action : timer.action = first.action := congrArg TimerEntry.action same
      rw [← action] at effect'
      rw [Paced.advanceTo_of_wake live wakes inTime forward effect']
      exact ih beside' keeps' ⟨wholeDue, whole.arming⟩ leads

/-- Every operation at whole milliseconds comes to the same in a running program. -/
theorem exists_performBy_paced (beside : Beside ShowsSame line told)
    (keeps : Keeps canFetch origin told table) (whole : table.IsWhole) {operation : Operation}
    (whole' : operation.IsWhole) (performed : perform? told operation = some final)
    (inTime : final.clock.now.nanos ≤ Paced.lastWake) :
    ∃ after, performBy advancePaced line operation = some after ∧
      Beside ShowsSame after final := by
  rw [← performBy_advance] at performed
  refine beside.performBy alike_paced ?_ performed
  rintro span rfl final' advanced
  cases advanced.symm.trans performed
  obtain ⟨target, sum, leads⟩ := Option.bind_eq_some_iff.mp advanced
  obtain ⟨wholeSpan, short⟩ := whole'
  have wholeNow : told.clock.now.IsWhole := keeps.now ▸ whole.clock
  rw [(Timers.now_and_dueBy_advanceTo leads).1] at inTime
  obtain ⟨after, waits, beside'⟩ :=
    exists_advanceTo_paced beside keeps whole (wholeNow.add? wholeSpan sum) leads
  refine ⟨after, ?_, beside'⟩
  rw [advancePaced, Paced.advance, show line.clock.now = told.clock.now from beside.clock.1,
    Paced.waitEnd?_of_isWhole wholeNow wholeSpan short sum inTime]
  exact waits

/-- Carries out operations one after the other in a running program. -/
def performAllPaced? (operations : List Operation) (line : Line Paced) : Option (Line Paced) :=
  operations.foldlM (performBy advancePaced) line

theorem exists_performAllPaced {operations : List Operation} (beside : Beside ShowsSame line told)
    (keeps : Keeps canFetch origin told table) (whole : table.IsWhole)
    (wholes : ∀ operation ∈ operations, operation.IsWhole)
    (performed : performAll? operations told = some final)
    (inTime : final.clock.now.nanos ≤ Paced.lastWake) :
    ∃ after, performAllPaced? operations line = some after ∧ Beside ShowsSame after final := by
  induction operations generalizing line told table with
  | nil =>
      cases performed
      exact ⟨line, rfl, beside⟩
  | cons operation rest ih =>
      rw [List.forall_mem_cons] at wholes
      obtain ⟨wholeFirst, wholeRest⟩ := wholes
      rw [performAll?, List.foldlM_cons] at performed
      obtain ⟨next, first, others⟩ := Option.bind_eq_some_iff.mp performed
      obtain ⟨table', follows, keeps'⟩ := keeps.exists_perform first
      obtain ⟨shown, followed, keeps''⟩ := keeps'.exists_follow? others
      have inTime' : next.clock.now.nanos ≤ Paced.lastWake := by
        have forward : table'.clock ≤ shown.clock := Timetable.clock_le_of_follow? followed
        rw [← keeps'.now, ← keeps''.now] at forward
        exact Nat.le_trans forward inTime
      obtain ⟨middle, performed', beside'⟩ :=
        exists_performBy_paced beside keeps whole wholeFirst first inTime'
      obtain ⟨after, reached, beside''⟩ :=
        ih beside' keeps' (whole.next? wholeFirst follows) wholeRest others
      refine ⟨after, ?_, beside''⟩
      rw [performAllPaced?, List.foldlM_cons, performed']
      exact reached

end

/-! ## Histories of clocks -/

theorem isKept_reached_timers :
    IsKept fun clock : Timers Nat => ∃ history, Timers.Reached history clock where
  schedule? := by
    rintro clock after period generation id ⟨history, reached⟩ granted
    exact ⟨_, reached.schedule granted⟩
  cancel := by
    rintro clock ⟨history, reached⟩ id
    exact ⟨_, reached.cancel id⟩

theorem exists_reached_of_advanceTo {target : Duration} {line after : Line Timers}
    (reached : ∃ history, Timers.Reached history line.clock)
    (leads : Timers.advanceTo reaction target line = some after) :
    ∃ history, Timers.Reached history after.clock := by
  fun_induction Timers.advanceTo reaction target line with
  | case1 line quiet =>
      cases leads
      obtain ⟨history, reached⟩ := reached
      exact ⟨history, reached.rest quiet⟩
  | case2 => cases leads
  | case3 => cases leads
  | case4 line timer next due sum later fired middle effect ih =>
      obtain ⟨history, reached⟩ := reached
      have first := (Timers.earliest?_of_next? next).1
      have ticked := reached.fire first (Nat.le_of_lt later)
      exact ih (isKept_reached_timers.tick? ⟨_, ticked⟩ effect) leads

theorem exists_reached_of_performAll {operations : List Operation} {line after : Line Timers}
    (reached : ∃ history, Timers.Reached history line.clock)
    (performed : performAll? operations line = some after) :
    ∃ history, Timers.Reached history after.clock := by
  induction operations generalizing line with
  | nil =>
      cases performed
      exact reached
  | cons operation rest ih =>
      rw [performAll?, List.foldlM_cons] at performed
      obtain ⟨next, first, others⟩ := Option.bind_eq_some_iff.mp performed
      refine ih ?_ others
      rcases perform?_cases line operation with ⟨span, rfl⟩ | call
      · obtain ⟨target, -, leads⟩ := Option.bind_eq_some_iff.mp first
        exact exists_reached_of_advanceTo reached leads
      · exact isKept_reached_timers.call? reached (call.symm.trans first)

theorem isKept_reached_runtime :
    IsKept fun clock : Runtime Nat => ∃ history, Runtime.Reached history clock where
  schedule? := by
    rintro clock after period generation id ⟨history, reached⟩ granted
    cases granted
    exact ⟨_, reached.schedule period generation⟩
  cancel := by
    rintro clock ⟨history, reached⟩ id
    exact ⟨_, reached.cancel id⟩

theorem exists_reached_of_stirs {line after : Line Runtime}
    (reached : ∃ history, Runtime.Reached history line.clock)
    (stirs : Relation.ReflTransGen Stirs line after) :
    ∃ history, Runtime.Reached history after.clock := by
  induction stirs with
  | refl => exact reached
  | tail _ last ih =>
      obtain ⟨history, reached⟩ := ih
      cases last with
      | poll polled =>
          exact isKept_reached_runtime.pollTask? polled fun came => ⟨_, reached.poll came⟩
      | pass passes => exact ⟨history, reached.pass passes.1⟩

theorem exists_reached_of_carries {operations : List Operation} {line after : Line Runtime}
    (reached : ∃ history, Runtime.Reached history line.clock)
    (carries : Carries operations line after) : ∃ history, Runtime.Reached history after.clock := by
  induction carries with
  | done line => exact reached
  | advance elapses _ ih => exact ih (exists_reached_of_stirs reached elapses.1)
  | call elapses called _ ih =>
      exact ih (isKept_reached_runtime.call? (exists_reached_of_stirs reached elapses.1) called)

end Engine

/-! ## Agreement -/

theorem level_start {task : String} {config : PollConfig} {canFetch : Bool} {engine : Engine}
    (made : Engine.idle? task config canFetch = some engine) :
    Level ⟨Runtime.start, engine⟩ ⟨Timers.start, engine⟩ :=
  ⟨rfl, ⟨rfl, rfl, rfl⟩, _, _, _, keeps_blank made⟩

/-- Whatever is done to an engine, at whatever times, it does the same in a running program as on a
clock that moves only when told.  However its tasks are polled, as long as every tick takes place
when it is due, each run comes to the same engine at the same time, and no run gets stuck between
operations.  So does a program whose timers wake at whole milliseconds, if the operations keep to
these.  On both clocks a timer never ticks at the instant at which it was scheduled, or after its
handle was cancelled or dropped, however late tasks are polled. -/
theorem tasks_follow_told_clock {task : String} {config : PollConfig} {canFetch : Bool}
    {engine : Engine} (made : Engine.idle? task config canFetch = some engine)
    {operations : List Operation} {told : Line Timers}
    (performed : performAll? operations ⟨Timers.start, engine⟩ = some told) :
    (∀ first later, operations = first ++ later →
        ∀ middle, Carries first ⟨Runtime.start, engine⟩ middle →
          ∃ after, Carries later middle after) ∧
      (∀ after, Carries operations ⟨Runtime.start, engine⟩ after →
        after.shared = told.shared ∧ after.clock.now = told.clock.now ∧
          ∃ history, Runtime.Reached history after.clock) ∧
      ((∀ operation ∈ operations, operation.IsWhole) →
        told.clock.now.nanos ≤ Paced.lastWake →
          ∃ after, performAllPaced? operations ⟨Paced.start, engine⟩ = some after ∧
            after.shared = told.shared ∧ after.clock.now = told.clock.now) ∧
      (∃ history, Timers.Reached history told.clock) ∧
      (∀ history (timers : Timers Nat), Timers.Reached history timers → IsOrderly history) ∧
      ∀ history (runtime : Runtime Nat), Runtime.Reached history runtime → IsOrderly history := by
  have level := level_start made
  refine ⟨?goesOn, ?same, ?paced, ?reached, fun _ _ reached => (Timers.accounts reached).orderly,
    fun _ _ reached => (Runtime.accounts reached).orderly⟩
  case goesOn =>
    rintro first later rfl middle carries
    rw [performAll?, List.foldlM_append] at performed
    obtain ⟨next, earlier, others⟩ := Option.bind_eq_some_iff.mp performed
    exact (level.carries carries earlier).exists_carries others
  case same =>
    intro after carries
    obtain ⟨shared, ⟨now, -⟩, -⟩ := level.carries carries performed
    exact ⟨shared, now, exists_reached_of_carries ⟨_, .start⟩ carries⟩
  case paced =>
    intro wholes inTime
    have whole : Timetable.blank.IsWhole := ⟨Nat.dvd_zero _, fun _ armed => by cases armed⟩
    have beside : Beside ShowsSame (⟨Paced.start, engine⟩ : Line Paced) ⟨Timers.start, engine⟩ :=
      ⟨rfl, rfl, rfl, rfl⟩
    obtain ⟨after, reached, shared, now, -⟩ :=
      exists_performAllPaced beside (keeps_blank made) whole wholes performed inTime
    exact ⟨after, reached, shared, now⟩
  case reached => exact exists_reached_of_performAll ⟨_, .start⟩ performed

/-- A session of five seconds whose interval is changed at the instant of a tick. -/
def changedInterval : List Operation :=
  [.start { intervalMs := 1000, maxDurationMs := 5000 }, .advance (.ofMillis 2000),
    .setInterval (.ofMillis 1500), .advance (.ofMillis 1500), .advance (.ofMillis 3000)]

/-- Such a session can be held in a running program, and fetches when it should. -/
theorem production_of_changed_interval :
    ∃ engine, Engine.idle? "watch" {} true = some engine ∧
      (∃ after, Carries changedInterval ⟨Runtime.start, engine⟩ after ∧
        after.shared.fetches.reverse =
          [.ofMillis 0, .ofMillis 1000, .ofMillis 2000, .ofMillis 3500] ∧
        after.shared.phase = .expired) ∧
      ∃ after, performAllPaced? changedInterval ⟨Paced.start, engine⟩ = some after ∧
        after.shared.fetches.reverse =
          [.ofMillis 0, .ofMillis 1000, .ofMillis 2000, .ofMillis 3500] ∧
        after.shared.phase = .expired := by
  obtain ⟨engine, made⟩ : ∃ engine, Engine.idle? "watch" {} true = some engine := ⟨_, rfl⟩
  have shown :
      (Timetable.follow? changedInterval Timetable.blank).map
          (fun table => (table.fetches, table.phase, table.clock)) =
        some ([.ofMillis 0, .ofMillis 1000, .ofMillis 2000, .ofMillis 3500], .expired,
          .ofMillis 6500) := by
    decide +kernel
  obtain ⟨table, followed, agrees⟩ := Option.map_eq_some_iff.mp shown
  simp only [Prod.mk.injEq] at agrees
  obtain ⟨times, expired, clock⟩ := agrees
  obtain ⟨told, performed, keeps⟩ := (keeps_blank made).exists_performAll followed
  have fetches := keeps.fetches.trans times
  have phase := keeps.phase.trans expired
  have inTime : told.clock.now.nanos ≤ Paced.lastWake := by
    rw [keeps.now, clock]
    decide
  obtain ⟨goesOn, same, paced, -⟩ := tasks_follow_told_clock made performed
  obtain ⟨after, carries⟩ := goesOn [] changedInterval rfl _ (.done _)
  obtain ⟨shared, -⟩ := same after carries
  obtain ⟨after', reached, shared', -⟩ := paced (by decide) inTime
  refine ⟨engine, made, ⟨after, carries, ?_⟩, after', reached, ?_⟩
  · rw [shared]
    exact ⟨fetches, phase⟩
  · rw [shared']
    exact ⟨fetches, phase⟩

end ProbeWatch
