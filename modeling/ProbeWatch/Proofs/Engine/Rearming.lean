import ProbeWatch.Proofs.Engine.Interval

/-!
# Timers that can be armed

A timer can be armed only if the clock can show the time of its first tick.  The interval of a start
is a word of milliseconds, and as long as the clock shows less than the longest of these, it can
show any further word.  A change of the interval takes any duration that is long enough, and so one
that ends beyond what the clock can show.
-/

namespace ProbeWatch

open Engine

/-! ## Sums that the clock can show -/

namespace Duration

/-- The longest duration that is a word of milliseconds. -/
def longestWord : Duration := .ofMillis (UInt64.ofNat (UInt64.size - 1))

/-- The longest duration of all. -/
def longest : Duration := ⟨maxNanos, Nat.le_refl _⟩

theorem ofMillis_le_longestWord (millis : UInt64) : ofMillis millis ≤ longestWord := by
  have below := millis.toNat_lt
  exact Nat.mul_le_mul_right 1000000 (Nat.le_pred_of_lt below)

theorem isSome_add?_iff {a b : Duration} :
    (a.add? b).isSome ↔ a.nanos + b.nanos ≤ maxNanos := by
  rw [add?, ofNanos?]
  split <;> simp_all

theorem nanos_add_le_of_longestWord {a b : Duration} (early : a < longestWord)
    (word : b ≤ longestWord) : a.nanos + b.nanos ≤ maxNanos := by
  have early' : a.nanos < longestWord.nanos := early
  have word' : b.nanos ≤ longestWord.nanos := word
  have room : longestWord.nanos + longestWord.nanos ≤ maxNanos := by decide
  omega

end Duration

/-! ## The one timer -/

/-- Whether there is one live timer, which is the engine's own and was armed for its generation. -/
def Engine.HasOneTimer (line : Line Timers) : Prop :=
  ∃ timer, line.clock.live = [timer] ∧ line.shared.timer = some timer.id ∧
    timer.action = line.shared.generation

section

variable {canFetch : Bool} {origin : EventChannel} {line : Line Timers} {table : Timetable}

theorem Keeps.hasOneTimer (keeps : Keeps canFetch origin line table)
    (running : line.shared.phase = .running) : HasOneTimer line := by
  obtain ⟨arming, inForce⟩ := keeps.exists_inForce running
  obtain ⟨id, due, timer, live, -⟩ := (keeps.kept arming inForce).timer
  exact ⟨_, live, timer, rfl⟩

theorem Keeps.live_eq_nil (keeps : Keeps canFetch origin line table)
    (resting : line.shared.phase ≠ .running) : line.clock.live = [] := by
  cases inForce : table.inForce? with
  | none => exact (keeps.vacant inForce).live
  | some arming =>
      exact absurd (keeps.phase.trans (Timetable.phase_of_inForce? inForce)) resting

/-- An operation comes to its end exactly if the timetable can go on. -/
theorem Keeps.isSome_perform? (keeps : Keeps canFetch origin line table) (operation : Operation) :
    (perform? line operation).isSome = (table.next? operation).isSome := by
  have both := keeps.perform operation
  generalize perform? line operation = reached at both
  generalize table.next? operation = shown at both
  cases both <;> rfl

theorem Keeps.isSome_start?_iff (keeps : Keeps canFetch origin line table) {config : PollConfig}
    (positive : config.intervalMs ≠ 0) :
    (start? config line).isSome ↔ line.clock.now.nanos + config.interval.nanos ≤ maxNanos := by
  have ends := keeps.isSome_perform? (.start config)
  rw [perform?, Option.isSome_map, Timetable.next?, if_neg positive, Option.isSome_map] at ends
  rw [ends, keeps.now, Duration.isSome_add?_iff]

/-- The interval of a session is changed exactly if the clock can show the next tick, and outside a
session in any case. -/
theorem Keeps.isSome_setInterval?_iff (keeps : Keeps canFetch origin line table)
    {interval : Duration} (long : ¬ interval < PollConfig.minInterval) :
    (setInterval? interval line).isSome ↔
      (line.shared.phase = .running → line.clock.now.nanos + interval.nanos ≤ maxNanos) := by
  have ends := keeps.isSome_perform? (.setInterval interval)
  rw [perform?, Option.isSome_map, Timetable.next?, if_neg long] at ends
  rw [ends, keeps.phase, keeps.now]
  cases inForce : table.inForce? with
  | none => simp [Timetable.phase_ne_running inForce]
  | some arming =>
      rw [Option.isSome_map, Duration.isSome_add?_iff]
      simp [Timetable.phase_of_inForce? inForce]

/-- When a timer cannot be armed with the new interval, the one with the old interval is gone by
then, and the session is left without a timer. -/
theorem Keeps.stuck_of_setInterval (keeps : Keeps canFetch origin line table)
    {interval : Duration} (long : ¬ interval < PollConfig.minInterval)
    (running : line.shared.phase = .running)
    (beyond : maxNanos < line.clock.now.nanos + interval.nanos) :
    ∃ (middle stuck : Line Timers) (next last : Call),
      step line (.setInterval interval) = some (next, middle) ∧
        step middle next = some (last, stuck) ∧ step stuck last = none ∧
        stuck.shared.phase = .running ∧ stuck.clock.live = [] := by
  obtain ⟨taken, dropped⟩ := steps_setInterval_of_running long running
  have late : table.clock.add? interval = none := by
    rw [← Option.not_isSome_iff_eq_none, Duration.isSome_add?_iff, ← keeps.now]
    omega
  have refused := keeps.schedule? (minPeriod_le_of_minInterval_le long)
    (line.shared.generation + 1)
  rw [late] at refused
  refine ⟨_, _, _, _, taken, dropped, ?_, running, keeps.live_drop.1⟩
  simp only [step]
  dsimp only at refused
  rw [refused]

end

theorem Engine.accepted_of_setInterval? {interval : Duration}
    (long : ¬ interval < PollConfig.minInterval) {line after : Line Timers} {accepted : Bool}
    (changed : setInterval? interval line = some (accepted, after)) : accepted = true := by
  by_cases running : line.shared.phase = .running
  · have known := run_setInterval_of_running long running
    split at known
    · cases changed.symm.trans known
    · obtain ⟨engine, ran, -⟩ := known
      cases changed.symm.trans ran
      rfl
  · obtain ⟨engine, ran, -⟩ := run_setInterval_of_not_running long running
    cases changed.symm.trans ran
    rfl

/-- While the clock shows less than the longest word of milliseconds, every session that may start
does so, and every interval that is long enough is accepted, as long as the clock can show the next
tick or no session is under way; any word of milliseconds qualifies.  Afterwards a session under way
has one live timer, armed for the current generation, and without one there is no timer. -/
theorem accepted_intervals_leave_one_timer {task : String} {config : PollConfig} {canFetch : Bool}
    {engine : Engine} (made : Engine.idle? task config canFetch = some engine)
    {operations : List Operation} {line : Line Timers}
    (reached : performAll? operations ⟨Timers.start, engine⟩ = some line)
    (early : line.clock.now < .longestWord) :
    (∀ settings : PollConfig, settings.intervalMs ≠ 0 →
        ∃ after, start? settings line = some (.ok (), after) ∧
          after.shared.phase = .running ∧ HasOneTimer after) ∧
      ∀ interval, ¬ interval < PollConfig.minInterval →
        ((setInterval? interval line).isSome ↔
            (line.shared.phase = .running →
              line.clock.now.nanos + interval.nanos ≤ maxNanos)) ∧
          (interval ≤ .longestWord → (setInterval? interval line).isSome) ∧
          ∀ accepted after, setInterval? interval line = some (accepted, after) →
            accepted = true ∧ after.shared.phase = line.shared.phase ∧
              (after.shared.phase = .running → HasOneTimer after) ∧
              (after.shared.phase ≠ .running → after.clock.live = []) := by
  obtain ⟨table, -, keeps⟩ := (keeps_blank made).exists_follow? reached
  constructor
  · intro settings positive
    have room : line.clock.now.nanos + settings.interval.nanos ≤ maxNanos :=
      Duration.nanos_add_le_of_longestWord early (Duration.ofMillis_le_longestWord _)
    obtain ⟨⟨outcome, after⟩, started⟩ :=
      Option.isSome_iff_exists.mp ((keeps.isSome_start?_iff positive).mpr room)
    have accepted : outcome = .ok () := by
      rw [start?, if_neg positive] at started
      obtain ⟨_, -, same⟩ := Option.map_eq_some_iff.mp started
      exact (congrArg Prod.fst same).symm
    subst accepted
    have performed : perform? line (.start settings) = some after := by
      rw [perform?, started, Option.map_some]
    obtain ⟨shown, -, keeps'⟩ := keeps.exists_perform performed
    have running : after.shared.phase = .running := by
      rw [phase_start performed, if_neg positive]
    exact ⟨after, started, running, keeps'.hasOneTimer running⟩
  · intro interval long
    have ends := keeps.isSome_setInterval?_iff long
    refine ⟨ends, fun word => ?_, fun accepted after changed => ?_⟩
    · exact ends.mpr fun _ => Duration.nanos_add_le_of_longestWord early word
    · have performed : perform? line (.setInterval interval) = some after := by
        rw [perform?, changed, Option.map_some]
      obtain ⟨shown, -, keeps'⟩ := keeps.exists_perform performed
      exact ⟨accepted_of_setInterval? long changed, phase_setInterval performed,
        keeps'.hasOneTimer, keeps'.live_eq_nil⟩

/-! ## An interval that ends beyond the clock -/

/-- A session that is a millisecond old. -/
def startedAMillisecondAgo : List Operation :=
  [.start { intervalMs := 600 }, .advance (.ofMillis 1)]

theorem exists_startedAMillisecondAgo :
    ∃ engine line table,
      Engine.idle? "watch" {} true = some engine ∧
        performAll? startedAMillisecondAgo ⟨Timers.start, engine⟩ = some line ∧
        Keeps true engine.events line table ∧ line.clock.now = .ofMillis 1 ∧
        line.shared.phase = .running := by
  obtain ⟨engine, made⟩ : ∃ engine, Engine.idle? "watch" {} true = some engine := ⟨_, rfl⟩
  have shown : (Timetable.follow? startedAMillisecondAgo Timetable.blank).map
      (fun table => (table.clock, table.phase)) = some (.ofMillis 1, .running) := by
    decide +kernel
  obtain ⟨table, followed, same⟩ := Option.map_eq_some_iff.mp shown
  obtain ⟨clock, running⟩ := Prod.mk.inj same
  obtain ⟨line, performed, keeps⟩ := (keeps_blank made).exists_performAll followed
  exact ⟨engine, line, table, made, performed, keeps, keeps.now.trans clock,
    keeps.phase.trans running⟩

/-- The session goes on with an interval that takes the clock to the end of what it can show. -/
theorem timer_of_last_interval :
    ∃ engine line after,
      Engine.idle? "watch" {} true = some engine ∧
        performAll? startedAMillisecondAgo ⟨Timers.start, engine⟩ = some line ∧
        line.clock.now < .longestWord ∧
        ¬ Duration.longest.sub (.ofMillis 1) < PollConfig.minInterval ∧
        setInterval? (Duration.longest.sub (.ofMillis 1)) line = some (true, after) ∧
        HasOneTimer after := by
  obtain ⟨engine, line, table, made, reached, keeps, now, running⟩ := exists_startedAMillisecondAgo
  have early : line.clock.now < .longestWord := by
    rw [now]
    decide
  have long : ¬ Duration.longest.sub (.ofMillis 1) < PollConfig.minInterval := by decide
  have room : line.clock.now.nanos + (Duration.longest.sub (.ofMillis 1)).nanos ≤ maxNanos := by
    rw [now]
    decide
  obtain ⟨ends, -, leaves⟩ := (accepted_intervals_leave_one_timer made reached early).2 _ long
  obtain ⟨⟨accepted, after⟩, changed⟩ := Option.isSome_iff_exists.mp (ends.mpr fun _ => room)
  obtain ⟨rfl, phase, one, -⟩ := leaves accepted after changed
  exact ⟨engine, line, after, made, reached, early, long, changed, one (phase.trans running)⟩

/-- The longest duration of all is long enough to be accepted, but no timer can be armed with it
once the clock has moved, and the session is left running without one. -/
theorem longest_interval_breaks_session :
    ∃ engine line,
      Engine.idle? "watch" {} true = some engine ∧
        performAll? startedAMillisecondAgo ⟨Timers.start, engine⟩ = some line ∧
        line.clock.now < .longestWord ∧ line.shared.phase = .running ∧
        ¬ Duration.longest < PollConfig.minInterval ∧
        setInterval? .longest line = none ∧
        ∃ (middle stuck : Line Timers) (next last : Call),
          step line (.setInterval .longest) = some (next, middle) ∧
            step middle next = some (last, stuck) ∧ step stuck last = none ∧
            stuck.shared.phase = .running ∧ stuck.clock.live = [] := by
  obtain ⟨engine, line, table, made, reached, keeps, now, running⟩ := exists_startedAMillisecondAgo
  have long : ¬ Duration.longest < PollConfig.minInterval := by decide
  have beyond : maxNanos < line.clock.now.nanos + Duration.longest.nanos := by
    rw [now]
    decide
  refine ⟨engine, line, made, reached, by rw [now]; decide, running, long, ?_,
    keeps.stuck_of_setInterval long running beyond⟩
  rw [← Option.not_isSome_iff_eq_none, keeps.isSome_setInterval?_iff long]
  exact fun room => Nat.not_le_of_lt beyond (room running)

end ProbeWatch
