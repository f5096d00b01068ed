import ProbeWatch.Proofs.Engine.Punctuality

/-!
# The lifecycle of an engine

A session begins with a start, and it ends with a stop or with the tick that finds its time budget
used up.  An engine whose session expired has no timer that a stop could cancel; a stop still takes
it back to the phase in which no session was started.
-/

namespace ProbeWatch

namespace Engine

/-! ## The diagram -/

/-- The changes of the phase in the diagram of the lifecycle. -/
inductive LifecycleEdge : PollPhase → Operation → PollPhase → Prop
  | begin {config : PollConfig} (positive : config.intervalMs ≠ 0) :
      LifecycleEdge .idle (.start config) .running
  | resume {config : PollConfig} (positive : config.intervalMs ≠ 0) :
      LifecycleEdge .expired (.start config) .running
  | stop : LifecycleEdge .running .stop .idle
  | expire (span : Duration) : LifecycleEdge .running (.advance span) .expired

/-- Whether an operation starts a session or stops one. -/
def Operation.isDecisive : Operation → Bool
  | .start config => config.intervalMs != 0
  | .stop => true
  | .setInterval _ => false
  | .advance _ => false

/-! ## The passing of time -/

/-- What the passing of time does to an engine by an instant. -/
inductive Passes (target : Duration) (engine after : Engine) : Prop
  /-- The session goes on, or there is none. -/
  | on (phase : after.phase = engine.phase) (startedAt : after.startedAt = engine.startedAt)
      (config : after.config = engine.config)
  /-- A tick finds the time budget used up. -/
  | expires (running : engine.phase = .running) (expired : after.phase = .expired)
      (tick : Duration) (inTime : tick ≤ target) (spent : engine.isSpentAt tick = true)

theorem Passes.trans {target earlier : Duration} {first second third : Engine}
    (le : earlier ≤ target) (early : Passes earlier first second)
    (late : Passes target second third) : Passes target first third := by
  cases early with
  | on phase startedAt config =>
      cases late with
      | on phase' startedAt' config' =>
          exact .on (phase'.trans phase) (startedAt'.trans startedAt) (config'.trans config)
      | expires running expired tick inTime spent =>
          refine .expires (phase ▸ running) expired tick inTime ?_
          rw [isSpentAt, elapsedAt, startedAt, config] at spent
          exact spent
  | expires running expired tick inTime spent =>
      cases late with
      | on phase' _ _ =>
          exact .expires running (phase'.trans expired) tick (Nat.le_trans inTime le) spent
      | expires running' _ _ _ _ => cases running'.symm.trans expired

theorem passes_tick {generation : Nat} {line after : Line Timers}
    (ticked : tick? generation line = some after) :
    Passes line.clock.now line.shared after.shared := by
  obtain ⟨⟨accepted, last⟩, ran, rfl⟩ := Option.map_eq_some_iff.mp ticked
  by_cases current : line.shared.generation = generation ∧ line.shared.phase = .running
  · obtain ⟨rfl, running⟩ := current
    cases spent : line.shared.isSpentAt (Scheduler.now line.clock) with
    | true =>
        obtain ⟨engine, ran', expired, -⟩ := run_tick_of_spent running spent
        cases ran.symm.trans ran'
        exact .expires running expired line.clock.now (Nat.le_refl _) spent
    | false =>
        cases ran.symm.trans (run_tick_of_not_spent running spent)
        obtain ⟨phase, config, startedAt, -⟩ := dispatch_fields line.shared line.clock.now
        exact .on phase startedAt config
  · cases ran.symm.trans (run_tick_of_stale current)
    exact .on rfl rfl rfl

/-- However many ticks an advance plays, one at most of them ends the session. -/
theorem passes_advanceTo {target : Duration} {line after : Line Timers}
    (advanced : Timers.advanceTo reaction target line = some after) :
    Passes target line.shared after.shared := by
  fun_induction Timers.advanceTo reaction target line with
  | case1 line quiet =>
      cases advanced
      exact .on rfl rfl rfl
  | case2 => cases advanced
  | case3 => cases advanced
  | case4 line timer next due sum later fired middle effect ih =>
      exact (passes_tick effect).trans (Timers.earliest?_of_next? next).2 (ih advanced)

theorem passes_advance {span : Duration} {line after : Line Timers}
    (advanced : advance span line = some after) :
    Passes after.clock.now line.shared after.shared := by
  obtain ⟨target, -, reached⟩ := Option.bind_eq_some_iff.mp advanced
  rw [(Timers.now_and_dueBy_advanceTo reached).1]
  exact passes_advanceTo reached

/-! ## Operations -/

section

variable {line after : Line Timers}

theorem phase_start {config : PollConfig} (started : perform? line (.start config) = some after) :
    after.shared.phase = if config.intervalMs = 0 then line.shared.phase else .running := by
  simp only [perform?, start?] at started
  split
  · rename_i zero
    rw [if_pos zero] at started
    cases started
    rfl
  · rename_i positive
    rw [if_neg positive, Option.map_map] at started
    obtain ⟨⟨accepted, last⟩, ran, rfl⟩ := Option.map_eq_some_iff.mp started
    have known := run_start config line
    split at known
    · cases ran.symm.trans known
    · obtain ⟨engine, ran', running, -⟩ := known
      cases ran.symm.trans ran'
      exact running

theorem phase_stop (stopped : perform? line .stop = some after) : after.shared.phase = .idle := by
  obtain ⟨engine, ran, idle, -⟩ := run_stop line
  simp only [perform?, stop?, ran] at stopped
  cases stopped
  exact idle

theorem phase_setInterval {interval : Duration}
    (changed : perform? line (.setInterval interval) = some after) :
    after.shared.phase = line.shared.phase := by
  simp only [perform?, setInterval?] at changed
  obtain ⟨⟨accepted, last⟩, ran, rfl⟩ := Option.map_eq_some_iff.mp changed
  by_cases short : interval < PollConfig.minInterval
  · obtain ⟨said, ran'⟩ := run_setInterval_of_lt short line
    cases ran.symm.trans ran'
    rfl
  · by_cases running : line.shared.phase = .running
    · have known := run_setInterval_of_running short running
      split at known
      · cases ran.symm.trans known
      · obtain ⟨engine, ran', running', -⟩ := known
        cases ran.symm.trans ran'
        exact running'.trans running.symm
    · obtain ⟨engine, ran', phase, -⟩ := run_setInterval_of_not_running short running
      cases ran.symm.trans ran'
      exact phase

/-- An operation changes the phase along an edge of the diagram, or it stops an engine whose session
expired. -/
theorem phase_perform {operation : Operation} (performed : perform? line operation = some after) :
    after.shared.phase = line.shared.phase ∨
      LifecycleEdge line.shared.phase operation after.shared.phase ∨
      (line.shared.phase = .expired ∧ operation = .stop ∧ after.shared.phase = .idle) := by
  cases operation with
  | start config =>
      rw [phase_start performed]
      split
      · exact .inl rfl
      · rename_i positive
        cases line.shared.phase with
        | idle => exact .inr (.inl (.begin positive))
        | running => exact .inl rfl
        | expired => exact .inr (.inl (.resume positive))
  | stop =>
      rw [phase_stop performed]
      cases line.shared.phase with
      | idle => exact .inl rfl
      | running => exact .inr (.inl .stop)
      | expired => exact .inr (.inr ⟨rfl, rfl, rfl⟩)
  | setInterval interval => exact .inl (phase_setInterval performed)
  | advance span =>
      cases passes_advance performed with
      | on phase _ _ => exact .inl phase
      | expires running expired _ _ _ =>
          rw [running, expired]
          exact .inr (.inl (.expire span))

theorem isSpentAt_of_expired {operation : Operation}
    (performed : perform? line operation = some after) (running : line.shared.phase = .running)
    (expired : after.shared.phase = .expired) :
    ∃ tick ≤ after.clock.now, line.shared.isSpentAt tick = true := by
  cases operation with
  | start config =>
      rw [phase_start performed, running, ite_self] at expired
      cases expired
  | stop => cases (phase_stop performed).symm.trans expired
  | setInterval interval =>
      cases running.symm.trans ((phase_setInterval performed).symm.trans expired)
  | advance span =>
      cases passes_advance performed with
      | on phase _ _ => cases running.symm.trans (phase.symm.trans expired)
      | expires _ _ tick inTime spent => exact ⟨tick, inTime, spent⟩

theorem expired_perform {operation : Operation} (idles : operation.isDecisive = false)
    (expired : line.shared.phase = .expired) (performed : perform? line operation = some after) :
    after.shared.phase = .expired := by
  cases operation with
  | start config =>
      rw [phase_start performed, if_pos (by simpa [Operation.isDecisive] using idles)]
      exact expired
  | stop => cases idles
  | setInterval interval => exact (phase_setInterval performed).trans expired
  | advance span =>
      cases passes_advance performed with
      | on phase _ _ => exact phase.trans expired
      | expires running _ _ _ _ => cases running.symm.trans expired

theorem expired_performAll {operations : List Operation}
    (idle : ∀ operation ∈ operations, operation.isDecisive = false)
    (expired : line.shared.phase = .expired)
    (performed : performAll? operations line = some after) : after.shared.phase = .expired := by
  induction operations generalizing line with
  | nil =>
      cases performed
      exact expired
  | cons operation rest ih =>
      rw [performAll?, List.foldlM_cons] at performed
      obtain ⟨middle, first, later⟩ := Option.bind_eq_some_iff.mp performed
      exact ih (fun operation found => idle operation (.tail _ found))
        (expired_perform (idle operation List.mem_cons_self) expired first) later

end

end Engine

/-! ## Reachable engines -/

open Engine

section

variable {canFetch : Bool} {origin : EventChannel} {line : Line Timers} {table : Timetable}

theorem Keeps.phase_of_count_eq_zero (keeps : Keeps canFetch origin line table)
    (none : line.clock.count = 0) : line.shared.phase ≠ .running := by
  intro running
  rw [keeps.count, if_pos running] at none
  cases none

/-- A stop without a live timer cancels nothing and tells nobody; at most the phase changes. -/
theorem Keeps.stop_of_count_eq_zero (keeps : Keeps canFetch origin line table)
    (none : line.clock.count = 0) :
    ∃ after, perform? line .stop = some after ∧ after.clock = line.clock ∧
      after.shared.startedAt = line.shared.startedAt ∧ after.shared.timer = line.shared.timer ∧
      after.shared.config = line.shared.config ∧ after.shared.events = line.shared.events ∧
      after.shared.fetches = line.shared.fetches ∧ after.shared.phase = .idle := by
  have unarmed : table.inForce? = Option.none := by
    cases inForce : table.inForce? with
    | none => rfl
    | some arming =>
        exact absurd (keeps.phase.trans (Timetable.phase_of_inForce? inForce))
          (keeps.phase_of_count_eq_zero none)
  obtain ⟨startedAt, timer, -⟩ := keeps.vacant unarmed
  obtain ⟨engine, ran, idle, startedAt', -, timer', config, -, fetches, events⟩ := run_stop line
  rw [timer] at events
  refine ⟨_, by simp only [perform?, stop?, ran]; rfl, ?_, startedAt'.trans startedAt.symm,
    timer'.trans timer.symm, config, events, fetches, idle⟩
  rw [timer, drop_none]

end

/-- Whatever is done to an engine, its phase changes along the diagram of its lifecycle, with one
exception: a stop takes an engine whose session expired back to where no session was started.  Up to
then it stays expired until the next start, and a stop without a live timer changes nothing else. -/
theorem lifecycle_but_for_stop {task : String} {config : PollConfig} {canFetch : Bool}
    {engine : Engine} (made : Engine.idle? task config canFetch = some engine)
    {operations : List Operation} {line : Line Timers}
    (reached : performAll? operations ⟨Timers.start, engine⟩ = some line) :
    (∀ operation after, perform? line operation = some after →
        (after.shared.phase = line.shared.phase ∨
          LifecycleEdge line.shared.phase operation after.shared.phase ∨
          (line.shared.phase = .expired ∧ operation = .stop ∧ after.shared.phase = .idle)) ∧
        (line.shared.phase = .running → after.shared.phase = .expired →
          ∃ tick ≤ after.clock.now, line.shared.isSpentAt tick = true)) ∧
      (line.shared.phase = .expired →
        ∀ later after, (∀ operation ∈ later, operation.isDecisive = false) →
          performAll? later line = some after → after.shared.phase = .expired) ∧
      (line.clock.count = 0 →
        ∃ after, perform? line .stop = some after ∧ after.clock = line.clock ∧
          after.shared.startedAt = line.shared.startedAt ∧
          after.shared.timer = line.shared.timer ∧ after.shared.config = line.shared.config ∧
          after.shared.events = line.shared.events ∧
          after.shared.fetches = line.shared.fetches ∧ after.shared.phase = .idle ∧
          (after.shared.phase = line.shared.phase ↔ line.shared.phase ≠ .expired)) := by
  obtain ⟨table, -, keeps⟩ := (keeps_blank made).exists_follow? reached
  refine ⟨?edges, ?expired, ?stop⟩
  case edges =>
    intro operation after performed
    exact ⟨phase_perform performed, isSpentAt_of_expired performed⟩
  case expired =>
    intro expired later after idle performed
    exact expired_performAll idle expired performed
  case stop =>
    intro none
    obtain ⟨after, stopped, clock, startedAt, timer, config, events, fetches, idle⟩ :=
      keeps.stop_of_count_eq_zero none
    refine ⟨after, stopped, clock, startedAt, timer, config, events, fetches, idle, ?_⟩
    have resting := keeps.phase_of_count_eq_zero none
    rw [idle]
    cases phase : line.shared.phase with
    | idle => simp
    | running => exact absurd phase resting
    | expired => simp

/-- A session that uses up its time budget at its first tick. -/
def spending : List Operation :=
  [.start { intervalMs := 500, maxDurationMs := 500 }, .advance (.ofMillis 500)]

theorem exists_expired :
    ∃ engine line table,
      Engine.idle? "watch" {} true = some engine ∧
        performAll? spending ⟨Timers.start, engine⟩ = some line ∧
        Timetable.follow? spending Timetable.blank = some table ∧
        Keeps true engine.events line table ∧ line.shared.phase = .expired ∧
        line.clock.count = 0 := by
  obtain ⟨engine, made⟩ : ∃ engine, Engine.idle? "watch" {} true = some engine := ⟨_, rfl⟩
  have shown : (Timetable.follow? spending Timetable.blank).map Timetable.phase =
      some .expired := by
    decide +kernel
  obtain ⟨table, followed, expired⟩ := Option.map_eq_some_iff.mp shown
  obtain ⟨line, performed, keeps⟩ := (keeps_blank made).exists_performAll followed
  have phase : line.shared.phase = .expired := keeps.phase.trans expired
  have count : line.clock.count = 0 := by
    rw [keeps.count, phase, if_neg (by decide)]
  exact ⟨engine, line, table, made, performed, followed, keeps, phase, count⟩

/-- A change of the interval, a start that is refused and a lapse of time leave an engine expired. -/
theorem phase_of_expired_engine :
    ∃ engine line after,
      Engine.idle? "watch" {} true = some engine ∧
        performAll? spending ⟨Timers.start, engine⟩ = some line ∧
        line.shared.phase = .expired ∧ line.clock.count = 0 ∧
        performAll?
            [.setInterval (.ofMillis 700), .start { intervalMs := 0 }, .advance (.ofMillis 9000)]
            line = some after ∧
        after.shared.phase = .expired := by
  obtain ⟨engine, line, table, made, reached, followed, keeps, expired, count⟩ := exists_expired
  have shown : ((Timetable.follow? spending Timetable.blank).bind (Timetable.follow?
      [.setInterval (.ofMillis 700), .start { intervalMs := 0 },
        .advance (.ofMillis 9000)])).isSome := by
    decide +kernel
  rw [followed, Option.bind_some] at shown
  obtain ⟨next, shown⟩ := Option.isSome_iff_exists.mp shown
  obtain ⟨after, performed, -⟩ := keeps.exists_performAll shown
  have stays := (lifecycle_but_for_stop made reached).2.1 expired _ after (by decide) performed
  exact ⟨engine, line, after, made, reached, expired, count, performed, stays⟩

/-- A stop leads from the phase of an expired session to that of no session, which is no edge of the
diagram, although there is no timer to be stopped. -/
theorem stop_leads_from_expired_to_idle :
    ∃ engine line after,
      Engine.idle? "watch" {} true = some engine ∧
        performAll? spending ⟨Timers.start, engine⟩ = some line ∧
        line.shared.phase = .expired ∧ line.clock.count = 0 ∧
        perform? line .stop = some after ∧ after.shared.phase = .idle ∧
        ¬ LifecycleEdge .expired .stop .idle := by
  obtain ⟨engine, line, table, made, reached, -, keeps, expired, count⟩ := exists_expired
  obtain ⟨after, stopped, -, -, -, -, -, -, idle⟩ := keeps.stop_of_count_eq_zero count
  exact ⟨engine, line, after, made, reached, expired, count, stopped, idle, nofun⟩

end ProbeWatch
