import ProbeWatch.Proofs.Engine.Budget

/-!
# The interval in force

The interval of a session is held in three places: the timer ticks with it, the listener is told of
it, and the settings show it.  The timer and the listener have it as it was asked for.  The settings
have it in whole milliseconds, as many as a word can hold: a start takes it from there, but a change
of the interval may ask for more than the settings can show.
-/

namespace ProbeWatch

open Engine

/-! ## Whole milliseconds -/

namespace Duration

/-- What the settings show of a duration. -/
def shown (duration : Duration) : Duration := .ofMillis duration.wordMillis

theorem toNat_wordMillis (duration : Duration) :
    duration.wordMillis.toNat = min duration.millis (UInt64.size - 1) := by
  rw [wordMillis]
  split
  · rename_i small
    rw [UInt64.toNat_ofNat_of_lt' small]
    omega
  · rename_i large
    rw [UInt64.toNat_ofNat_of_lt' (by decide)]
    omega

@[simp]
theorem shown_ofMillis (millis : UInt64) : (ofMillis millis).shown = ofMillis millis := by
  refine congrArg ofMillis (UInt64.toNat_inj.mp ?_)
  have small : millis.toNat < UInt64.size := millis.toNat_lt
  have whole : (ofMillis millis).millis = millis.toNat :=
    Nat.mul_div_cancel millis.toNat (by decide)
  rw [toNat_wordMillis, whole]
  omega

theorem shown_le (duration : Duration) : duration.shown ≤ duration := by
  show duration.wordMillis.toNat * 1000000 ≤ duration.nanos
  have le : duration.wordMillis.toNat ≤ duration.nanos / 1000000 := by
    rw [toNat_wordMillis]
    exact Nat.min_le_left _ _
  exact Nat.le_trans (Nat.mul_le_mul_right _ le) (Nat.div_mul_le_self _ _)

/-- The settings show a duration as it is exactly if it is a word of milliseconds. -/
theorem shown_eq_self_iff {duration : Duration} :
    duration.shown = duration ↔ ∃ millis, duration = ofMillis millis := by
  constructor
  · intro same
    exact ⟨_, same.symm⟩
  · rintro ⟨millis, rfl⟩
    exact shown_ofMillis millis

end Duration

/-! ## Announcements -/

/-- The interval that an event tells of. -/
def EngineEvent.interval? : EngineEvent → Option Duration
  | .started period _ => some period
  | .interval period => some period
  | .fetch _ | .expired _ | .stopped => none

/-- The interval that events told of last. -/
def latestInterval? (events : List EngineEvent) : Option Duration :=
  (events.filterMap EngineEvent.interval?).getLast?

theorem latestInterval?_append (events more : List EngineEvent) :
    latestInterval? (events ++ more) = (latestInterval? more).or (latestInterval? events) := by
  rw [latestInterval?, List.filterMap_append, List.getLast?_append]
  rfl

theorem latestInterval?_filter_isHeard (canFetch : Bool) (events : List EngineEvent) :
    latestInterval? (events.filter (EngineEvent.isHeard canFetch)) = latestInterval? events := by
  rw [latestInterval?, latestInterval?, List.filterMap_filter]
  congr 2
  funext event
  cases event with
  | fetch time => exact ite_self none
  | started | interval | expired | stopped => rfl

theorem Arming.filterMap_eventsBy (arming : Arming) (instant : Duration) :
    (arming.eventsBy instant).filterMap EngineEvent.interval? = [] := by
  rw [List.filterMap_eq_nil_iff]
  intro event told
  rcases List.mem_append.mp told with fetched | expired
  · obtain ⟨time, -, rfl⟩ := List.mem_map.mp fetched
    rfl
  · obtain ⟨time, -, rfl⟩ := Option.map_eq_some_iff.mp (Option.mem_toList.mp expired)
    rfl

namespace Timetable

/-- Whether the listener was told last of the interval of the last arming. -/
def IsAnnounced (table : Timetable) : Prop :=
  ∀ arming, table.arming = some arming → latestInterval? table.events = some arming.period

theorem latestInterval?_events (table : Timetable) :
    latestInterval? table.events = latestInterval? table.earlierEvents := by
  rw [latestInterval?, latestInterval?, events, List.filterMap_append]
  cases table.arming with
  | none => simp
  | some arming => rw [Option.elim_some, arming.filterMap_eventsBy, List.append_nil]

/-- Whoever arms the timer announces its interval. -/
theorem IsAnnounced.next {table after : Timetable} (announced : IsAnnounced table)
    {operation : Operation} (followed : table.next? operation = some after) :
    IsAnnounced after := by
  intro arming armed
  rw [latestInterval?_events]
  cases operation with
  | start config =>
      simp only [next?] at followed
      split at followed
      · cases followed
        rw [← latestInterval?_events]
        exact announced arming armed
      · obtain ⟨due, -, rfl⟩ := Option.map_eq_some_iff.mp followed
        cases armed
        rw [latestInterval?_append]
        rfl
  | stop =>
      cases followed
      cases armed
  | setInterval interval =>
      simp only [next?] at followed
      split at followed
      · cases followed
        rw [← latestInterval?_events]
        exact announced arming armed
      · cases inForce : table.inForce? with
        | none =>
            rw [inForce] at followed
            cases followed
            cases armed
        | some former =>
            rw [inForce] at followed
            obtain ⟨due, -, rfl⟩ := Option.map_eq_some_iff.mp followed
            cases armed
            rw [latestInterval?_append]
            rfl
  | advance span =>
      obtain ⟨target, -, moved⟩ := Option.bind_eq_some_iff.mp followed
      split at moved
      · cases moved
        have before := announced arming armed
        rwa [latestInterval?_events] at before
      · cases moved

end Timetable

/-! ## Settings -/

section

variable {canFetch : Bool} {origin : EventChannel} {line : Line Timers} {table : Timetable}

/-- Whether the settings show the interval of the arming in force. -/
def Timetable.IsShown (line : Line Timers) (table : Timetable) : Prop :=
  ∀ arming, table.inForce? = some arming → line.shared.config.interval = arming.period.shown

section

variable {after : Line Timers} {table' : Timetable}

theorem Timetable.IsShown.start (shown : table.IsShown line) {config : PollConfig}
    (performed : perform? line (.start config) = some after)
    (followed : table.next? (.start config) = some table') : table'.IsShown after := by
  intro arming inForce
  have armed := (Timetable.inForce?_eq_some_iff.mp inForce).1
  simp only [perform?, start?, Timetable.next?] at performed followed
  split at performed
  · rename_i zero
    rw [if_pos zero] at followed
    cases performed
    cases followed
    exact shown arming inForce
  · rename_i positive
    rw [if_neg positive] at followed
    obtain ⟨due, -, rfl⟩ := Option.map_eq_some_iff.mp followed
    cases armed
    rw [Option.map_map] at performed
    obtain ⟨⟨accepted, last⟩, ran, rfl⟩ := Option.map_eq_some_iff.mp performed
    have known := run_start config line
    split at known
    · cases ran.symm.trans known
    · obtain ⟨engine, ran', -, -, -, -, -, interval, -⟩ := known
      cases ran.symm.trans ran'
      exact interval.trans (Duration.shown_ofMillis config.intervalMs).symm

theorem Timetable.IsShown.setInterval (keeps : Keeps canFetch origin line table)
    (shown : table.IsShown line) {interval : Duration}
    (performed : perform? line (.setInterval interval) = some after)
    (followed : table.next? (.setInterval interval) = some table') : table'.IsShown after := by
  intro arming inForce
  have armed := (Timetable.inForce?_eq_some_iff.mp inForce).1
  simp only [perform?, setInterval?, Timetable.next?] at performed followed
  obtain ⟨⟨accepted, last⟩, ran, rfl⟩ := Option.map_eq_some_iff.mp performed
  by_cases short : interval < PollConfig.minInterval
  · rw [if_pos short] at followed
    obtain ⟨said, ran'⟩ := run_setInterval_of_lt short line
    cases ran.symm.trans ran'
    cases followed
    exact shown arming inForce
  · rw [if_neg short] at followed
    cases before : table.inForce? with
    | none =>
        rw [before] at followed
        cases followed
        cases armed
    | some former =>
        rw [before] at followed
        obtain ⟨due, -, rfl⟩ := Option.map_eq_some_iff.mp followed
        cases armed
        have running := keeps.phase.trans (Timetable.phase_of_inForce? before)
        have known := run_setInterval_of_running short running
        split at known
        · cases ran.symm.trans known
        · obtain ⟨engine, ran', -, -, -, -, config, -⟩ := known
          cases ran.symm.trans ran'
          show engine.config.interval = interval.shown
          rw [config]
          rfl

/-- Whoever arms the timer puts what the settings can show of its interval there. -/
theorem Timetable.IsShown.next (keeps : Keeps canFetch origin line table)
    (shown : table.IsShown line) {operation : Operation}
    (performed : perform? line operation = some after)
    (followed : table.next? operation = some table') (keeps' : Keeps canFetch origin after table') :
    table'.IsShown after := by
  cases operation with
  | start config => exact shown.start performed followed
  | setInterval interval => exact shown.setInterval keeps performed followed
  | stop =>
      intro arming inForce
      cases followed
      cases (Timetable.inForce?_eq_some_iff.mp inForce).1
  | advance span =>
      intro arming inForce
      have before := Timetable.inForce?_of_advance followed inForce
      cases passes_advance performed with
      | on phase startedAt config =>
          rw [config]
          exact shown arming before
      | expires running expired tick inTime spent =>
          have running' := keeps'.phase.trans (Timetable.phase_of_inForce? inForce)
          cases expired.symm.trans running'

end

/-- What the settings show and what the listener was told last are kept along every run. -/
theorem Keeps.interval_performAll (keeps : Keeps canFetch origin line table)
    (announced : table.IsAnnounced) (shown : table.IsShown line) (operations : List Operation) :
    Option.Rel
      (fun line table => Keeps canFetch origin line table ∧ table.IsAnnounced ∧ table.IsShown line)
      (performAll? operations line) (Timetable.follow? operations table) := by
  refine rel_foldlM (fun line table operation before => ?_) operations line table
    ⟨keeps, announced, shown⟩
  obtain ⟨keeps, announced, shown⟩ := before
  have both := keeps.perform operation
  generalize performed : perform? line operation = reached at both
  generalize followed : table.next? operation = table' at both
  cases both with
  | none => exact .none
  | some keeps' =>
      have shown' := shown.next keeps performed followed keeps'
      exact .some ⟨keeps', announced.next followed, shown'⟩

theorem Keeps.exists_timer (keeps : Keeps canFetch origin line table)
    (running : line.shared.phase = .running) :
    ∃ timer arming, table.inForce? = some arming ∧ line.clock.live = [timer] ∧
      line.shared.timer = some timer.id ∧ timer.period = arming.period := by
  obtain ⟨arming, inForce⟩ := keeps.exists_inForce running
  obtain ⟨id, due, timer, live, -⟩ := (keeps.kept arming inForce).timer
  exact ⟨_, arming, inForce, live, timer, rfl⟩

end

theorem interval_blank {task : String} {config : PollConfig} {canFetch : Bool} {engine : Engine}
    (made : Engine.idle? task config canFetch = some engine) (operations : List Operation) :
    Option.Rel
      (fun line table =>
        Keeps canFetch engine.events line table ∧ table.IsAnnounced ∧ table.IsShown line)
      (performAll? operations ⟨Timers.start, engine⟩)
      (Timetable.follow? operations Timetable.blank) :=
  (keeps_blank made).interval_performAll nofun nofun operations

/-- Whatever was done to an engine, while a session is under way there is one live timer, which is
the engine's own, and its period is the interval that was announced last, when the session started or
the interval was changed; the listener takes that announcement from the channel if there was room
for all that it hears of.  The settings show that interval in whole milliseconds and within a word,
which is never more, and is the interval itself exactly if it is a word of milliseconds. -/
theorem interval_in_force_is_announced {task : String} {config : PollConfig} {canFetch : Bool}
    {engine : Engine} (made : Engine.idle? task config canFetch = some engine)
    {operations : List Operation} {line : Line Timers}
    (reached : performAll? operations ⟨Timers.start, engine⟩ = some line)
    (running : line.shared.phase = .running) :
    ∃ table timer,
      Timetable.follow? operations Timetable.blank = some table ∧
        line.shared.events = engine.events.hear canFetch table.events ∧
        line.shared.drainEvents.1 =
          (table.events.filter (EngineEvent.isHeard canFetch)).take
            (max config.eventChannelCapacity.toNat 1) ∧
        line.clock.live = [timer] ∧ line.shared.timer = some timer.id ∧
        latestInterval? table.events = some timer.period ∧
        ((table.events.filter (EngineEvent.isHeard canFetch)).length ≤
            max config.eventChannelCapacity.toNat 1 →
          latestInterval? line.shared.drainEvents.1 = some timer.period) ∧
        line.shared.config.interval = timer.period.shown ∧
        line.shared.config.interval ≤ timer.period ∧
        (line.shared.config.interval = timer.period ↔ ∃ millis, timer.period = .ofMillis millis) := by
  have both := interval_blank made operations
  rw [reached] at both
  generalize followed : Timetable.follow? operations Timetable.blank = noted at both
  cases both with
  | @some _ table agree =>
      obtain ⟨keeps, announced, shown⟩ := agree
      obtain ⟨timer, arming, inForce, live, stored, period⟩ := keeps.exists_timer running
      have told := announced arming (Timetable.inForce?_eq_some_iff.mp inForce).1
      have set := shown arming inForce
      rw [← period] at told set
      refine ⟨table, timer, rfl, keeps.events, keeps.drained made, live, stored, told, ?_, set, ?_,
        ?_⟩
      · intro room
        rw [keeps.drained made, List.take_of_length_le room, latestInterval?_filter_isHeard, told]
      · rw [set]
        exact timer.period.shown_le
      · rw [set]
        exact Duration.shown_eq_self_iff

/-! ## An interval that the settings cannot show -/

/-- Half a second and nine tenths of a millisecond. -/
def oddInterval : Duration := ⟨500900000, by decide⟩

/-- A session whose interval is changed to one that is no whole number of milliseconds. -/
def refining : List Operation :=
  [.start { intervalMs := 600 }, .advance (.ofMillis 700), .setInterval oddInterval,
    .advance (.ofMillis 1000)]

theorem exists_refined :
    ∃ engine line table,
      Engine.idle? "watch" {} true = some engine ∧
        performAll? refining ⟨Timers.start, engine⟩ = some line ∧
        Keeps true engine.events line table ∧ table.IsAnnounced ∧ table.IsShown line ∧
        line.shared.phase = .running ∧ table.inForce?.map Arming.period = some oddInterval ∧
        Timetable.follow? refining Timetable.blank = some table ∧
        (table.events.filter (EngineEvent.isHeard true)).length = 5 := by
  obtain ⟨engine, made⟩ : ∃ engine, Engine.idle? "watch" {} true = some engine := ⟨_, rfl⟩
  have noted : (Timetable.follow? refining Timetable.blank).map
      (fun table => (table.phase, table.inForce?.map Arming.period,
        (table.events.filter (EngineEvent.isHeard true)).length)) =
        some (.running, some oddInterval, 5) := by
    decide +kernel
  have both := interval_blank made refining
  generalize performed : performAll? refining _ = reached at both
  generalize Timetable.follow? refining Timetable.blank = followed at both noted ⊢
  cases both with
  | none => cases noted
  | some agree =>
      obtain ⟨keeps, announced, shown⟩ := agree
      simp only [Option.map_some, Option.some.injEq, Prod.mk.injEq] at noted
      obtain ⟨running, period, five⟩ := noted
      exact ⟨engine, _, _, made, performed, keeps, announced, shown, keeps.phase.trans running,
        period, rfl, five⟩

theorem interval_of_refined_session :
    ∃ engine line table timer,
      Engine.idle? "watch" {} true = some engine ∧
        performAll? refining ⟨Timers.start, engine⟩ = some line ∧
        line.shared.phase = .running ∧
        Timetable.follow? refining Timetable.blank = some table ∧ line.clock.live = [timer] ∧
        latestInterval? table.events = some timer.period ∧
        latestInterval? line.shared.drainEvents.1 = some timer.period ∧
        line.shared.config.interval = timer.period.shown := by
  obtain ⟨engine, line, noted, made, reached, -, -, -, running, -, follows, five⟩ := exists_refined
  obtain ⟨table, timer, followed, -, -, live, -, told, heard, set, -⟩ :=
    interval_in_force_is_announced made reached running
  obtain rfl := Option.some.inj (follows.symm.trans followed)
  have room : (noted.events.filter (EngineEvent.isHeard true)).length ≤
      max (PollConfig.eventChannelCapacity {}).toNat 1 := by
    rw [five]
    decide
  exact ⟨engine, line, noted, timer, made, reached, running, followed, live, told, heard room, set⟩

/-- The timer ticks every 500.9 milliseconds, of which the listener was told, and the settings show
an interval of 500 milliseconds. -/
theorem shown_interval_is_not_in_force :
    ∃ engine line table timer,
      Engine.idle? "watch" {} true = some engine ∧
        performAll? refining ⟨Timers.start, engine⟩ = some line ∧
        Keeps true engine.events line table ∧ line.shared.phase = .running ∧
        line.clock.live = [timer] ∧ line.shared.timer = some timer.id ∧
        timer.period = oddInterval ∧ latestInterval? table.events = some oddInterval ∧
        line.shared.config.interval = .ofMillis 500 ∧
        line.shared.config.interval ≠ timer.period := by
  obtain ⟨engine, line, table, made, reached, keeps, announced, shown, running, odd, -, -⟩ :=
    exists_refined
  obtain ⟨timer, arming, inForce, live, stored, period⟩ := keeps.exists_timer running
  rw [inForce, Option.map_some, Option.some.injEq] at odd
  have told := announced arming (Timetable.inForce?_eq_some_iff.mp inForce).1
  have set := shown arming inForce
  rw [odd] at told set period
  have half : line.shared.config.interval = .ofMillis 500 := set.trans (by decide)
  refine ⟨engine, line, table, timer, made, reached, keeps, running, live, stored, period, told,
    half, ?_⟩
  rw [half, period]
  decide

end ProbeWatch
