import ProbeWatch.Proofs.Engine.Timetable

/-!
# Punctuality

An engine on a clock that moves only when told keeps its timetable: after any operations, in any
order, its fetches, its events and its phase are those that the timetable shows.
-/

namespace ProbeWatch

open Engine

/-! ## Timetables whose clock moves -/

namespace Timetable

theorem phase_of_inForce? {table : Timetable} {arming : Arming}
    (inForce : table.inForce? = some arming) : table.phase = .running := by
  obtain ⟨last, going⟩ := Option.filter_eq_some_iff.mp inForce
  rw [phase, last]
  simp_all

theorem phase_ne_running {table : Timetable} (none : table.inForce? = none) :
    table.phase ≠ .running := by
  rw [inForce?] at none
  rw [phase]
  split
  · split <;> simp
  · simp_all [Option.filter_some]

theorem inForce?_eq_some_iff {table : Timetable} {arming : Arming} :
    table.inForce? = some arming ↔
      table.arming = some arming ∧ arming.expiry? table.clock = none := by
  simp [inForce?, Option.filter_eq_some_iff]

theorem armed_fields {arming : Arming} {clock : Duration} (armed : arming.armedAt = clock)
    (hadExpired : Bool) (fetches : List Duration) (events : List EngineEvent) :
    (mk clock (some arming) hadExpired fetches events).fetches = fetches ∧
      (mk clock (some arming) hadExpired fetches events).events = events ∧
      (mk clock (some arming) hadExpired fetches events).inForce? = some arming ∧
      (mk clock (some arming) hadExpired fetches events).hasRoomBy clock = true := by
  have none : arming.ticksBy clock = [] :=
    Arming.ticksBy_of_laps_eq_zero (by simp [Arming.laps, armed])
  simp [Timetable.fetches, Timetable.events, inForce?, hasRoomBy, Arming.fetchesBy,
    Arming.eventsBy, Arming.playedBy, Arming.expiry?, none, Option.filter_some]

theorem unarmed_fields (clock : Duration) (hadExpired : Bool) (fetches : List Duration)
    (events : List EngineEvent) :
    (mk clock none hadExpired fetches events).fetches = fetches ∧
      (mk clock none hadExpired fetches events).events = events ∧
      (mk clock none hadExpired fetches events).inForce? = none ∧
      (mk clock none hadExpired fetches events).hasRoomBy clock = true := by
  simp [Timetable.fetches, Timetable.events, inForce?, hasRoomBy]

theorem moved_fields {table : Timetable} {instant : Duration}
    (same : ∀ arming, table.arming = some arming →
      arming.expiry? instant = arming.expiry? table.clock ∧
        arming.fetchesBy instant = arming.fetchesBy table.clock) :
    { table with clock := instant }.fetches = table.fetches ∧
      { table with clock := instant }.events = table.events ∧
      { table with clock := instant }.phase = table.phase ∧
      { table with clock := instant }.inForce? = table.inForce? ∧
      table.hasRoomBy instant = table.hasRoomBy table.clock := by
  cases last : table.arming with
  | none =>
      simp [Timetable.fetches, Timetable.events, Timetable.phase, inForce?, hasRoomBy, last]
  | some arming =>
      obtain ⟨expiry, fetches⟩ := same arming last
      simp [Timetable.fetches, Timetable.events, Timetable.phase, inForce?, hasRoomBy, last,
        Arming.eventsBy, Arming.playedBy, Option.filter_some, expiry, fetches]

end Timetable

/-! ## Keeping a timetable -/

/-- Nothing is under way. -/
structure IsVacant (line : Line Timers) : Prop where
  startedAt : line.shared.startedAt = none
  timer : line.shared.timer = none
  live : line.clock.live = []

/-- The only timer is the one of an arming, and its next tick is the end of the current period. -/
structure Arming.IsKept (arming : Arming) (line : Line Timers) : Prop where
  startedAt : line.shared.startedAt = some arming.startedAt
  budget : line.shared.config.maxDuration? = arming.budget
  armedAt_le : arming.armedAt ≤ line.clock.now
  timer : ∃ id due, line.shared.timer = some id ∧
    line.clock.live = [⟨id, arming.period, due, line.shared.generation⟩] ∧
    due.nanos = arming.armedAt.nanos + (arming.laps line.clock.now + 1) * arming.period.nanos

/-- An engine has done what a timetable shows, from the time when its channel was at `origin`. -/
structure Keeps (canFetch : Bool) (origin : EventChannel) (line : Line Timers)
    (table : Timetable) : Prop where
  able : line.shared.canFetch = canFetch
  now : line.clock.now = table.clock
  phase : line.shared.phase = table.phase
  fetches : line.shared.fetches.reverse = if canFetch then table.fetches else []
  events : line.shared.events = origin.hear canFetch table.events
  hasRoom : table.hasRoomBy table.clock = true
  vacant : table.inForce? = none → IsVacant line
  kept : ∀ arming, table.inForce? = some arming → arming.IsKept line

section

variable {canFetch : Bool} {origin : EventChannel} {line : Line Timers} {table : Timetable}

theorem Keeps.live_drop (keeps : Keeps canFetch origin line table) :
    (line.drop line.shared.timer).clock.live = [] ∧
      (line.drop line.shared.timer).clock.now = table.clock := by
  cases inForce : table.inForce? with
  | none =>
      have vacant := keeps.vacant inForce
      rw [vacant.timer, drop_none]
      exact ⟨vacant.live, keeps.now⟩
  | some arming =>
      obtain ⟨id, due, timer, live, -⟩ := (keeps.kept arming inForce).timer
      rw [timer]
      exact ⟨Timers.live_cancel_of_live_eq_singleton live, keeps.now⟩

theorem Keeps.isSome_timer (keeps : Keeps canFetch origin line table) :
    line.shared.timer.isSome = decide (table.phase = .running) := by
  cases inForce : table.inForce? with
  | none =>
      simp [(keeps.vacant inForce).timer, Timetable.phase_ne_running inForce]
  | some arming =>
      obtain ⟨id, due, timer, live, -⟩ := (keeps.kept arming inForce).timer
      simp [timer, Timetable.phase_of_inForce? inForce]

/-! ## Operations without ticks -/

theorem Keeps.schedule? (keeps : Keeps canFetch origin line table) {interval : Duration}
    (long : minPeriod ≤ interval) (generation : Nat) :
    match table.clock.add? interval with
    | none =>
        Scheduler.schedule? (line.drop line.shared.timer).clock interval generation = none
    | some due =>
        ∃ id clock,
          Scheduler.schedule? (line.drop line.shared.timer).clock interval generation =
              some (id, clock) ∧
            clock.now = table.clock ∧ clock.live = [⟨id, interval, due, generation⟩] := by
  obtain ⟨live, now⟩ := keeps.live_drop
  have made := Timers.schedule?_eq (line.drop line.shared.timer).clock long generation
  rw [now] at made
  split
  · rename_i late
    rw [late] at made
    exact made
  · rename_i due sum
    rw [sum] at made
    obtain ⟨after, scheduled, now', live'⟩ := made
    exact ⟨_, after, scheduled, now', by rw [live', live]; rfl⟩

/-- A timetable is kept from the moment at which the timer is armed. -/
theorem Arming.isKept_of_armed {arming : Arming} {id : Nat} {due : Duration}
    (startedAt : line.shared.startedAt = some arming.startedAt)
    (budget : line.shared.config.maxDuration? = arming.budget)
    (armed : line.clock.now = arming.armedAt) (timer : line.shared.timer = some id)
    (live : line.clock.live = [⟨id, arming.period, due, line.shared.generation⟩])
    (sum : arming.armedAt.add? arming.period = some due) : arming.IsKept line where
  startedAt := startedAt
  budget := budget
  armedAt_le := by rw [armed]; exact Nat.le_refl _
  timer := by
    refine ⟨id, due, timer, live, ?_⟩
    rw [Duration.add?_eq_some_iff.mp sum]
    simp [Arming.laps, armed]

theorem Keeps.of_armed {arming : Arming} {clock : Duration} {hadExpired : Bool}
    {fetches : List Duration} {events : List EngineEvent} (armed : arming.armedAt = clock)
    (able : line.shared.canFetch = canFetch) (now : line.clock.now = clock)
    (phase : line.shared.phase = .running)
    (fetches_eq : line.shared.fetches.reverse = if canFetch then fetches else [])
    (events_eq : line.shared.events = origin.hear canFetch events)
    (kept : arming.IsKept line) :
    Keeps canFetch origin line ⟨clock, some arming, hadExpired, fetches, events⟩ := by
  obtain ⟨hfetches, hevents, inForce, hasRoom⟩ :=
    Timetable.armed_fields armed hadExpired fetches events
  refine ⟨able, now, ?phase, ?fetches, ?events, hasRoom, ?vacant, ?kept⟩
  case phase =>
    rw [phase, Timetable.phase_of_inForce? inForce]
  case fetches =>
    rw [hfetches, fetches_eq]
  case events =>
    rw [hevents, events_eq]
  case vacant =>
    rw [inForce]
    intro none
    cases none
  case kept =>
    intro arming' same
    rw [inForce, Option.some.injEq] at same
    rw [← same]
    exact kept

theorem Keeps.of_unarmed {clock : Duration} {hadExpired : Bool} {fetches : List Duration}
    {events : List EngineEvent} (able : line.shared.canFetch = canFetch)
    (now : line.clock.now = clock)
    (phase : line.shared.phase = if hadExpired then .expired else .idle)
    (fetches_eq : line.shared.fetches.reverse = if canFetch then fetches else [])
    (events_eq : line.shared.events = origin.hear canFetch events) (vacant : IsVacant line) :
    Keeps canFetch origin line ⟨clock, none, hadExpired, fetches, events⟩ := by
  obtain ⟨hfetches, hevents, inForce, hasRoom⟩ :=
    Timetable.unarmed_fields clock hadExpired fetches events
  refine ⟨able, now, phase, ?_, ?_, hasRoom, fun _ => vacant, ?_⟩
  · rw [hfetches, fetches_eq]
  · rw [hevents, events_eq]
  · rw [inForce]
    intro arming some
    cases some

theorem Keeps.start (keeps : Keeps canFetch origin line table) (config : PollConfig) :
    Option.Rel (Keeps canFetch origin) (perform? line (.start config))
      (table.next? (.start config)) := by
  simp only [perform?, start?, Timetable.next?]
  split
  · exact .some keeps
  · rename_i positive
    have ran := run_start config line
    have made := keeps.schedule? (PollConfig.minPeriod_le_interval positive)
      (line.shared.generation + 1)
    cases sum : table.clock.add? config.interval with
    | none =>
        rw [sum] at made
        dsimp only at made
        rw [made] at ran
        dsimp only at ran
        rw [ran]
        exact .none
    | some due =>
        rw [sum] at made
        obtain ⟨id, clock, scheduled, now, live⟩ := made
        rw [scheduled] at ran
        obtain ⟨engine, ran, phase, startedAt, generation, timer, budget, interval, able, fetches,
          events⟩ := ran
        rw [ran]
        have shown : Scheduler.now line.clock = table.clock := keeps.now
        rw [keeps.able, shown] at fetches events
        rw [shown] at startedAt
        refine .some (.of_armed rfl (able.trans keeps.able) now phase ?fetches ?events ?kept)
        case fetches =>
          show engine.fetches.reverse = _
          rw [fetches]
          have before := keeps.fetches
          cases canFetch <;> simp_all
        case events =>
          show engine.events = _
          rw [events, keeps.events, EventChannel.hear_append]
          cases canFetch <;> rfl
        case kept =>
          rw [← generation] at live
          show Arming.IsKept _ (⟨clock, engine⟩ : Line Timers)
          exact Arming.isKept_of_armed startedAt budget now timer live sum

theorem Keeps.stop (keeps : Keeps canFetch origin line table) :
    Option.Rel (Keeps canFetch origin) (perform? line .stop) (table.next? .stop) := by
  obtain ⟨engine, ran, phase, startedAt, generation, timer, config, able, fetches, events⟩ :=
    run_stop line
  obtain ⟨live, now⟩ := keeps.live_drop
  simp only [perform?, stop?, Timetable.next?, ran]
  refine .some (.of_unarmed (able.trans keeps.able) now phase ?fetches ?events
    ⟨startedAt, timer, live⟩)
  case fetches =>
    show engine.fetches.reverse = _
    rw [fetches, keeps.fetches]
  case events =>
    show engine.events = _
    rw [events, keeps.isSome_timer, keeps.events]
    by_cases running : table.phase = .running
    · rw [decide_eq_true running, if_pos rfl, if_pos running, EventChannel.hear_append]
      rfl
    · simp [running]

section

variable {interval : Duration}

theorem Keeps.setInterval_of_lt (keeps : Keeps canFetch origin line table)
    (short : interval < PollConfig.minInterval) :
    Option.Rel (Keeps canFetch origin) (perform? line (.setInterval interval))
      (table.next? (.setInterval interval)) := by
  obtain ⟨said, ran⟩ := run_setInterval_of_lt short line
  simp only [perform?, setInterval?, Timetable.next?, if_pos short, ran]
  refine .some ⟨keeps.able, keeps.now, keeps.phase, keeps.fetches, keeps.events, keeps.hasRoom,
    fun none => ?_, fun arming inForce => ?_⟩
  · obtain ⟨startedAt, timer, live⟩ := keeps.vacant none
    exact ⟨startedAt, timer, live⟩
  · obtain ⟨startedAt, budget, armedAt_le, timer⟩ := keeps.kept arming inForce
    exact ⟨startedAt, budget, armedAt_le, timer⟩

theorem Keeps.setInterval_of_none (keeps : Keeps canFetch origin line table)
    (long : ¬ interval < PollConfig.minInterval) (inForce : table.inForce? = none) :
    Option.Rel (Keeps canFetch origin) (perform? line (.setInterval interval))
      (table.next? (.setInterval interval)) := by
  have resting := Timetable.phase_ne_running inForce
  obtain ⟨startedAt, timer, live⟩ := keeps.vacant inForce
  obtain ⟨engine, ran, phase', startedAt', generation, timer', able, fetches, events⟩ :=
    run_setInterval_of_not_running long (keeps.phase ▸ resting)
  simp only [perform?, setInterval?, Timetable.next?, if_neg long, inForce, ran]
  refine .some (.of_unarmed (able.trans keeps.able) keeps.now ?phase ?fetches ?events
    ⟨startedAt'.trans startedAt, timer'.trans timer, live⟩)
  case phase =>
    show engine.phase = _
    rw [phase', keeps.phase]
    cases going : table.phase <;> simp_all
  case fetches =>
    show engine.fetches.reverse = _
    rw [fetches, keeps.fetches]
  case events =>
    show engine.events = _
    rw [events, keeps.events, EventChannel.hear_append]
    rfl

theorem Keeps.setInterval_of_inForce (keeps : Keeps canFetch origin line table)
    (long : ¬ interval < PollConfig.minInterval) {arming : Arming}
    (inForce : table.inForce? = some arming) :
    Option.Rel (Keeps canFetch origin) (perform? line (.setInterval interval))
      (table.next? (.setInterval interval)) := by
  have running := Timetable.phase_of_inForce? inForce
  have ran := run_setInterval_of_running long (keeps.phase.trans running)
  have made := keeps.schedule? (minPeriod_le_of_minInterval_le long) (line.shared.generation + 1)
  simp only [perform?, setInterval?, Timetable.next?, if_neg long, inForce]
  cases sum : table.clock.add? interval with
  | none =>
      rw [sum] at made
      dsimp only at made
      rw [made] at ran
      dsimp only at ran
      rw [ran]
      exact .none
  | some due =>
      rw [sum] at made
      obtain ⟨id, clock, scheduled, now, live⟩ := made
      rw [scheduled] at ran
      obtain ⟨engine, ran, phase, startedAt, generation, timer, config, able, fetches, events⟩ :=
        ran
      obtain ⟨startedAt', budget, -, -⟩ := keeps.kept arming inForce
      rw [ran]
      refine .some (.of_armed rfl (able.trans keeps.able) now phase ?fetches ?events ?kept)
      case fetches =>
        show engine.fetches.reverse = _
        rw [fetches, keeps.fetches]
      case events =>
        show engine.events = _
        rw [events, keeps.events, EventChannel.hear_append]
        rfl
      case kept =>
        rw [← generation] at live
        show Arming.IsKept _ (⟨clock, engine⟩ : Line Timers)
        refine Arming.isKept_of_armed (startedAt.trans startedAt') ?_ now timer live sum
        show engine.config.maxDuration? = _
        rw [config]
        exact budget

theorem Keeps.setInterval (keeps : Keeps canFetch origin line table) (interval : Duration) :
    Option.Rel (Keeps canFetch origin) (perform? line (.setInterval interval))
      (table.next? (.setInterval interval)) := by
  by_cases short : interval < PollConfig.minInterval
  · exact keeps.setInterval_of_lt short
  · cases inForce : table.inForce? with
    | none => exact keeps.setInterval_of_none short inForce
    | some arming => exact keeps.setInterval_of_inForce short inForce

end

/-! ## Ticks -/

theorem Keeps.positive (keeps : Keeps canFetch origin line table) {arming : Arming}
    (inForce : table.inForce? = some arming) : 0 < arming.period.nanos := by
  obtain ⟨id, due, -, live, -⟩ := (keeps.kept arming inForce).timer
  have long : minPeriod.nanos ≤ arming.period.nanos :=
    line.clock.minPeriod_le ⟨id, arming.period, due, line.shared.generation⟩ (by simp [live])
  have positive : 0 < minPeriod.nanos := by decide
  omega

theorem Keeps.rest (keeps : Keeps canFetch origin line table) {target : Duration}
    (forward : table.clock ≤ target) (quiet : line.clock.next? target = none) :
    Keeps canFetch origin { line with clock := line.clock.rest target quiet }
        { table with clock := target } ∧
      table.hasRoomBy target = true := by
  have laps : ∀ arming, table.inForce? = some arming →
      arming.laps target = arming.laps table.clock := by
    intro arming inForce
    obtain ⟨id, due, -, live, next⟩ := (keeps.kept arming inForce).timer
    have armedAt_le := (keeps.kept arming inForce).armedAt_le
    rw [keeps.now] at next armedAt_le
    rw [Timers.next?_of_live_eq_singleton live] at quiet
    have later : ¬ due ≤ target := by simpa using quiet
    exact Arming.laps_of_lt_next (keeps.positive inForce) armedAt_le forward
      (Nat.lt_of_not_le later) next
  obtain ⟨fetches, events, phase, inForce, hasRoom⟩ :=
    @Timetable.moved_fields table target fun arming last => by
      cases expiry : arming.expiry? table.clock with
      | none =>
          have same := laps arming (Timetable.inForce?_eq_some_iff.mpr ⟨last, expiry⟩)
          rw [← expiry]
          exact Arming.played_congr same
      | some time => exact Arming.expired_stays forward expiry
  rw [keeps.hasRoom] at hasRoom
  refine ⟨⟨keeps.able, rfl, ?phase, ?fetches, ?events, hasRoom, ?vacant, ?kept⟩, hasRoom⟩
  case phase =>
    rw [phase, ← keeps.phase]
  case fetches =>
    rw [fetches, ← keeps.fetches]
  case events =>
    rw [events, ← keeps.events]
  case vacant =>
    rw [inForce]
    intro none
    obtain ⟨startedAt, timer, live⟩ := keeps.vacant none
    exact ⟨startedAt, timer, live⟩
  case kept =>
    rw [inForce]
    intro arming some
    obtain ⟨startedAt, budget, armedAt_le, id, due, timer, live, next⟩ := keeps.kept arming some
    rw [keeps.now] at armedAt_le next
    rw [← laps arming some] at next
    exact ⟨startedAt, budget, Nat.le_trans armedAt_le forward, id, due, timer, live, next⟩

theorem Keeps.timer (keeps : Keeps canFetch origin line table) {arming : Arming}
    (inForce : table.inForce? = some arming) {timer : Timer Nat}
    (live : line.clock.live = [timer]) :
    line.shared.timer = some timer.id ∧ timer.period = arming.period ∧
      timer.action = line.shared.generation ∧
      timer.due.nanos =
        arming.armedAt.nanos + (arming.laps table.clock + 1) * arming.period.nanos := by
  obtain ⟨id, due, stored, only, next⟩ := (keeps.kept arming inForce).timer
  rw [live, List.singleton_inj] at only
  rw [keeps.now] at next
  subst only
  exact ⟨stored, rfl, rfl, next⟩

theorem Arming.IsKept.isSpentAt {arming : Arming} (kept : arming.IsKept line) (now : Duration) :
    line.shared.isSpentAt now = !arming.isWithin now := by
  rw [Engine.isSpentAt, Engine.elapsedAt, Arming.isWithin]
  rw [kept.budget, kept.startedAt]
  cases arming.budget with
  | none => rfl
  | some budget =>
      rw [← decide_not]
      exact decide_eq_decide.mpr Nat.not_lt.symm

theorem Timetable.hasRoomBy_of_le {table : Timetable} {earlier later : Duration}
    (le : earlier ≤ later) (room : table.hasRoomBy later = true) :
    table.hasRoomBy earlier = true := by
  unfold Timetable.hasRoomBy at *
  cases last : table.arming with
  | none => rfl
  | some arming =>
      rw [last] at room
      rw [Option.all_some, List.all_eq_true] at room ⊢
      exact fun time played => room time (Arming.playedBy_subset le played)

theorem Timetable.fired_fields {table : Timetable} {arming : Arming} {due : Duration}
    (inForce : table.inForce? = some arming) (positive : 0 < arming.period.nanos)
    (next : due.nanos =
      arming.armedAt.nanos + (arming.laps table.clock + 1) * arming.period.nanos) :
    { table with clock := due }.fetches =
        table.fetches ++ (if arming.isWithin due then [due] else []) ∧
      { table with clock := due }.events = table.events ++
        [if arming.isWithin due then .fetch due else .expired (due.sub arming.startedAt)] ∧
      { table with clock := due }.inForce? =
        (if arming.isWithin due then some arming else none) ∧
      { table with clock := due }.phase =
        (if arming.isWithin due then .running else .expired) ∧
      table.hasRoomBy due =
        (table.hasRoomBy table.clock && (due.add? arming.period).isSome) := by
  obtain ⟨last, going⟩ := Timetable.inForce?_eq_some_iff.mp inForce
  obtain ⟨expiry, fetches, played, events⟩ :=
    Arming.played_succ (Arming.laps_next positive next) next going
  cases within : arming.isWithin due <;>
    simp_all [Timetable.fetches, Timetable.events, Timetable.inForce?, Timetable.phase,
      Timetable.hasRoomBy, Option.filter_some]

section

variable {arming : Arming} {timer : Timer Nat} {due : Duration}

theorem Keeps.hasRoom_fire (keeps : Keeps canFetch origin line table)
    (inForce : table.inForce? = some arming) (live : line.clock.live = [timer])
    (sum : timer.due.add? timer.period = some due) : table.hasRoomBy timer.due = true := by
  obtain ⟨-, period, -, next⟩ := keeps.timer inForce live
  obtain ⟨-, -, -, -, hasRoom⟩ := Timetable.fired_fields inForce (keeps.positive inForce) next
  rw [hasRoom, keeps.hasRoom, ← period, sum]
  rfl

/-- After a tick that fetches the arming is still kept, with the end of its next period ahead. -/
theorem Keeps.isKept_dispatch (keeps : Keeps canFetch origin line table)
    (inForce : table.inForce? = some arming) (live : line.clock.live = [timer])
    (first : Timers.earliest? line.clock.live = some timer) (later : timer.due ≤ due)
    (sum : timer.due.add? timer.period = some due) :
    arming.IsKept ⟨line.clock.fire timer first due later, line.shared.dispatch timer.due⟩ := by
  have kept := keeps.kept arming inForce
  obtain ⟨stored, period, action, next⟩ := keeps.timer inForce live
  obtain ⟨-, config, startedAt, generation, timer', -⟩ := dispatch_fields line.shared timer.due
  refine ⟨startedAt.trans kept.startedAt, ?budget, ?armedAt_le, timer.id, due,
    timer'.trans stored, ?live, ?next⟩
  case budget =>
    rw [← kept.budget]
    exact congrArg _ config
  case armedAt_le =>
    exact Nat.le_trans kept.armedAt_le (line.clock.now_le_due timer (by simp [live]))
  case live =>
    show (line.clock.fire timer first due later).live = _
    rw [Timers.live_fire_of_live_eq_singleton live first due later, ← period, action, ← generation]
  case next =>
    have lap := Arming.laps_next (keeps.positive inForce) next
    show due.nanos = _ + (arming.laps timer.due + 1) * _
    rw [Duration.add?_eq_some_iff.mp sum, lap, next, period,
      Nat.add_one_mul (arming.laps table.clock + 1), Nat.add_assoc]

theorem Keeps.fire_within (keeps : Keeps canFetch origin line table)
    (inForce : table.inForce? = some arming) (live : line.clock.live = [timer])
    (first : Timers.earliest? line.clock.live = some timer) (later : timer.due ≤ due)
    (sum : timer.due.add? timer.period = some due) (within : arming.isWithin timer.due = true) :
    ∃ after, reaction.run timer.action
        { line with clock := line.clock.fire timer first due later } = some after ∧
      Keeps canFetch origin after { table with clock := timer.due } := by
  obtain ⟨-, -, action, next⟩ := keeps.timer inForce live
  obtain ⟨fetches, events, inForce', phase, -⟩ :=
    Timetable.fired_fields inForce (keeps.positive inForce) next
  rw [within] at fetches events inForce' phase
  have running := keeps.phase.trans (Timetable.phase_of_inForce? inForce)
  have notSpent : line.shared.isSpentAt timer.due = false := by
    rw [(keeps.kept arming inForce).isSpentAt, within]
    rfl
  have ran := @run_tick_of_not_spent Timers _
    ⟨line.clock.fire timer first due later, line.shared⟩ running notSpent
  obtain ⟨phase', -, -, -, -, events', fetches', able⟩ := dispatch_fields line.shared timer.due
  refine ⟨_, by simp only [action, reaction, tick?, ran]; rfl, able.trans keeps.able, rfl, ?phase,
    ?fetches, ?events, keeps.hasRoom_fire inForce live sum, ?vacant, ?kept⟩
  case phase => exact phase'.trans (running.trans phase.symm)
  case fetches =>
    have before := keeps.fetches
    show (line.shared.dispatch timer.due).fetches.reverse = _
    rw [fetches', fetches, keeps.able]
    cases canFetch <;> simp_all
  case events =>
    show (line.shared.dispatch timer.due).events = _
    rw [events', events, keeps.able, EventChannel.hear_append, ← keeps.events]
    cases canFetch <;> rfl
  case vacant =>
    rw [inForce']
    intro none
    cases none
  case kept =>
    intro arming' same
    rw [inForce', if_pos rfl, Option.some.injEq] at same
    subst same
    exact keeps.isKept_dispatch inForce live first later sum

theorem Keeps.fire_beyond (keeps : Keeps canFetch origin line table)
    (inForce : table.inForce? = some arming) (live : line.clock.live = [timer])
    (first : Timers.earliest? line.clock.live = some timer) (later : timer.due ≤ due)
    (sum : timer.due.add? timer.period = some due) (beyond : arming.isWithin timer.due = false) :
    ∃ after, reaction.run timer.action
        { line with clock := line.clock.fire timer first due later } = some after ∧
      Keeps canFetch origin after { table with clock := timer.due } := by
  have kept := keeps.kept arming inForce
  obtain ⟨stored, -, action, next⟩ := keeps.timer inForce live
  obtain ⟨fetches, events, inForce', phase, -⟩ :=
    Timetable.fired_fields inForce (keeps.positive inForce) next
  rw [beyond] at fetches events inForce' phase
  have running := keeps.phase.trans (Timetable.phase_of_inForce? inForce)
  have spent : line.shared.isSpentAt timer.due = true := by
    rw [kept.isSpentAt, beyond]
    rfl
  obtain ⟨engine, ran, phase', startedAt, -, timer', -, able, fetches', events'⟩ :=
    @run_tick_of_spent Timers _ ⟨line.clock.fire timer first due later, line.shared⟩ running spent
  refine ⟨_, by simp only [action, reaction, tick?, ran]; rfl, able.trans keeps.able, ?now,
    phase'.trans phase.symm, ?fetches, ?events, keeps.hasRoom_fire inForce live sum,
    fun _ => ⟨startedAt, timer', ?live⟩, ?kept⟩
  case now =>
    rw [stored]
    rfl
  case fetches =>
    show engine.fetches.reverse = _
    rw [fetches', fetches, keeps.fetches]
    simp
  case events =>
    have elapsed : line.shared.elapsedAt timer.due = timer.due.sub arming.startedAt := by
      rw [Engine.elapsedAt, kept.startedAt]
      rfl
    show engine.events = _
    rw [events', events, EventChannel.hear_append, keeps.events, ← elapsed]
    rfl
  case live =>
    have fired := Timers.live_fire_of_live_eq_singleton live first due later
    have only := Timers.live_cancel_of_live_eq_singleton fired
    rw [stored]
    exact only
  case kept =>
    rw [inForce']
    intro _ some
    cases some

theorem Keeps.fire (keeps : Keeps canFetch origin line table)
    (inForce : table.inForce? = some arming) (live : line.clock.live = [timer])
    (first : Timers.earliest? line.clock.live = some timer) (later : timer.due ≤ due)
    (sum : timer.due.add? timer.period = some due) :
    ∃ after, reaction.run timer.action
        { line with clock := line.clock.fire timer first due later } = some after ∧
      Keeps canFetch origin after { table with clock := timer.due } := by
  cases within : arming.isWithin timer.due with
  | true => exact keeps.fire_within inForce live first later sum within
  | false => exact keeps.fire_beyond inForce live first later sum within

end

/-- A timer that is due is the one of the arming in force. -/
theorem Keeps.arming_of_earliest? (keeps : Keeps canFetch origin line table) {timer : Timer Nat}
    (first : Timers.earliest? line.clock.live = some timer) :
    ∃ arming, table.inForce? = some arming ∧ line.clock.live = [timer] := by
  cases inForce : table.inForce? with
  | none =>
      rw [(keeps.vacant inForce).live] at first
      cases first
  | some arming =>
      obtain ⟨id, due, -, live, -⟩ := (keeps.kept arming inForce).timer
      rw [live] at first ⊢
      cases first
      exact ⟨arming, rfl, rfl⟩

/-- An advance plays what the timetable shows. -/
theorem Keeps.advanceTo (keeps : Keeps canFetch origin line table) {target : Duration}
    (forward : table.clock ≤ target) :
    Option.Rel (Keeps canFetch origin) (Timers.advanceTo reaction target line)
      (if table.hasRoomBy target then some { table with clock := target } else none) := by
  fun_induction Timers.advanceTo reaction target line generalizing table with
  | case1 line quiet =>
      obtain ⟨rested, hasRoom⟩ := keeps.rest forward quiet
      rw [if_pos hasRoom]
      exact .some rested
  | case2 line timer next late =>
      obtain ⟨first, inTime⟩ := Timers.earliest?_of_next? next
      obtain ⟨arming, inForce, live⟩ := keeps.arming_of_earliest? first
      obtain ⟨-, period, -, due⟩ := keeps.timer inForce live
      obtain ⟨-, -, -, -, hasRoom⟩ :=
        Timetable.fired_fields inForce (keeps.positive inForce) due
      rw [← period, late, Option.isSome_none, Bool.and_false] at hasRoom
      rw [if_neg fun room => by simp [Timetable.hasRoomBy_of_le inTime room] at hasRoom]
      exact .none
  | case3 line timer next due sum later fired =>
      rename_i stuck
      obtain ⟨first, inTime⟩ := Timers.earliest?_of_next? next
      obtain ⟨arming, inForce, live⟩ := keeps.arming_of_earliest? first
      obtain ⟨after, effect, -⟩ := keeps.fire inForce live first (Nat.le_of_lt later) sum
      rw [stuck] at effect
      cases effect
  | case4 line timer next due sum later fired after effect =>
      rename_i ih
      obtain ⟨first, inTime⟩ := Timers.earliest?_of_next? next
      obtain ⟨arming, inForce, live⟩ := keeps.arming_of_earliest? first
      obtain ⟨after', effect', keeps'⟩ := keeps.fire inForce live first (Nat.le_of_lt later) sum
      rw [effect, Option.some.injEq] at effect'
      subst effect'
      have played := ih keeps' inTime
      exact played

theorem Keeps.advance (keeps : Keeps canFetch origin line table) (span : Duration) :
    Option.Rel (Keeps canFetch origin) (perform? line (.advance span))
      (table.next? (.advance span)) := by
  simp only [perform?, Engine.advance, Timers.advance, Timetable.next?, keeps.now]
  cases sum : table.clock.add? span with
  | none => exact .none
  | some target => exact keeps.advanceTo (Timers.le_of_add? sum)

/-! ## Runs -/

/-- Every operation keeps the timetable. -/
theorem Keeps.perform (keeps : Keeps canFetch origin line table) (operation : Operation) :
    Option.Rel (Keeps canFetch origin) (perform? line operation) (table.next? operation) := by
  cases operation with
  | start config => exact keeps.start config
  | stop => exact keeps.stop
  | setInterval interval => exact keeps.setInterval interval
  | advance span => exact keeps.advance span

theorem Keeps.exists_perform (keeps : Keeps canFetch origin line table) {operation : Operation}
    {after : Line Timers} (performed : perform? line operation = some after) :
    ∃ shown, table.next? operation = some shown ∧ Keeps canFetch origin after shown := by
  have both := keeps.perform operation
  rw [performed] at both
  generalize table.next? operation = shown at both
  cases both with
  | some keeps => exact ⟨_, rfl, keeps⟩

theorem Keeps.performAll (keeps : Keeps canFetch origin line table) (operations : List Operation) :
    Option.Rel (Keeps canFetch origin) (performAll? operations line)
      (Timetable.follow? operations table) :=
  rel_foldlM (fun _ _ operation keeps => Keeps.perform keeps operation) operations _ _ keeps

theorem Keeps.exists_performAll (keeps : Keeps canFetch origin line table)
    {operations : List Operation} {shown : Timetable}
    (followed : Timetable.follow? operations table = some shown) :
    ∃ after, performAll? operations line = some after ∧ Keeps canFetch origin after shown := by
  have both := keeps.performAll operations
  rw [followed] at both
  generalize performAll? operations line = reached at both
  cases both with
  | some keeps => exact ⟨_, rfl, keeps⟩

theorem Keeps.exists_follow? (keeps : Keeps canFetch origin line table)
    {operations : List Operation} {after : Line Timers}
    (performed : performAll? operations line = some after) :
    ∃ shown, Timetable.follow? operations table = some shown ∧
      Keeps canFetch origin after shown := by
  have both := keeps.performAll operations
  rw [performed] at both
  generalize Timetable.follow? operations table = shown at both
  cases both with
  | some keeps => exact ⟨_, rfl, keeps⟩

theorem Keeps.count (keeps : Keeps canFetch origin line table) :
    line.clock.count = if line.shared.phase = .running then 1 else 0 := by
  rw [keeps.phase, Timers.count]
  cases inForce : table.inForce? with
  | none =>
      rw [(keeps.vacant inForce).live, if_neg (Timetable.phase_ne_running inForce)]
      rfl
  | some arming =>
      obtain ⟨id, due, -, live, -⟩ := (keeps.kept arming inForce).timer
      rw [live, if_pos (Timetable.phase_of_inForce? inForce)]
      rfl

theorem Keeps.startedAt (keeps : Keeps canFetch origin line table) :
    line.shared.startedAt = table.inForce?.map Arming.startedAt := by
  cases inForce : table.inForce? with
  | none => exact (keeps.vacant inForce).startedAt
  | some arming => exact (keeps.kept arming inForce).startedAt

end

theorem keeps_blank {task : String} {config : PollConfig} {canFetch : Bool} {engine : Engine}
    (made : Engine.idle? task config canFetch = some engine) :
    Keeps canFetch engine.events ⟨Timers.start, engine⟩ Timetable.blank := by
  obtain ⟨events, -, rfl⟩ := Option.map_eq_some_iff.mp made
  exact .of_unarmed rfl rfl rfl (by cases canFetch <;> rfl) rfl ⟨rfl, rfl, rfl⟩

theorem Keeps.drained {task : String} {config : PollConfig} {canFetch : Bool} {engine : Engine}
    {line : Line Timers} {table : Timetable}
    (keeps : Keeps canFetch engine.events line table)
    (made : Engine.idle? task config canFetch = some engine) :
    line.shared.drainEvents.1 =
      (table.events.filter (EngineEvent.isHeard canFetch)).take
        (max config.eventChannelCapacity.toNat 1) := by
  rw [← Engine.drain_hear_idle made, ← keeps.events]
  rfl

/-- Whatever is done to an engine, in whatever order, it fetches at the instants of its timetable
and at no others, and there is one timer while a session is under way and none otherwise.  Its
listener takes from the channel the events of its timetable, all of them in their order if there was
room, and else the first ones.  The engine gets through the operations exactly if the clock can show
every time of the timetable. -/
theorem performAll_follows_timetable {task : String} {config : PollConfig} {canFetch : Bool}
    {engine : Engine} (made : Engine.idle? task config canFetch = some engine)
    (operations : List Operation) :
    Option.Rel
      (fun line table =>
        line.shared.fetches.reverse = (if canFetch then table.fetches else []) ∧
          line.shared.events = engine.events.hear canFetch table.events ∧
          line.shared.drainEvents.1 =
            (table.events.filter (EngineEvent.isHeard canFetch)).take
              (max config.eventChannelCapacity.toNat 1) ∧
          line.shared.phase = table.phase ∧
          line.shared.startedAt = table.inForce?.map Arming.startedAt ∧
          line.clock.now = table.clock ∧
          line.clock.count = if line.shared.phase = .running then 1 else 0)
      (performAll? operations ⟨Timers.start, engine⟩)
      (Timetable.follow? operations Timetable.blank) := by
  have followed := rel_foldlM (fun _ _ operation keeps => Keeps.perform keeps operation) operations _
    _ (keeps_blank made)
  rw [performAll?, Timetable.follow?]
  generalize operations.foldlM perform? _ = reached at *
  generalize operations.foldlM Timetable.next? _ = shown at *
  cases followed with
  | none => exact .none
  | some keeps =>
      exact .some ⟨keeps.fetches, keeps.events, keeps.drained made, keeps.phase, keeps.startedAt,
        keeps.now, keeps.count⟩

/-- A session of five seconds whose interval is changed on the way. -/
def changing : List Operation :=
  [.start { intervalMs := 1000, maxDurationMs := 5000 }, .advance (.ofMillis 2500),
    .setInterval (.ofMillis 1500), .advance (.ofMillis 4000)]

theorem fetches_of_changed_interval :
    ∃ engine line,
      Engine.idle? "watch" {} true = some engine ∧
        performAll? changing ⟨Timers.start, engine⟩ = some line ∧
        line.shared.fetches.reverse =
          [.ofMillis 0, .ofMillis 1000, .ofMillis 2000, .ofMillis 4000] ∧
        line.shared.drainEvents.1 =
          [.started (.ofMillis 1000) (some (.ofMillis 5000)), .fetch (.ofMillis 0),
            .fetch (.ofMillis 1000), .fetch (.ofMillis 2000), .interval (.ofMillis 1500),
            .fetch (.ofMillis 4000), .expired (.ofMillis 5500)] ∧
        line.shared.phase = .expired ∧ line.clock.count = 0 := by
  obtain ⟨engine, made⟩ : ∃ engine, Engine.idle? "watch" {} true = some engine := ⟨_, rfl⟩
  have followed := performAll_follows_timetable made changing
  have shown : (Timetable.follow? changing Timetable.blank).map
      (fun table => (table.fetches, table.events, table.phase)) =
        some ([.ofMillis 0, .ofMillis 1000, .ofMillis 2000, .ofMillis 4000],
          [.started (.ofMillis 1000) (some (.ofMillis 5000)), .fetch (.ofMillis 0),
            .fetch (.ofMillis 1000), .fetch (.ofMillis 2000), .interval (.ofMillis 1500),
            .fetch (.ofMillis 4000), .expired (.ofMillis 5500)], .expired) := by
    decide +kernel
  generalize performed : performAll? _ _ = reached at followed
  generalize Timetable.follow? _ _ = table at followed shown
  cases followed with
  | none => cases shown
  | some agree =>
      obtain ⟨fetches, -, drained, phase, -, -, count⟩ := agree
      simp only [Option.map_some, Option.some.injEq, Prod.mk.injEq] at shown
      obtain ⟨times, events, expired⟩ := shown
      rw [phase, expired, if_neg (by decide)] at count
      rw [events] at drained
      exact ⟨engine, _, made, performed, fetches.trans times, drained.trans (by decide +kernel),
        phase.trans expired, count⟩

end ProbeWatch
