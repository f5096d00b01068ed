import ProbeWatch.Proofs.Engine.Operation

/-!
# The timetable of an engine

A timetable tells from the operations alone at which instants an engine fetches, when its budget
runs out and what its listener hears.  It has no timers: the ticks of an arming are the multiples
of its period.
-/

namespace ProbeWatch

open Engine (Operation Line)

/-! ## Armings -/

/-- A timer put in force for a session. -/
structure Arming where
  /-- When the session started. -/
  startedAt : Duration
  /-- The time budget of the session. -/
  budget : Option Duration
  /-- When the timer was armed. -/
  armedAt : Duration
  /-- The time between two ticks. -/
  period : Duration

namespace Arming

/-- Whether an instant is within the time budget of the session. -/
def isWithin (arming : Arming) (time : Duration) : Bool :=
  match arming.budget with
  | none => true
  | some budget => time.sub arming.startedAt < budget

/-- How many periods have passed by an instant. -/
def laps (arming : Arming) (instant : Duration) : Nat :=
  (instant.nanos - arming.armedAt.nanos) / arming.period.nanos

/-- The end of the first, second, … period, up to an instant. -/
def ticksBy (arming : Arming) (instant : Duration) : List Duration :=
  (List.range (arming.laps instant)).filterMap fun lap =>
    Duration.ofNanos? (arming.armedAt.nanos + (lap + 1) * arming.period.nanos)

/-- The ticks that fetch: those within the time budget. -/
def fetchesBy (arming : Arming) (instant : Duration) : List Duration :=
  (arming.ticksBy instant).filter arming.isWithin

/-- The tick that ends the session: the first one beyond the time budget. -/
def expiry? (arming : Arming) (instant : Duration) : Option Duration :=
  (arming.ticksBy instant).find? fun time => !arming.isWithin time

/-- The ticks that the engine plays. -/
def playedBy (arming : Arming) (instant : Duration) : List Duration :=
  arming.fetchesBy instant ++ (arming.expiry? instant).toList

/-- What the ticks tell the listener. -/
def eventsBy (arming : Arming) (instant : Duration) : List EngineEvent :=
  (arming.fetchesBy instant).map .fetch ++
    ((arming.expiry? instant).map fun time => .expired (time.sub arming.startedAt)).toList

end Arming

/-! ## Ticks of an arming -/

namespace Arming

theorem mem_ticksBy {arming : Arming} {instant time : Duration} :
    time ∈ arming.ticksBy instant ↔
      ∃ lap < arming.laps instant,
        time.nanos = arming.armedAt.nanos + (lap + 1) * arming.period.nanos := by
  simp only [ticksBy, List.mem_filterMap, List.mem_range, Duration.ofNanos?_eq_some_iff]

theorem ticksBy_congr {arming : Arming} {earlier later : Duration}
    (same : arming.laps later = arming.laps earlier) :
    arming.ticksBy later = arming.ticksBy earlier := by
  rw [ticksBy, ticksBy, same]

theorem ticksBy_of_laps_eq_zero {arming : Arming} {instant : Duration}
    (none : arming.laps instant = 0) : arming.ticksBy instant = [] := by
  rw [ticksBy, none]
  rfl

theorem ticksBy_succ {arming : Arming} {instant due : Duration}
    (more : arming.laps due = arming.laps instant + 1)
    (next : due.nanos = arming.armedAt.nanos + (arming.laps instant + 1) * arming.period.nanos) :
    arming.ticksBy due = arming.ticksBy instant ++ [due] := by
  have shown : Duration.ofNanos?
      (arming.armedAt.nanos + (arming.laps instant + 1) * arming.period.nanos) = some due :=
    Duration.ofNanos?_eq_some_iff.mpr next
  rw [ticksBy, ticksBy, more, List.range_succ, List.filterMap_append]
  simp [shown]

theorem exists_ticksBy_append (arming : Arming) {earlier later : Duration} (le : earlier ≤ later) :
    ∃ more, arming.ticksBy later = arming.ticksBy earlier ++ more ∧
      ∀ time ∈ arming.ticksBy earlier, ∀ next ∈ more, time ≤ next := by
  have laps_le : arming.laps earlier ≤ arming.laps later :=
    Nat.div_le_div_right (Nat.sub_le_sub_right le _)
  obtain ⟨extra, total⟩ := Nat.exists_eq_add_of_le laps_le
  refine ⟨_, by rw [ticksBy, ticksBy, total, List.range_add, List.filterMap_append], ?_⟩
  intro time found next more
  obtain ⟨lap, small, time_eq⟩ := mem_ticksBy.mp found
  obtain ⟨lap', large, shown⟩ := List.mem_filterMap.mp more
  obtain ⟨beyond, -, rfl⟩ := List.mem_map.mp large
  have next_eq := Duration.ofNanos?_eq_some_iff.mp shown
  have more_laps := Nat.mul_le_mul_right arming.period.nanos
    (show lap + 1 ≤ arming.laps earlier + beyond + 1 by omega)
  show time.nanos ≤ next.nanos
  rw [time_eq, next_eq]
  omega

theorem isWithin_of_le {arming : Arming} {earlier later : Duration} (le : earlier ≤ later)
    (within : arming.isWithin later = true) : arming.isWithin earlier = true := by
  unfold isWithin at *
  split
  · rfl
  · rename_i budget limited
    rw [limited] at within
    have lt : later.sub arming.startedAt < budget := of_decide_eq_true within
    have le' : earlier.sub arming.startedAt ≤ later.sub arming.startedAt := Nat.sub_le_sub_right le _
    exact decide_eq_true (Nat.lt_of_le_of_lt le' lt)

theorem expired_stays {arming : Arming} {earlier later time : Duration} (le : earlier ≤ later)
    (expired : arming.expiry? earlier = some time) :
    arming.expiry? later = some time ∧ arming.fetchesBy later = arming.fetchesBy earlier := by
  obtain ⟨more, split, after⟩ := arming.exists_ticksBy_append le
  rw [expiry?] at expired
  have spent := List.find?_some expired
  have played := List.mem_of_find?_eq_some expired
  refine ⟨?_, ?_⟩
  · rw [expiry?, split, List.find?_append, expired, Option.some_or]
  · rw [fetchesBy, fetchesBy, split, List.filter_append, List.append_right_eq_self,
      List.filter_eq_nil_iff]
    intro next found within
    rw [isWithin_of_le (after time played next found) within] at spent
    cases spent

theorem playedBy_subset {arming : Arming} {earlier later time : Duration} (le : earlier ≤ later)
    (played : time ∈ arming.playedBy earlier) : time ∈ arming.playedBy later := by
  obtain ⟨more, split, -⟩ := arming.exists_ticksBy_append le
  rcases List.mem_append.mp played with fetched | expired
  · refine List.mem_append_left _ ?_
    rw [fetchesBy, split, List.filter_append]
    exact List.mem_append_left _ fetched
  · refine List.mem_append_right _ ?_
    rw [Option.mem_toList] at *
    exact (expired_stays le expired).1

theorem played_congr {arming : Arming} {earlier later : Duration}
    (same : arming.laps later = arming.laps earlier) :
    arming.expiry? later = arming.expiry? earlier ∧
      arming.fetchesBy later = arming.fetchesBy earlier := by
  rw [fetchesBy, fetchesBy, expiry?, expiry?, ticksBy_congr same]
  exact ⟨rfl, rfl⟩

/-- At the end of a period one tick is played, if the session was still going. -/
theorem played_succ {arming : Arming} {instant due : Duration}
    (more : arming.laps due = arming.laps instant + 1)
    (next : due.nanos = arming.armedAt.nanos + (arming.laps instant + 1) * arming.period.nanos)
    (inForce : arming.expiry? instant = none) :
    (arming.expiry? due = if arming.isWithin due then none else some due) ∧
      arming.fetchesBy due =
        arming.fetchesBy instant ++ (if arming.isWithin due then [due] else []) ∧
      arming.playedBy due = arming.playedBy instant ++ [due] ∧
      arming.eventsBy due = arming.eventsBy instant ++
        [if arming.isWithin due then .fetch due else .expired (due.sub arming.startedAt)] := by
  have none := inForce
  rw [expiry?] at none
  simp only [playedBy, eventsBy, inForce]
  simp only [fetchesBy, expiry?, ticksBy_succ more next, List.find?_append, none,
    List.filter_append]
  cases within : arming.isWithin due <;> simp [within]

/-! ## Laps -/

theorem laps_next {arming : Arming} {instant due : Duration} (positive : 0 < arming.period.nanos)
    (next : due.nanos = arming.armedAt.nanos + (arming.laps instant + 1) * arming.period.nanos) :
    arming.laps due = arming.laps instant + 1 := by
  rw [laps, next, Nat.add_sub_cancel_left, Nat.mul_div_cancel _ positive]

theorem laps_of_lt_next {arming : Arming} {earlier later due : Duration}
    (positive : 0 < arming.period.nanos) (armedAt_le : arming.armedAt ≤ earlier)
    (le : earlier ≤ later) (lt : later < due)
    (next : due.nanos = arming.armedAt.nanos + (arming.laps earlier + 1) * arming.period.nanos) :
    arming.laps later = arming.laps earlier := by
  have armedAt_le' : arming.armedAt.nanos ≤ later.nanos := Nat.le_trans armedAt_le le
  have lt' : later.nanos < due.nanos := lt
  refine Nat.le_antisymm (Nat.le_of_lt_succ ?_) (Nat.div_le_div_right (Nat.sub_le_sub_right le _))
  rw [laps, Nat.div_lt_iff_lt_mul positive, Nat.succ_eq_add_one]
  omega

theorem now_lt_next (arming : Arming) (positive : 0 < arming.period.nanos) (now : Duration) :
    now.nanos < arming.armedAt.nanos + (arming.laps now + 1) * arming.period.nanos := by
  have lt := Nat.lt_mul_div_succ (now.nanos - arming.armedAt.nanos) positive
  rw [Nat.mul_comm, show _ / _ = arming.laps now from rfl] at lt
  omega

/-! ## The instants of an arming -/

/-- An arming fetches at the multiples of its period that its clock has reached and its budget
covers. -/
theorem mem_fetchesBy_iff {arming : Arming} {instant time : Duration}
    (positive : 0 < arming.period.nanos) (armedAt_le : arming.armedAt ≤ instant) :
    time ∈ arming.fetchesBy instant ↔
      time ≤ instant ∧ arming.isWithin time = true ∧
        ∃ lap ≥ 1, time.nanos = arming.armedAt.nanos + lap * arming.period.nanos := by
  have le : arming.armedAt.nanos ≤ instant.nanos := armedAt_le
  have reached : ∀ lap, lap < arming.laps instant ↔
      arming.armedAt.nanos + (lap + 1) * arming.period.nanos ≤ instant.nanos := by
    intro lap
    rw [laps, ← Nat.succ_le_iff, Nat.le_div_iff_mul_le positive, Nat.succ_eq_add_one]
    omega
  rw [fetchesBy, List.mem_filter, mem_ticksBy]
  constructor
  · rintro ⟨⟨lap, small, total⟩, within⟩
    refine ⟨?_, within, lap + 1, by omega, total⟩
    show time.nanos ≤ instant.nanos
    rw [total]
    exact (reached lap).mp small
  · rintro ⟨inTime, within, lap, one, total⟩
    have inTime' : time.nanos ≤ instant.nanos := inTime
    obtain ⟨before, rfl⟩ := Nat.exists_eq_add_of_le' one
    rw [total] at inTime'
    exact ⟨⟨before, (reached before).mpr inTime', total⟩, within⟩

theorem pairwise_fetchesBy {arming : Arming} (instant : Duration)
    (positive : 0 < arming.period.nanos) : (arming.fetchesBy instant).Pairwise (· < ·) := by
  refine List.Pairwise.filter _ ?_
  rw [ticksBy, List.pairwise_filterMap]
  refine List.pairwise_lt_range.imp ?_
  intro lap next less time shown time' shown'
  have longer := Nat.mul_lt_mul_of_pos_right (Nat.add_lt_add_right less 1) positive
  show time.nanos < time'.nanos
  rw [Duration.ofNanos?_eq_some_iff.mp shown, Duration.ofNanos?_eq_some_iff.mp shown']
  exact Nat.add_lt_add_left longer _

end Arming

/-! ## Timetables -/

/-- What the operations so far determine. -/
structure Timetable where
  /-- The time that the clock shows. -/
  clock : Duration
  /-- The last arming, unless the session was stopped since. -/
  arming : Option Arming
  /-- Whether the session before that arming used up its time budget. -/
  hadExpired : Bool
  /-- The fetches before the ticks of that arming. -/
  earlierFetches : List Duration
  /-- The events before the ticks of that arming. -/
  earlierEvents : List EngineEvent

namespace Timetable

/-- The timetable of an engine before its first session. -/
def blank : Timetable := ⟨.zero, none, false, [], []⟩

/-- The instants of all fetches, earliest first. -/
def fetches (table : Timetable) : List Duration :=
  table.earlierFetches ++ table.arming.elim [] (·.fetchesBy table.clock)

/-- All events, earliest first. -/
def events (table : Timetable) : List EngineEvent :=
  table.earlierEvents ++ table.arming.elim [] (·.eventsBy table.clock)

/-- The arming whose ticks are still to come. -/
def inForce? (table : Timetable) : Option Arming :=
  table.arming.filter fun arming => (arming.expiry? table.clock).isNone

/-- The phase of the engine. -/
def phase (table : Timetable) : PollPhase :=
  match table.arming with
  | none => if table.hadExpired then .expired else .idle
  | some arming => if (arming.expiry? table.clock).isSome then .expired else .running

/-- Whether the clock can show a further period after every tick that is played by an instant. -/
def hasRoomBy (table : Timetable) (instant : Duration) : Bool :=
  table.arming.all fun arming =>
    (arming.playedBy instant).all fun time => (time.add? arming.period).isSome

/-- The timetable after an operation; there is none when the clock would have to show more than it
can. -/
def next? (table : Timetable) : Operation → Option Timetable
  | .start config =>
      if config.intervalMs = 0 then
        some table
      else
        (table.clock.add? config.interval).map fun _ =>
          { clock := table.clock
            arming := some ⟨table.clock, config.maxDuration?, table.clock, config.interval⟩
            hadExpired := false
            earlierFetches := table.fetches ++ [table.clock]
            earlierEvents := table.events ++
              [.started config.interval config.maxDuration?, .fetch table.clock] }
  | .stop =>
      some
        { clock := table.clock
          arming := none
          hadExpired := false
          earlierFetches := table.fetches
          earlierEvents := table.events ++ if table.phase = .running then [.stopped] else [] }
  | .setInterval interval =>
      if interval < PollConfig.minInterval then
        some table
      else
        match table.inForce? with
        | none =>
            some
              { clock := table.clock
                arming := none
                hadExpired := table.phase = .expired
                earlierFetches := table.fetches
                earlierEvents := table.events ++ [.interval interval] }
        | some arming =>
            (table.clock.add? interval).map fun _ =>
              { clock := table.clock
                arming := some { arming with armedAt := table.clock, period := interval }
                hadExpired := false
                earlierFetches := table.fetches
                earlierEvents := table.events ++ [.interval interval] }
  | .advance span =>
      (table.clock.add? span).bind fun target =>
        if table.hasRoomBy target then some { table with clock := target } else none

/-- The timetable after operations one after the other. -/
def follow? (operations : List Operation) (table : Timetable) : Option Timetable :=
  operations.foldlM next? table

end Timetable

/-- Whether a listener hears of an event when fetches may not be carried out at all. -/
def EngineEvent.isHeard (canFetch : Bool) : EngineEvent → Bool
  | .fetch _ => canFetch
  | _ => true

/-- The channel after the events that its listener hears of. -/
def EventChannel.hear (canFetch : Bool) (channel : EventChannel) (events : List EngineEvent) :
    EventChannel :=
  (events.filter (EngineEvent.isHeard canFetch)).foldl send channel

namespace EventChannel

variable {channel : EventChannel}

@[simp]
theorem hear_append (canFetch : Bool) (channel : EventChannel) (events more : List EngineEvent) :
    channel.hear canFetch (events ++ more) = (channel.hear canFetch events).hear canFetch more := by
  simp [hear]

/-! ## What a listener drains -/

theorem send_of_lt (opened : channel.isOpen = true)
    (room : channel.held.length < channel.capacity) (event : EngineEvent) :
    channel.send event = { channel with held := event :: channel.held } := by
  simp [send, opened, room]

theorem send_of_le (full : channel.capacity ≤ channel.held.length) (event : EngineEvent) :
    channel.send event = channel := by
  simp [send, Nat.not_lt.mpr full]

/-- An open channel holds what it held and, of the events that are sent, the first ones up to its
capacity. -/
theorem drain_foldl_send (opened : channel.isOpen = true) (events : List EngineEvent) :
    (events.foldl send channel).drain.1 =
      channel.drain.1 ++ events.take (channel.capacity - channel.held.length) := by
  induction events generalizing channel with
  | nil => simp
  | cons event events ih =>
      rw [List.foldl_cons]
      by_cases room : channel.held.length < channel.capacity
      · have rest : channel.capacity - channel.held.length =
            channel.capacity - (event :: channel.held).length + 1 := by
          rw [List.length_cons]
          omega
        have later := @ih { channel with held := event :: channel.held } opened
        rw [send_of_lt opened room, later, rest, List.take_succ_cons]
        simp [drain]
      · have full : channel.capacity ≤ channel.held.length := Nat.le_of_not_lt room
        rw [send_of_le full, ih opened, Nat.sub_eq_zero_of_le full, List.take_zero, List.take_zero]

theorem drain_hear (opened : channel.isOpen = true) (canFetch : Bool) (events : List EngineEvent) :
    (channel.hear canFetch events).drain.1 =
      channel.drain.1 ++ (events.filter (EngineEvent.isHeard canFetch)).take
        (channel.capacity - channel.held.length) :=
  drain_foldl_send opened _

end EventChannel

/-- A new engine's listener drains the events that it hears of, in their order, as long as there is
room in the channel. -/
theorem Engine.drain_hear_idle {task : String} {config : PollConfig} {canFetch : Bool}
    {engine : Engine} (made : Engine.idle? task config canFetch = some engine)
    (events : List EngineEvent) :
    (engine.events.hear canFetch events).drain.1 =
      (events.filter (EngineEvent.isHeard canFetch)).take
        (max config.eventChannelCapacity.toNat 1) := by
  obtain ⟨channel, opened, rfl⟩ := Option.map_eq_some_iff.mp made
  rw [EventChannel.ofCapacity?] at opened
  split at opened
  · obtain rfl := Option.some.inj opened
    exact EventChannel.drain_hear rfl canFetch events
  · cases opened

end ProbeWatch
