import ProbeWatch.Timer.Advance

/-!
# The ticks of an advance

An advance goes from one tick to the next, and after each looks again for the timer that is due
first.  As long as the ticks leave the timers alone, it plays the ticks of all timers up to its
target, each once, in the order of their times and at one instant in the order in which the timers
were scheduled.
-/

namespace ProbeWatch

variable {α σ : Type}

namespace Timers

/-! ## One step of an advance -/

theorem lt_due_of_next? {timers : Timers α} {target : Duration}
    (quiet : timers.next? target = none) : ∀ timer ∈ timers.live, target < timer.due := by
  intro timer among
  rw [next?, Option.filter_eq_none_iff] at quiet
  cases earliest : earliest? timers.live with
  | none =>
      rw [earliest?_eq_none earliest] at among
      cases among
  | some first =>
      have late : ¬ first.due ≤ target := fun inTime => quiet first earliest (decide_eq_true inTime)
      exact Nat.lt_of_lt_of_le (Nat.lt_of_not_le late) (earliest?_le earliest timer among)

theorem id_le_of_earliest? {live : List (Timer α)}
    (increasing : live.Pairwise (fun earlier later => earlier.id < later.id)) {first : Timer α}
    (h : earliest? live = some first) :
    ∀ timer ∈ live, timer.due ≤ first.due → first.id ≤ timer.id := by
  -- `earliest?` prefers the head unless a later timer is due before it, so a tie goes to the head,
  -- whose number is the least.
  induction live generalizing first with
  | nil => simp
  | cons head rest ih =>
      rw [List.pairwise_cons] at increasing
      obtain ⟨least, increasing⟩ := increasing
      intro timer among inTime
      rw [earliest?] at h
      split at h
      · rename_i empty
        cases h
        rw [earliest?_eq_none empty, List.mem_singleton] at among
        exact Nat.le_of_eq (congrArg Timer.id among.symm)
      · rename_i other best
        split at h
        · cases h
          rcases List.mem_cons.mp among with rfl | later
          · exact Nat.le_refl _
          · exact Nat.le_of_lt (least timer later)
        · rename_i before
          cases h
          rcases List.mem_cons.mp among with rfl | later
          · exact absurd inTime before
          · exact ih increasing best timer later inTime

section

variable {reaction : Reaction α σ} {target : Duration} (line : Timeline (Timers α) σ)
  {timer : Timer α} {due : Duration}

theorem advanceTo_of_quiet (quiet : line.clock.next? target = none) :
    advanceTo reaction target line = some { line with clock := line.clock.rest target quiet } := by
  rw [advanceTo]
  split
  · rfl
  · rename_i timer next
    cases quiet.symm.trans next

/-- The clock has to be able to show the time of the tick after the next one. -/
theorem advanceTo_of_late (next : line.clock.next? target = some timer)
    (late : timer.due.add? timer.period = none) : advanceTo reaction target line = none := by
  rw [advanceTo]
  split
  · rename_i quiet
    cases quiet.symm.trans next
  · rename_i timer' next'
    cases next.symm.trans next'
    split
    · rfl
    · rename_i due sum
      cases late.symm.trans sum

theorem advanceTo_of_next (next : line.clock.next? target = some timer)
    (sum : timer.due.add? timer.period = some due) :
    advanceTo reaction target line =
      (reaction.run timer.action
        { line with clock := line.clock.fire timer (earliest?_of_next? next).1 due
                      (le_of_add? sum) }).bind (advanceTo reaction target) := by
  rw [advanceTo]
  split
  · rename_i quiet
    cases quiet.symm.trans next
  · rename_i timer' next'
    cases next.symm.trans next'
    split
    · rename_i late
      cases late.symm.trans sum
    · rename_i due' sum'
      cases sum.symm.trans sum'
      dsimp only
      split
      · rename_i stuck
        rw [stuck]
        rfl
      · rename_i after effect
        rw [effect]
        rfl

end

/-! ## Recorded ticks -/

/-- The reaction with a record of its ticks beside what they act upon.  The latest tick comes
first, and is recorded with the time that its clock shows. -/
def Reaction.recorded (reaction : Reaction α σ) : Reaction α (σ × List (α × Duration)) where
  run action before :=
    (reaction.run action ⟨before.clock, before.shared.1⟩).map fun after =>
      ⟨after.clock, (after.shared, (action, before.clock.now) :: before.shared.2)⟩
  settles action before after h := by
    obtain ⟨middle, effect, rfl⟩ := Option.map_eq_some_iff.mp h
    exact reaction.settles _ _ _ effect

/-- What was recorded beside, and the ticks that were recorded, earliest first. -/
def ofRecord (after : Timeline (Timers α) (σ × List (α × Duration))) :
    Timeline (Timers α) σ × List (α × Duration) :=
  (⟨after.clock, after.shared.1⟩, after.shared.2.reverse)

/-- What an advance leads to, and its ticks, earliest first. -/
def advanceWithTicks (reaction : Reaction α σ) (step : Duration) (line : Timeline (Timers α) σ) :
    Option (Timeline (Timers α) σ × List (α × Duration)) :=
  (advance reaction.recorded step ⟨line.clock, (line.shared, [])⟩).map ofRecord

/-- What a recorded advance leads to when something was recorded before it. -/
def withRecord (record : List (α × Duration))
    (after : Timeline (Timers α) (σ × List (α × Duration))) :
    Timeline (Timers α) (σ × List (α × Duration)) :=
  { after with shared := (after.shared.1, after.shared.2 ++ record) }

/-- A record is continued, and nothing looks at it. -/
theorem advanceTo_recorded (reaction : Reaction α σ) (target : Duration)
    (line : Timeline (Timers α) (σ × List (α × Duration))) (record : List (α × Duration)) :
    advanceTo reaction.recorded target (withRecord record line) =
      (advanceTo reaction.recorded target line).map (withRecord record) := by
  fun_induction advanceTo reaction.recorded target line with
  | case1 line quiet =>
      exact advanceTo_of_quiet (withRecord record line) quiet
  | case2 line timer next late =>
      exact advanceTo_of_late (withRecord record line) next late
  | case3 line timer next due sum later fired stuck =>
      rw [advanceTo_of_next (withRecord record line) next sum]
      have stuck' := Option.map_eq_none_iff.mp stuck
      simp only [Reaction.recorded, withRecord]
      simp only [fired] at stuck'
      rw [stuck']
      rfl
  | case4 line timer next due sum later fired after effect ih =>
      rw [advanceTo_of_next (withRecord record line) next sum]
      obtain ⟨middle, effect', rfl⟩ := Option.map_eq_some_iff.mp effect
      simp only [Reaction.recorded, withRecord]
      simp only [fired] at effect'
      rw [effect']
      exact ih

theorem map_advanceTo_recorded (reaction : Reaction α σ) (target : Duration)
    (line : Timeline (Timers α) (σ × List (α × Duration))) :
    (advanceTo reaction.recorded target line).map (fun after => ⟨after.clock, after.shared.1⟩) =
      advanceTo reaction target ⟨line.clock, line.shared.1⟩ := by
  fun_induction advanceTo reaction.recorded target line with
  | case1 line quiet =>
      exact (advanceTo_of_quiet ⟨line.clock, line.shared.1⟩ quiet).symm
  | case2 line timer next late =>
      exact (advanceTo_of_late ⟨line.clock, line.shared.1⟩ next late).symm
  | case3 line timer next due sum later fired stuck =>
      rw [advanceTo_of_next ⟨line.clock, line.shared.1⟩ next sum]
      have stuck' := Option.map_eq_none_iff.mp stuck
      simp only [fired] at stuck'
      rw [stuck']
      rfl
  | case4 line timer next due sum later fired after effect ih =>
      rw [advanceTo_of_next ⟨line.clock, line.shared.1⟩ next sum]
      obtain ⟨middle, effect', rfl⟩ := Option.map_eq_some_iff.mp effect
      simp only [fired] at effect'
      rw [effect']
      exact ih

/-- What an advance leads to does not depend on whether its ticks are recorded. -/
theorem map_fst_advanceWithTicks (reaction : Reaction α σ) (step : Duration)
    (line : Timeline (Timers α) σ) :
    (advanceWithTicks reaction step line).map Prod.fst = advance reaction step line := by
  rw [advanceWithTicks, advance, advance, Option.map_map]
  cases line.clock.now.add? step with
  | none => rfl
  | some target =>
      exact map_advanceTo_recorded reaction target ⟨line.clock, (line.shared, [])⟩

end Timers

/-! ## The ticks that are due -/

/-- One tick of a timer. -/
structure Tick (α : Type) where
  id : Nat
  action : α
  time : Duration

/-- Whether one tick comes before another. -/
def Tick.Precedes (earlier later : Tick α) : Prop :=
  earlier.time < later.time ∨ earlier.time = later.time ∧ earlier.id < later.id

/-- Whether a tick is one of those of a timer: a timer ticks when it is due, and again after every
period. -/
def Timer.Ticks (timer : Timer α) (tick : Tick α) : Prop :=
  tick.id = timer.id ∧ tick.action = timer.action ∧
    ∃ lap, tick.time.nanos = timer.due.nanos + lap * timer.period.nanos

/-- The next tick of a timer. -/
def Timer.next (timer : Timer α) : Tick α := ⟨timer.id, timer.action, timer.due⟩

theorem Timer.ticks_next (timer : Timer α) : timer.Ticks timer.next :=
  ⟨rfl, rfl, 0, by simp [Timer.next]⟩

theorem Timer.due_le_of_ticks {timer : Timer α} {tick : Tick α} (ticks : timer.Ticks tick) :
    timer.due ≤ tick.time := by
  obtain ⟨-, -, lap, time⟩ := ticks
  show timer.due.nanos ≤ tick.time.nanos
  omega

theorem Timer.ticks_iff {timer : Timer α} {due : Duration}
    (sum : timer.due.add? timer.period = some due) {tick : Tick α} :
    timer.Ticks tick ↔ tick = timer.next ∨ { timer with due }.Ticks tick := by
  have total := Timers.nanos_of_add? sum
  constructor
  · rintro ⟨id, action, lap, time⟩
    cases lap with
    | zero =>
        have now : tick.time = timer.due := Duration.ext (by simpa using time)
        obtain ⟨_, _, _⟩ := tick
        cases id
        cases action
        cases now
        exact .inl rfl
    | succ lap =>
        refine .inr ⟨id, action, lap, ?_⟩
        show tick.time.nanos = due.nanos + lap * timer.period.nanos
        rw [time, total, Nat.add_one_mul]
        omega
  · rintro (rfl | ⟨id, action, lap, time⟩)
    · exact timer.ticks_next
    · refine ⟨id, action, lap + 1, ?_⟩
      replace time : tick.time.nanos = due.nanos + lap * timer.period.nanos := time
      rw [time, total, Nat.add_one_mul]
      omega

namespace Timers

/-- Whether the clock can show a further period after every tick up to an instant. -/
def HasRoom (timers : Timers α) (target : Duration) : Prop :=
  ∀ timer ∈ timers.live, ∀ tick, timer.Ticks tick → tick.time ≤ target →
    (tick.time.add? timer.period).isSome

/-- Whether some ticks are those that are due up to an instant, in their order, and the timers are
the same afterwards but for being due later. -/
structure Plays (before : Timers α) (target : Duration) (ticks : List (Tick α))
    (after : Timers α) : Prop where
  due : ∀ tick, tick ∈ ticks ↔ tick.time ≤ target ∧ ∃ timer ∈ before.live, timer.Ticks tick
  ordered : ticks.Pairwise Tick.Precedes
  now : after.now = target
  nextId : after.nextId = before.nextId
  same : after.live.map (fun timer => (timer.id, timer.period, timer.action)) =
    before.live.map (fun timer => (timer.id, timer.period, timer.action))
  later : ∀ timer ∈ after.live, target < timer.due ∧
    ∃ former ∈ before.live, timer.id = former.id ∧
      ∃ laps, timer.due.nanos = former.due.nanos + laps * former.period.nanos

theorem Plays.rest (timers : Timers α) {target : Duration} (quiet : timers.next? target = none) :
    Plays timers target [] (timers.rest target quiet) where
  due tick := by
    refine ⟨nofun, fun ⟨inTime, timer, among, ticks⟩ => ?_⟩
    have late := lt_due_of_next? quiet timer among
    exact absurd (Nat.le_trans (Timer.due_le_of_ticks ticks) inTime) (Nat.not_le_of_lt late)
  ordered := .nil
  now := rfl
  nextId := rfl
  same := rfl
  later timer among :=
    ⟨lt_due_of_next? quiet timer among, timer, among, rfl, 0, by simp⟩

section

variable {timers : Timers α} {timer : Timer α} {due : Duration}
  (first : earliest? timers.live = some timer) (sum : timer.due.add? timer.period = some due)

include first in
theorem eq_of_earliest? {other : Timer α} (among : other ∈ timers.live)
    (same : other.id = timer.id) : other = timer :=
  eq_of_id_eq timers.ids_increasing among (earliest?_mem first) same

theorem exists_ticks_fire {tick : Tick α} :
    (∃ other ∈ timers.live, other.Ticks tick) ↔
      tick = timer.next ∨
        ∃ other ∈ (timers.fire timer first due (le_of_add? sum)).live, other.Ticks tick := by
  have among := earliest?_mem first
  constructor
  · rintro ⟨other, found, ticks⟩
    by_cases same : other.id = timer.id
    · obtain rfl := eq_of_earliest? first found same
      refine ((Timer.ticks_iff sum).mp ticks).imp_right fun later => ?_
      exact ⟨_, List.mem_map_of_mem found, by simpa [postpone] using later⟩
    · exact .inr ⟨_, List.mem_map_of_mem found, by simpa [postpone, same] using ticks⟩
  · rintro (rfl | ⟨moved, inside, ticks⟩)
    · exact ⟨timer, among, timer.ticks_next⟩
    · obtain ⟨other, found, rfl⟩ := List.mem_map.mp inside
      refine ⟨other, found, ?_⟩
      by_cases same : other.id = timer.id
      · obtain rfl := eq_of_earliest? first found same
        exact (Timer.ticks_iff sum).mpr (.inr (by simpa [postpone] using ticks))
      · simpa [postpone, same] using ticks

/-- The timer that is due first ticks before all others. -/
theorem precedes_of_ticks_fire {tick : Tick α}
    (left : ∃ other ∈ (timers.fire timer first due (le_of_add? sum)).live, other.Ticks tick) :
    timer.next.Precedes tick := by
  obtain ⟨moved, inside, ticks⟩ := left
  obtain ⟨other, found, rfl⟩ := List.mem_map.mp inside
  have inTime := Timer.due_le_of_ticks ticks
  by_cases same : other.id = timer.id
  · have later := lt_of_add?_period (earliest?_mem first) sum
    replace inTime : due ≤ tick.time := by simpa [postpone, same] using inTime
    exact .inl (Nat.lt_of_lt_of_le later inTime)
  · have least : timer.due ≤ other.due := earliest?_le first other found
    replace ticks : other.Ticks tick := by simpa [postpone, same] using ticks
    replace inTime : other.due ≤ tick.time := by simpa [postpone, same] using inTime
    rcases Nat.lt_or_eq_of_le (Nat.le_trans least inTime) with lt | eq
    · exact .inl lt
    · refine .inr ⟨Duration.ext eq, ?_⟩
      have soon : other.due ≤ timer.due := Nat.le_trans inTime (Nat.le_of_eq eq.symm)
      have le := id_le_of_earliest? timers.ids_increasing first other found soon
      show timer.id < tick.id
      rw [ticks.1]
      omega

include sum in
theorem HasRoom.fire {target : Duration} (room : timers.HasRoom target) :
    (timers.fire timer first due (le_of_add? sum)).HasRoom target := by
  intro moved inside tick ticks inTime
  obtain ⟨other, found, rfl⟩ := List.mem_map.mp inside
  by_cases same : other.id = timer.id
  · obtain rfl := eq_of_earliest? first found same
    have ticks' := (Timer.ticks_iff sum).mpr (.inr (by simpa [postpone] using ticks))
    simpa [postpone] using room other found tick ticks' inTime
  · have ticks' : other.Ticks tick := by simpa [postpone, same] using ticks
    simpa [postpone, same] using room other found tick ticks' inTime

theorem Plays.fire {target : Duration} (inTime : timer.due ≤ target) {ticks : List (Tick α)}
    {after : Timers α}
    (plays : Plays (timers.fire timer first due (le_of_add? sum)) target ticks after) :
    Plays timers target (timer.next :: ticks) after where
  due tick := by
    rw [List.mem_cons, plays.due, exists_ticks_fire first sum]
    constructor
    · rintro (rfl | ⟨inTime', left⟩)
      · exact ⟨inTime, .inl rfl⟩
      · exact ⟨inTime', .inr left⟩
    · rintro ⟨inTime', rfl | left⟩
      · exact .inl rfl
      · exact .inr ⟨inTime', left⟩
  ordered := by
    refine List.pairwise_cons.mpr ⟨fun tick played => ?_, plays.ordered⟩
    exact precedes_of_ticks_fire first sum ((plays.due tick).mp played).2
  now := plays.now
  nextId := plays.nextId
  same := by
    rw [plays.same]
    show (timers.live.map (postpone timer.id due)).map _ = _
    rw [List.map_map]
    refine List.map_congr_left fun other _ => ?_
    rw [Function.comp, postpone]
    split <;> rfl
  later moved among := by
    obtain ⟨late, former, inside, id, laps, shown⟩ := plays.later moved among
    obtain ⟨other, found, rfl⟩ := List.mem_map.mp inside
    refine ⟨late, other, found, ?_⟩
    by_cases same : other.id = timer.id
    · obtain rfl := eq_of_earliest? first found same
      simp only [postpone, if_true] at id shown
      refine ⟨id, laps + 1, ?_⟩
      rw [shown, nanos_of_add? sum, Nat.add_one_mul]
      omega
    · simp only [postpone, if_neg same] at id shown
      exact ⟨id, laps, shown⟩

end

/-- Whether ticks leave the timers alone; they may do what they like with what they act upon. -/
def Reaction.IsStill (reaction : Reaction α σ) : Prop :=
  ∀ action before, ∃ shared, reaction.run action before = some { before with shared }

/-- As long as the ticks leave the timers alone, an advance plays those that are due. -/
theorem exists_plays_of_advanceTo {reaction : Reaction α σ} (still : reaction.IsStill)
    {target : Duration} (line : Timeline (Timers α) (σ × List (α × Duration)))
    (room : line.clock.HasRoom target) :
    ∃ ticks after shared,
      advanceTo reaction.recorded target line =
          some ⟨after, (shared,
            (ticks.map fun tick => (tick.action, tick.time)).reverse ++ line.shared.2)⟩ ∧
        Plays line.clock target ticks after := by
  -- The recursion is that of the advance: each tick is put before what is played after it, and the
  -- room for the ticks that are left is kept.
  fun_induction advanceTo reaction.recorded target line with
  | case1 line quiet => exact ⟨[], _, _, rfl, .rest line.clock quiet⟩
  | case2 line timer next late =>
      obtain ⟨first, inTime⟩ := earliest?_of_next? next
      have shown := room timer (earliest?_mem first) timer.next timer.ticks_next inTime
      rw [Timer.next, late] at shown
      cases shown
  | case3 line timer next due sum later fired stuck =>
      obtain ⟨shared, ran⟩ := still timer.action ⟨fired, line.shared.1⟩
      cases ran.symm.trans (Option.map_eq_none_iff.mp stuck)
  | case4 line timer next due sum later fired after effect ih =>
      obtain ⟨first, inTime⟩ := earliest?_of_next? next
      obtain ⟨shared, ran⟩ := still timer.action ⟨fired, line.shared.1⟩
      obtain ⟨middle, ran', rfl⟩ := Option.map_eq_some_iff.mp effect
      cases ran.symm.trans ran'
      obtain ⟨ticks, after, shared', advanced, plays⟩ := ih (room.fire first sum)
      refine ⟨timer.next :: ticks, after, shared', ?_, plays.fire first sum inTime⟩
      rw [advanced, List.map_cons, List.reverse_cons, List.append_assoc]
      rfl

theorem Plays.times {before after : Timers α} {target : Duration} {ticks : List (Tick α)}
    (plays : Plays before target ticks after) (forward : before.now ≤ target) :
    (before.now :: ticks.map Tick.time ++ [after.now]).Pairwise (· ≤ ·) := by
  have begun : ∀ tick ∈ ticks, before.now ≤ tick.time := by
    intro tick played
    obtain ⟨-, timer, among, ticks⟩ := (plays.due tick).mp played
    exact Nat.le_trans (before.now_le_due timer among) (Timer.due_le_of_ticks ticks)
  rw [plays.now, List.cons_append, List.pairwise_cons, List.pairwise_append, List.pairwise_map]
  refine ⟨fun time shown => ?_, plays.ordered.imp fun {earlier later} precedes => ?_,
    List.pairwise_singleton _ _, fun time shown last => ?_⟩
  · rcases List.mem_append.mp shown with played | last
    · obtain ⟨tick, among, rfl⟩ := List.mem_map.mp played
      exact begun tick among
    · rw [List.mem_singleton.mp last]
      exact forward
  · rcases precedes with sooner | ⟨same, -⟩
    · exact Nat.le_of_lt sooner
    · rw [same]
      exact Nat.le_refl _
  · obtain ⟨tick, played, rfl⟩ := List.mem_map.mp shown
    intro only
    rw [List.mem_singleton.mp only]
    exact ((plays.due tick).mp played).1

/-- As long as its ticks leave the timers alone and the clock can show what it has to, an advance
ends.  It plays every tick of every timer up to its target once, in the order of their times and
then of the timers' numbers, with the clock at the time of the tick; the clock goes forward from
tick to tick and shows the target in the end.  The timers are the same as before, except that each
is due some periods later and after the target. -/
theorem advance_plays_due_ticks {reaction : Reaction α σ} (still : reaction.IsStill)
    (line : Timeline (Timers α) σ) {step target : Duration}
    (sum : line.clock.now.add? step = some target) (room : line.clock.HasRoom target) :
    ∃ ticks after,
      advance reaction step line = some after ∧
        advanceWithTicks reaction step line =
          some (after, ticks.map fun tick => (tick.action, tick.time)) ∧
        Plays line.clock target ticks after.clock ∧
        (line.clock.now :: ticks.map Tick.time ++ [after.clock.now]).Pairwise (· ≤ ·) := by
  obtain ⟨ticks, after, shared, advanced, plays⟩ :=
    exists_plays_of_advanceTo still ⟨line.clock, (line.shared, [])⟩ room
  have recorded : advanceWithTicks reaction step line =
      some (⟨after, shared⟩, ticks.map fun tick => (tick.action, tick.time)) := by
    rw [advanceWithTicks, advance, sum, Option.bind_some, advanced]
    simp [ofRecord]
  refine ⟨ticks, ⟨after, shared⟩, ?_, recorded, plays, plays.times (le_of_add? sum)⟩
  rw [← map_fst_advanceWithTicks, recorded]
  rfl

/-- A timer of three tenths of a second and one of two, whose next ticks are apart. -/
def crossing : Timers String where
  now := .ofMillis 100
  nextId := 5
  live := [⟨2, .ofMillis 300, .ofMillis 400, "slow"⟩, ⟨4, .ofMillis 200, .ofMillis 200, "fast"⟩]
  ids_increasing := by simp
  id_lt_nextId := by simp
  minPeriod_le := by decide
  now_le_due := by decide

/-- At four tenths of a second both timers tick, and at three tenths neither does. -/
theorem ticks_of_crossing :
    ∃ reaction : Reaction String Nat, reaction.IsStill ∧ crossing.now.add? (.ofMillis 300) =
        some (.ofMillis 400) ∧ crossing.HasRoom (.ofMillis 400) ∧
      ∃ ticks after,
        advance reaction (.ofMillis 300) ⟨crossing, 0⟩ = some after ∧
          Plays crossing (.ofMillis 400) ticks after.clock ∧
          ⟨2, "slow", .ofMillis 400⟩ ∈ ticks ∧ ⟨4, "fast", .ofMillis 400⟩ ∈ ticks ∧
          ⟨4, "fast", .ofMillis 300⟩ ∉ ticks := by
  let counting : Reaction String Nat :=
    { run := fun _ before => some { before with shared := before.shared + 1 }
      settles := by
        rintro _ before _ ⟨⟩
        exact Settles.refl before.clock }
  have still : counting.IsStill := fun _ before => ⟨before.shared + 1, rfl⟩
  have sum : crossing.now.add? (.ofMillis 300) = some (.ofMillis 400) := by decide
  have room : crossing.HasRoom (.ofMillis 400) := by
    intro timer among tick _ inTime
    have short : timer.period.nanos ≤ 300000000 := by
      have all : ∀ timer ∈ crossing.live, timer.period.nanos ≤ 300000000 := by decide
      exact all timer among
    have early : tick.time.nanos ≤ 400000000 := inTime
    have large : 700000000 ≤ maxNanos := by decide
    rw [Duration.add?, Duration.ofNanos?, dif_pos (by omega)]
    rfl
  obtain ⟨ticks, after, advanced, -, plays, -⟩ :=
    advance_plays_due_ticks still ⟨crossing, 0⟩ sum room
  refine ⟨counting, still, sum, room, ticks, after, advanced, plays, ?slow, ?fast, fun played => ?no⟩
  case slow => exact (plays.due _).mpr ⟨by decide, _, .head _, rfl, rfl, 0, rfl⟩
  case fast => exact (plays.due _).mpr ⟨by decide, _, .tail _ (.head _), rfl, rfl, 1, rfl⟩
  case no =>
    obtain ⟨-, timer, among, id, -, lap, time⟩ := (plays.due _).mp played
    simp only [crossing, List.mem_cons, List.not_mem_nil, or_false] at among
    rcases among with rfl | rfl
    · cases id
    · simp only [Duration.ofMillis] at time
      simp at time
      omega

end Timers
end ProbeWatch
