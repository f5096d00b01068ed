import ProbeWatch.Proofs.Timer.Tasks

/-!
# What timers promise

Whoever uses a clock may count on two things: a timer never ticks before it was scheduled for a
whole period, and it never ticks once its handle is gone.  Both are told of histories of whatever is
done to a clock, and hold of the clock that moves only when told as well as of timers that run as
tasks, however late these are polled.
-/

namespace ProbeWatch

variable {α : Type}

/-! ## Histories -/

/-- Something that happens to the timers of a clock. -/
inductive TimerEvent
  /-- A timer was scheduled at an instant. -/
  | scheduled (id : Nat) (begun period : Duration)
  /-- The handle of a timer was cancelled or dropped. -/
  | cancelled (id : Nat)
  /-- A timer ticked at an instant. -/
  | ticked (id : Nat) (now : Duration)

/-- Whether an event is as promised after earlier events: a timer that ticks was not cancelled, and
was scheduled at least one period before. -/
def TimerEvent.IsPromised (earlier : List TimerEvent) : TimerEvent → Prop
  | .ticked id now =>
      .cancelled id ∉ earlier ∧
        ∃ begun period, .scheduled id begun period ∈ earlier ∧ minPeriod ≤ period ∧
          begun.nanos + period.nanos ≤ now.nanos
  | _ => True

/-- Whether every event of a history is as promised after those before it.  The latest event comes
first. -/
def IsOrderly : List TimerEvent → Prop
  | [] => True
  | event :: earlier => event.IsPromised earlier ∧ IsOrderly earlier

/-- What is recorded when a number is cancelled; a number that was not given out is ignored. -/
def cancellation (nextId id : Nat) : List TimerEvent :=
  if id < nextId then [.cancelled id] else []

/-- Whatever is done to a clock that moves only when told. -/
inductive Timers.Reached : List TimerEvent → Timers α → Prop
  | start : Reached [] .start
  | schedule {history : List TimerEvent} {timers after : Timers α}
      (reached : Reached history timers) {period : Duration} {action : α} {id : Nat}
      (granted : timers.schedule? period action = some (id, after)) :
      Reached (.scheduled id timers.now (Duration.max period minPeriod) :: history) after
  | cancel {history : List TimerEvent} {timers : Timers α} (reached : Reached history timers)
      (id : Nat) : Reached (cancellation timers.nextId id ++ history) (timers.cancel id)
  | fire {history : List TimerEvent} {timers : Timers α} (reached : Reached history timers)
      {timer : Timer α} (first : earliest? timers.live = some timer) {due : Duration}
      (later : timer.due ≤ due) :
      Reached (.ticked timer.id timer.due :: history) (timers.fire timer first due later)
  | rest {history : List TimerEvent} {timers : Timers α} (reached : Reached history timers)
      {target : Duration} (quiet : timers.next? target = none) :
      Reached history (timers.rest target quiet)

/-- Whatever is done to timers that run as tasks; time may pass as it likes. -/
inductive Runtime.Reached : List TimerEvent → Runtime α → Prop
  | start : Reached [] .start
  | schedule {history : List TimerEvent} {runtime : Runtime α} (reached : Reached history runtime)
      (period : Duration) (action : α) :
      Reached (.scheduled runtime.nextId runtime.now (Duration.max period minPeriod) :: history)
        (runtime.schedule period action).2
  | cancel {history : List TimerEvent} {runtime : Runtime α} (reached : Reached history runtime)
      (id : Nat) : Reached (cancellation runtime.nextId id ++ history) (runtime.cancel id)
  | poll {history : List TimerEvent} {runtime after : Runtime α} (reached : Reached history runtime)
      {position : Nat} {ticked : Option (PacedTimer α)}
      (polled : runtime.poll? position = some (after, ticked)) :
      Reached ((ticked.map fun timer => .ticked timer.id runtime.now).toList ++ history) after
  | pass {history : List TimerEvent} {runtime : Runtime α} (reached : Reached history runtime)
      {instant : Duration} (forward : runtime.now ≤ instant) :
      Reached history (runtime.atTime instant)

/-! ## Entries -/

/-- What matters of a timer to its clock. -/
structure TimerEntry (α : Type) where
  id : Nat
  period : Duration
  /-- When the next tick is due, in nanoseconds. -/
  due : Nat
  action : α

/-- What a clock that moves only when told knows of a timer. -/
@[simps]
def Timer.entry (timer : Timer α) : TimerEntry α :=
  ⟨timer.id, timer.period, timer.due.nanos, timer.action⟩

/-- What the clock of a running program knows of a timer. -/
@[simps]
def PacedTimer.entry (timer : PacedTimer α) : TimerEntry α :=
  ⟨timer.id, timer.period, timer.deadline, timer.action⟩

/-- Whether the handle of a timer is held and its next tick is due no sooner than one period after
it was scheduled. -/
def TimerEntry.IsBacked (history : List TimerEvent) (entry : TimerEntry α) : Prop :=
  .cancelled entry.id ∉ history ∧
    ∃ begun, .scheduled entry.id begun entry.period ∈ history ∧ minPeriod ≤ entry.period ∧
      begun.nanos + entry.period.nanos ≤ entry.due

/-- Whether some timers are those of a list, possibly due later. -/
def Postpones (later entries : List (TimerEntry α)) : Prop :=
  ∀ entry ∈ later, ∃ former ∈ entries,
    entry.id = former.id ∧ entry.period = former.period ∧ former.due ≤ entry.due

/-- The timers of a clock are backed by its history. -/
structure Accounts (history : List TimerEvent) (nextId : Nat) (entries : List (TimerEntry α)) :
    Prop where
  orderly : IsOrderly history
  issued : ∀ id, .cancelled id ∈ history → id < nextId
  entry : ∀ entry ∈ entries, entry.id < nextId ∧ entry.IsBacked history

namespace Accounts

variable {history : List TimerEvent} {nextId : Nat} {entries later : List (TimerEntry α)}

theorem nil : Accounts [] 0 ([] : List (TimerEntry α)) :=
  ⟨trivial, fun _ among => absurd among List.not_mem_nil,
    fun _ among => absurd among List.not_mem_nil⟩

theorem postpone (accounts : Accounts history nextId entries)
    (postpones : Postpones later entries) : Accounts history nextId later := by
  refine ⟨accounts.orderly, accounts.issued, fun entry among => ?_⟩
  obtain ⟨former, before, id, period, due⟩ := postpones entry among
  obtain ⟨issued, held, begun, scheduled, long, inTime⟩ := accounts.entry former before
  rw [TimerEntry.IsBacked, id, period]
  exact ⟨issued, held, begun, scheduled, long, Nat.le_trans inTime due⟩

theorem schedule (accounts : Accounts history nextId entries) (begun : Duration) {period : Duration}
    (long : minPeriod ≤ period) (action : α) :
    Accounts (.scheduled nextId begun period :: history) (nextId + 1)
      (entries ++ [⟨nextId, period, begun.nanos + period.nanos, action⟩]) := by
  refine ⟨⟨trivial, accounts.orderly⟩, fun id among => ?_, fun entry among => ?_⟩
  · exact Nat.lt_succ_of_lt (accounts.issued id (by simpa using among))
  · rcases List.mem_append.mp among with old | new
    · obtain ⟨issued, held, begun', scheduled, rest⟩ := accounts.entry entry old
      exact ⟨Nat.lt_succ_of_lt issued, by simpa using held, begun',
        List.mem_cons_of_mem _ scheduled, rest⟩
    · rw [List.mem_singleton.mp new]
      refine ⟨Nat.lt_succ_self _, fun cancelled => ?_, begun, List.mem_cons_self, long,
        Nat.le_refl _⟩
      exact Nat.lt_irrefl _ (accounts.issued nextId (by simpa using cancelled))

theorem cancel (accounts : Accounts history nextId entries) (id : Nat) :
    Accounts (cancellation nextId id ++ history) nextId (entries.filter (·.id != id)) := by
  rw [cancellation]
  split
  · rename_i issued
    refine ⟨⟨trivial, accounts.orderly⟩, fun other among => ?_, fun entry among => ?_⟩
    · rcases List.mem_cons.mp among with same | before
      · cases same
        exact issued
      · exact accounts.issued other before
    · obtain ⟨among, different⟩ := List.mem_filter.mp among
      obtain ⟨issued', held, begun, scheduled, rest⟩ := accounts.entry entry among
      refine ⟨issued', fun cancelled => ?_, begun, List.mem_cons_of_mem _ scheduled, rest⟩
      rcases List.mem_cons.mp cancelled with same | before
      · cases same
        simp at different
      · exact held before
  · exact ⟨accounts.orderly, accounts.issued, fun entry among =>
      accounts.entry entry (List.mem_filter.mp among).1⟩

theorem tick (accounts : Accounts history nextId entries) {entry : TimerEntry α}
    (among : entry ∈ entries) {now : Duration} (due : entry.due ≤ now.nanos) :
    Accounts (.ticked entry.id now :: history) nextId entries := by
  obtain ⟨-, held, begun, scheduled, long, inTime⟩ := accounts.entry entry among
  refine ⟨⟨⟨held, begun, entry.period, scheduled, long, Nat.le_trans inTime due⟩,
    accounts.orderly⟩, fun id among => ?_, fun other among => ?_⟩
  · exact accounts.issued id (by simpa using among)
  · obtain ⟨issued, held, begun, scheduled, rest⟩ := accounts.entry other among
    exact ⟨issued, by simpa using held, begun, List.mem_cons_of_mem _ scheduled, rest⟩

end Accounts

/-! ## The clock that moves only when told -/

theorem Timers.fields_of_schedule? {timers after : Timers α} {period : Duration} {action : α}
    {id : Nat} (granted : timers.schedule? period action = some (id, after)) :
    timers.nextId = id ∧ after.nextId = timers.nextId + 1 ∧ after.now = timers.now ∧
      ∃ due : Duration, due.nanos = timers.now.nanos + (Duration.max period minPeriod).nanos ∧
        after.live =
          timers.live ++ [⟨timers.nextId, Duration.max period minPeriod, due, action⟩] := by
  unfold schedule? at granted
  dsimp only at granted
  split at granted
  · cases granted
  · rename_i due sum
    simp only [Option.some.injEq, Prod.mk.injEq] at granted
    obtain ⟨rfl, rfl⟩ := granted
    exact ⟨rfl, rfl, rfl, due, nanos_of_add? sum, rfl⟩

theorem Timers.accounts {history : List TimerEvent} {timers : Timers α}
    (reached : Timers.Reached history timers) :
    Accounts history timers.nextId (timers.live.map Timer.entry) := by
  induction reached with
  | start => exact .nil
  | @schedule history timers after reached period action id granted ih =>
      obtain ⟨rfl, nextId, -, due, sum, live⟩ := Timers.fields_of_schedule? granted
      have scheduled := ih.schedule timers.now (Timers.minPeriod_le_max period) action
      rw [nextId, live, List.map_append, List.map_singleton, Timer.entry, sum]
      exact scheduled
  | @cancel history timers reached id ih =>
      have cancelled := ih.cancel id
      rw [List.filter_map] at cancelled
      exact cancelled
  | @fire history timers reached timer first due later ih =>
      have among := Timers.earliest?_mem first
      have ticked := ih.tick (List.mem_map_of_mem among) (Nat.le_refl timer.due.nanos)
      refine ticked.postpone fun entry found => ?_
      obtain ⟨postponed, inside, rfl⟩ := List.mem_map.mp found
      obtain ⟨former, before, rfl⟩ := List.mem_map.mp inside
      refine ⟨former.entry, List.mem_map_of_mem before, ?_⟩
      rw [Timers.postpone]
      split
      · rename_i same
        obtain rfl := Timers.eq_of_id_eq timers.ids_increasing before among same
        exact ⟨rfl, rfl, later⟩
      · exact ⟨rfl, rfl, Nat.le_refl _⟩
  | rest reached quiet ih => exact ih

/-! ## Timers that run as tasks -/

theorem postpones_renew (now : Duration) (timer : PacedTimer α)
    (earlier later : List (PacedTimer α)) :
    Postpones ((earlier ++ timer.renew now :: later).map PacedTimer.entry)
      ((earlier ++ timer :: later).map PacedTimer.entry) := by
  intro entry found
  obtain ⟨moved, inside, rfl⟩ := List.mem_map.mp found
  rw [List.mem_append, List.mem_cons] at inside
  by_cases renewed : moved = timer.renew now
  · refine ⟨timer.entry, List.mem_map_of_mem (by simp), ?_⟩
    rw [renewed]
    exact ⟨rfl, rfl, Nat.le_of_lt (timer.deadline_lt_renew now)⟩
  · refine ⟨moved.entry, List.mem_map_of_mem ?_, rfl, rfl, Nat.le_refl _⟩
    simp only [List.mem_append, List.mem_cons]
    exact inside.imp_right fun other => .inr (other.resolve_left renewed)

theorem Runtime.postpones_atTime {runtime : Runtime α} {instant : Duration}
    (forward : runtime.now ≤ instant) :
    Postpones ((runtime.atTime instant).paced.live.map PacedTimer.entry)
      (runtime.paced.live.map PacedTimer.entry) := by
  intro entry found
  obtain ⟨timer, inside, rfl⟩ := List.mem_map.mp found
  obtain ⟨task, among, driven⟩ := List.mem_filterMap.mp inside
  cases held : task.cancelled with
  | true =>
      rw [TimerTask.timer?, held] at driven
      cases driven
  | false =>
      have before := TimerTask.timer?_of_held held runtime.now
      rw [TimerTask.timer?_of_held held] at driven
      cases driven
      refine ⟨_, List.mem_map_of_mem (List.mem_filterMap.mpr ⟨task, among, before⟩), rfl, rfl, ?_⟩
      cases known : task.deadline with
      | none => exact Nat.add_le_add_right forward task.period.nanos
      | some deadline => exact Nat.le_refl _

theorem Runtime.accounts {history : List TimerEvent} {runtime : Runtime α}
    (reached : Runtime.Reached history runtime) :
    Accounts history runtime.nextId (runtime.paced.live.map PacedTimer.entry) := by
  induction reached with
  | start => exact .nil
  | @schedule history runtime reached period action ih =>
      rw [(runtime.paced_schedule period action).2]
      have scheduled := ih.schedule runtime.now (Timers.minPeriod_le_max period) action
      rw [Paced.schedule, List.map_append]
      exact scheduled
  | @cancel history runtime reached id ih =>
      have cancelled := ih.cancel id
      rw [List.filter_map] at cancelled
      rw [runtime.paced_cancel]
      exact cancelled
  | @poll history runtime after reached position ticked polled ih =>
      rcases runtime.paced_poll polled with
        ⟨rfl, same⟩ | ⟨timer, earlier, later, rfl, due, live, moved⟩
      · have nextId : after.nextId = runtime.nextId := congrArg Paced.nextId same
        rw [same, nextId]
        exact ih
      · have nextId : after.nextId = runtime.nextId := congrArg Paced.nextId moved
        have among : timer ∈ runtime.paced.live := by simp [live]
        have ticked := ih.tick (List.mem_map_of_mem among) due
        rw [moved, nextId]
        refine ticked.postpone ?_
        rw [live]
        exact postpones_renew runtime.now timer earlier later
  | @pass history runtime reached instant forward ih =>
      exact ih.postpone (runtime.postpones_atTime forward)

end ProbeWatch
