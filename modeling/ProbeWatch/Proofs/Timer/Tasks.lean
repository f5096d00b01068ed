import Mathlib.Data.List.Basic
import ProbeWatch.Timer.Paced

/-!
# Timers as tasks

Each timer of a running program is a task of its own, and tasks are polled in any order.  A task
sets its first deadline when it is polled for the first time.  Every poll looks at the handle first
and at the deadline after that: a task whose handle is gone ends without a tick, however late it is
polled.  The tasks whose handles are held are a set of paced timers, which is changed by scheduling,
by cancelling and by ticks, and by nothing else that happens to the tasks.
-/

namespace ProbeWatch

variable {α : Type}

/-- A timer that runs as a task. -/
structure TimerTask (α : Type) where
  /-- The number under which the timer is cancelled. -/
  id : Nat
  /-- The time between two ticks. -/
  period : Duration
  /-- No timer ticks more often than the shortest period allows. -/
  minPeriod_le : minPeriod ≤ period
  /-- When the next tick is due, in nanoseconds; not known before the first poll. -/
  deadline : Option Nat
  /-- Whether the handle was cancelled or dropped. -/
  cancelled : Bool
  /-- What the tick is about. -/
  action : α

/-- What comes of a poll. -/
inductive Polled (α : Type)
  /-- The task is over. -/
  | ended
  /-- The task waits for its deadline. -/
  | waiting (task : TimerTask α)
  /-- A timer ticks, and the task goes on afterwards. -/
  | ticked (timer : PacedTimer α) (task : TimerTask α)

namespace TimerTask

/-- The timer that a task drives when the next tick is due at a deadline. -/
@[simps]
def timer (task : TimerTask α) (deadline : Nat) : PacedTimer α :=
  ⟨task.id, task.period, task.minPeriod_le, deadline, task.action⟩

/-- The task when its next tick is due at a deadline. -/
def await (task : TimerTask α) (deadline : Nat) : TimerTask α :=
  { task with deadline := some deadline }

/-- Polls a task.  The handle is looked at first. -/
def poll (now : Duration) (task : TimerTask α) : Polled α :=
  if task.cancelled then .ended
  else
    match task.deadline with
    | none => .waiting (task.await (now.nanos + task.period.nanos))
    | some deadline =>
        if deadline ≤ now.nanos then
          .ticked (task.timer deadline) (task.await ((task.timer deadline).renew now).deadline)
        else .waiting task

/-- The timer that a task drives when it is polled by now, unless its handle is gone. -/
def timer? (now : Duration) (task : TimerTask α) : Option (PacedTimer α) :=
  if task.cancelled then none
  else some (task.timer (task.deadline.getD (now.nanos + task.period.nanos)))

theorem timer?_of_held {task : TimerTask α} (held : task.cancelled = false) (now : Duration) :
    task.timer? now = some (task.timer (task.deadline.getD (now.nanos + task.period.nanos))) := by
  rw [timer?, held, if_neg Bool.false_ne_true]

theorem timer?_await {task : TimerTask α} (held : task.cancelled = false) (deadline : Nat)
    (now : Duration) : (task.await deadline).timer? now = some (task.timer deadline) := by
  have held' : (task.await deadline).cancelled = false := held
  rw [timer?_of_held held']
  rfl

/-- The task after a handle was cancelled or dropped. -/
def release (id : Nat) (task : TimerTask α) : TimerTask α :=
  if task.id = id then { task with cancelled := true } else task

theorem timer?_release (task : TimerTask α) (now : Duration) (id : Nat) :
    (task.release id).timer? now = (task.timer? now).filter (·.id != id) := by
  rw [release, timer?]
  by_cases same : task.id = id
  · cases gone : task.cancelled <;> simp [same, gone, timer?, Option.filter_some]
  · cases gone : task.cancelled <;> simp [same, gone, timer?, Option.filter_some]

end TimerTask

/-- The clock of a running program and the tasks of its timers. -/
structure Runtime (α : Type) where
  /-- The time that the clock shows. -/
  now : Duration
  /-- The number of the timer that is scheduled next. -/
  nextId : Nat
  /-- The tasks that are not over. -/
  tasks : List (TimerTask α)

namespace Runtime

/-- A clock that has just been started. -/
def start : Runtime α := ⟨.zero, 0, []⟩

/-- Spawns the task of a timer. -/
def schedule (runtime : Runtime α) (period : Duration) (action : α) : Nat × Runtime α :=
  (runtime.nextId,
    { runtime with
      nextId := runtime.nextId + 1
      tasks := runtime.tasks ++
        [⟨runtime.nextId, Duration.max period minPeriod, Timers.minPeriod_le_max period, none,
          false, action⟩] })

/-- Cancels or drops a handle.  Its task stays until it is polled again. -/
def cancel (runtime : Runtime α) (id : Nat) : Runtime α :=
  { runtime with tasks := runtime.tasks.map (TimerTask.release id) }

instance : Scheduler Runtime where
  now := Runtime.now
  schedule? runtime period action := some (schedule runtime period action)
  cancel := cancel

/-- Polls the task at a position, if there is one, and tells which timer ticks. -/
def poll? (runtime : Runtime α) (position : Nat) : Option (Runtime α × Option (PacedTimer α)) :=
  runtime.tasks[position]?.map fun task =>
    match task.poll runtime.now with
    | .ended => ({ runtime with tasks := runtime.tasks.eraseIdx position }, none)
    | .waiting next => ({ runtime with tasks := runtime.tasks.set position next }, none)
    | .ticked timer next =>
        ({ runtime with tasks := runtime.tasks.set position next }, some timer)

/-- The clock with the timers whose handles are held. -/
def paced (runtime : Runtime α) : Paced α :=
  ⟨runtime.now, runtime.nextId, runtime.tasks.filterMap (TimerTask.timer? runtime.now)⟩

/-- The clock when it shows another time. -/
def atTime (runtime : Runtime α) (now : Duration) : Runtime α := { runtime with now }

/-- Whether every tick that is due has taken place. -/
def IsServed (runtime : Runtime α) : Prop :=
  ∀ timer ∈ runtime.paced.live, runtime.now.nanos < timer.deadline

/-- Whether the clock may go on to an instant: each task has been polled and its ticks have taken
place, and the instant is not beyond the deadline of any. -/
def MayPass (runtime : Runtime α) (instant : Duration) : Prop :=
  runtime.now ≤ instant ∧ runtime.IsServed ∧
    ∀ task ∈ runtime.tasks, task.cancelled = false →
      ∃ deadline, task.deadline = some deadline ∧ instant.nanos ≤ deadline

/-! ## The timers that tasks drive -/

theorem paced_schedule (runtime : Runtime α) (period : Duration) (action : α) :
    (runtime.schedule period action).1 = (runtime.paced.schedule period action).1 ∧
      (runtime.schedule period action).2.paced = (runtime.paced.schedule period action).2 := by
  refine ⟨rfl, ?_⟩
  simp [schedule, paced, Paced.schedule, TimerTask.timer?, TimerTask.timer]

theorem paced_cancel (runtime : Runtime α) (id : Nat) :
    (runtime.cancel id).paced = runtime.paced.cancel id := by
  simp only [cancel, paced, Paced.cancel, List.filterMap_map, List.filter_filterMap]
  congr 2
  funext task
  exact task.timer?_release runtime.now id

theorem exists_append_of_getElem? {tasks : List (TimerTask α)} {position : Nat} {task : TimerTask α}
    (found : tasks[position]? = some task) :
    ∃ earlier later, tasks = earlier ++ task :: later ∧
      tasks.eraseIdx position = earlier ++ later ∧
      ∀ next, tasks.set position next = earlier ++ next :: later := by
  obtain ⟨inside, rfl⟩ := List.getElem?_eq_some_iff.mp found
  refine ⟨tasks.take position, tasks.drop (position + 1), ?_, ?_, fun next => ?_⟩
  · simp
  · exact List.eraseIdx_eq_take_drop_succ tasks position
  · rw [List.set_eq_take_append_cons_drop, if_pos inside]

/-- A poll leaves the timers as they are, but for the one that ticks. -/
theorem paced_poll {runtime after : Runtime α} {position : Nat} {ticked : Option (PacedTimer α)}
    (polled : runtime.poll? position = some (after, ticked)) :
    ticked = none ∧ after.paced = runtime.paced ∨
      ∃ timer earlier later, ticked = some timer ∧ timer.deadline ≤ runtime.now.nanos ∧
        runtime.paced.live = earlier ++ timer :: later ∧
        after.paced =
          { runtime.paced with live := earlier ++ timer.renew runtime.now :: later } := by
  obtain ⟨task, found, came⟩ := Option.map_eq_some_iff.mp polled
  obtain ⟨earlier, later, split, erased, replaced⟩ := exists_append_of_getElem? found
  cases held : task.cancelled with
  | true =>
      simp only [TimerTask.poll, held, if_true, erased, Prod.mk.injEq] at came
      obtain ⟨rfl, rfl⟩ := came
      exact .inl ⟨rfl, by simp [paced, split, TimerTask.timer?, held]⟩
  | false =>
      have driven := TimerTask.timer?_of_held held runtime.now
      have next (deadline : Nat) := TimerTask.timer?_await held deadline runtime.now
      simp only [TimerTask.poll, held, Bool.false_eq_true, if_false] at came
      cases known : task.deadline with
      | none =>
          simp only [known, replaced, Prod.mk.injEq] at came
          obtain ⟨rfl, rfl⟩ := came
          exact .inl ⟨rfl, by simp [paced, split, driven, next, known]⟩
      | some deadline =>
          by_cases due : deadline ≤ runtime.now.nanos
          · simp only [known, if_pos due, replaced, Prod.mk.injEq] at came
            obtain ⟨rfl, rfl⟩ := came
            refine .inr ⟨task.timer deadline, earlier.filterMap (TimerTask.timer? runtime.now),
              later.filterMap (TimerTask.timer? runtime.now), rfl, due, ?_, ?_⟩
            · simp [paced, split, driven, known]
            · simp only [paced, List.filterMap_append, List.filterMap_cons, next]
              rfl
          · simp only [known, if_neg due, replaced, Prod.mk.injEq] at came
            obtain ⟨rfl, rfl⟩ := came
            exact .inl ⟨rfl, by simp [paced, split]⟩

theorem paced_atTime {runtime : Runtime α} {instant : Duration} (passes : runtime.MayPass instant) :
    (runtime.atTime instant).paced = { runtime.paced with now := instant } := by
  obtain ⟨-, -, polled⟩ := passes
  have same : ∀ task ∈ runtime.tasks, task.timer? instant = task.timer? runtime.now := by
    intro task among
    cases gone : task.cancelled with
    | true => simp [TimerTask.timer?, gone]
    | false =>
        obtain ⟨deadline, known, -⟩ := polled task among gone
        simp [TimerTask.timer?, known]
  simp only [atTime, paced, Paced.mk.injEq, true_and]
  exact List.filterMap_congr same

/-! ## Polls that can be made -/

/-- The number of tasks that are still to set their first deadline. -/
def unpolled (runtime : Runtime α) : Nat :=
  runtime.tasks.countP fun task => !task.cancelled && task.deadline.isNone

theorem exists_deadline {runtime : Runtime α} (ready : runtime.unpolled = 0)
    {task : TimerTask α} (among : task ∈ runtime.tasks) (held : task.cancelled = false) :
    ∃ deadline, task.deadline = some deadline := by
  have known := List.countP_eq_zero.mp ready task among
  rw [held] at known
  exact Option.isSome_iff_exists.mp (by simpa [Option.isSome_iff_ne_none] using known)

theorem exists_poll_of_unpolled {runtime : Runtime α} (waiting : runtime.unpolled ≠ 0) :
    ∃ position after, runtime.poll? position = some (after, none) ∧
      after.unpolled < runtime.unpolled := by
  obtain ⟨task, among, fresh⟩ := List.countP_pos_iff.mp (Nat.pos_of_ne_zero waiting)
  obtain ⟨position, found⟩ := List.mem_iff_getElem?.mp among
  obtain ⟨held, unknown⟩ : task.cancelled = false ∧ task.deadline = none := by simpa using fresh
  obtain ⟨earlier, later, split, -, replaced⟩ := exists_append_of_getElem? found
  let next := task.await (runtime.now.nanos + task.period.nanos)
  refine ⟨position, { runtime with tasks := earlier ++ next :: later }, ?_, ?_⟩
  · simp [poll?, found, TimerTask.poll, held, unknown, replaced, next]
  · simp [unpolled, split, TimerTask.await, held, unknown, next]

theorem exists_poll_of_due {runtime : Runtime α} (ready : runtime.unpolled = 0)
    {timer : PacedTimer α} (among : timer ∈ runtime.paced.live)
    (due : timer.deadline ≤ runtime.now.nanos) :
    ∃ position after, runtime.poll? position = some (after, some timer) := by
  obtain ⟨task, inside, driven⟩ := List.mem_filterMap.mp among
  obtain ⟨position, found⟩ := List.mem_iff_getElem?.mp inside
  cases held : task.cancelled with
  | true =>
      rw [TimerTask.timer?, held] at driven
      cases driven
  | false =>
      obtain ⟨deadline, known⟩ := exists_deadline ready inside held
      rw [TimerTask.timer?_of_held held, known] at driven
      cases driven
      have inTime : deadline ≤ runtime.now.nanos := due
      let next := task.await ((task.timer deadline).renew runtime.now).deadline
      refine ⟨position, { runtime with tasks := runtime.tasks.set position next }, ?_⟩
      simp [poll?, found, TimerTask.poll, held, known, inTime, next]

/-- Once every task has been polled the clock may go on to the next deadline. -/
theorem mayPass_of_lt {runtime : Runtime α} (ready : runtime.unpolled = 0) {instant : Duration}
    (forward : runtime.now ≤ instant) (served : runtime.IsServed)
    (inTime : ∀ timer ∈ runtime.paced.live, instant.nanos ≤ timer.deadline) :
    runtime.MayPass instant := by
  refine ⟨forward, served, fun task among held => ?_⟩
  obtain ⟨deadline, known⟩ := exists_deadline ready among held
  have driven := TimerTask.timer?_of_held held runtime.now
  rw [known] at driven
  exact ⟨deadline, known, inTime _ (List.mem_filterMap.mpr ⟨task, among, driven⟩)⟩

end Runtime
end ProbeWatch
