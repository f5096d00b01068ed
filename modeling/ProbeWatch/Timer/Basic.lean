import ProbeWatch.Duration

/-!
# Repeating timers

A set of timers on a clock that moves only when told.  Each timer carries an action, and the set
keeps the order in which its timers were scheduled.
-/

namespace ProbeWatch

/-- A timer that ticks again and again. -/
structure Timer (α : Type) where
  /-- The number under which the timer is cancelled. -/
  id : Nat
  /-- The time between two ticks. -/
  period : Duration
  /-- When the next tick is due. -/
  due : Duration
  /-- What the tick is about. -/
  action : α

/-- The shortest period of a timer. -/
def minPeriod : Duration := .ofMillis 1

/-- A clock and its timers. -/
structure Timers (α : Type) where
  /-- The time that the clock shows. -/
  now : Duration
  /-- The number of the timer that is scheduled next. -/
  nextId : Nat
  /-- The timers that have not been cancelled, in the order of their numbers. -/
  live : List (Timer α)
  /-- Numbers are given out in increasing order. -/
  ids_increasing : live.Pairwise (fun earlier later => earlier.id < later.id)
  /-- Every number was given out before. -/
  id_lt_nextId : ∀ timer ∈ live, timer.id < nextId
  /-- No timer ticks more often than the shortest period allows. -/
  minPeriod_le : ∀ timer ∈ live, minPeriod ≤ timer.period
  /-- No tick is overdue. -/
  now_le_due : ∀ timer ∈ live, now ≤ timer.due

namespace Timers

variable {α : Type}

/-- A clock that has just been started. -/
def start : Timers α :=
  ⟨.zero, 0, [], .nil, by simp, by simp, by simp⟩

instance : Inhabited (Timers α) := ⟨start⟩

/-- The number of live timers. -/
def count (timers : Timers α) : Nat := timers.live.length

/-- The description of a clock and its timers. -/
def describe (timers : Timers α) : String :=
  "ManualScheduler \x7b now: " ++ timers.now.shortText ++ ", active_timers: " ++
    toString timers.count ++ " \x7d"

/-- The set without the timer of a number. -/
def cancel (timers : Timers α) (id : Nat) : Timers α where
  now := timers.now
  nextId := timers.nextId
  live := timers.live.filter (fun timer => timer.id != id)
  ids_increasing := timers.ids_increasing.filter _
  id_lt_nextId timer found := timers.id_lt_nextId timer (List.mem_filter.mp found).1
  minPeriod_le timer found := timers.minPeriod_le timer (List.mem_filter.mp found).1
  now_le_due timer found := timers.now_le_due timer (List.mem_filter.mp found).1

theorem minPeriod_le_max (period : Duration) : minPeriod ≤ Duration.max period minPeriod := by
  unfold Duration.max
  split
  · exact Nat.le_refl _
  · rename_i longer
    exact Nat.le_of_lt (Nat.lt_of_not_le longer)

theorem le_of_add? {a b sum : Duration} (h : a.add? b = some sum) : a ≤ sum := by
  unfold Duration.add? Duration.ofNanos? at h
  split at h
  · cases h
    exact Nat.le_add_right _ _
  · cases h

theorem nanos_of_add? {a b sum : Duration} (h : a.add? b = some sum) :
    sum.nanos = a.nanos + b.nanos := by
  unfold Duration.add? Duration.ofNanos? at h
  split at h
  · cases h
    rfl
  · cases h

/-- The set with one more timer, whose first tick is one period away, and the number of the timer.
There is none when the clock cannot show the time of that tick. -/
def schedule? (timers : Timers α) (period : Duration) (action : α) : Option (Nat × Timers α) :=
  let period' := Duration.max period minPeriod
  match h : timers.now.add? period' with
  | none => none
  | some due =>
      some (timers.nextId,
        { now := timers.now
          nextId := timers.nextId + 1
          live := timers.live ++ [⟨timers.nextId, period', due, action⟩]
          ids_increasing := by
            rw [List.pairwise_append]
            refine ⟨timers.ids_increasing, by simp, ?_⟩
            intro earlier found later last
            simp only [List.mem_singleton] at last
            subst last
            exact timers.id_lt_nextId earlier found
          id_lt_nextId := by
            intro timer found
            rcases List.mem_append.mp found with old | new
            · exact Nat.lt_succ_of_lt (timers.id_lt_nextId timer old)
            · simp only [List.mem_singleton] at new
              subst new
              exact Nat.lt_succ_self _
          minPeriod_le := by
            intro timer found
            rcases List.mem_append.mp found with old | new
            · exact timers.minPeriod_le timer old
            · simp only [List.mem_singleton] at new
              subst new
              exact minPeriod_le_max period
          now_le_due := by
            intro timer found
            rcases List.mem_append.mp found with old | new
            · exact timers.now_le_due timer old
            · simp only [List.mem_singleton] at new
              subst new
              exact le_of_add? h })

/-- The timer that ticks next: of those due first, the one scheduled first. -/
def earliest? : List (Timer α) → Option (Timer α)
  | [] => none
  | timer :: rest =>
      match earliest? rest with
      | none => some timer
      | some other => if timer.due ≤ other.due then some timer else some other

theorem earliest?_mem {live : List (Timer α)} {first : Timer α}
    (h : earliest? live = some first) : first ∈ live := by
  induction live generalizing first with
  | nil => simp [earliest?] at h
  | cons timer rest ih =>
      unfold earliest? at h
      split at h
      · cases h
        simp
      · split at h
        · cases h
          simp
        · cases h
          exact List.mem_cons_of_mem _ (ih (by assumption))

theorem earliest?_le {live : List (Timer α)} {first : Timer α}
    (h : earliest? live = some first) : ∀ timer ∈ live, first.due ≤ timer.due := by
  induction live generalizing first with
  | nil => simp
  | cons timer rest ih =>
      unfold earliest? at h
      intro other found
      split at h
      · rename_i none
        cases h
        rcases List.mem_cons.mp found with rfl | later
        · exact Nat.le_refl _
        · cases rest with
          | nil => simp at later
          | cons next rest =>
              unfold earliest? at none
              split at none
              · cases none
              · split at none <;> cases none
      · rename_i best bestFirst
        split at h
        · rename_i before
          cases h
          rcases List.mem_cons.mp found with rfl | later
          · exact Nat.le_refl _
          · exact Nat.le_trans before (ih bestFirst other later)
        · rename_i before
          cases h
          rcases List.mem_cons.mp found with rfl | later
          · exact Nat.le_of_lt (Nat.lt_of_not_le before)
          · exact ih bestFirst other later

theorem earliest?_eq_none {live : List (Timer α)} (h : earliest? live = none) : live = [] := by
  cases live with
  | nil => rfl
  | cons timer rest =>
      unfold earliest? at h
      split at h
      · cases h
      · split at h <;> cases h

/-- The next timer that is due at `target` or before. -/
def next? (timers : Timers α) (target : Duration) : Option (Timer α) :=
  (earliest? timers.live).filter (fun timer => decide (timer.due ≤ target))

theorem earliest?_of_next? {timers : Timers α} {target : Duration} {timer : Timer α}
    (h : timers.next? target = some timer) :
    earliest? timers.live = some timer ∧ timer.due ≤ target := by
  unfold next? at h
  rw [Option.filter_eq_some_iff] at h
  simpa using h

/-- The timer with its next tick one period later, if it is the one of the given number. -/
def postpone (id : Nat) (due : Duration) (timer : Timer α) : Timer α :=
  if timer.id = id then { timer with due } else timer

/-- The set at the moment of a tick: the clock shows its due time, and the timer that ticks is due
again one period later. -/
def fire (timers : Timers α) (timer : Timer α) (first : earliest? timers.live = some timer)
    (due : Duration) (later : timer.due ≤ due) : Timers α where
  now := timer.due
  nextId := timers.nextId
  live := timers.live.map (postpone timer.id due)
  ids_increasing := by
    rw [List.pairwise_map]
    refine timers.ids_increasing.imp ?_
    intro a b less
    unfold postpone
    split <;> split <;> simpa using less
  id_lt_nextId := by
    intro other found
    obtain ⟨old, member, rfl⟩ := List.mem_map.mp found
    have := timers.id_lt_nextId old member
    unfold postpone
    split <;> simpa using this
  minPeriod_le := by
    intro other found
    obtain ⟨old, member, rfl⟩ := List.mem_map.mp found
    have := timers.minPeriod_le old member
    unfold postpone
    split <;> simpa using this
  now_le_due := by
    intro other found
    obtain ⟨old, member, rfl⟩ := List.mem_map.mp found
    have := earliest?_le first old member
    unfold postpone
    split
    · exact later
    · exact this

/-- The set when the clock shows `target`, no tick being due up to then. -/
def rest (timers : Timers α) (target : Duration) (quiet : timers.next? target = none) :
    Timers α where
  now := target
  nextId := timers.nextId
  live := timers.live
  ids_increasing := timers.ids_increasing
  id_lt_nextId := timers.id_lt_nextId
  minPeriod_le := timers.minPeriod_le
  now_le_due := by
    intro timer found
    unfold next? at quiet
    rw [Option.filter_eq_none_iff] at quiet
    cases h : earliest? timers.live with
    | none => simp [earliest?_eq_none h] at found
    | some first =>
        have late := quiet first h
        simp only [decide_eq_true_eq] at late
        exact Nat.le_trans (Nat.le_of_lt (Nat.lt_of_not_le late)) (earliest?_le h timer found)

/-- The number of timers due at an instant or before. -/
def dueBy (timers : Timers α) (instant : Duration) : Nat :=
  timers.live.countP (fun timer => decide (timer.due ≤ instant))

end Timers
end ProbeWatch
