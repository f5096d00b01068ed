import ProbeWatch.Timer.Scheduler

/-!
# Paced timers

The timers of a running program.  A timer wakes at the first whole millisecond at or after its
deadline, and so does whoever waits.  A clock that has been moved by a fraction of a millisecond
keeps that fraction whenever it waits.  A tick that comes late is not made up for: the next one is a
full period away.
-/

namespace ProbeWatch

/-- A timer of a running program. -/
structure PacedTimer (α : Type) where
  /-- The number under which the timer is cancelled. -/
  id : Nat
  /-- The time between two ticks. -/
  period : Duration
  /-- No timer ticks more often than the shortest period allows. -/
  minPeriod_le : minPeriod ≤ period
  /-- When the next tick is due, in nanoseconds. -/
  deadline : Nat
  /-- What the tick is about. -/
  action : α

/-- The clock of a running program and its timers. -/
structure Paced (α : Type) where
  /-- The time that the clock shows. -/
  now : Duration
  /-- The number of the timer that is scheduled next. -/
  nextId : Nat
  /-- The timers that have not been cancelled, in the order of their numbers. -/
  live : List (PacedTimer α)

/-- How late a tick may come and still count as on time, in nanoseconds. -/
def lateness : Nat := 5000000

/-- The first whole millisecond at or after an instant, both in nanoseconds. -/
def wholeMillis (instant : Nat) : Nat := (instant + 999999) / 1000000 * 1000000

theorem le_wholeMillis (instant : Nat) : instant ≤ wholeMillis instant := by
  unfold wholeMillis
  omega

namespace PacedTimer

variable {α : Type}

/-- The instant at which the timer wakes, in nanoseconds. -/
def wake (timer : PacedTimer α) : Nat := wholeMillis timer.deadline

/-- The timer after a tick at an instant. -/
def renew (now : Duration) (timer : PacedTimer α) : PacedTimer α :=
  let base := if timer.deadline + lateness < now.nanos then now.nanos else timer.deadline
  { timer with deadline := base + timer.period.nanos }

theorem deadline_le_wake (timer : PacedTimer α) : timer.deadline ≤ timer.wake :=
  le_wholeMillis timer.deadline

theorem deadline_lt_renew (timer : PacedTimer α) (now : Duration) :
    timer.deadline < (timer.renew now).deadline := by
  have period : minPeriod.nanos ≤ timer.period.nanos := timer.minPeriod_le
  have positive : 0 < minPeriod.nanos := by decide
  unfold renew
  dsimp only
  split <;> omega

end PacedTimer

namespace Paced

variable {α σ : Type}

/-- A clock that has just been started. -/
def start : Paced α := ⟨.zero, 0, []⟩

/-- Starts a timer. -/
def schedule (timers : Paced α) (period : Duration) (action : α) : Nat × Paced α :=
  let period' := Duration.max period minPeriod
  (timers.nextId,
    { timers with
      nextId := timers.nextId + 1
      live := timers.live ++
        [⟨timers.nextId, period', Timers.minPeriod_le_max period,
          timers.now.nanos + period'.nanos, action⟩] })

/-- The set without the timer of a number. -/
def cancel (timers : Paced α) (id : Nat) : Paced α :=
  { timers with live := timers.live.filter (fun timer => timer.id != id) }

instance : Scheduler Paced where
  now := Paced.now
  schedule? timers period action := some (schedule timers period action)
  cancel := cancel

/-- The timer that wakes first, and the others.  Of those that wake together it is the one that was
scheduled first. -/
def earliest? : List (PacedTimer α) → Option (PacedTimer α)
  | [] => none
  | timer :: rest =>
      match earliest? rest with
      | none => some timer
      | some other => if timer.wake ≤ other.wake then some timer else some other

theorem earliest?_mem {live : List (PacedTimer α)} {first : PacedTimer α}
    (h : earliest? live = some first) : first ∈ live := by
  induction live generalizing first with
  | nil => simp [earliest?] at h
  | cons timer rest ih =>
      unfold earliest? at h
      split at h
      · cases h
        simp
      · split at h
        · cases h
          simp
        · cases h
          exact List.mem_cons_of_mem _ (ih (by assumption))

/-- What a tick does.  It may cancel timers and starts none. -/
structure Reaction (α σ : Type) where
  /-- The effect of the tick of an action. -/
  run : α → Timeline (Paced α) σ → Option (Timeline (Paced α) σ)
  /-- No timer is added. -/
  sublist : ∀ action before after,
    run action before = some after → after.clock.live.Sublist before.clock.live

/-- How far the deadlines of the timers are from the target, all together. -/
def remaining (target : Duration) : List (PacedTimer α) → Nat
  | [] => 0
  | timer :: rest => (target.nanos + 1 - timer.deadline) + remaining target rest

/-- The set at the moment of a tick. -/
def fire (timers : Paced α) (timer : PacedTimer α) (now : Duration) : Paced α :=
  { timers with
    now
    live := timers.live.map fun other => if other.id = timer.id then other.renew now else other }

theorem remaining_le_of_sublist {target : Duration} {left right : List (PacedTimer α)}
    (h : left.Sublist right) : remaining target left ≤ remaining target right := by
  induction h with
  | slnil => exact Nat.le_refl _
  | cons _ _ ih =>
      simp only [remaining]
      omega
  | cons_cons _ _ ih =>
      simp only [remaining]
      omega

theorem remaining_map_lt {target now : Duration} {id : Nat} (live : List (PacedTimer α))
    {timer : PacedTimer α} (found : timer ∈ live) (same : timer.id = id)
    (inTime : timer.deadline ≤ target.nanos) :
    remaining target (live.map fun other => if other.id = id then other.renew now else other) <
      remaining target live := by
  have le : ∀ rest : List (PacedTimer α),
      remaining target (rest.map fun other => if other.id = id then other.renew now else other) ≤
        remaining target rest := by
    intro rest
    induction rest with
    | nil => exact Nat.le_refl _
    | cons head rest ih =>
        simp only [remaining, List.map_cons] at ih ⊢
        have later := head.deadline_lt_renew now
        split <;> omega
  induction live with
  | nil => simp at found
  | cons head rest ih =>
      have tail := le rest
      simp only [remaining, List.map_cons] at ih tail ⊢
      have later := head.deadline_lt_renew now
      rcases List.mem_cons.mp found with rfl | member
      · rw [if_pos same]
        omega
      · have := ih member
        split <;> omega

/-- The part of an instant that is less than a millisecond, in nanoseconds. -/
def offset (instant : Duration) : Nat := instant.nanos % 1000000

/-- Fires every tick up to `target`, each at the instant at which its timer wakes or, when the
clock is past that, at once; then shows `target`.  The instants of the ticks have the same offset as
`target`. -/
def advanceTo (reaction : Reaction α σ) (target : Duration) (line : Timeline (Paced α) σ) :
    Option (Timeline (Paced α) σ) :=
  match _ : earliest? line.clock.live with
  | none => some { line with clock := { line.clock with now := target } }
  | some timer =>
      if inTime : timer.wake + offset target ≤ target.nanos then
        let now := Duration.max line.clock.now
          ⟨timer.wake + offset target, Nat.le_trans inTime target.nanos_le⟩
        match _ : reaction.run timer.action { line with clock := line.clock.fire timer now } with
        | none => none
        | some after => advanceTo reaction target after
      else
        some { line with clock := { line.clock with now := target } }
termination_by remaining target line.clock.live
decreasing_by
  have sublist := reaction.sublist _ _ _ ‹_›
  exact Nat.lt_of_le_of_lt (remaining_le_of_sublist sublist)
    (remaining_map_lt line.clock.live (earliest?_mem ‹_›) rfl
      (Nat.le_trans timer.deadline_le_wake (Nat.le_trans (Nat.le_add_right _ _) inTime)))

/-- The instant before which the clock stays, in nanoseconds. -/
def horizon : Nat := 9223372036854775807000000000

/-- The duration of that many nanoseconds, if the clock can show it. -/
def instant? (nanos : Nat) : Option Duration :=
  if nanos < horizon then Duration.ofNanos? nanos else none

/-- The longest wait, thirty years, in nanoseconds. -/
def longestWait : Nat := 946080000000000000

/-- The last whole millisecond at which a wait can be over, in nanoseconds. -/
def lastWake : Nat := 18446744073709551613000000

/-- The instant at which a wait is over that begins at `now`. -/
def waitEnd? (now span : Duration) : Option Duration := do
  let due ← instant? (now.nanos + min span.nanos longestWait)
  let woken ← instant? (min (wholeMillis due.nanos) lastWake + offset now)
  return Duration.max now woken

/-- Waits, and visits every instant at which a timer wakes. -/
def advance (reaction : Reaction α σ) (span : Duration) (line : Timeline (Paced α) σ) :
    Option (Timeline (Paced α) σ) :=
  (waitEnd? line.clock.now span).bind fun target => advanceTo reaction target line

/-- Moves the clock on at once; the timers that should have woken meanwhile are late. -/
def jump (reaction : Reaction α σ) (span : Duration) (line : Timeline (Paced α) σ) :
    Option (Timeline (Paced α) σ) :=
  (instant? (line.clock.now.nanos + span.nanos)).bind fun target =>
    advanceTo reaction target { line with clock := { line.clock with now := target } }

end Paced
end ProbeWatch
