import ProbeWatch.Timer.Advance

/-!
# Schedulers

What a polling engine asks of a clock: the time, repeating timers, and their cancellation.
-/

namespace ProbeWatch

/-- A clock with repeating timers that carry actions. -/
class Scheduler (S : Type → Type) where
  /-- The time that the clock shows. -/
  now {α : Type} : S α → Duration
  /-- Starts a timer, unless the clock cannot show the time of its first tick. -/
  schedule? {α : Type} : S α → Duration → α → Option (Nat × S α)
  /-- Cancels the timer of a number; a number without a live timer is ignored. -/
  cancel {α : Type} : S α → Nat → S α

instance : Scheduler Timers where
  now := Timers.now
  schedule? := Timers.schedule?
  cancel := Timers.cancel

end ProbeWatch
