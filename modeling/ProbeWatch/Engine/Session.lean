import ProbeWatch.Engine.Call
import ProbeWatch.Timer.Paced

/-!
# Polling sessions

The operations of an engine, each run to its end: starting and stopping a session, changing its
interval, and moving the clock on.  Every step of a call settles, so a tick of an engine is a
reaction, and an advance of its clock ends.
-/

namespace ProbeWatch.Engine

/-- The settings that a session cannot be started with. -/
def zeroInterval : Failure := .invalidInput "Poll interval must be > 0"

section

variable {S : Type → Type} [Scheduler S]

/-- Starts a session; there is no result when the clock cannot show its first tick. -/
def start? (config : PollConfig) (line : Line S) : Option (Except Failure Unit × Line S) :=
  if config.intervalMs = 0 then
    some (.error zeroInterval, line)
  else
    (run (.start config) line).map fun (_, after) => (.ok (), after)

/-- Stops the session. -/
def stop? (line : Line S) : Option (Line S) :=
  (run .stop line).map Prod.snd

/-- Changes the interval, and tells whether it was accepted. -/
def setInterval? (interval : Duration) (line : Line S) : Option (Bool × Line S) :=
  run (.setInterval interval) line

/-- The tick of the timer that was armed for a generation. -/
def tick? (generation : Nat) (line : Line S) : Option (Line S) :=
  (run (.tick generation) line).map Prod.snd

/-- The clock that an engine leaves behind when it is given up, with its timer cancelled. -/
def abandon (line : Line S) : Line S := line.drop line.shared.timer

end

open Timers (Settles)

theorem settles_drop (clock : Timers Nat) (engine : Engine) (timer : Option Nat) :
    Settles clock (Line.drop (⟨clock, engine⟩ : Line Timers) timer).clock := by
  cases timer with
  | none => exact Settles.refl _
  | some timer => exact Timers.settles_cancel _ _

/-- Every step of a call settles. -/
theorem settles_step {line after : Line Timers} {call next : Call}
    (h : step line call = some (next, after)) : Settles line.clock after.clock := by
  cases call with
  | arm generation interval changed =>
      unfold step at h
      dsimp only at h
      split at h
      · cases h
      · rename_i timer clock scheduled
        cases h
        exact Timers.settles_schedule? scheduled
  | _ =>
      simp only [step, Line.update] at h
      (repeat' split at h) <;>
        simp only [Option.some.injEq, Prod.mk.injEq] at h <;>
        (obtain ⟨_, rfl⟩ := h) <;>
        first
          | exact Settles.refl _
          | exact settles_drop _ _ _

/-- A call settles. -/
theorem settles_run {call : Call} {line after : Line Timers} {accepted : Bool}
    (h : run call line = some (accepted, after)) : Settles line.clock after.clock := by
  fun_induction run call line with
  | case1 =>
      cases h
      exact Settles.refl _
  | case2 => cases h
  | case3 call line unfinished next middle taken ih =>
      exact (settles_step taken).trans (ih h)

/-- What the tick of an engine's timer does. -/
def reaction : Timers.Reaction Nat Engine where
  run := tick?
  settles generation before after h := by
    unfold tick? at h
    rw [Option.map_eq_some_iff] at h
    obtain ⟨⟨accepted, last⟩, ran, rfl⟩ := h
    exact settles_run ran

/-- Moves the clock of an engine on. -/
def advance (span : Duration) (line : Line Timers) : Option (Line Timers) :=
  Timers.advance reaction span line

/-- Whether the call is a tick. -/
def Call.isTick : Call → Bool
  | .tick _ | .check .. | .dropExpired .. | .announceExpired _ | .fetch _ | .done _ => true
  | _ => false

theorem sublist_drop (clock : Paced Nat) (engine : Engine) (timer : Option Nat) :
    (Line.drop (⟨clock, engine⟩ : Line Paced) timer).clock.live.Sublist clock.live := by
  cases timer with
  | none => exact List.Sublist.refl _
  | some timer => exact List.filter_sublist

/-- A step of a tick starts no timer, and leaves a tick. -/
theorem sublist_step {line after : Line Paced} {call next : Call} (ticking : call.isTick = true)
    (h : step line call = some (next, after)) :
    next.isTick = true ∧ after.clock.live.Sublist line.clock.live := by
  cases call <;> simp only [Call.isTick, Bool.false_eq_true] at ticking <;>
    simp only [step, Line.update] at h <;> (repeat' split at h) <;>
    simp only [Option.some.injEq, Prod.mk.injEq] at h <;>
    (obtain ⟨rfl, rfl⟩ := h) <;> refine ⟨rfl, ?_⟩ <;>
    first
      | exact List.Sublist.refl _
      | exact sublist_drop _ _ _

/-- A tick starts no timer. -/
theorem sublist_run {call : Call} {line after : Line Paced} {accepted : Bool}
    (ticking : call.isTick = true) (h : run call line = some (accepted, after)) :
    after.clock.live.Sublist line.clock.live := by
  fun_induction run call line with
  | case1 =>
      cases h
      exact List.Sublist.refl _
  | case2 => cases h
  | case3 call line unfinished next middle taken ih =>
      obtain ⟨ticking, sublist⟩ := sublist_step ticking taken
      exact (ih ticking h).trans sublist

/-- What the tick of an engine's timer does in a running program. -/
def pacedReaction : Paced.Reaction Nat Engine where
  run := tick?
  sublist generation before after h := by
    unfold tick? at h
    rw [Option.map_eq_some_iff] at h
    obtain ⟨⟨accepted, last⟩, ran, rfl⟩ := h
    exact sublist_run rfl ran

/-- Moves the clock of a running program on, and visits every instant at which a timer wakes. -/
def advancePaced (span : Duration) (line : Line Paced) : Option (Line Paced) :=
  Paced.advance pacedReaction span line

/-- Moves the clock of a running program on at once. -/
def jumpPaced (span : Duration) (line : Line Paced) : Option (Line Paced) :=
  Paced.jump pacedReaction span line

end ProbeWatch.Engine
