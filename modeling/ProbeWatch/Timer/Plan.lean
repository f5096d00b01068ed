import ProbeWatch.Dict
import ProbeWatch.Timer.Advance

/-!
# Timer plans

A plan schedules and cancels tagged timers and moves the clock; a timer may carry further steps to
be taken inside one of its ticks.  A plan is finite, so the advances inside advances end.
-/

namespace ProbeWatch

/-- One step of a plan. -/
inductive PlanStep
  /-- Start a timer under a tag.  Each pair is the number of a tick and a step to take in it. -/
  | schedule (tag : String) (period : Duration) (onTick : List (Nat × PlanStep))
  /-- Cancel the timer under a tag. -/
  | cancel (tag : String)
  /-- Move the clock on. -/
  | advance (span : Duration)

namespace PlanStep

mutual

/-- The number of steps that a step can give rise to, itself included. -/
def size : PlanStep → Nat
  | .schedule _ _ onTick => 1 + sizes onTick
  | .cancel _ => 1
  | .advance _ => 1

/-- The number of steps that the steps of a list can give rise to. -/
def sizes : List (Nat × PlanStep) → Nat
  | [] => 0
  | (_, step) :: rest => size step + sizes rest

end

end PlanStep

namespace Plan

/-- What a timer of a plan does. -/
structure Action where
  tag : String
  /-- Tells the timer from others of its tag. -/
  serial : Nat
  onTick : List (Nat × PlanStep)

/-- What a plan keeps track of. -/
structure Board where
  /-- The live timer of each tag. -/
  handles : Dict Nat
  /-- The serials of the timers that ticked, latest first. -/
  ticked : List Nat
  /-- The tags and times of the ticks, latest first. -/
  ticks : List (String × Duration)
deriving Inhabited

/-- A clock on which a plan runs. -/
abbrev Line := Timeline (Timers Action) Board

/-- A plan before its first step. -/
def start : Line := ⟨Timers.start, ⟨[], [], []⟩⟩

/-- Cancels the timer under a number. -/
def cancelTimer (line : Line) : Option Nat → Line
  | some id => { line with clock := line.clock.cancel id }
  | none => line

/-- Takes a step, with a given way to move the clock. -/
def take (move : Duration → Line → Option Line) (line : Line) : PlanStep → Option Line
  | .schedule tag period onTick =>
      match line.clock.schedule? period ⟨tag, line.clock.nextId, onTick⟩ with
      | none => none
      | some (id, clock) =>
          let handles := Dict.insert tag id line.shared.handles
          some (cancelTimer ⟨clock, { line.shared with handles }⟩
            (Dict.get? tag line.shared.handles))
  | .cancel tag =>
      let handles := Dict.erase tag line.shared.handles
      some (cancelTimer { line with shared := { line.shared with handles } }
        (Dict.get? tag line.shared.handles))
  | .advance span => move span line

/-- The board after one more tick. -/
def noteTick (line : Line) (action : Action) : Line :=
  { line with shared :=
      { line.shared with
        ticked := action.serial :: line.shared.ticked
        ticks := (action.tag, line.clock.now) :: line.shared.ticks } }

/-- Notes a tick and takes the steps that belong to it. -/
def react (move : Duration → Line → Option Line) (action : Action) (line : Line) : Option Line :=
  let line := noteTick line action
  let number := line.shared.ticked.count action.serial
  (action.onTick.filter (fun step => step.1 == number)).foldlM
    (fun line step => take move line step.2) line

theorem settles_cancelTimer (line : Line) (id : Option Nat) :
    Timers.Settles line.clock (cancelTimer line id).clock := by
  cases id with
  | none => exact Timers.Settles.refl _
  | some id => exact Timers.settles_cancel _ _

theorem settles_take {move : Duration → Line → Option Line}
    (settles : ∀ span before after,
      move span before = some after → Timers.Settles before.clock after.clock)
    {before after : Line} {step : PlanStep} (h : take move before step = some after) :
    Timers.Settles before.clock after.clock := by
  cases step with
  | schedule tag period onTick =>
      unfold take at h
      dsimp only at h
      split at h
      · cases h
      · rename_i id clock scheduled
        cases h
        exact (Timers.settles_schedule? scheduled).trans
          (settles_cancelTimer ⟨clock, _⟩ (Dict.get? tag before.shared.handles))
  | cancel tag =>
      cases h
      exact settles_cancelTimer
        { before with shared :=
          { before.shared with handles := Dict.erase tag before.shared.handles } }
        (Dict.get? tag before.shared.handles)
  | advance span => exact settles span before after h

theorem settles_takeAll {move : Duration → Line → Option Line}
    (settles : ∀ span before after,
      move span before = some after → Timers.Settles before.clock after.clock)
    (steps : List (Nat × PlanStep)) (before after : Line)
    (h : steps.foldlM (fun line step => take move line step.2) before = some after) :
    Timers.Settles before.clock after.clock := by
  induction steps generalizing before with
  | nil =>
      cases h
      exact Timers.Settles.refl _
  | cons step rest ih =>
      rw [List.foldlM_cons] at h
      obtain ⟨middle, taken, h⟩ := Option.bind_eq_some_iff.mp h
      exact (settles_take settles taken).trans (ih _ h)

/-- The reaction of a plan whose advances are nested at most `depth` deep. -/
def reaction : Nat → Timers.Reaction Action Board
  | 0 =>
      { run := react fun _ _ => none
        settles := fun action before _ h =>
          settles_takeAll (by simp) _ (noteTick before action) _ h }
  | depth + 1 =>
      { run := react fun span line => Timers.advance (reaction depth) span line
        settles := fun action before _ h =>
          settles_takeAll (fun _ _ _ => Timers.settles_advance) _ (noteTick before action) _ h }

/-- Takes the steps of a plan one after the other, and returns the state after each. -/
def run (plan : List PlanStep) : Option (List Line) :=
  let depth := (plan.map PlanStep.size).foldl (· + ·) 0
  let move := fun span line => Timers.advance (reaction depth) span line
  let visit := fun (visited : List Line × Line) step =>
    (take move visited.2 step).map fun line =>
      (line :: visited.1, { line with shared := { line.shared with ticks := [] } })
  (plan.foldlM visit ([], start)).map fun visited => visited.1.reverse

end Plan
end ProbeWatch
