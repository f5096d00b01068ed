import ProbeWatch.Proofs.Engine.CallRun

/-!
# Operations on an engine

Operations that are carried out one after the other on an engine and its clock, and the laws of a
clock on which there is at most one timer.
-/

namespace ProbeWatch

/-! ## Clocks with one timer or none -/

theorem Duration.max_eq_left {a b : Duration} (le : b ≤ a) : Duration.max a b = a := by
  rw [Duration.max]
  split
  · rename_i ge
    exact Duration.ext (Nat.le_antisymm le ge)
  · rfl

theorem Duration.ofNanos?_eq_some_iff {nanos : Nat} {duration : Duration} :
    Duration.ofNanos? nanos = some duration ↔ duration.nanos = nanos := by
  rw [Duration.ofNanos?]
  constructor
  · intro shown
    split at shown
    · cases shown
      rfl
    · cases shown
  · rintro rfl
    rw [dif_pos duration.nanos_le]

theorem Duration.add?_eq_some_iff {a b sum : Duration} :
    a.add? b = some sum ↔ sum.nanos = a.nanos + b.nanos :=
  Duration.ofNanos?_eq_some_iff

theorem PollConfig.minPeriod_le_interval {config : PollConfig} (positive : config.intervalMs ≠ 0) :
    minPeriod ≤ config.interval := by
  have one : config.intervalMs.toNat ≠ 0 := fun zero => positive (UInt64.toNat_inj.mp zero)
  have least : minPeriod.nanos = 1000000 := rfl
  show minPeriod.nanos ≤ config.intervalMs.toNat * 1000000
  omega

theorem minPeriod_le_of_minInterval_le {interval : Duration}
    (long : ¬ interval < PollConfig.minInterval) : minPeriod ≤ interval :=
  Nat.le_trans (by decide : minPeriod.nanos ≤ PollConfig.minInterval.nanos) (Nat.le_of_not_lt long)

namespace Timers

variable {α : Type}

theorem schedule?_eq (timers : Timers α) {period : Duration} (long : minPeriod ≤ period)
    (action : α) :
    match timers.now.add? period with
    | none => timers.schedule? period action = none
    | some due =>
        ∃ after, timers.schedule? period action = some (timers.nextId, after) ∧
          after.now = timers.now ∧
          after.live = timers.live ++ [⟨timers.nextId, period, due, action⟩] := by
  have same := Duration.max_eq_left long
  split
  · rename_i late
    unfold schedule?
    dsimp only
    split
    · rfl
    · rename_i due sum
      rw [same, late] at sum
      cases sum
  · rename_i due sum
    unfold schedule?
    dsimp only
    split
    · rename_i late
      rw [same, sum] at late
      cases late
    · rename_i due' sum'
      rw [same, sum, Option.some.injEq] at sum'
      refine ⟨_, rfl, rfl, ?_⟩
      show timers.live ++ [⟨timers.nextId, Duration.max period minPeriod, due', action⟩] = _
      rw [same, sum']

theorem next?_of_live_eq_singleton {timers : Timers α} {timer : Timer α}
    (only : timers.live = [timer]) (target : Duration) :
    timers.next? target = if timer.due ≤ target then some timer else none := by
  simp [next?, only, earliest?, Option.filter_some]

theorem live_cancel_of_live_eq_singleton {timers : Timers α} {timer : Timer α}
    (only : timers.live = [timer]) : (timers.cancel timer.id).live = [] := by
  simp [cancel, only]

theorem live_fire_of_live_eq_singleton {timers : Timers α} {timer : Timer α}
    (only : timers.live = [timer]) (first : earliest? timers.live = some timer) (due : Duration)
    (later : timer.due ≤ due) :
    (timers.fire timer first due later).live = [{ timer with due }] := by
  simp [fire, only, postpone]

end Timers

namespace Engine

/-! ## Operations -/

/-- What is done to an engine on a clock that moves only when told. -/
inductive Operation
  /-- Start a session. -/
  | start (config : PollConfig)
  /-- Stop the session. -/
  | stop
  /-- Change the interval. -/
  | setInterval (interval : Duration)
  /-- Move the clock on. -/
  | advance (span : Duration)

/-- Carries out an operation; there is no result when the clock would have to show more than it
can. -/
def perform? (line : Line Timers) : Operation → Option (Line Timers)
  | .start config => (start? config line).map Prod.snd
  | .stop => stop? line
  | .setInterval interval => (setInterval? interval line).map Prod.snd
  | .advance span => advance span line

/-- Carries out operations one after the other. -/
def performAll? (operations : List Operation) (line : Line Timers) : Option (Line Timers) :=
  operations.foldlM perform? line

theorem rel_bind {α β γ δ : Type} {before : α → β → Prop} {after : γ → δ → Prop}
    {left : Option α} {right : Option β} (both : Option.Rel before left right)
    {next : α → Option γ} {other : β → Option δ}
    (keeps : ∀ a b, before a b → Option.Rel after (next a) (other b)) :
    Option.Rel after (left >>= next) (right >>= other) := by
  cases both with
  | none => exact .none
  | some related => exact keeps _ _ related

/-- Two machines stay related if every step from related states leads to related states, or to
none in both. -/
theorem rel_foldlM {α β ι : Type} {related : α → β → Prop} {left : α → ι → Option α}
    {right : β → ι → Option β}
    (step : ∀ a b i, related a b → Option.Rel related (left a i) (right b i))
    (inputs : List ι) (a : α) (b : β) (initial : related a b) :
    Option.Rel related (inputs.foldlM left a) (inputs.foldlM right b) := by
  induction inputs generalizing a b with
  | nil => exact .some initial
  | cons input rest ih =>
      rw [List.foldlM_cons, List.foldlM_cons]
      exact rel_bind (step a b input initial) ih

end Engine
end ProbeWatch
