import Mathlib.Logic.Relation
import ProbeWatch.Proofs.Engine.CallRun

/-!
# Races between calls

Any number of calls on one engine, whose steps interleave in any order, with ticks of any live
timer among them.  What a step does to timers is one of five effects.
-/

namespace ProbeWatch.Engine

/-! ## Interleaved calls -/

/-- A line and the calls that have been made on it. -/
structure Race where
  line : Line Timers
  calls : List Call

/-- Whether a call is one that a user of the engine makes. -/
def Call.IsRequest : Call → Prop
  | .start config => config.intervalMs ≠ 0
  | .stop | .setInterval _ => True
  | _ => False

namespace Race

/-- One step of a race. -/
inductive Turn : Race → Race → Prop
  /-- A user makes a call. -/
  | request (line : Line Timers) (calls : List Call) (call : Call) (asked : call.IsRequest) :
      Turn ⟨line, calls⟩ ⟨line, call :: calls⟩
  /-- A live timer ticks. -/
  | tick (line : Line Timers) (calls : List Call) (timer : Timer Nat)
      (found : timer ∈ line.clock.live) : Turn ⟨line, calls⟩ ⟨line, .tick timer.action :: calls⟩
  /-- Time goes by. -/
  | elapse (line : Line Timers) (calls : List Call) (clock : Timers Nat)
      (live : clock.live.map (fun timer => (timer.id, timer.action)) =
        line.clock.live.map (fun timer => (timer.id, timer.action)))
      (nextId : clock.nextId = line.clock.nextId) :
      Turn ⟨line, calls⟩ ⟨{ line with clock }, calls⟩
  /-- One of the calls takes its next step. -/
  | step (line after : Line Timers) (earlier later : List Call) (call next : Call)
      (taken : Engine.step line call = some (next, after)) :
      Turn ⟨line, earlier ++ call :: later⟩ ⟨after, earlier ++ next :: later⟩

/-- Any number of steps. -/
abbrev Turns : Race → Race → Prop := Relation.ReflTransGen Turn

/-- A race before the first call. -/
def start (engine : Engine) : Race := ⟨⟨Timers.start, engine⟩, []⟩

end Race

theorem Race.turns_of_run {call : Call} {line after : Line Timers} {accepted : Bool}
    (ran : run call line = some (accepted, after)) (earlier later : List Call) :
    ∃ last : Call, last.rank = 0 ∧
      Turns ⟨line, earlier ++ call :: later⟩ ⟨after, earlier ++ last :: later⟩ := by
  fun_induction run call line with
  | case1 call line ended =>
      cases ran
      exact ⟨call, ended, .refl⟩
  | case2 => cases ran
  | case3 call line unfinished next middle taken ih =>
      obtain ⟨last, ended, turns⟩ := ih ran
      exact ⟨last, ended, .head (.step line middle earlier later call next taken) turns⟩

/-- An advance of the clock is a race: time goes by up to each tick in turn, and each tick runs to
its end. -/
theorem Race.turns_of_advanceTo {target : Duration} {line after : Line Timers}
    (advanced : Timers.advanceTo reaction target line = some after) (calls : List Call) :
    ∃ ticks : List Call, (∀ tick ∈ ticks, tick.rank = 0) ∧
      Turns ⟨line, calls⟩ ⟨after, ticks ++ calls⟩ := by
  fun_induction Timers.advanceTo reaction target line generalizing calls with
  | case1 line quiet =>
      cases advanced
      exact ⟨[], by simp, .single (.elapse line calls _ rfl rfl)⟩
  | case2 => cases advanced
  | case3 => cases advanced
  | case4 line timer next due sum later fired middle effect =>
      rename_i ih
      have first := (Timers.earliest?_of_next? next).1
      have moved : Turn ⟨line, calls⟩ ⟨{ line with clock := fired }, calls⟩ := by
        refine .elapse line calls fired ?_ rfl
        refine List.map_map.trans (List.map_congr_left fun other _ => ?_)
        simp only [Function.comp, Timers.postpone]
        split <;> rfl
      have alive : { timer with due } ∈ fired.live :=
        List.mem_map.mpr ⟨timer, Timers.earliest?_mem first, if_pos rfl⟩
      have ticked : Turn ⟨{ line with clock := fired }, calls⟩
          ⟨{ line with clock := fired }, .tick timer.action :: calls⟩ :=
        .tick { line with clock := fired } calls { timer with due } alive
      obtain ⟨⟨accepted, line'⟩, ran, rfl⟩ := Option.map_eq_some_iff.mp effect
      obtain ⟨last, ended, turns⟩ := Race.turns_of_run ran [] calls
      obtain ⟨ticks, ends, more⟩ := ih advanced (last :: calls)
      refine ⟨ticks ++ [last], ?_, ?_⟩
      · intro tick found
        rcases List.mem_append.mp found with old | new
        · exact ends tick old
        · rw [List.mem_singleton.mp new]
          exact ended
      · rw [List.append_assoc]
        exact ((Relation.ReflTransGen.single moved).tail ticked).trans (turns.trans more)

/-! ## What a call is answerable for -/

namespace Call

/-- The timer that the call has yet to put in force or to cancel. -/
def held : Call → Option Nat
  | .dropFormer _ _ _ former => former
  | .install _ timer _ _ => some timer
  | .discard timer _ _ => some timer
  | .dropStopped timer => some timer
  | .dropReplaced _ _ former => former
  | .dropExpired timer _ => timer
  | _ => none

/-- The generation for which the call has yet to put a timer in force. -/
def arming : Call → Option Nat
  | .dropFormer _ _ generation _ => some generation
  | .announceStart _ _ generation => some generation
  | .firstFetch _ _ generation => some generation
  | .arm generation _ _ => some generation
  | .install generation _ _ _ => some generation
  | .dropReplaced _ generation _ => some generation
  | _ => none

/-- The generation and the timer that the call is about to put in force. -/
def pledge : Call → Option (Nat × Nat)
  | .install generation timer _ _ => some (generation, timer)
  | _ => none

/-- The generation that the call remembers. -/
def remembered : Call → Option Nat
  | .tick generation => some generation
  | .check generation _ => some generation
  | call => call.arming

/-- Whether the next step of the call makes every timer so far lose its force. -/
def Supersedes (line : Line Timers) : Call → Prop
  | .takeOver .. => True
  | .stop => True
  | .setInterval interval => ¬ interval < PollConfig.minInterval ∧ line.shared.phase = .running
  | .check generation now =>
      (line.shared.generation = generation ∧ line.shared.phase = .running) ∧
        line.shared.isSpentAt now = true
  | _ => False

end Call

/-- All that a step of a call can do to timers. -/
inductive Effect (line : Line Timers) (call next : Call) (after : Line Timers) : Prop
  /-- Timers and the state that decides about them stay as they are. -/
  | quiet
      (clock : after.clock = line.clock)
      (phase : after.shared.phase = line.shared.phase)
      (generation : after.shared.generation = line.shared.generation)
      (timer : after.shared.timer = line.shared.timer)
      (held : next.held = call.held)
      (arming : next.arming = call.arming ∨
        next.arming = none ∧ call.arming ≠ some line.shared.generation)
      (pledge : next.pledge = none)
      (remembered : next.remembered = none ∨ next.remembered = call.remembered)
  /-- The call takes the engine over, together with the timer in force. -/
  | supersede
      (clock : after.clock = line.clock)
      (generation : after.shared.generation = line.shared.generation + 1)
      (timer : after.shared.timer = none)
      (free : call.held = none)
      (held : next.held = line.shared.timer)
      (unarmed : call.arming = none)
      (arming : next.arming =
        if after.shared.phase = .running then some after.shared.generation else none)
      (pledge : next.pledge = none)
      (remembered : next.remembered = next.arming)
  /-- The call cancels the timer that it holds. -/
  | drop
      (clock : after.clock = (line.drop call.held).clock)
      (phase : after.shared.phase = line.shared.phase)
      (generation : after.shared.generation = line.shared.generation)
      (timer : after.shared.timer = line.shared.timer)
      (held : next.held = none)
      (arming : next.arming = call.arming)
      (pledge : next.pledge = none)
      (remembered : next.remembered = call.remembered)
  /-- The call schedules a timer. -/
  | arm (timer : Timer Nat)
      (live : after.clock.live = line.clock.live ++ [timer])
      (shared : after.shared = line.shared)
      (free : call.held = none)
      (held : next.held = some timer.id)
      (arming : call.arming = some timer.action)
      (arming' : next.arming = some timer.action)
      (pledge : next.pledge = some (timer.action, timer.id))
      (remembered : next.remembered = some timer.action)
  /-- The call puts its timer in force. -/
  | install (timer : Nat)
      (clock : after.clock = (line.drop line.shared.timer).clock)
      (phase : after.shared.phase = line.shared.phase)
      (generation : after.shared.generation = line.shared.generation)
      (timer_eq : after.shared.timer = some timer)
      (held : call.held = some timer)
      (pledge : call.pledge = some (line.shared.generation, timer))
      (arming : call.arming = some line.shared.generation)
      (next_held : next.held = none)
      (next_arming : next.arming = none)
      (next_pledge : next.pledge = none)
      (next_remembered : next.remembered = none)

theorem exists_of_schedule? {timers after : Timers Nat} {period : Duration} {action id : Nat}
    (scheduled : timers.schedule? period action = some (id, after)) :
    ∃ timer : Timer Nat, timer.id = id ∧ timer.action = action ∧
      after.live = timers.live ++ [timer] := by
  unfold Timers.schedule? at scheduled
  dsimp only at scheduled
  split at scheduled
  · cases scheduled
  · cases scheduled
    exact ⟨_, rfl, rfl, rfl⟩

theorem afterArming_owes_nothing (interval : Duration) (changed : Bool) :
    (afterArming interval changed).held = none ∧ (afterArming interval changed).arming = none ∧
      (afterArming interval changed).pledge = none ∧
      (afterArming interval changed).remembered = none := by
  cases changed <;> exact ⟨rfl, rfl, rfl, rfl⟩

section

variable {line after : Line Timers} {next : Call}

theorem effect_of_arm {generation : Nat} {interval : Duration} {changed : Bool}
    (taken : step line (.arm generation interval changed) = some (next, after)) :
    Effect line (.arm generation interval changed) next after := by
  simp only [step] at taken
  split at taken
  · cases taken
  · rename_i timer clock scheduled
    cases taken
    obtain ⟨made, rfl, action, live⟩ := exists_of_schedule? scheduled
    exact .arm made live rfl rfl rfl (action ▸ rfl) (action ▸ rfl) (action ▸ rfl) (action ▸ rfl)

/-- A timer that was scheduled is put in force, unless the call was superseded in the meantime. -/
theorem effect_of_install {generation timer : Nat} {interval : Duration} {changed : Bool}
    (taken : step line (.install generation timer interval changed) = some (next, after)) :
    Effect line (.install generation timer interval changed) next after := by
  obtain ⟨held, arming, pledge, remembered⟩ := afterArming_owes_nothing interval changed
  simp only [step] at taken
  split at taken
  · rename_i current
    cases taken
    subst current
    cases former : line.shared.timer <;>
      exact .install timer (by rw [former]; rfl) rfl rfl rfl rfl rfl rfl held arming pledge
        remembered
  · rename_i superseded
    cases taken
    exact .quiet rfl rfl rfl rfl rfl
      (.inr ⟨rfl, fun same => superseded (Option.some.inj same).symm⟩) rfl (.inl rfl)

/-- A change of the interval supersedes the timer in force if a session is under way. -/
theorem effect_of_setInterval {interval : Duration}
    (taken : step line (.setInterval interval) = some (next, after)) :
    Effect line (.setInterval interval) next after := by
  simp only [step] at taken
  split at taken
  · cases taken
    exact .quiet rfl rfl rfl rfl rfl (.inl rfl) rfl (.inl rfl)
  · split at taken
    · rename_i running
      cases taken
      refine .supersede rfl rfl rfl rfl rfl rfl ?_ rfl rfl
      exact (if_pos running).symm
    · cases taken
      exact .quiet rfl rfl rfl rfl rfl (.inl rfl) rfl (.inl rfl)

/-- A tick supersedes its own timer if it finds the time budget used up. -/
theorem effect_of_check {generation : Nat} {now : Duration}
    (taken : step line (.check generation now) = some (next, after)) :
    Effect line (.check generation now) next after := by
  rw [step_check] at taken
  split at taken
  · split at taken
    · cases taken
      exact .supersede rfl rfl rfl rfl rfl rfl rfl rfl rfl
    · cases taken
      exact .quiet rfl rfl rfl rfl rfl (.inl rfl) rfl (.inl rfl)
  · cases taken
    exact .quiet rfl rfl rfl rfl rfl (.inl rfl) rfl (.inl rfl)

theorem effect_of_stop (taken : step line .stop = some (next, after)) :
    Effect line .stop next after := by
  cases taken
  cases former : line.shared.timer <;>
    exact .supersede rfl rfl rfl rfl former.symm rfl rfl rfl rfl

/-- Every step has one of the effects, and it is the superseding steps that supersede. -/
theorem effect_of_step {call : Call} (taken : step line call = some (next, after)) :
    Effect line call next after := by
  cases call with
  | start config =>
      cases taken
      exact .quiet rfl rfl rfl rfl rfl (.inl rfl) rfl (.inl rfl)
  | takeOver config now =>
      cases taken
      exact .supersede rfl rfl rfl rfl rfl rfl rfl rfl rfl
  | dropFormer config now generation former =>
      cases taken
      cases former <;> exact .drop rfl rfl rfl rfl rfl rfl rfl rfl
  | announceStart config now generation =>
      cases taken
      refine .quiet rfl ?_ ?_ ?_ rfl (.inl rfl) rfl (.inr rfl) <;> simp
  | firstFetch config now generation =>
      cases taken
      refine .quiet rfl ?_ ?_ ?_ rfl (.inl rfl) rfl (.inr rfl) <;> simp
  | arm generation interval changed => exact effect_of_arm taken
  | install generation timer interval changed => exact effect_of_install taken
  | discard timer interval changed =>
      obtain ⟨held, arming, pledge, remembered⟩ := afterArming_owes_nothing interval changed
      cases taken
      exact .drop rfl rfl rfl rfl held arming pledge remembered
  | stop => exact effect_of_stop taken
  | dropStopped timer =>
      cases taken
      exact .drop rfl rfl rfl rfl rfl rfl rfl rfl
  | announceStop =>
      cases taken
      refine .quiet rfl ?_ ?_ ?_ rfl (.inl rfl) rfl (.inl rfl) <;> simp
  | setInterval interval => exact effect_of_setInterval taken
  | dropReplaced interval generation former =>
      cases taken
      cases former <;> exact .drop rfl rfl rfl rfl rfl rfl rfl rfl
  | announceInterval interval =>
      cases taken
      refine .quiet rfl ?_ ?_ ?_ rfl (.inl rfl) rfl (.inl rfl) <;> simp
  | tick generation =>
      cases taken
      exact .quiet rfl rfl rfl rfl rfl (.inl rfl) rfl (.inr rfl)
  | check generation now => exact effect_of_check taken
  | dropExpired timer elapsed =>
      cases taken
      cases timer <;> exact .drop rfl rfl rfl rfl rfl rfl rfl rfl
  | announceExpired elapsed =>
      cases taken
      refine .quiet rfl ?_ ?_ ?_ rfl (.inl rfl) rfl (.inl rfl) <;> simp
  | fetch now =>
      cases taken
      refine .quiet rfl ?_ ?_ ?_ rfl (.inl rfl) rfl (.inl rfl) <;> simp
  | done accepted =>
      cases taken
      exact .quiet rfl rfl rfl rfl rfl (.inl rfl) rfl (.inl rfl)

end

end ProbeWatch.Engine
