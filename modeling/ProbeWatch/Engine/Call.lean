import ProbeWatch.Engine.Basic
import ProbeWatch.Timer.Scheduler

/-!
# Engine calls

Starting, stopping, changing the interval and ticking are calls, and each call is a sequence of
steps.  A step is one look at the clock, one change of the engine's state, one operation on a
timer, or one dispatch, so calls that overlap can be interleaved step by step.  The generation of
the engine tells a call whether its timer is still the one in force.
-/

namespace ProbeWatch.Engine

/-- What is left to do of a call. -/
inductive Call
  /-- Start a session: look at the clock. -/
  | start (config : PollConfig)
  /-- Start a session: take over the engine's state. -/
  | takeOver (config : PollConfig) (now : Duration)
  /-- Start a session: drop the timer of the session before. -/
  | dropFormer (config : PollConfig) (now : Duration) (generation : Nat) (former : Option Nat)
  /-- Start a session: tell the listener. -/
  | announceStart (config : PollConfig) (now : Duration) (generation : Nat)
  /-- Start a session: dispatch the first fetch. -/
  | firstFetch (config : PollConfig) (now : Duration) (generation : Nat)
  /-- Schedule a timer; with an announced interval when it is the interval that changes. -/
  | arm (generation : Nat) (interval : Duration) (changed : Bool)
  /-- Put a timer in force, if it is still wanted. -/
  | install (generation timer : Nat) (interval : Duration) (changed : Bool)
  /-- Cancel a timer that is no longer wanted. -/
  | discard (timer : Nat) (interval : Duration) (changed : Bool)
  /-- Stop the session: take over the engine's state. -/
  | stop
  /-- Stop the session: cancel its timer. -/
  | dropStopped (timer : Nat)
  /-- Stop the session: tell the listener. -/
  | announceStop
  /-- Change the interval: take over the engine's state. -/
  | setInterval (interval : Duration)
  /-- Change the interval: drop the timer with the old one. -/
  | dropReplaced (interval : Duration) (generation : Nat) (former : Option Nat)
  /-- Change the interval: tell the listener. -/
  | announceInterval (interval : Duration)
  /-- A tick: look at the clock. -/
  | tick (generation : Nat)
  /-- A tick: check the generation and the time budget. -/
  | check (generation : Nat) (now : Duration)
  /-- A tick beyond the budget: drop the timer. -/
  | dropExpired (timer : Option Nat) (elapsed : Duration)
  /-- A tick beyond the budget: tell the listener. -/
  | announceExpired (elapsed : Duration)
  /-- A tick within the budget: dispatch a fetch. -/
  | fetch (now : Duration)
  /-- Nothing; the call returns whether it was accepted. -/
  | done (accepted : Bool)

/-- How many steps a call may still take. -/
def Call.rank : Call → Nat
  | .start _ => 9
  | .takeOver .. => 8
  | .dropFormer .. => 7
  | .announceStart .. => 6
  | .firstFetch .. => 5
  | .setInterval _ => 6
  | .dropReplaced .. => 5
  | .arm .. => 4
  | .install .. => 3
  | .discard .. => 2
  | .announceInterval _ => 1
  | .stop => 3
  | .dropStopped _ => 2
  | .announceStop => 1
  | .tick _ => 4
  | .check .. => 3
  | .dropExpired .. => 2
  | .announceExpired _ => 1
  | .fetch _ => 1
  | .done _ => 0

/-- What a finished call returns. -/
def Call.accepted : Call → Bool
  | .done accepted => accepted
  | _ => false

variable {S : Type → Type} [Scheduler S]

/-- An engine and the clock that it runs on.  A timer carries the generation it was armed for. -/
abbrev Line (S : Type → Type) := Timeline (S Nat) Engine

/-- Cancels a timer, if there is one. -/
def Line.drop (line : Line S) (timer : Option Nat) : Line S :=
  match timer with
  | some timer => { line with clock := Scheduler.cancel line.clock timer }
  | none => line

/-- Changes the engine alone. -/
def Line.update (line : Line S) (change : Engine → Engine) : Line S :=
  { line with shared := change line.shared }

/-- The call that follows once a timer is in force. -/
def afterArming (interval : Duration) (changed : Bool) : Call :=
  if changed then .announceInterval interval else .done true

/-- One step of a call; there is none when the clock cannot show the time of the first tick of a
timer. -/
def step (line : Line S) : Call → Option (Call × Line S)
  | .start config => some (.takeOver config (Scheduler.now line.clock), line)
  | .takeOver config now =>
      let engine := line.shared
      let generation := engine.generation + 1
      some (.dropFormer config now generation engine.timer,
        { line with shared :=
            { engine with
              generation
              phase := .running
              startedAt := some now
              config := { config with eventChannelCapacity := engine.config.eventChannelCapacity }
              timer := none } })
  | .dropFormer config now generation former =>
      let line :=
        if former.isSome then
          line.update (·.say (.debug .engine "Replacing the running poll session"))
        else
          line
      some (.announceStart config now generation, line.drop former)
  | .announceStart config now generation =>
      some (.firstFetch config now generation, line.update fun engine =>
        (engine.say (.info .engine ("Polling started: task=" ++ engine.task ++ " interval=" ++
          toString config.intervalMs.toNat ++ "ms max_duration=" ++
          toString config.maxDurationMs.toNat ++ "ms"))).emit
            (.started config.interval config.maxDuration?))
  | .firstFetch config now generation =>
      some (.arm generation config.interval false, line.update (·.dispatch now))
  | .arm generation interval changed =>
      match Scheduler.schedule? line.clock interval generation with
      | none => none
      | some (timer, clock) => some (.install generation timer interval changed, { line with clock })
  | .install generation timer interval changed =>
      if line.shared.generation = generation then
        some (afterArming interval changed,
          (line.update fun engine => { engine with timer := some timer }).drop line.shared.timer)
      else
        some (.discard timer interval changed, line)
  | .discard timer interval changed =>
      some (afterArming interval changed, line.drop (some timer))
  | .stop =>
      let engine := line.shared
      some (match engine.timer with
          | some timer => .dropStopped timer
          | none => .done true,
        { line with shared :=
            { engine with
              generation := engine.generation + 1
              phase := .idle
              startedAt := none
              timer := none } })
  | .dropStopped timer => some (.announceStop, line.drop (some timer))
  | .announceStop =>
      some (.done true, line.update fun engine =>
        (engine.say (.info .engine "Polling stopped")).emit .stopped)
  | .setInterval interval =>
      if interval < PollConfig.minInterval then
        some (.done false, line.update (·.say (.warn .engine ("Ignoring poll interval of " ++
          toString interval.millis ++ "ms (minimum is " ++
          toString PollConfig.minInterval.millis ++ "ms)"))))
      else
        let engine := line.shared
        let engine :=
          { engine with config := { engine.config with intervalMs := interval.wordMillis } }
        if engine.phase = .running then
          let generation := engine.generation + 1
          some (.dropReplaced interval generation engine.timer,
            { line with shared := { engine with generation, timer := none } })
        else
          some (.announceInterval interval, { line with shared := engine })
  | .dropReplaced interval generation former =>
      some (.arm generation interval true, line.drop former)
  | .announceInterval interval =>
      some (.done true, line.update fun engine =>
        (engine.say (.debug .engine ("Poll interval set to " ++
          toString interval.wordMillis.toNat ++ "ms"))).emit (.interval interval))
  | .tick generation => some (.check generation (Scheduler.now line.clock), line)
  | .check generation now =>
      let engine := line.shared
      if engine.generation = generation ∧ engine.phase = .running then
        let elapsed := (engine.startedAt.map now.sub).getD .zero
        match engine.config.maxDuration? with
        | some budget =>
            if budget ≤ elapsed then
              some (.dropExpired engine.timer elapsed,
                { line with shared :=
                    { engine with
                      generation := engine.generation + 1
                      phase := .expired
                      startedAt := none
                      timer := none } })
            else
              some (.fetch now, line)
        | none => some (.fetch now, line)
      else
        some (.done false, line)
  | .dropExpired timer elapsed => some (.announceExpired elapsed, line.drop timer)
  | .announceExpired elapsed =>
      some (.done true, line.update fun engine =>
        (engine.say (.info .engine ("Polling expired after " ++
          toString elapsed.millis ++ "ms"))).emit (.expired elapsed))
  | .fetch now => some (.done true, line.update (·.dispatch now))
  | .done accepted => some (.done accepted, line)

/-- Every step of an unfinished call brings it nearer to its end. -/
theorem rank_step_lt {line after : Line S} {call next : Call} (unfinished : call.rank ≠ 0)
    (h : step line call = some (next, after)) : next.rank < call.rank := by
  cases call <;> simp only [step, afterArming] at h <;>
    (repeat' split at h) <;>
    simp only [Option.some.injEq, Prod.mk.injEq, reduceCtorEq] at h <;>
    (try (obtain ⟨rfl, _⟩ := h)) <;> simp_all [Call.rank]

/-- A call run to its end with no other call in between. -/
def run (call : Call) (line : Line S) : Option (Bool × Line S) :=
  if _ : call.rank = 0 then
    some (call.accepted, line)
  else
    match _ : step line call with
    | none => none
    | some (next, after) => run next after
termination_by call.rank
decreasing_by exact rank_step_lt ‹_› ‹_›

end ProbeWatch.Engine
