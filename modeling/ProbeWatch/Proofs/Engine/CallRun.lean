import ProbeWatch.Engine.Session

/-!
# Uninterrupted calls

What each call on an engine does when no other call comes between its steps.  Every call is stated
once, for any kind of clock, by what it leaves in the fields of the engine that decide about later
calls; the log does not.
-/

namespace ProbeWatch.Engine

/-! ## Saying, emitting and dispatching -/

@[simp]
theorem say_fields (engine : Engine) (line : LogLine) :
    (engine.say line).phase = engine.phase ∧ (engine.say line).config = engine.config ∧
      (engine.say line).startedAt = engine.startedAt ∧
      (engine.say line).generation = engine.generation ∧
      (engine.say line).timer = engine.timer ∧ (engine.say line).events = engine.events ∧
      (engine.say line).fetches = engine.fetches ∧
      (engine.say line).canFetch = engine.canFetch :=
  ⟨rfl, rfl, rfl, rfl, rfl, rfl, rfl, rfl⟩

@[simp]
theorem emit_fields (engine : Engine) (event : EngineEvent) :
    (engine.emit event).phase = engine.phase ∧ (engine.emit event).config = engine.config ∧
      (engine.emit event).startedAt = engine.startedAt ∧
      (engine.emit event).generation = engine.generation ∧
      (engine.emit event).timer = engine.timer ∧
      (engine.emit event).events = engine.events.send event ∧
      (engine.emit event).fetches = engine.fetches ∧
      (engine.emit event).canFetch = engine.canFetch := by
  rw [emit]
  split <;> simp

@[simp]
theorem dispatch_fields (engine : Engine) (now : Duration) :
    (engine.dispatch now).phase = engine.phase ∧ (engine.dispatch now).config = engine.config ∧
      (engine.dispatch now).startedAt = engine.startedAt ∧
      (engine.dispatch now).generation = engine.generation ∧
      (engine.dispatch now).timer = engine.timer ∧
      (engine.dispatch now).events =
        (if engine.canFetch then engine.events.send (.fetch now) else engine.events) ∧
      (engine.dispatch now).fetches =
        (if engine.canFetch then now :: engine.fetches else engine.fetches) ∧
      (engine.dispatch now).canFetch = engine.canFetch := by
  rw [dispatch]
  split <;> simp_all

/-! ## Runs -/

@[simp]
theorem update_fields {S : Type → Type} (line : Line S) (change : Engine → Engine) :
    (line.update change).clock = line.clock ∧ (line.update change).shared = change line.shared :=
  ⟨rfl, rfl⟩

section

variable {S : Type → Type} [Scheduler S]

theorem run_of_step {line after : Line S} {call next : Call} (unfinished : call.rank ≠ 0)
    (taken : step line call = some (next, after)) : run call line = run next after := by
  rw [run, dif_neg unfinished]
  split
  · rename_i stuck
    rw [taken] at stuck
    cases stuck
  · rename_i taken'
    rw [taken] at taken'
    cases taken'
    rfl

theorem run_of_stuck {line : Line S} {call : Call} (unfinished : call.rank ≠ 0)
    (stuck : step line call = none) : run call line = none := by
  rw [run, dif_neg unfinished]
  split
  · rfl
  · rename_i taken
    rw [stuck] at taken
    cases taken

@[simp]
theorem run_done (accepted : Bool) (line : Line S) :
    run (.done accepted) line = some (accepted, line) := by
  rw [run, dif_pos (by rfl)]
  rfl

@[simp]
theorem drop_shared (line : Line S) (timer : Option Nat) :
    (line.drop timer).shared = line.shared := by
  cases timer <;> rfl

@[simp]
theorem drop_none (line : Line S) : line.drop none = line := rfl

/-- A timer that nothing has superseded is put in force as soon as it is scheduled. -/
theorem run_arm {line : Line S} {generation : Nat} (current : line.shared.generation = generation)
    (vacant : line.shared.timer = none) (interval : Duration) (changed : Bool) :
    run (.arm generation interval changed) line =
      (Scheduler.schedule? line.clock interval generation).bind fun scheduled =>
        run (afterArming interval changed)
          ⟨scheduled.2, { line.shared with timer := some scheduled.1 }⟩ := by
  cases scheduled : Scheduler.schedule? line.clock interval generation with
  | none => exact run_of_stuck (by simp [Call.rank]) (by simp [step, scheduled])
  | some made =>
      obtain ⟨timer, clock⟩ := made
      have armed : step line (.arm generation interval changed) =
          some (.install generation timer interval changed, ⟨clock, line.shared⟩) := by
        simp only [step, scheduled]
      have installed : step (⟨clock, line.shared⟩ : Line S)
          (.install generation timer interval changed) =
            some (afterArming interval changed,
              ⟨clock, { line.shared with timer := some timer }⟩) := by
        simp only [step]
        rw [if_pos current, vacant]
        rfl
      rw [run_of_step (by simp [Call.rank]) armed, run_of_step (by simp [Call.rank]) installed]
      rfl

/-- A start drops the timer of the session before, tells of the new session, fetches at once, and
is then about to schedule its timer. -/
theorem run_start_eq_arm (config : PollConfig) (line : Line S) :
    ∃ engine : Engine,
      run (.start config) line =
          run (.arm (line.shared.generation + 1) config.interval false)
            ⟨(line.drop line.shared.timer).clock, engine⟩ ∧
        engine.phase = .running ∧ engine.startedAt = some (Scheduler.now line.clock) ∧
        engine.generation = line.shared.generation + 1 ∧ engine.timer = none ∧
        engine.config.maxDuration? = config.maxDuration? ∧
        engine.config.interval = config.interval ∧
        engine.canFetch = line.shared.canFetch ∧
        engine.fetches =
          (if line.shared.canFetch then Scheduler.now line.clock :: line.shared.fetches
          else line.shared.fetches) ∧
        engine.events =
          (if line.shared.canFetch then
            (line.shared.events.send (.started config.interval config.maxDuration?)).send
              (.fetch (Scheduler.now line.clock))
          else line.shared.events.send (.started config.interval config.maxDuration?)) := by
  obtain ⟨clock, engine⟩ := line
  cases former : engine.timer with
  | none =>
      refine ⟨?engine, ?run, ?fields⟩
      case run =>
        rw [run_of_step (by simp [Call.rank]) rfl, run_of_step (by simp [Call.rank]) rfl, former,
          run_of_step (by simp [Call.rank]) rfl, run_of_step (by simp [Call.rank]) rfl,
          run_of_step (by simp [Call.rank]) rfl]
        rfl
      case fields => simp [PollConfig.maxDuration?, PollConfig.interval]
  | some timer =>
      refine ⟨?engine', ?run', ?fields'⟩
      case run' =>
        rw [run_of_step (by simp [Call.rank]) rfl, run_of_step (by simp [Call.rank]) rfl, former,
          run_of_step (by simp [Call.rank]) rfl, run_of_step (by simp [Call.rank]) rfl,
          run_of_step (by simp [Call.rank]) rfl]
        rfl
      case fields' => simp [PollConfig.maxDuration?, PollConfig.interval]

theorem run_start (config : PollConfig) (line : Line S) :
    match Scheduler.schedule? (line.drop line.shared.timer).clock config.interval
      (line.shared.generation + 1) with
    | none => run (.start config) line = none
    | some (timer, clock) =>
        ∃ engine : Engine,
          run (.start config) line = some (true, ⟨clock, engine⟩) ∧
            engine.phase = .running ∧ engine.startedAt = some (Scheduler.now line.clock) ∧
            engine.generation = line.shared.generation + 1 ∧ engine.timer = some timer ∧
            engine.config.maxDuration? = config.maxDuration? ∧
            engine.config.interval = config.interval ∧
            engine.canFetch = line.shared.canFetch ∧
            engine.fetches =
              (if line.shared.canFetch then Scheduler.now line.clock :: line.shared.fetches
              else line.shared.fetches) ∧
            engine.events =
              (if line.shared.canFetch then
                (line.shared.events.send (.started config.interval config.maxDuration?)).send
                  (.fetch (Scheduler.now line.clock))
              else line.shared.events.send (.started config.interval config.maxDuration?)) := by
  obtain ⟨engine, ran, phase, startedAt, generation, vacant, rest⟩ := run_start_eq_arm config line
  rw [run_arm generation vacant] at ran
  split
  · rename_i stuck
    rw [ran, stuck]
    rfl
  · rename_i timer clock scheduled
    refine ⟨{ engine with timer := some timer }, ?_, phase, startedAt, generation, rfl, rest⟩
    rw [ran, scheduled]
    exact run_done true _

/-- A stop drops the timer in force, and tells of it only if there is one. -/
theorem run_stop (line : Line S) :
    ∃ engine : Engine,
      run .stop line = some (true, ⟨(line.drop line.shared.timer).clock, engine⟩) ∧
        engine.phase = .idle ∧ engine.startedAt = none ∧
        engine.generation = line.shared.generation + 1 ∧ engine.timer = none ∧
        engine.config = line.shared.config ∧ engine.canFetch = line.shared.canFetch ∧
        engine.fetches = line.shared.fetches ∧
        engine.events =
          (if line.shared.timer.isSome then line.shared.events.send .stopped
          else line.shared.events) := by
  obtain ⟨clock, engine⟩ := line
  cases former : engine.timer with
  | none =>
      refine ⟨?engine, ?run, ?fields⟩
      case run =>
        rw [run_of_step (by simp [Call.rank]) rfl, former]
        exact run_done (S := S) true _
      case fields => simp
  | some timer =>
      refine ⟨?engine', ?run', ?fields'⟩
      case run' =>
        rw [run_of_step (by simp [Call.rank]) rfl, former, run_of_step (by simp [Call.rank]) rfl,
          run_of_step (by simp [Call.rank]) rfl]
        exact run_done (S := S) true _
      case fields' => simp

theorem run_setInterval_of_lt {interval : Duration} (short : interval < PollConfig.minInterval)
    (line : Line S) :
    ∃ said, run (.setInterval interval) line = some (false, line.update (·.say said)) := by
  refine ⟨?said, ?run⟩
  case run =>
    rw [run_of_step (by simp [Call.rank]) (by simp only [step]; exact if_pos short)]
    exact run_done (S := S) false _

theorem run_setInterval_of_not_running {interval : Duration}
    (long : ¬ interval < PollConfig.minInterval) {line : Line S}
    (resting : line.shared.phase ≠ .running) :
    ∃ engine : Engine,
      run (.setInterval interval) line = some (true, ⟨line.clock, engine⟩) ∧
        engine.phase = line.shared.phase ∧ engine.startedAt = line.shared.startedAt ∧
        engine.generation = line.shared.generation ∧ engine.timer = line.shared.timer ∧
        engine.canFetch = line.shared.canFetch ∧ engine.fetches = line.shared.fetches ∧
        engine.events = line.shared.events.send (.interval interval) := by
  have taken : step line (.setInterval interval) =
      some (.announceInterval interval,
        line.update fun engine =>
          { engine with config := { engine.config with intervalMs := interval.wordMillis } }) := by
    simp only [step]
    rw [if_neg long, if_neg resting]
    rfl
  refine ⟨?engine, ?run, ?fields⟩
  case run =>
    rw [run_of_step (by simp [Call.rank]) taken, run_of_step (by simp [Call.rank]) rfl]
    exact run_done (S := S) true _
  case fields => simp

/-- An engine whose interval is changed in a session, while no timer is in force. -/
def replacing (engine : Engine) (interval : Duration) : Engine :=
  { engine with
    config := { engine.config with intervalMs := interval.wordMillis }
    generation := engine.generation + 1
    timer := none }

/-- In a session a change of the interval takes two steps before it schedules its timer, and the old
timer is gone by then. -/
theorem steps_setInterval_of_running {interval : Duration}
    (long : ¬ interval < PollConfig.minInterval) {line : Line S}
    (running : line.shared.phase = .running) :
    let replaced : Line S := ⟨line.clock, line.shared.replacing interval⟩
    let dropping := Call.dropReplaced interval (line.shared.generation + 1) line.shared.timer
    step line (.setInterval interval) = some (dropping, replaced) ∧
      step replaced dropping =
        some (.arm (line.shared.generation + 1) interval true,
          ⟨(line.drop line.shared.timer).clock, line.shared.replacing interval⟩) := by
  intro replaced dropping
  constructor
  · simp only [step]
    rw [if_neg long, if_pos running]
    rfl
  · refine congrArg (fun after : Line S => some (Call.arm _ interval true, after)) ?_
    show replaced.drop line.shared.timer = _
    cases line.shared.timer <;> rfl

theorem run_setInterval_of_running {interval : Duration}
    (long : ¬ interval < PollConfig.minInterval) {line : Line S}
    (running : line.shared.phase = .running) :
    match Scheduler.schedule? (line.drop line.shared.timer).clock interval
      (line.shared.generation + 1) with
    | none => run (.setInterval interval) line = none
    | some (timer, clock) =>
        ∃ engine : Engine,
          run (.setInterval interval) line = some (true, ⟨clock, engine⟩) ∧
            engine.phase = .running ∧ engine.startedAt = line.shared.startedAt ∧
            engine.generation = line.shared.generation + 1 ∧ engine.timer = some timer ∧
            engine.config =
              { line.shared.config with intervalMs := interval.wordMillis } ∧
            engine.canFetch = line.shared.canFetch ∧ engine.fetches = line.shared.fetches ∧
            engine.events = line.shared.events.send (.interval interval) := by
  obtain ⟨taken, dropped⟩ := steps_setInterval_of_running long running
  have current : (line.shared.replacing interval).generation = line.shared.generation + 1 := rfl
  have vacant : (line.shared.replacing interval).timer = none := rfl
  have ran := (run_of_step (by simp [Call.rank]) taken).trans
    ((run_of_step (by simp [Call.rank]) dropped).trans (run_arm current vacant interval true))
  split
  · rename_i stuck
    rw [ran, stuck]
    rfl
  · rename_i timer clock scheduled
    refine ⟨?engine, ?run, ?fields⟩
    case run =>
      rw [ran, scheduled]
      refine (run_of_step (by simp [Call.rank, afterArming]) rfl).trans ?_
      exact run_done (S := S) true _
    case fields => simp [replacing, running]

/-! ## Ticks -/

/-- The time since the session started, as a tick at an instant sees it. -/
def elapsedAt (engine : Engine) (now : Duration) : Duration :=
  (engine.startedAt.map now.sub).getD .zero

/-- Whether a tick at an instant finds the time budget used up. -/
def isSpentAt (engine : Engine) (now : Duration) : Bool :=
  match engine.config.maxDuration? with
  | some budget => decide (budget ≤ engine.elapsedAt now)
  | none => false

/-- What the check of a tick leads to. -/
theorem step_check (line : Line S) (generation : Nat) (now : Duration) :
    step line (.check generation now) =
      if line.shared.generation = generation ∧ line.shared.phase = .running then
        if line.shared.isSpentAt now then
          some (.dropExpired line.shared.timer (line.shared.elapsedAt now),
            line.update fun engine =>
              { engine with
                generation := engine.generation + 1
                phase := .expired
                startedAt := none
                timer := none })
        else
          some (.fetch now, line)
      else
        some (.done false, line) := by
  by_cases current : line.shared.generation = generation ∧ line.shared.phase = .running
  · rw [if_pos current]
    simp only [step, isSpentAt, elapsedAt, if_pos current]
    obtain unlimited | ⟨budget, limit⟩ := Option.eq_none_or_eq_some line.shared.config.maxDuration?
    · simp [unlimited]
    · by_cases spent : budget ≤ (line.shared.startedAt.map now.sub).getD .zero <;>
        simp [limit, spent, Line.update]
  · rw [if_neg current]
    simp only [step, if_neg current]

/-- A tick of a timer that lost its force, or outside a session, is ignored. -/
theorem run_tick_of_stale {line : Line S} {generation : Nat}
    (stale : ¬ (line.shared.generation = generation ∧ line.shared.phase = .running)) :
    run (.tick generation) line = some (false, line) := by
  have checked : step line (.check generation (Scheduler.now line.clock)) =
      some (.done false, line) := by
    rw [step_check, if_neg stale]
  rw [run_of_step (by simp [Call.rank]) rfl, run_of_step (by simp [Call.rank]) checked]
  exact run_done (S := S) false _

theorem run_tick_of_not_spent {line : Line S} (running : line.shared.phase = .running)
    (within : line.shared.isSpentAt (Scheduler.now line.clock) = false) :
    run (.tick line.shared.generation) line =
      some (true, line.update (·.dispatch (Scheduler.now line.clock))) := by
  have checked : step line (.check line.shared.generation (Scheduler.now line.clock)) =
      some (.fetch (Scheduler.now line.clock), line) := by
    simp [step_check, running, within]
  rw [run_of_step (by simp [Call.rank]) rfl, run_of_step (by simp [Call.rank]) checked,
    run_of_step (by simp [Call.rank]) rfl]
  exact run_done (S := S) true _

theorem run_tick_of_spent {line : Line S} (running : line.shared.phase = .running)
    (spent : line.shared.isSpentAt (Scheduler.now line.clock) = true) :
    ∃ engine : Engine,
      run (.tick line.shared.generation) line =
          some (true, ⟨(line.drop line.shared.timer).clock, engine⟩) ∧
        engine.phase = .expired ∧ engine.startedAt = none ∧
        engine.generation = line.shared.generation + 1 ∧ engine.timer = none ∧
        engine.config = line.shared.config ∧ engine.canFetch = line.shared.canFetch ∧
        engine.fetches = line.shared.fetches ∧
        engine.events = line.shared.events.send
          (.expired (line.shared.elapsedAt (Scheduler.now line.clock))) := by
  have checked : step line (.check line.shared.generation (Scheduler.now line.clock)) =
      some (.dropExpired line.shared.timer (line.shared.elapsedAt (Scheduler.now line.clock)),
        line.update fun engine =>
          { engine with
            generation := engine.generation + 1
            phase := .expired
            startedAt := none
            timer := none }) := by
    simp [step_check, running, spent]
  have ran : ∀ timer : Option Nat, ∀ line' : Line S, ∀ elapsed : Duration, ∃ said,
      run (.dropExpired timer elapsed) line' =
        some (true, ⟨(line'.drop timer).clock, (line'.shared.say said).emit (.expired elapsed)⟩) := by
    intro timer line' elapsed
    refine ⟨?said, ?run⟩
    case run =>
      rw [run_of_step (by simp [Call.rank]) rfl, run_of_step (by simp [Call.rank]) rfl,
        run_done, Line.update, drop_shared]
  obtain ⟨said, ran⟩ := ran line.shared.timer _ _
  refine ⟨?engine, ?run, ?fields⟩
  case run =>
    rw [run_of_step (by simp [Call.rank]) rfl, run_of_step (by simp [Call.rank]) checked, ran]
    cases line.shared.timer <;> rfl
  case fields => simp

end

end ProbeWatch.Engine
