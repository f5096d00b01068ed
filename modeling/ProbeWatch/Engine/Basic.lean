import ProbeWatch.Config
import ProbeWatch.Engine.Event
import ProbeWatch.Log

/-!
# The polling engine

An engine dispatches a fetch when a session starts and at every tick of its one timer, until it is
stopped or its time budget is used up.
-/

namespace ProbeWatch

/-- The phase of an engine. -/
inductive PollPhase
  /-- No session was started, or the last one was stopped. -/
  | idle
  /-- A session is under way. -/
  | running
  /-- The last session used up its time budget. -/
  | expired
deriving DecidableEq, Inhabited

/-- The name of a phase. -/
def PollPhase.name : PollPhase → String
  | .idle => "Idle"
  | .running => "Running"
  | .expired => "Expired"

/-- A polling engine. -/
structure Engine where
  phase : PollPhase
  /-- The settings of the current or the next session. -/
  config : PollConfig
  /-- When the current session started. -/
  startedAt : Option Duration
  /-- Grows whenever the timer in force loses its force. -/
  generation : Nat
  /-- The timer in force. -/
  timer : Option Nat
  events : EventChannel
  /-- The times at which fetches were dispatched, latest first. -/
  fetches : List Duration
  /-- The log lines, latest first. -/
  log : List LogLine
  /-- The name of what the engine polls. -/
  task : String
  /-- Whether fetches can be carried out at all. -/
  canFetch : Bool

namespace Engine

/-- An engine before its first session; there is none when its channel would be too large. -/
def idle? (task : String) (config : PollConfig) (canFetch : Bool) : Option Engine :=
  (EventChannel.ofCapacity? config.eventChannelCapacity.toNat).map fun events =>
    { phase := .idle
      config := config
      startedAt := none
      generation := 0
      timer := none
      events := events
      fetches := []
      log := []
      task := task
      canFetch := canFetch }

/-- Whether a session is under way. -/
def isRunning (engine : Engine) : Bool := engine.phase == .running

/-- Adds a line to the log. -/
def say (engine : Engine) (line : LogLine) : Engine :=
  { engine with log := line :: engine.log }

/-- Sends an event, or says that it was dropped. -/
def emit (engine : Engine) (event : EngineEvent) : Engine :=
  let sent := { engine with events := engine.events.send event }
  if engine.events.isFull then
    sent.say (.warn .engine
      "Event channel full, dropping event. Consider increasing event_channel_capacity.")
  else
    sent

/-- Dispatches a fetch. -/
def dispatch (engine : Engine) (now : Duration) : Engine :=
  if engine.canFetch then
    let spawned := { engine with fetches := now :: engine.fetches }
    (spawned.say (.debug .engine ("Fetch dispatched at " ++ toString now.millis ++ "ms"))).emit
      (.fetch now)
  else
    engine.say (.warn .engine "No Tokio runtime available, skipping fetch")

/-- Takes the events that the channel holds, earliest first. -/
def drainEvents (engine : Engine) : List EngineEvent × Engine :=
  let (events, channel) := engine.events.drain
  (events, { engine with events := channel })

/-- The engine after its listener left. -/
def closeEvents (engine : Engine) : Engine := { engine with events := engine.events.close }

/-- The text of a time that may be absent. -/
private def describeTime : Option Duration → String
  | some time => "Some(" ++ time.shortText ++ ")"
  | none => "None"

/-- The description of an engine. -/
def describe (engine : Engine) : String :=
  "PollingEngine \x7b task: \"" ++ engine.task ++ "\", session: PollSession \x7b phase: " ++
    engine.phase.name ++ ", started_at: " ++ describeTime engine.startedAt ++ ", interval: " ++
    engine.config.interval.shortText ++ ", max_duration: " ++
    describeTime engine.config.maxDuration? ++ " \x7d \x7d"

end Engine
end ProbeWatch
