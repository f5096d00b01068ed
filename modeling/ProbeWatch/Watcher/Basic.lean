import ProbeWatch.Client.Exchange
import ProbeWatch.Engine.Session
import ProbeWatch.Watch.Report

/-!
# Watch loops

A watch loop polls the token of a session's domain until the time budget is used up, and reports
what the polls bring.  All that is to happen later stands on an agenda; of what is due at one
instant, the appointment that was made first comes first, the polls that begin at the instant come
after all of it, and the report comes last.  Polls may overlap.
-/

namespace ProbeWatch

/-- Something that is to happen. -/
inductive Happening
  /-- The timer of a number ticks. -/
  | tick (timer : Nat)
  /-- A poll receives the reply to its request to a path. -/
  | arrival (poll : Poll) (path : String) (reply : Reply)

/-- Something that is to happen at an instant. -/
structure Appointment where
  /-- The instant in nanoseconds. -/
  due : Nat
  happening : Happening

/-- A watch loop. -/
structure WatchLoop where
  exchange : Exchange
  config : WatchConfig
  engine : Engine.Line Paced
  /-- What is to happen, in the order in which the appointments were made. -/
  agenda : List Appointment
  /-- How many fetches of the engine were taken up so far. -/
  taken : Nat
  /-- Whether a poll wrote its results since the last report. -/
  isRevised : Bool
  reporter : Reporter
  /-- The log lines, latest first. -/
  log : List LogLine
  /-- How long the polling session lasted, once its budget is used up. -/
  expired : Option Duration

namespace WatchLoop

/-- Puts something on the agenda. -/
def appoint (loop : WatchLoop) (due : Nat) (happening : Happening) : WatchLoop :=
  { loop with agenda := loop.agenda ++ [⟨due, happening⟩] }

/-- Adds lines to the log. -/
def say (loop : WatchLoop) (lines : List LogLine) : WatchLoop :=
  { loop with log := lines.reverse ++ loop.log }

/-- Hands a poll its reply. -/
def deliver (loop : WatchLoop) (poll : Poll) (path : String) (reply : Reply) : Poll × WatchLoop :=
  let (poll, exchange) := loop.exchange.deliver loop.config poll path reply
  (poll, { loop with exchange })

theorem rank_deliver_lt {loop : WatchLoop} {poll : Poll} (waiting : poll.rank ≠ 0) (path : String)
    (reply : Reply) : (loop.deliver poll path reply).1.rank < poll.rank :=
  Exchange.rank_deliver_lt waiting path reply

/-- Goes on with a poll until it is over or has to wait for a reply. -/
def goOn (loop : WatchLoop) (poll : Poll) : WatchLoop :=
  match _ : poll.request? loop.config with
  | none => { loop with isRevised := true }
  | some request =>
      let (scripted, exchange) := loop.exchange.send request
      let sent := { loop with exchange }
      if scripted.delayMs = 0 then
        let delivered := sent.deliver poll request.path scripted.reply
        delivered.2.goOn delivered.1
      else
        sent.appoint (loop.engine.clock.now.nanos + (Duration.ofMillis scripted.delayMs).nanos)
          (.arrival poll request.path scripted.reply)
termination_by poll.rank
decreasing_by exact rank_deliver_lt (Poll.rank_ne_zero_of_request? ‹_›) _ _

/-- Begins that many polls. -/
def begin : Nat → WatchLoop → WatchLoop
  | 0, loop => loop
  | count + 1, loop =>
      let (poll, session) := Poll.start .token loop.exchange.session
      begin count ({ loop with exchange := { loop.exchange with session } }.goOn poll)

/-- Begins the polls that the engine dispatched. -/
def takeUp (loop : WatchLoop) : WatchLoop :=
  let dispatched := loop.engine.shared.fetches.length
  begin (dispatched - loop.taken) { loop with taken := dispatched }

/-- Puts the next tick of a timer on the agenda, if the timer is still live. -/
def appointTick (loop : WatchLoop) (id : Nat) : WatchLoop :=
  match loop.engine.clock.live.find? (fun timer => timer.id == id) with
  | some timer => loop.appoint timer.wake (.tick id)
  | none => loop

/-- What happens at an instant, one appointment at a time. -/
def happen? (now : Duration) (loop : WatchLoop) : Happening → Option WatchLoop
  | .tick id =>
      match loop.engine.clock.live.find? (fun timer => timer.id == id) with
      | none => some loop
      | some timer =>
          let line := { loop.engine with clock := loop.engine.clock.fire timer now }
          (Engine.tick? timer.action line).map fun engine =>
            { loop with engine }.appointTick id
  | .arrival poll path reply =>
      let (poll, loop) := loop.deliver poll path reply
      some (loop.goOn poll)

/-- Reports on the results as they are now. -/
def report (loop : WatchLoop) : WatchLoop :=
  let (lines, reporter) := loop.reporter.report loop.exchange.session.results
  { loop with reporter, isRevised := false }.say lines

/-- How long the session lasted that an event says has expired. -/
def expiry? : EngineEvent → Option Duration
  | .expired elapsed => some elapsed
  | _ => none

/-- Takes note of what the engine told. -/
def listen (loop : WatchLoop) : WatchLoop :=
  let (events, shared) := loop.engine.shared.drainEvents
  let loop := { loop with engine := { loop.engine with shared } }
  match events.findSome? expiry? with
  | none => loop
  | some elapsed =>
      { loop with expired := some elapsed }.say
        [.info .program ("Polling session expired after " ++ toString elapsed.seconds ++ "s")]

/-- All that happens at an instant. -/
def pass? (now : Duration) (loop : WatchLoop) : Option WatchLoop := do
  let (due, later) := loop.agenda.partition (fun appointment => appointment.due == now.nanos)
  let clock := { loop.engine.clock with now }
  let loop := { loop with agenda := later, engine := { loop.engine with clock } }
  let loop ← due.foldlM (fun loop appointment => loop.happen? now appointment.happening) loop
  let loop := loop.takeUp
  return (if loop.isRevised then loop.report else loop).listen

/-- The next instant at which something happens. -/
def nextDue? (loop : WatchLoop) : Option Nat :=
  (loop.agenda.map (·.due)).min?

/-- Follows a loop from an instant until its session has expired, nothing is left to happen, or the
clock cannot show the next instant. -/
def follow? (now : Nat) (loop : WatchLoop) : Option WatchLoop :=
  if loop.expired.isSome then
    some loop
  else
    match loop.nextDue? with
    | none => some loop
    | some due =>
        if next : now < due ∧ due ≤ maxNanos then
          match loop.pass? ⟨due, next.2⟩ with
          | none => none
          | some after => follow? due after
        else
          some loop
termination_by maxNanos - now
decreasing_by omega

/-- A loop at which nothing has happened yet. -/
def ofEngine (exchange : Exchange) (config : WatchConfig) (engine : Engine.Line Paced) : WatchLoop :=
  { exchange
    config
    engine
    agenda := []
    taken := 0
    isRevised := false
    reporter := {}
    log := []
    expired := none }

/-- A loop at the moment when its session has been started: what the session holds already is
reported, the first poll begins, and the timer's first tick goes on the agenda. -/
def start (exchange : Exchange) (config : WatchConfig) (engine : Engine.Line Paced) : WatchLoop :=
  let loop := (ofEngine exchange config engine).report.takeUp
  let loop := engine.clock.live.foldl (fun loop timer => loop.appointTick timer.id) loop
  (if loop.isRevised then loop.report else loop).listen

end WatchLoop
end ProbeWatch
