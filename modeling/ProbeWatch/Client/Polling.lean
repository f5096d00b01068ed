import ProbeWatch.Client.Basic

/-!
# Polling clients

A poll runs until it is over or its reply is held back.  The engine's fetches become polls after
each movement of the clock, in the order in which they were dispatched.
-/

namespace ProbeWatch.Client

/-- Counts a poll that is over. -/
def revise (client : Client) : Watched → Client
  | .token => { client with tokenRevision := client.tokenRevision + 1 }
  | .submission => { client with submissionRevision := client.submissionRevision + 1 }

/-- Leaves a poll waiting for its release. -/
def park (client : Client) (watched : Watched) (poll : Poll) (path : String) (reply : Reply) :
    Client :=
  let arrival := (Dict.get? path client.arrivals).getD 0
  { client with
    arrivals := Dict.insert path (arrival + 1) client.arrivals
    waiting := client.waiting ++ [⟨watched, poll, path, arrival, reply⟩] }

/-- Goes on with a poll until it is over or held back, and tells which. -/
def goOn (client : Client) (watched : Watched) (poll : Poll) : Bool × Client :=
  match _ : poll.request? client.config with
  | none => (true, client.revise watched)
  | some request =>
      let (scripted, sent) := client.lift (client.send request)
      if client.holds.contains request.path then
        (false, sent.park watched poll request.path scripted.reply)
      else
        let delivered := sent.toExchange.deliver client.config poll request.path scripted.reply
        { sent with toExchange := delivered.2 }.goOn watched delivered.1
termination_by poll.rank
decreasing_by exact Exchange.rank_deliver_lt (Poll.rank_ne_zero_of_request? ‹_›) _ _

/-- Runs a poll until it is over or held back, and tells which. -/
def poll (client : Client) (watched : Watched) : Bool × Client :=
  let (poll, session) := Poll.start watched client.session
  { client with session }.goOn watched poll

/-- Lets a held reply go, and tells whether it was still waiting. -/
def release (client : Client) (path : String) (arrival : Nat) : Bool × Client :=
  let isMeant := fun held : HeldPoll => held.path == path && held.arrival == arrival
  match client.waiting.find? isMeant with
  | none => (false, client)
  | some held =>
      let client := { client with waiting := client.waiting.filter (!isMeant ·) }
      let (poll, client) :=
        client.lift (client.toExchange.deliver client.config held.poll held.path held.reply)
      (true, (client.goOn held.watched poll).2)

/-- Runs that many polls of what the engine polls. -/
def pollTimes : Nat → Client → Client
  | 0, client => client
  | count + 1, client => pollTimes count (client.poll client.polled).2

/-- Takes over what the engine said and dispatched. -/
def settleEngine (client : Client) (engine : Engine.Line Timers) : Client :=
  let dispatched := engine.shared.fetches.length
  let fresh := dispatched - client.taken
  let client :=
    { client with
      engine := { engine with shared := { engine.shared with log := [] } }
      log := engine.shared.log ++ client.log
      taken := dispatched }
  pollTimes fresh client

/-- Starts a polling session. -/
def startEngine? (client : Client) (config : PollConfig) : Option (Except Failure Unit × Client) :=
  (Engine.start? config client.engine).map fun (result, engine) =>
    (result, client.settleEngine engine)

/-- Stops the polling session. -/
def stopEngine? (client : Client) : Option Client :=
  (Engine.stop? client.engine).map client.settleEngine

/-- Changes the polling interval, and tells whether it was accepted. -/
def setInterval? (client : Client) (interval : Duration) : Option (Bool × Client) :=
  (Engine.setInterval? interval client.engine).map fun (accepted, engine) =>
    (accepted, client.settleEngine engine)

/-- The slices into which an advance is cut; a slice of no length means that it is not cut. -/
def slices (total slice : Nat) : List Nat :=
  if slice = 0 ∨ total ≤ slice then
    [total]
  else
    List.replicate (total / slice) slice ++ (if total % slice = 0 then [] else [total % slice])

/-- Moves the engine's clock on in slices, and runs the polls after each. -/
def advance? (client : Client) (totalMs sliceMs : Nat) : Option Client :=
  (slices totalMs sliceMs).foldlM
    (fun client millis =>
      (Engine.advance (.ofMillis (UInt64.ofNat millis)) client.engine).map client.settleEngine)
    client

/-- Takes the events of the engine, earliest first. -/
def drainEvents (client : Client) : List EngineEvent × Client :=
  let (events, engine) := client.engine.shared.drainEvents
  (events, { client with engine := { client.engine with shared := engine } })

/-- Whether a line is about credentials, the engine or the traffic of the gateway. -/
def isTraced (line : LogLine) : Bool :=
  match line.source with
  | .credentials | .engine => true
  | .gateway => line.level = .debug
  | .program | .api | .watch => false

/-- Takes the requests sent and the traced lines logged so far, earliest first. -/
def drainTraffic (client : Client) : List Request × List LogLine × Client :=
  (client.sent.reverse, (client.log.filter isTraced).reverse, { client with sent := [], log := [] })

end ProbeWatch.Client
