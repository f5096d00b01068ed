import ProbeWatch.Client.Exchange
import ProbeWatch.Engine.Session
import ProbeWatch.Session.Snapshot
import ProbeWatch.Store.Memory

/-!
# Clients

A client joins a session, a credential store, the gateway, both watches, durable storage and one
polling engine.  Requests are answered by a script; a path may be held, and then a reply that has
been chosen waits until it is released.
-/

namespace ProbeWatch

/-- A poll whose reply has been chosen and is held back. -/
structure HeldPoll where
  watched : Watched
  poll : Poll
  /-- The path of the request that waits. -/
  path : String
  /-- The number of held requests to the path before this one. -/
  arrival : Nat
  reply : Reply

/-- A client. -/
structure Client extends Exchange where
  store : MemoryStore
  /-- The credential that the environment supplies. -/
  environment : Option String
  config : WatchConfig
  /-- The paths whose replies are held back. -/
  holds : List String
  /-- How many requests to each path were held back so far. -/
  arrivals : Dict Nat
  /-- The polls that wait for a release, in the order in which they came to wait. -/
  waiting : List HeldPoll
  /-- How often the token watch wrote its results. -/
  tokenRevision : Nat
  /-- How often the submission watch wrote its results. -/
  submissionRevision : Nat
  engine : Engine.Line Timers
  /-- What the engine polls. -/
  polled : Watched
  /-- How many fetches of the engine were taken up so far. -/
  taken : Nat

namespace Client

/-- A client at the start of a run; there is none when its engine's channel would be too large. -/
def start? (store : MemoryStore) (environment : Option String) (config : WatchConfig)
    (script : Script) (polled : Watched) (polling : PollConfig) : Option Client :=
  (Engine.idle? polled.name polling true).map fun engine =>
    { session := {}
      store
      environment
      config
      script
      holds := []
      arrivals := []
      waiting := []
      sent := []
      log := []
      words := fun _ => "malformed payload"
      tokenRevision := 0
      submissionRevision := 0
      engine := ⟨Timers.start, engine⟩
      polled
      taken := 0 }

/-- Changes the session and its traffic alone. -/
def lift {α : Type} (client : Client) (outcome : α × Exchange) : α × Client :=
  (outcome.1, { client with toExchange := outcome.2 })

/-- Adds lines to the log. -/
def say (client : Client) (lines : List LogLine) : Client :=
  { client with toExchange := client.toExchange.say lines }

/-- Makes a call and waits for its reply. -/
def perform {α : Type} (client : Client) (endpoint : Endpoint α) : Except ApiError α × Client :=
  client.lift (client.toExchange.perform endpoint)

/-- Asks for the backend's setup, and returns the one that is now in effect. -/
def loadRuntimeConfig (client : Client) : RuntimeConfig × Client :=
  client.lift client.toExchange.loadRuntimeConfig

/-! ## Credentials -/

/-- Runs a call of the credential store. -/
def runCredential (client : Client) (call : CredentialStore.Call) : Credential × Client :=
  let (credential, store, exchange) :=
    client.toExchange.runCredential client.store client.environment call
  (credential, { client with toExchange := exchange, store })

/-- Resolves the credential. -/
def resolveKey (client : Client) : Credential × Client :=
  client.runCredential CredentialStore.resolve

/-- Adopts the key that the user entered. -/
def setKey (client : Client) (raw : String) : Credential × Client :=
  let (call, log) := CredentialStore.set raw
  (client.say log).runCredential call

/-- Forgets the key. -/
def clearKey (client : Client) : Client :=
  (client.runCredential CredentialStore.clear).2

/-! ## Snapshots -/

/-- Writes a snapshot of the session. -/
def snapshot (client : Client) : Except Failure Unit × Client :=
  let (store, result) := Snapshot.write client.store client.session
  (result, { client with store })

/-- Restores the session over the current one; a failure changes nothing. -/
def restore (client : Client) : Except Snapshot.RestoreError Session × Client :=
  let result := Snapshot.restore client.store client.session
  (result,
    match result with
    | .ok session => { client with session }
    | .error _ => client)

/-- Restores the session over a fresh one, or starts afresh. -/
def restoreOrDefaults (client : Client) : Client :=
  { client with session := Snapshot.restoreOrDefaults client.store {} }

end Client
end ProbeWatch
