import ProbeWatch.Credential.Store
import ProbeWatch.Http.Script
import ProbeWatch.Watch.Poll

/-!
# Exchanges

A session in conversation with a backend whose replies are scripted: what is sent carries the
session's credential, and what arrives changes the session.
-/

namespace ProbeWatch

/-- A session and its traffic with a scripted backend. -/
structure Exchange where
  session : Session
  script : Script
  /-- The requests that were sent, latest first. -/
  sent : List Request
  /-- The log lines, latest first. -/
  log : List LogLine
  /-- What the decoder says about a payload that it cannot read. -/
  words : Json → String

namespace Exchange

/-- Adds lines to the log. -/
def say (exchange : Exchange) (lines : List LogLine) : Exchange :=
  { exchange with log := lines.reverse ++ exchange.log }

/-- Sends a request with the credential in effect, and chooses its reply. -/
def send (exchange : Exchange) (request : Request) : ScriptedReply × Exchange :=
  let credential := exchange.session.credential
  let (scripted, script) := exchange.script.take request.path
  (scripted,
    { exchange with
      script
      sent := Gateway.authorize credential request :: exchange.sent
      log := Gateway.sendLine Script.name credential request :: exchange.log })

/-- Says what a reply stands for. -/
def noteReply (exchange : Exchange) (path : String) (reply : Reply) : Exchange :=
  exchange.say (Gateway.failureLines path (some exchange.session.runtime.apiKeyRequired) reply)

/-- Makes a call and waits for its reply. -/
def perform {α : Type} (exchange : Exchange) (endpoint : Endpoint α) :
    Except ApiError α × Exchange :=
  let (scripted, sent) := exchange.send endpoint.request
  let required := some sent.session.runtime.apiKeyRequired
  let noted := (sent.noteReply endpoint.request.path scripted.reply).say
    (Gateway.payloadLines sent.words endpoint required scripted.reply)
  let (result, session) := Gateway.complete endpoint scripted.reply noted.session
  (result, { noted with session })

/-- Asks for the backend's setup, and returns the one that is now in effect. -/
def loadRuntimeConfig (exchange : Exchange) : RuntimeConfig × Exchange :=
  let (result, performed) := exchange.perform Api.runtimeConfig
  let exchange := performed.say [Api.setupLine result]
  let session := Api.adoptRuntimeConfig result exchange.session
  (session.runtime, { exchange with session })

/-- Hands a poll its reply. -/
def deliver (config : WatchConfig) (exchange : Exchange) (poll : Poll) (path : String)
    (reply : Reply) : Poll × Exchange :=
  let required := some exchange.session.runtime.apiKeyRequired
  let noted := (exchange.noteReply path reply).say
    (poll.replyLines config exchange.words required reply)
  let (poll, session) := poll.receive config reply noted.session
  (poll, { noted with session })

theorem rank_deliver_lt {config : WatchConfig} {exchange : Exchange} {poll : Poll}
    (waiting : poll.rank ≠ 0) (path : String) (reply : Reply) :
    (exchange.deliver config poll path reply).1.rank < poll.rank :=
  Poll.rank_receive_lt _ _ _ poll waiting

/-- Runs a call of the credential store against a storage. -/
def runCredential {σ : Type} [KeyValueStore σ] (exchange : Exchange) (storage : σ)
    (environment : Option String) (call : CredentialStore.Call) : Credential × σ × Exchange :=
  let desk : CredentialStore.Desk σ := ⟨storage, exchange.session.credential, []⟩
  let (credential, desk) := CredentialStore.run environment call desk
  (credential, desk.storage,
    { exchange.say desk.log with
      session := { exchange.session with credential := desk.published } })

end Exchange
end ProbeWatch
