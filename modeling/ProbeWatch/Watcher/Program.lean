import ProbeWatch.Session.Snapshot
import ProbeWatch.Store.File.Call
import ProbeWatch.Watcher.Basic

/-!
# The watcher

A watcher opens its state file, restores the session, settles on a credential and a probe domain,
watches the domain's token until the time budget is used up, and saves the session.
-/

namespace ProbeWatch

/-- How a watcher ended. -/
inductive WatchEnd
  /-- The time budget of the polling session was used up. -/
  | expired
deriving DecidableEq, Inhabited

/-- The name of an end. -/
def WatchEnd.name : WatchEnd → String
  | .expired => "Expired"

/-- A watcher at work. -/
structure Watcher where
  store : FileStore
  exchange : Exchange
  /-- The log lines, earliest first. -/
  log : List LogLine

/-- What a watcher leaves behind. -/
structure WatcherReport where
  /-- How the watcher ended, or the text of what kept it from its work. -/
  outcome : Except String WatchEnd
  /-- The log lines, earliest first. -/
  log : List LogLine
  /-- The requests that were sent, earliest first. -/
  requests : List Request
  /-- The disk afterwards. -/
  disk : Disk

namespace Watcher

/-- Adds a line to the log. -/
def say (watcher : Watcher) (line : LogLine) : Watcher :=
  { watcher with log := watcher.log ++ [line] }

/-- The domain that the session holds. -/
def domain (watcher : Watcher) : String := watcher.exchange.session.text.domain

/-- Changes the domain of the session. -/
def setDomain (watcher : Watcher) (domain : String) : Watcher :=
  let session := watcher.exchange.session.setDomain domain
  { watcher with exchange := { watcher.exchange with session } }

/-- A watcher with the session that its store holds, or a fresh one if that cannot be restored. -/
def restore (store : FileStore) (script : Script) (detail : String) : Watcher :=
  let watcher := fun session : Session =>
    (⟨store, ⟨session, script, [], [], fun _ => detail⟩, []⟩ : Watcher)
  match Snapshot.restore store {} with
  | .ok session => watcher session
  | .error error =>
      (watcher {}).say
        (.warn .program
          ("Could not restore session (" ++ error.message detail ++ "), starting fresh"))

/-- Settles on a credential. -/
def resolveKey (watcher : Watcher) (environment : Option String) : Watcher :=
  let (_, store, exchange) :=
    watcher.exchange.runCredential watcher.store environment CredentialStore.resolve
  { watcher with store, exchange }

/-- Asks for the backend's setup. -/
def loadRuntimeConfig (watcher : Watcher) : Watcher :=
  { watcher with exchange := watcher.exchange.loadRuntimeConfig.2 }

/-- Settles on a probe domain: the one that was given, the one of the session, or a new one. -/
def chooseDomain (watcher : Watcher) (given : Option String) : Except String Unit × Watcher :=
  match given with
  | some domain => (.ok (), watcher.setDomain (Text.trim domain))
  | none =>
      if Text.isAllBlank watcher.domain then
        let (minted, exchange) := watcher.exchange.perform Api.randomDomain
        let watcher := { watcher with exchange }
        match minted with
        | .ok domain =>
            let line := .info .program ("Generated probe domain: " ++ domain)
            (.ok (), (watcher.say line).setDomain domain)
        | .error error =>
            (.error ("Failed to generate a probe domain: " ++ error.message), watcher)
      else
        (.ok (), watcher)

/-- Says what is watched, or why nothing can be. -/
def announce (watcher : Watcher) : Watcher :=
  watcher.say (match Token.parse? watcher.domain with
    | some token => .info .program ("Watching " ++ watcher.domain ++ " (token " ++ token.text ++ ")")
    | none => .warn .program (watcher.domain ++ ": " ++ Token.hint))

/-- Watches until the time budget is used up; there is no result when the clock cannot show the
next tick. -/
def watch? (watcher : Watcher) (config : ClientConfig) : Option (Except String Unit × Watcher) := do
  let idle ← Engine.idle? Watched.token.name config.poll true
  match ← Engine.start? config.poll ⟨Paced.start, idle⟩ with
  | (.error failure, _) => return (.error failure.message, watcher)
  | (.ok (), engine) =>
      let loop := WatchLoop.start watcher.exchange config.watch engine
      let loop ← loop.follow? engine.clock.now.nanos
      return (.ok (),
        { watcher with exchange := loop.exchange, log := watcher.log ++ loop.log.reverse })

/-- Saves the session. -/
def save (watcher : Watcher) (statePath : String) : Watcher :=
  let (store, _) := Snapshot.write watcher.store watcher.exchange.session
  let (store, flushed) := store.flush
  let watcher := { watcher with store }
  let watcher :=
    match flushed with
    | .ok () => watcher
    | .error failure =>
        watcher.say (.warn .program ("Failed to flush state file: " ++ failure.message))
  watcher.say (.info .program ("Session saved to " ++ statePath))

/-- What the watcher leaves behind. -/
def report (watcher : Watcher) (outcome : Except String WatchEnd) : WatcherReport :=
  ⟨outcome, watcher.log, watcher.exchange.sent.reverse, watcher.store.disk⟩

/-- What a watcher is set up with. -/
structure Setup where
  config : ClientConfig
  /-- The domain that was given. -/
  domain : Option String
  script : Script
  /-- The moment at which the state file is changed. -/
  now : Moment
  /-- What stands for the words of a parser. -/
  detail : String

/-- Runs a watcher from the opening of its state file to the saving of its session. -/
def run? (setup : Setup) (disk : Disk) : Option WatcherReport :=
  let path := setup.config.statePath
  match FileStore.openAt disk path setup.now with
  | (disk, .error failure) =>
      some ⟨.error ("Failed to open state file " ++ path ++ ": " ++ failure.message), [], [], disk⟩
  | (_, .ok store) =>
      let watcher := (restore store setup.script setup.detail).resolveKey setup.config.envApiKey
      match watcher.loadRuntimeConfig.chooseDomain setup.domain with
      | (.error problem, watcher) => some (watcher.report (.error problem))
      | (.ok (), watcher) =>
          match watcher.announce.watch? setup.config with
          | none => none
          | some (.error problem, watcher) => some (watcher.report (.error problem))
          | some (.ok (), watcher) => some ((watcher.save path).report (.ok .expired))

end Watcher
end ProbeWatch
