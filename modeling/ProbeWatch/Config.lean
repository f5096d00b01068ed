import ProbeWatch.BaseUrl
import ProbeWatch.Dict
import ProbeWatch.Duration
import ProbeWatch.Failure
import ProbeWatch.Json.Record
import ProbeWatch.Reconcile
import ProbeWatch.Text.Hex
import ProbeWatch.Text.Lowercase

/-!
# Configuration

The settings of a client, read from environment variables or from a JSON text, and checked before
use.
-/

namespace ProbeWatch

/-- The order of a listing. -/
inductive SortOrder
  | ascending
  | descending
deriving DecidableEq, Inhabited

namespace SortOrder

/-- The name on the wire. -/
def name : SortOrder → String
  | .ascending => "asc"
  | .descending => "desc"

/-- The order of a name. -/
def ofName? : String → Option SortOrder
  | "asc" => some .ascending
  | "desc" => some .descending
  | _ => none

/-- Reads an order. -/
def ofJson? (json : Json) : Option SortOrder := json.variant? >>= ofName?

/-- Writes an order. -/
def toJson (order : SortOrder) : Json := .string order.name

end SortOrder

/-- When and for how long to poll. -/
structure PollConfig where
  intervalMs : UInt64 := 2000
  /-- The time budget of a session; zero means that there is none. -/
  maxDurationMs : UInt64 := 0
  eventChannelCapacity : UInt64 := 1000
deriving DecidableEq, Inhabited

namespace PollConfig

/-- The shortest interval that is allowed. -/
def minInterval : Duration := .ofMillis 500

/-- The time between two polls. -/
def interval (config : PollConfig) : Duration := .ofMillis config.intervalMs

/-- The time budget, if there is one. -/
def maxDuration? (config : PollConfig) : Option Duration :=
  if config.maxDurationMs = 0 then none else some (.ofMillis config.maxDurationMs)

/-- Refuses settings under which polling cannot work. -/
def validate (config : PollConfig) : Except Failure Unit :=
  if config.interval < minInterval then
    .error (.config ("Poll interval must be at least " ++ toString minInterval.millis ++
      "ms. Got: " ++ toString config.intervalMs.toNat ++ "ms"))
  else if config.eventChannelCapacity = 0 then
    .error (.config "Event channel capacity must be > 0")
  else
    .ok ()

/-- Reads the settings of polling. -/
def ofJson? (json : Json) : Option PollConfig := do
  let fields ← json.fields? 3
  let intervalMs ← fields.read 0 "interval_ms" Json.uint64? 2000
  let maxDurationMs ← fields.read 1 "max_duration_ms" Json.uint64? 0
  let eventChannelCapacity ← fields.read 2 "event_channel_capacity" Json.uint64? 1000
  return { intervalMs, maxDurationMs, eventChannelCapacity }

/-- Writes the settings of polling. -/
def toJson (config : PollConfig) : Json :=
  .object [
    ("interval_ms", .nat config.intervalMs.toNat),
    ("max_duration_ms", .nat config.maxDurationMs.toNat),
    ("event_channel_capacity", .nat config.eventChannelCapacity.toNat)]

end PollConfig

/-- What a poll asks for and what it does to the results on display. -/
structure WatchConfig where
  mode : ReconcileMode := .replace
  onFailure : FailurePolicy := .keep
  pageSize : UInt32 := 20
  order : SortOrder := .descending
deriving DecidableEq, Inhabited

namespace WatchConfig

/-- Refuses settings under which watching cannot work. -/
def validate (config : WatchConfig) : Except Failure Unit :=
  if config.pageSize = 0 then .error (.config "Page size must be > 0") else .ok ()

/-- Reads the settings of watching. -/
def ofJson? (json : Json) : Option WatchConfig := do
  let fields ← json.fields? 4
  let mode ← fields.read 0 "mode" ReconcileMode.ofJson? .replace
  let onFailure ← fields.read 1 "on_failure" FailurePolicy.ofJson? .keep
  let pageSize ← fields.read 2 "page_size" Json.uint32? 20
  let order ← fields.read 3 "order" SortOrder.ofJson? .descending
  return { mode, onFailure, pageSize, order }

/-- Writes the settings of watching. -/
def toJson (config : WatchConfig) : Json :=
  .object [
    ("mode", config.mode.toJson),
    ("on_failure", config.onFailure.toJson),
    ("page_size", .nat config.pageSize.toNat),
    ("order", config.order.toJson)]

end WatchConfig

/-- The settings of a client. -/
structure ClientConfig where
  apiBaseUrl : String
  /-- The credential to use when none is stored. -/
  envApiKey : Option String := none
  requestTimeoutSecs : UInt64 := 10
  statePath : String := "dnslog-state.json"
  poll : PollConfig := {}
  watch : WatchConfig := {}
deriving DecidableEq, Inhabited

namespace ClientConfig

/-- Reads the settings of a client. -/
def ofJson? (json : Json) : Option ClientConfig := do
  let fields ← json.fields? 6
  let apiBaseUrl ← fields.require 0 "api_base_url" Json.text?
  let envApiKey ← fields.read 1 "env_api_key" (Json.optional? Json.text?) none
  let requestTimeoutSecs ← fields.read 2 "request_timeout_secs" Json.uint64? 10
  let statePath ← fields.read 3 "state_path" Json.text? "dnslog-state.json"
  let poll ← fields.read 4 "poll" PollConfig.ofJson? {}
  let watch ← fields.read 5 "watch" WatchConfig.ofJson? {}
  return { apiBaseUrl, envApiKey, requestTimeoutSecs, statePath, poll, watch }

/-- Writes the settings of a client. -/
def toJson (config : ClientConfig) : Json :=
  .object [
    ("api_base_url", .string config.apiBaseUrl),
    ("env_api_key", .ofString? config.envApiKey),
    ("request_timeout_secs", .nat config.requestTimeoutSecs.toNat),
    ("state_path", .string config.statePath),
    ("poll", config.poll.toJson),
    ("watch", config.watch.toJson)]

/-- How long to wait for a response. -/
def requestTimeout (config : ClientConfig) : Duration := .ofSeconds config.requestTimeoutSecs

/-- Refuses settings that cannot be used. -/
def validate (config : ClientConfig) : Except Failure Unit := do
  if config.apiBaseUrl.isEmpty then
    throw (.config "API base URL cannot be empty")
  if config.requestTimeoutSecs = 0 then
    throw (.config "Request timeout must be > 0")
  if config.statePath.isEmpty then
    throw (.config "State path cannot be empty")
  config.poll.validate
  config.watch.validate

/-- The value of a variable without the blanks around it; a blank variable counts as unset. -/
def setting? (environment : Dict String) (name : String) : Option String :=
  (Dict.get? name environment).bind Text.trimmed?

/-- The number below `bound` that an optional plus sign and digits denote. -/
def number? (bound : Nat) (text : String) : Option Nat :=
  let digits :=
    match text.toList with
    | '+' :: rest => rest
    | digits => digits
  if digits.isEmpty || !digits.all Text.isDigit then
    none
  else
    let value := Text.decimalValue digits
    if value < bound then some value else none

/-- The number that a variable holds, or the default when it is unset. -/
def readNumber (environment : Dict String) (name : String) (bound default : Nat) :
    Except Failure Nat :=
  match setting? environment name with
  | none => .ok default
  | some text =>
      match number? bound text with
      | some value => .ok value
      | none => .error (.config (name ++ " must be a non-negative integer. Got: " ++ text))

/-- The choice that a variable names in any case, or the default when it is unset. -/
def readChoice {α : Type} (environment : Dict String) (name : String)
    (ofName? : String → Option α) (valid : String) (default : α) : Except Failure α :=
  match setting? environment name with
  | none => .ok default
  | some text =>
      let word := Text.lowercase text
      match ofName? word with
      | some choice => .ok choice
      | none => .error (.config (name ++ " '" ++ word ++ "' is not valid. " ++ valid))

/-- The settings that the environment gives. -/
def ofEnvironment (environment : Dict String) : Except Failure ClientConfig := do
  let intervalMs ← readNumber environment "DNSLOG_POLL_INTERVAL_MS" UInt64.size 2000
  let maxDurationMs ← readNumber environment "DNSLOG_POLL_MAX_DURATION_MS" UInt64.size 0
  let requestTimeoutSecs ← readNumber environment "DNSLOG_REQUEST_TIMEOUT_SECS" UInt64.size 10
  let mode ← readChoice environment "DNSLOG_WATCH_MODE" ReconcileMode.ofName?
    "Valid modes: replace, append" .replace
  let onFailure ← readChoice environment "DNSLOG_WATCH_ON_FAILURE" FailurePolicy.ofName?
    "Valid policies: keep, clear" .keep
  let pageSize ← readNumber environment "DNSLOG_PAGE_SIZE" UInt32.size 20
  return {
    apiBaseUrl := BaseUrl.normalize ((setting? environment "DNSLOG_API_BASE_URL").getD "")
    envApiKey := setting? environment "DNSLOG_API_KEY"
    requestTimeoutSecs := UInt64.ofNat requestTimeoutSecs
    statePath := (setting? environment "DNSLOG_STATE_PATH").getD "dnslog-state.json"
    poll := {
      intervalMs := UInt64.ofNat intervalMs
      maxDurationMs := UInt64.ofNat maxDurationMs }
    watch := { mode, onFailure, pageSize := UInt32.ofNat pageSize } }

end ClientConfig
end ProbeWatch
