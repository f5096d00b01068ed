import ProbeWatch.ApiError
import ProbeWatch.Credential
import ProbeWatch.Payload

/-!
# Sessions

The state that the user sees: the domain being watched, the last API error, the backend's runtime
configuration and the results on display.  These four modules form the stored tree; the credential
is held beside them and is never written with them.
-/

namespace ProbeWatch

/-- What the user entered. -/
structure TextModule where
  domain : String := ""
deriving DecidableEq, Inhabited

/-- Reads what the user entered. -/
def TextModule.ofJson? (json : Json) : Option TextModule := do
  let fields ← json.fields? 1
  let domain ← fields.read 0 "domain" Json.text? ""
  return { domain }

/-- Writes what the user entered. -/
def TextModule.toJson (module : TextModule) : Json :=
  .object [("domain", .string module.domain)]

/-- The state of the connection to the backend. -/
structure SystemModule where
  apiError : Option ApiError := none
deriving DecidableEq, Inhabited

/-- Reads the state of the connection. -/
def SystemModule.ofJson? (json : Json) : Option SystemModule := do
  let fields ← json.fields? 1
  let apiError ← fields.read 0 "apiError" (Json.optional? ApiError.ofJson?) none
  return { apiError }

/-- Writes the state of the connection. -/
def SystemModule.toJson (module : SystemModule) : Json :=
  .object [("apiError", (module.apiError.map ApiError.toJson).getD .null)]

/-- How the backend is set up. -/
structure RuntimeConfig where
  apiKeyRequired : Bool := true
  dnsPort : String := "15353"
  rootDomain : String := ""
deriving DecidableEq, Inhabited

/-- Reads the backend's setup as it is stored. -/
def RuntimeConfig.ofJson? (json : Json) : Option RuntimeConfig := do
  let fields ← json.fields? 3
  let apiKeyRequired ← fields.read 0 "apiKeyRequired" Json.bool? true
  let dnsPort ← fields.read 1 "dnsPort" Json.text? "15353"
  let rootDomain ← fields.read 2 "rootDomain" Json.text? ""
  return { apiKeyRequired, dnsPort, rootDomain }

/-- Writes the backend's setup. -/
def RuntimeConfig.toJson (config : RuntimeConfig) : Json :=
  .object [
    ("apiKeyRequired", .bool config.apiKeyRequired),
    ("dnsPort", .string config.dnsPort),
    ("rootDomain", .string config.rootDomain)]

/-- The results on display. -/
structure Results where
  dnsResults : List DnsResult := []
  records : List DnsRecord := []
  recordsTotal : UInt64 := 0
  tokenStatus : Option TokenStatus := none
  /-- Why the last poll failed, or nothing. -/
  error : String := ""
deriving DecidableEq, Inhabited

/-- Reads the results. -/
def Results.ofJson? (json : Json) : Option Results := do
  let fields ← json.fields? 5
  let dnsResults ← fields.read 0 "dnsResults" (Json.list? DnsResult.ofJson?) []
  let records ← fields.read 1 "records" (Json.list? DnsRecord.ofJson?) []
  let recordsTotal ← fields.read 2 "recordsTotal" Json.uint64? 0
  let tokenStatus ← fields.read 3 "tokenStatus" (Json.optional? TokenStatus.ofJson?) none
  let error ← fields.read 4 "error" Json.text? ""
  return { dnsResults, records, recordsTotal, tokenStatus, error }

/-- Writes the results. -/
def Results.toJson (results : Results) : Json :=
  .object [
    ("dnsResults", .array (results.dnsResults.map DnsResult.toJson)),
    ("records", .array (results.records.map DnsRecord.toJson)),
    ("recordsTotal", .nat results.recordsTotal.toNat),
    ("tokenStatus", (results.tokenStatus.map TokenStatus.toJson).getD .null),
    ("error", .string results.error)]

/-- A session. -/
structure Session where
  credential : Credential := .absent
  text : TextModule := {}
  system : SystemModule := {}
  runtime : RuntimeConfig := {}
  results : Results := {}
deriving DecidableEq, Inhabited

namespace Session

/-- Reads the tree of a session, which holds no credential. -/
def ofJson? (json : Json) : Option Session := do
  let fields ← json.fields? 4
  let text ← fields.read 0 "text" TextModule.ofJson? {}
  let system ← fields.read 1 "system" SystemModule.ofJson? {}
  let runtime ← fields.read 2 "runtimeConfig" RuntimeConfig.ofJson? {}
  let results ← fields.read 3 "results" Results.ofJson? {}
  return { text, system, runtime, results }

/-- Writes the tree of a session. -/
def toJson (session : Session) : Json :=
  .object [
    ("text", session.text.toJson),
    ("system", session.system.toJson),
    ("runtimeConfig", session.runtime.toJson),
    ("results", session.results.toJson)]

/-- The session with another domain. -/
def setDomain (session : Session) (domain : String) : Session :=
  { session with text := { session.text with domain } }

/-- The session with another API error, or with none. -/
def setApiError (session : Session) (apiError : Option ApiError) : Session :=
  { session with system := { session.system with apiError } }

end Session
end ProbeWatch
