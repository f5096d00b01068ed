import ProbeWatch.Json.Record
import ProbeWatch.Text.Quoted

/-!
# Backend payloads

The records that the backend sends.  Every field has a default, so a payload of an older or newer
backend still reads; each record writes all of its fields, in declaration order.
-/

namespace ProbeWatch

open Json (Fields)

/-- One observed name lookup. -/
structure DnsRecord where
  id : Int64 := 0
  domain : String := ""
  clientIp : String := ""
  protocol : String := ""
  queryType : String := ""
  /-- Milliseconds since 1970. -/
  timestamp : Int64 := 0
  server : String := ""
  token : String := ""
deriving DecidableEq, Inhabited

/-- Reads a lookup. -/
def DnsRecord.ofJson? (json : Json) : Option DnsRecord := do
  let fields ← json.fields? 8
  let id ← fields.read 0 "id" Json.int64? 0
  let domain ← fields.read 1 "domain" Json.text? ""
  let clientIp ← fields.read 2 "client_ip" Json.text? ""
  let protocol ← fields.read 3 "protocol" Json.text? ""
  let queryType ← fields.read 4 "qtype" Json.text? ""
  let timestamp ← fields.read 5 "timestamp" Json.int64? 0
  let server ← fields.read 6 "server" Json.text? ""
  let token ← fields.read 7 "token" Json.text? ""
  return { id, domain, clientIp, protocol, queryType, timestamp, server, token }

/-- Writes a lookup. -/
def DnsRecord.toJson (record : DnsRecord) : Json :=
  .object [
    ("id", .int record.id.toInt),
    ("domain", .string record.domain),
    ("client_ip", .string record.clientIp),
    ("protocol", .string record.protocol),
    ("qtype", .string record.queryType),
    ("timestamp", .int record.timestamp.toInt),
    ("server", .string record.server),
    ("token", .string record.token)]

/-- The life cycle of a probe token. -/
inductive TokenState
  | init
  | hit
  | expired
deriving DecidableEq, Inhabited

namespace TokenState

/-- How a log shows the state. -/
def shown : TokenState → String
  | .init => "Init"
  | .hit => "Hit"
  | .expired => "Expired"

/-- The name on the wire. -/
def name : TokenState → String
  | .init => "INIT"
  | .hit => "HIT"
  | .expired => "EXPIRED"

/-- Reads a state. -/
def ofJson? (json : Json) : Option TokenState := do
  match ← json.variant? with
  | "INIT" => some .init
  | "HIT" => some .hit
  | "EXPIRED" => some .expired
  | _ => none

/-- Writes a state. -/
def toJson (state : TokenState) : Json := .string state.name

/-- The word for a state in a log line. -/
def word : TokenState → String
  | .init => "Init"
  | .hit => "Hit"
  | .expired => "Expired"

end TokenState

/-- What is known about a probe token. -/
structure TokenStatus where
  token : String := ""
  domain : String := ""
  status : TokenState := .init
  firstSeen : Int64 := 0
  lastSeen : Int64 := 0
  hitCount : Int64 := 0
  expiresAt : Int64 := 0
  expired : Bool := false
deriving DecidableEq, Inhabited

/-- Reads a token status. -/
def TokenStatus.ofJson? (json : Json) : Option TokenStatus := do
  let fields ← json.fields? 8
  let token ← fields.read 0 "token" Json.text? ""
  let domain ← fields.read 1 "domain" Json.text? ""
  let status ← fields.read 2 "status" TokenState.ofJson? .init
  let firstSeen ← fields.read 3 "first_seen" Json.int64? 0
  let lastSeen ← fields.read 4 "last_seen" Json.int64? 0
  let hitCount ← fields.read 5 "hit_count" Json.int64? 0
  let expiresAt ← fields.read 6 "expires_at" Json.int64? 0
  let expired ← fields.read 7 "expired" Json.bool? false
  return { token, domain, status, firstSeen, lastSeen, hitCount, expiresAt, expired }

/-- Writes a token status. -/
def TokenStatus.toJson (status : TokenStatus) : Json :=
  .object [
    ("token", .string status.token),
    ("domain", .string status.domain),
    ("status", status.status.toJson),
    ("first_seen", .int status.firstSeen.toInt),
    ("last_seen", .int status.lastSeen.toInt),
    ("hit_count", .int status.hitCount.toInt),
    ("expires_at", .int status.expiresAt.toInt),
    ("expired", .bool status.expired)]

/-- One line of the list of probe tokens. -/
structure TokenSummary where
  token : String := ""
  domain : String := ""
  status : TokenState := .init
  firstSeen : Int64 := 0
  lastSeen : Int64 := 0
  hitCount : Int64 := 0
  createdAt : Int64 := 0
  updatedAt : Int64 := 0
  expiresAt : Int64 := 0
deriving DecidableEq, Inhabited

/-- Reads a token summary. -/
def TokenSummary.ofJson? (json : Json) : Option TokenSummary := do
  let fields ← json.fields? 9
  let token ← fields.read 0 "token" Json.text? ""
  let domain ← fields.read 1 "domain" Json.text? ""
  let status ← fields.read 2 "status" TokenState.ofJson? .init
  let firstSeen ← fields.read 3 "first_seen" Json.int64? 0
  let lastSeen ← fields.read 4 "last_seen" Json.int64? 0
  let hitCount ← fields.read 5 "hit_count" Json.int64? 0
  let createdAt ← fields.read 6 "created_at" Json.int64? 0
  let updatedAt ← fields.read 7 "updated_at" Json.int64? 0
  let expiresAt ← fields.read 8 "expires_at" Json.int64? 0
  return { token, domain, status, firstSeen, lastSeen, hitCount, createdAt, updatedAt, expiresAt }

/-- Writes a token summary. -/
def TokenSummary.toJson (summary : TokenSummary) : Json :=
  .object [
    ("token", .string summary.token),
    ("domain", .string summary.domain),
    ("status", summary.status.toJson),
    ("first_seen", .int summary.firstSeen.toInt),
    ("last_seen", .int summary.lastSeen.toInt),
    ("hit_count", .int summary.hitCount.toInt),
    ("created_at", .int summary.createdAt.toInt),
    ("updated_at", .int summary.updatedAt.toInt),
    ("expires_at", .int summary.expiresAt.toInt)]

/-- One address that a submitted domain resolved to. -/
structure DnsResult where
  ip : String := ""
  address : String := ""
deriving DecidableEq, Inhabited

/-- Reads an address. -/
def DnsResult.ofJson? (json : Json) : Option DnsResult := do
  let fields ← json.fields? 2
  let ip ← fields.read 0 "ip" Json.text? ""
  let address ← fields.read 1 "address" Json.text? ""
  return { ip, address }

/-- Writes an address. -/
def DnsResult.toJson (result : DnsResult) : Json :=
  .object [("ip", .string result.ip), ("address", .string result.address)]

/-- The answer to a submitted domain. -/
structure SubmitResult where
  /-- The domain in the backend's own spelling. -/
  domain : String := ""
  results : List DnsResult := []
deriving DecidableEq, Inhabited

/-- Reads the answer to a submitted domain. -/
def SubmitResult.ofJson? (json : Json) : Option SubmitResult := do
  let fields ← json.fields? 2
  let domain ← fields.read 0 "domain" Json.text? ""
  let results ← fields.read 1 "results" (Json.list? DnsResult.ofJson?) []
  return { domain, results }

/-- Writes the answer to a submitted domain. -/
def SubmitResult.toJson (result : SubmitResult) : Json :=
  .object [
    ("domain", .string result.domain),
    ("results", .array (result.results.map DnsResult.toJson))]

/-- One page of a listing. -/
structure Page (α : Type) where
  items : List α := []
  total : UInt64 := 0
  page : UInt32 := 1
  size : UInt32 := 0
  order : Option String := none
deriving DecidableEq, Inhabited

/-- Reads a page of items. -/
def Page.ofJson? {α : Type} (item : Json → Option α) (json : Json) : Option (Page α) := do
  let fields ← json.fields? 5
  let items ← fields.read 0 "items" (Json.list? item) []
  let total ← fields.read 1 "total" Json.uint64? 0
  let page ← fields.read 2 "page" Json.uint32? 1
  let size ← fields.read 3 "size" Json.uint32? 0
  let order ← fields.read 4 "order" (Json.optional? Json.text?) none
  return { items, total, page, size, order }

/-- Writes a page of items. -/
def Page.toJson {α : Type} (item : α → Json) (page : Page α) : Json :=
  .object [
    ("items", .array (page.items.map item)),
    ("total", .nat page.total.toNat),
    ("page", .nat page.page.toNat),
    ("size", .nat page.size.toNat),
    ("order", .ofString? page.order)]

/-- What the backend tells about an API key. -/
structure ApiKeyInfo where
  id : Int64 := 0
  name : String := ""
  enabled : Bool := false
  createdAt : Int64 := 0
  lastUsedAt : Int64 := 0
  comment : String := ""
  hashPrefix : String := ""
deriving DecidableEq, Inhabited

/-- Reads the description of an API key. -/
def ApiKeyInfo.ofJson? (json : Json) : Option ApiKeyInfo := do
  let fields ← json.fields? 7
  let id ← fields.read 0 "id" Json.int64? 0
  let name ← fields.read 1 "name" Json.text? ""
  let enabled ← fields.read 2 "enabled" Json.bool? false
  let createdAt ← fields.read 3 "created_at" Json.int64? 0
  let lastUsedAt ← fields.read 4 "last_used_at" Json.int64? 0
  let comment ← fields.read 5 "comment" Json.text? ""
  let hashPrefix ← fields.read 6 "hash_prefix" Json.text? ""
  return { id, name, enabled, createdAt, lastUsedAt, comment, hashPrefix }

/-- Writes the description of an API key. -/
def ApiKeyInfo.toJson (info : ApiKeyInfo) : Json :=
  .object [
    ("id", .int info.id.toInt),
    ("name", .string info.name),
    ("enabled", .bool info.enabled),
    ("created_at", .int info.createdAt.toInt),
    ("last_used_at", .int info.lastUsedAt.toInt),
    ("comment", .string info.comment),
    ("hash_prefix", .string info.hashPrefix)]

/-- A new API key; the only payload that holds the key itself. -/
structure CreatedApiKey where
  id : Int64 := 0
  name : String := ""
  key : String := ""
deriving DecidableEq, Inhabited

/-- Reads a new API key. -/
def CreatedApiKey.ofJson? (json : Json) : Option CreatedApiKey := do
  let fields ← json.fields? 3
  let id ← fields.read 0 "id" Json.int64? 0
  let name ← fields.read 1 "name" Json.text? ""
  let key ← fields.read 2 "key" Json.text? ""
  return { id, name, key }

/-- Writes a new API key. -/
def CreatedApiKey.toJson (created : CreatedApiKey) : Json :=
  .object [
    ("id", .int created.id.toInt),
    ("name", .string created.name),
    ("key", .string created.key)]

/-- The description of a new API key, which withholds the key. -/
def CreatedApiKey.describe (created : CreatedApiKey) : String :=
  "CreatedApiKey \x7b id: " ++ toString created.id.toInt ++ ", name: " ++
    Text.quote created.name ++ ", key: \"<REDACTED>\" \x7d"

/-- One blocked address. -/
structure BlacklistEntry where
  id : Int64 := 0
  ip : String := ""
  reason : String := ""
  enabled : Bool := false
  createdAt : Int64 := 0
deriving DecidableEq, Inhabited

/-- Reads a blocked address. -/
def BlacklistEntry.ofJson? (json : Json) : Option BlacklistEntry := do
  let fields ← json.fields? 5
  let id ← fields.read 0 "id" Json.int64? 0
  let ip ← fields.read 1 "ip" Json.text? ""
  let reason ← fields.read 2 "reason" Json.text? ""
  let enabled ← fields.read 3 "enabled" Json.bool? false
  let createdAt ← fields.read 4 "created_at" Json.int64? 0
  return { id, ip, reason, enabled, createdAt }

/-- Writes a blocked address. -/
def BlacklistEntry.toJson (entry : BlacklistEntry) : Json :=
  .object [
    ("id", .int entry.id.toInt),
    ("ip", .string entry.ip),
    ("reason", .string entry.reason),
    ("enabled", .bool entry.enabled),
    ("created_at", .int entry.createdAt.toInt)]

end ProbeWatch
