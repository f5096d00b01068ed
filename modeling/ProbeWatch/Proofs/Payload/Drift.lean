import ProbeWatch.Proofs.Json.Drift
import ProbeWatch.Proofs.Payload

/-!
# Payloads of older and newer backends

Every payload is read from what a backend of another version makes of it.  For each record it is
told what is left of it in a tree: the fields that the tree holds, and the defaults of the others.
-/

namespace ProbeWatch

open Json (Drifts Survives fieldLeft kept eachLeft fields? survives_text survives_bool
  survives_int64 survives_uint64 survives_uint32 survives_optionalText)

/-! ## What is left of a record -/

/-- What is left of a lookup in a tree. -/
def DnsRecord.leftIn (json : Json) (record : DnsRecord) : DnsRecord :=
  let fallback : DnsRecord := {}
  { id := json.kept "id" record.id fallback.id
    domain := json.kept "domain" record.domain fallback.domain
    clientIp := json.kept "client_ip" record.clientIp fallback.clientIp
    protocol := json.kept "protocol" record.protocol fallback.protocol
    queryType := json.kept "qtype" record.queryType fallback.queryType
    timestamp := json.kept "timestamp" record.timestamp fallback.timestamp
    server := json.kept "server" record.server fallback.server
    token := json.kept "token" record.token fallback.token }

theorem survives_dnsRecord : Survives DnsRecord.ofJson? DnsRecord.toJson DnsRecord.leftIn where
  whole _ := rfl
  reads drifts := by
    obtain ⟨left, rfl⟩ := drifts.exists_members
    simp [DnsRecord.ofJson?, fields?,
      survives_int64.read drifts "id" rfl,
      survives_text.read drifts "domain" rfl,
      survives_text.read drifts "client_ip" rfl,
      survives_text.read drifts "protocol" rfl,
      survives_text.read drifts "qtype" rfl,
      survives_int64.read drifts "timestamp" rfl,
      survives_text.read drifts "server" rfl,
      survives_text.read drifts "token" rfl]
    rfl

theorem survives_tokenState :
    Survives TokenState.ofJson? TokenState.toJson fun _ state => state :=
  Json.survives_scalar (agree_tokenState 0).reads fun _ => trivial

/-- What is left of a token status in a tree. -/
def TokenStatus.leftIn (json : Json) (status : TokenStatus) : TokenStatus :=
  let fallback : TokenStatus := {}
  { token := json.kept "token" status.token fallback.token
    domain := json.kept "domain" status.domain fallback.domain
    status := json.kept "status" status.status fallback.status
    firstSeen := json.kept "first_seen" status.firstSeen fallback.firstSeen
    lastSeen := json.kept "last_seen" status.lastSeen fallback.lastSeen
    hitCount := json.kept "hit_count" status.hitCount fallback.hitCount
    expiresAt := json.kept "expires_at" status.expiresAt fallback.expiresAt
    expired := json.kept "expired" status.expired fallback.expired }

theorem survives_tokenStatus :
    Survives TokenStatus.ofJson? TokenStatus.toJson TokenStatus.leftIn where
  whole _ := rfl
  reads drifts := by
    obtain ⟨left, rfl⟩ := drifts.exists_members
    simp [TokenStatus.ofJson?, fields?,
      survives_text.read drifts "token" rfl,
      survives_text.read drifts "domain" rfl,
      survives_tokenState.read drifts "status" rfl,
      survives_int64.read drifts "first_seen" rfl,
      survives_int64.read drifts "last_seen" rfl,
      survives_int64.read drifts "hit_count" rfl,
      survives_int64.read drifts "expires_at" rfl,
      survives_bool.read drifts "expired" rfl]
    rfl

/-- What is left of a token summary in a tree. -/
def TokenSummary.leftIn (json : Json) (summary : TokenSummary) : TokenSummary :=
  let fallback : TokenSummary := {}
  { token := json.kept "token" summary.token fallback.token
    domain := json.kept "domain" summary.domain fallback.domain
    status := json.kept "status" summary.status fallback.status
    firstSeen := json.kept "first_seen" summary.firstSeen fallback.firstSeen
    lastSeen := json.kept "last_seen" summary.lastSeen fallback.lastSeen
    hitCount := json.kept "hit_count" summary.hitCount fallback.hitCount
    createdAt := json.kept "created_at" summary.createdAt fallback.createdAt
    updatedAt := json.kept "updated_at" summary.updatedAt fallback.updatedAt
    expiresAt := json.kept "expires_at" summary.expiresAt fallback.expiresAt }

theorem survives_tokenSummary :
    Survives TokenSummary.ofJson? TokenSummary.toJson TokenSummary.leftIn where
  whole _ := rfl
  reads drifts := by
    obtain ⟨left, rfl⟩ := drifts.exists_members
    simp [TokenSummary.ofJson?, fields?,
      survives_text.read drifts "token" rfl,
      survives_text.read drifts "domain" rfl,
      survives_tokenState.read drifts "status" rfl,
      survives_int64.read drifts "first_seen" rfl,
      survives_int64.read drifts "last_seen" rfl,
      survives_int64.read drifts "hit_count" rfl,
      survives_int64.read drifts "created_at" rfl,
      survives_int64.read drifts "updated_at" rfl,
      survives_int64.read drifts "expires_at" rfl]
    rfl

/-- What is left of an address in a tree. -/
def DnsResult.leftIn (json : Json) (result : DnsResult) : DnsResult :=
  let fallback : DnsResult := {}
  { ip := json.kept "ip" result.ip fallback.ip
    address := json.kept "address" result.address fallback.address }

theorem survives_dnsResult : Survives DnsResult.ofJson? DnsResult.toJson DnsResult.leftIn where
  whole _ := rfl
  reads drifts := by
    obtain ⟨left, rfl⟩ := drifts.exists_members
    simp [DnsResult.ofJson?, fields?,
      survives_text.read drifts "ip" rfl,
      survives_text.read drifts "address" rfl]
    rfl

/-- What is left of the answer to a submitted domain in a tree. -/
def SubmitResult.leftIn (json : Json) (result : SubmitResult) : SubmitResult :=
  let fallback : SubmitResult := {}
  { domain := json.kept "domain" result.domain fallback.domain
    results :=
      fieldLeft (eachLeft DnsResult.leftIn) json "results" result.results fallback.results }

theorem survives_submitResult :
    Survives SubmitResult.ofJson? SubmitResult.toJson SubmitResult.leftIn where
  whole result := by
    have results := survives_dnsResult.list.whole result.results
    exact congrArg (fun results => { result with results }) results
  reads drifts := by
    obtain ⟨left, rfl⟩ := drifts.exists_members
    simp [SubmitResult.ofJson?, fields?,
      survives_text.read drifts "domain" rfl,
      survives_dnsResult.list.read drifts "results" rfl]
    rfl

/-- What is left of a page in a tree, given what is left of an item in a tree. -/
def Page.leftIn {α : Type} (itemLeftIn : Json → α → α) (json : Json) (page : Page α) : Page α :=
  let fallback : Page α := {}
  { items := fieldLeft (eachLeft itemLeftIn) json "items" page.items fallback.items
    total := json.kept "total" page.total fallback.total
    page := json.kept "page" page.page fallback.page
    size := json.kept "size" page.size fallback.size
    order := json.kept "order" page.order fallback.order }

theorem survives_page {α : Type} {reader : Json → Option α} {writer : α → Json}
    {leftIn : Json → α → α} (survives : Survives reader writer leftIn) :
    Survives (Page.ofJson? reader) (Page.toJson writer) (Page.leftIn leftIn) where
  whole page := by
    have items := survives.list.whole page.items
    exact congrArg (fun items => { page with items }) items
  reads drifts := by
    obtain ⟨left, rfl⟩ := drifts.exists_members
    simp [Page.ofJson?, fields?,
      survives.list.read drifts "items" rfl,
      survives_uint64.read drifts "total" rfl,
      survives_uint32.read drifts "page" rfl,
      survives_uint32.read drifts "size" rfl,
      survives_optionalText.read drifts "order" rfl]
    rfl

/-- What is left of the description of an API key in a tree. -/
def ApiKeyInfo.leftIn (json : Json) (info : ApiKeyInfo) : ApiKeyInfo :=
  let fallback : ApiKeyInfo := {}
  { id := json.kept "id" info.id fallback.id
    name := json.kept "name" info.name fallback.name
    enabled := json.kept "enabled" info.enabled fallback.enabled
    createdAt := json.kept "created_at" info.createdAt fallback.createdAt
    lastUsedAt := json.kept "last_used_at" info.lastUsedAt fallback.lastUsedAt
    comment := json.kept "comment" info.comment fallback.comment
    hashPrefix := json.kept "hash_prefix" info.hashPrefix fallback.hashPrefix }

theorem survives_apiKeyInfo : Survives ApiKeyInfo.ofJson? ApiKeyInfo.toJson ApiKeyInfo.leftIn where
  whole _ := rfl
  reads drifts := by
    obtain ⟨left, rfl⟩ := drifts.exists_members
    simp [ApiKeyInfo.ofJson?, fields?,
      survives_int64.read drifts "id" rfl,
      survives_text.read drifts "name" rfl,
      survives_bool.read drifts "enabled" rfl,
      survives_int64.read drifts "created_at" rfl,
      survives_int64.read drifts "last_used_at" rfl,
      survives_text.read drifts "comment" rfl,
      survives_text.read drifts "hash_prefix" rfl]
    rfl

/-- What is left of a new API key in a tree. -/
def CreatedApiKey.leftIn (json : Json) (created : CreatedApiKey) : CreatedApiKey :=
  let fallback : CreatedApiKey := {}
  { id := json.kept "id" created.id fallback.id
    name := json.kept "name" created.name fallback.name
    key := json.kept "key" created.key fallback.key }

theorem survives_createdApiKey :
    Survives CreatedApiKey.ofJson? CreatedApiKey.toJson CreatedApiKey.leftIn where
  whole _ := rfl
  reads drifts := by
    obtain ⟨left, rfl⟩ := drifts.exists_members
    simp [CreatedApiKey.ofJson?, fields?,
      survives_int64.read drifts "id" rfl,
      survives_text.read drifts "name" rfl,
      survives_text.read drifts "key" rfl]
    rfl

/-- What is left of a blocked address in a tree. -/
def BlacklistEntry.leftIn (json : Json) (entry : BlacklistEntry) : BlacklistEntry :=
  let fallback : BlacklistEntry := {}
  { id := json.kept "id" entry.id fallback.id
    ip := json.kept "ip" entry.ip fallback.ip
    reason := json.kept "reason" entry.reason fallback.reason
    enabled := json.kept "enabled" entry.enabled fallback.enabled
    createdAt := json.kept "created_at" entry.createdAt fallback.createdAt }

theorem survives_blacklistEntry :
    Survives BlacklistEntry.ofJson? BlacklistEntry.toJson BlacklistEntry.leftIn where
  whole _ := rfl
  reads drifts := by
    obtain ⟨left, rfl⟩ := drifts.exists_members
    simp [BlacklistEntry.ofJson?, fields?,
      survives_int64.read drifts "id" rfl,
      survives_text.read drifts "ip" rfl,
      survives_text.read drifts "reason" rfl,
      survives_bool.read drifts "enabled" rfl,
      survives_int64.read drifts "created_at" rfl]
    rfl

/-! ## All payloads -/

/-- Whether payloads are read from the trees that they are written as, and from whatever a backend
of another version makes of these, with a default for each field that it leaves out. -/
def IsDurable {α : Type} (reader : Json → Option α) (writer : α → Json) (leftIn : Json → α → α) :
    Prop :=
  (∀ value, reader (writer value) = some value) ∧
    ∀ value json, Drifts (writer value) json → reader json = some (leftIn json value)

theorem Json.Survives.isDurable {α : Type} {reader : Json → Option α} {writer : α → Json}
    {leftIn : Json → α → α} (survives : Survives reader writer leftIn) :
    IsDurable reader writer leftIn :=
  ⟨survives.back, fun _ _ => survives.reads⟩

/-- Every payload is read from the tree that it is written as.  It is also read where objects lost
members and gained members under new names, in the payload and in the items of its lists; then just
the lost fields have their defaults. -/
theorem payloads_survive_drift :
    IsDurable DnsRecord.ofJson? DnsRecord.toJson DnsRecord.leftIn ∧
      IsDurable TokenStatus.ofJson? TokenStatus.toJson TokenStatus.leftIn ∧
      IsDurable TokenSummary.ofJson? TokenSummary.toJson TokenSummary.leftIn ∧
      IsDurable DnsResult.ofJson? DnsResult.toJson DnsResult.leftIn ∧
      IsDurable SubmitResult.ofJson? SubmitResult.toJson SubmitResult.leftIn ∧
      IsDurable (Page.ofJson? DnsRecord.ofJson?) (Page.toJson DnsRecord.toJson)
        (Page.leftIn DnsRecord.leftIn) ∧
      IsDurable (Page.ofJson? TokenSummary.ofJson?) (Page.toJson TokenSummary.toJson)
        (Page.leftIn TokenSummary.leftIn) ∧
      IsDurable (Page.ofJson? ApiKeyInfo.ofJson?) (Page.toJson ApiKeyInfo.toJson)
        (Page.leftIn ApiKeyInfo.leftIn) ∧
      IsDurable (Page.ofJson? BlacklistEntry.ofJson?) (Page.toJson BlacklistEntry.toJson)
        (Page.leftIn BlacklistEntry.leftIn) ∧
      IsDurable ApiKeyInfo.ofJson? ApiKeyInfo.toJson ApiKeyInfo.leftIn ∧
      IsDurable CreatedApiKey.ofJson? CreatedApiKey.toJson CreatedApiKey.leftIn ∧
      IsDurable BlacklistEntry.ofJson? BlacklistEntry.toJson BlacklistEntry.leftIn :=
  ⟨survives_dnsRecord.isDurable, survives_tokenStatus.isDurable, survives_tokenSummary.isDurable,
    survives_dnsResult.isDurable, survives_submitResult.isDurable,
    (survives_page survives_dnsRecord).isDurable, (survives_page survives_tokenSummary).isDurable,
    (survives_page survives_apiKeyInfo).isDurable,
    (survives_page survives_blacklistEntry).isDurable, survives_apiKeyInfo.isDurable,
    survives_createdApiKey.isDurable, survives_blacklistEntry.isDurable⟩

/-- A page of which only items came, one of them with a field that is not known and one without any
field that is. -/
example : Page.ofJson? BlacklistEntry.ofJson?
    (.object [
      ("items", .array [.object [("ip", .string "192.0.2.1"), ("ttl", .nat 60)], .object []]),
      ("next", .null)]) = some { items := [{ ip := "192.0.2.1" }, {}] } := by
  decide +kernel

end ProbeWatch
